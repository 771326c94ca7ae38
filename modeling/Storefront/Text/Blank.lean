import Storefront.Text.Split
import Storefront.Unicode.Property

/-! # Blank characters in texts -/
namespace Storefront.Text
open Unicode

def trim (s : List Char) : List Char := strip isBlank s

def removeBlanks (s : List Char) : List Char := s.filter (!isBlank ·)

/-- Makes each run of blanks a single space. `after` says whether a blank was just written. -/
def collapseFrom (after : Bool) : List Char → List Char
  | [] => []
  | c :: rest =>
    if isBlank c then
      if after then collapseFrom true rest else ' ' :: collapseFrom true rest
    else c :: collapseFrom false rest

def collapseBlanks (s : List Char) : List Char := collapseFrom false s

def words (s : List Char) : List (List Char) :=
  let rec go (word : List Char) : List Char → List (List Char)
    | [] => if word.isEmpty then [] else [word.reverse]
    | c :: rest =>
      if isBlank c then
        if word.isEmpty then go [] rest else word.reverse :: go [] rest
      else go (c :: word) rest
  go [] s

end Storefront.Text

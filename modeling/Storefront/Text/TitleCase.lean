import Storefront.Unicode.Case

/-! # Title case

A word is a run of alphanumeric characters and apostrophes. Each word gets a capital first letter and
small further ones; a word whose letters are all capitals, an acronym, is kept.
-/
namespace Storefront.Text
open Unicode

def isTitleWordChar (c : Char) : Bool := isAlphanumeric c || c == '\''

/-- A word with letters, all of them upper case. -/
def isAcronym (word : List Char) : Bool :=
  word.any isAlphabetic && (word.filter isAlphabetic).all isUppercase

def capitalize (word : List Char) : List Char :=
  if isAcronym word then word
  else match word with
    | [] => []
    | c :: rest => toUpper c ++ rest.flatMap toLower

/-- Capitalizes words; `word` holds the characters of the current one in reverse. -/
def titleCaseFrom (word : List Char) : List Char → List Char
  | [] => capitalize word.reverse
  | c :: rest =>
    if isTitleWordChar c then titleCaseFrom (c :: word) rest
    else capitalize word.reverse ++ c :: titleCaseFrom [] rest

def titleCase (s : List Char) : List Char := titleCaseFrom [] s

end Storefront.Text

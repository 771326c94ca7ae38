import Storefront.Unicode.Case
import Storefront.Url.Encode

/-! # Paths of addresses

A path is cut into segments at slashes. One dot stands for the place itself and two dots for the one
above, also where the dots are encoded.
-/
namespace Storefront.Url
open Unicode

def dots (s : List Char) : List Char :=
  match s with
  | [] => []
  | '%' :: '2' :: e :: rest => if e = 'e' ∨ e = 'E' then '.' :: dots rest else '%' :: '2' :: e :: dots rest
  | c :: rest => c :: dots rest

def isDriveLetter (s : List Char) : Bool :=
  match s with
  | [c, d] => isAsciiLetter c && (d == ':' || d == '|')
  | _ => false

/-- Goes one segment up. The drive letter of a file is never left. -/
def shorten (file : Bool) (above : List (List Char)) : List (List Char) :=
  match above with
  | [] => []
  | [s] => if file ∧ isDriveLetter s then [s] else []
  | _ :: rest => rest

/-- Takes up segments; `above` holds those before, last first. -/
def walk (file : Bool) (above : List (List Char)) : List (List Char) → List (List Char)
  | [] => above.reverse
  | s :: rest =>
    let d := dots s
    if d = ['.', '.'] then
      let above := shorten file above
      if rest.isEmpty then ([] :: above).reverse else walk file above rest
    else if d = ['.'] then
      if rest.isEmpty then ([] :: above).reverse else walk file above rest
    else
      let segment := match s with
        | c :: _ => if file ∧ above.isEmpty ∧ isDriveLetter s then [c, ':'] else encode inPath s
        | [] => []
      walk file (segment :: above) rest

/-- The pieces between slashes. Where the scheme is well known, a backslash is a slash too. -/
def segments (special : Bool) : List Char → List (List Char)
  | [] => [[]]
  | c :: rest =>
    if c = '/' ∨ (special ∧ c = '\\') then [] :: segments special rest
    else match segments special rest with
      | first :: others => (c :: first) :: others
      | [] => [[c]]

def readPath (special file : Bool) (s : List Char) : List Char :=
  let path := (walk file [] (segments special s)).flatMap ('/' :: ·)
  if file then '/' :: path.dropWhile (· == '/') else path

end Storefront.Url

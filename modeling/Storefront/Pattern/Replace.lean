import Storefront.Pattern.Search

/-! # Replacing matches

In a replacement a dollar sign refers to a group by number or name, bare or in braces; two of them
stand for one. A group that does not exist or took no part in the match is empty.
-/
namespace Storefront.Pattern
open Unicode

inductive Piece
  | text (c : Char)
  | group (reference : List Char)
deriving DecidableEq, Repr

def isReferenceChar (c : Char) : Bool := isAsciiLetter c || isAsciiDigit c || c == '_'

/-- Reads a replacement; `skip` characters belong to a reference already read. -/
def readPieces (skip : Nat) : List Char → List Piece
  | [] => []
  | c :: rest =>
    match skip with
    | skip + 1 => readPieces skip rest
    | 0 =>
      if c != '$' then .text c :: readPieces 0 rest
      else match rest with
        | [] => [.text '$']
        | d :: tail =>
          if d = '$' then .text '$' :: readPieces 1 rest
          else if d.toNat = 0x7b then
            let name := tail.takeWhile (·.toNat != 0x7d)
            if (tail.drop name.length).isEmpty then .text '$' :: readPieces 0 rest
            else .group name :: readPieces (name.length + 2) rest
          else
            let name := rest.takeWhile isReferenceChar
            if name.isEmpty then .text '$' :: readPieces 0 rest
            else .group name :: readPieces name.length rest

def referenceNumber? (name : List Char) : Option Nat :=
  let digits := match name with
    | '+' :: rest => rest
    | _ => name
  if digits.isEmpty || !digits.all isAsciiDigit then none
  else
    let n := digits.foldl (fun n c => n * 10 + (c.toNat - 48)) 0
    if n < pow2 64 then some n else none

def Match.reference (m : Match) (names : List (List Char × Nat)) (name : List Char) : List Char :=
  let index := match referenceNumber? name with
    | some n => some n
    | none => names.lookup name
  (index.bind m.group?).getD []

def Piece.fill (names : List (List Char × Nat)) (m : Match) : Piece → List Char
  | .text c => [c]
  | .group name => m.reference names name

/-- Puts a replacement in place of each match; `pos` is the place that `rest` begins at. -/
def fillMatches (names : List (List Char × Nat)) (pieces : List Piece) :
    (pos : Nat) → (rest : List Char) → List Match → List Char
  | _, rest, [] => rest
  | pos, rest, m :: ms =>
    let (a, b) := m.bounds
    rest.take (a - pos) ++ pieces.flatMap (·.fill names m) ++
      fillMatches names pieces b (rest.drop (b - pos)) ms

def replaceMatches (p : Pattern) (replacement s : List Char) : List Char :=
  fillMatches p.names (readPieces 0 replacement) 0 s (p.allMatches s)

end Storefront.Pattern

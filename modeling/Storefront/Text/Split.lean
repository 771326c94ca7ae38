/-! # Cutting and replacing in character lists

Texts are lists of characters here, so that positions are counts of characters. A delimiter is found
at its first or at its last occurrence, and replaced from left to right without overlap.
-/
namespace Storefront.Text

def dropEndWhile (p : Char → Bool) (s : List Char) : List Char := (s.reverse.dropWhile p).reverse

def strip (p : Char → Bool) (s : List Char) : List Char := dropEndWhile p (s.dropWhile p)

def splitFirst (d : List Char) : List Char → Option (List Char × List Char)
  | [] => if d.isEmpty then some ([], []) else none
  | c :: rest =>
    if d.isPrefixOf (c :: rest) then some ([], (c :: rest).drop d.length)
    else (splitFirst d rest).map fun (before, after) => (c :: before, after)

def splitLast (d : List Char) : List Char → Option (List Char × List Char)
  | [] => if d.isEmpty then some ([], []) else none
  | c :: rest =>
    match splitLast d rest with
    | some (before, after) => some (c :: before, after)
    | none => if d.isPrefixOf (c :: rest) then some ([], (c :: rest).drop d.length) else none

def contains (d s : List Char) : Bool := (splitFirst d s).isSome

/-- Replaces, from left to right, each stretch whose length `spanAt` gives for the text that begins
with it. `skip` characters belong to a stretch already replaced. -/
def replaceSpans (spanAt : List Char → Nat) (new : List Char) (skip : Nat) : List Char → List Char
  | [] => []
  | c :: rest =>
    match skip with
    | skip + 1 => replaceSpans spanAt new skip rest
    | 0 =>
      match spanAt (c :: rest) with
      | 0 => c :: replaceSpans spanAt new 0 rest
      | n + 1 => new ++ replaceSpans spanAt new n rest

def replaceAll (old new s : List Char) : List Char :=
  replaceSpans (fun t => if old.isPrefixOf t then old.length else 0) new 0 s

/-- The part of `s` from `start` on: `length` characters, or all but `-length` of them, or all.
A negative start counts from the end, and positions outside the text move to its ends. -/
def slice (s : List Char) (start : Int) (length : Option Int) : List Char :=
  let size : Int := s.length
  let first := max 0 (min size (if 0 ≤ start then start else size + start))
  let rest := size - first
  let count := match length with
    | none => rest
    | some n => if 0 ≤ n then min n rest else max 0 (rest + n)
  (s.drop first.toNat).take count.toNat

/-- The lines of a text. A line ends at a line feed, and a carriage return before it belongs to it;
a last line needs no end. -/
def lines (s : List Char) : List (List Char) :=
  let rec go (line : List Char) : List Char → List (List Char)
    | [] => if line.isEmpty then [] else [line.reverse]
    | '\n' :: rest => (match line with | '\r' :: shorter => shorter | _ => line).reverse :: go [] rest
    | c :: rest => go (c :: line) rest
  go [] s

end Storefront.Text

import Storefront.Pattern.Escape

/-! # Bracketed sets

A set in brackets lists characters, ranges, named classes and nested sets. Sets are combined from left
to right by `&&`, `--` and `~~`.
-/
namespace Storefront.Pattern

inductive SetOp
  | inter
  | diff
  | symmDiff
deriving DecidableEq

def SetOp.apply : SetOp → CharSet → CharSet → CharSet
  | inter, a, b => .inter a b
  | diff, a, b => .diff a b
  | symmDiff, a, b => .symmDiff a b

/-- An open bracket: whether it is negated, the operand to the left of the last operation with its depth,
and the items since with the depth of each. -/
structure Bracket where
  negated : Bool
  left : Option (CharSet × Nat × SetOp)
  items : CharSet
  depths : List Nat

/-- The items so far, combined with the operand on their left. With the case flag both operands are
folded before they are combined. -/
def Bracket.combined (f : Flags) (b : Bracket) : CharSet :=
  match b.left with
  | none => b.items
  | some (left, _, op) => op.apply (f.foldSet left) (f.foldSet b.items)

def Bracket.depth (b : Bracket) : Nat :=
  match b.left with
  | none => nest b.depths
  | some (_, depth, _) => Nat.max depth (nest b.depths) + 1

def Bracket.close (f : Flags) (b : Bracket) : CharSet :=
  let s := f.foldSet (b.combined f)
  if b.negated then .compl s else s

def Bracket.add (b : Bracket) (s : CharSet) (depth : Nat) : Bracket :=
  { b with items := if b.items = .empty then s else .union b.items s, depths := depth :: b.depths }

def Bracket.operate (f : Flags) (b : Bracket) (op : SetOp) : Bracket :=
  { b with left := some (b.combined f, b.depth, op), items := .empty, depths := [] }

/-- Reads the start of a bracket, after `[`: a caret, any dashes, or else a bracket that stands for
itself because it comes first. -/
def readBracketOpen (f : Flags) (s : List Char) : Option (Bracket × List Char) :=
  let rec dashes (b : Bracket) (fuel : Nat) (s : List Char) : Option (Bracket × List Char) :=
    match fuel, s with
    | _, [] => none
    | 0, _ => none
    | fuel + 1, '-' :: rest => dashes (b.add (.single '-') 0) fuel (f.skip rest)
    | _, ']' :: rest =>
      if b.items = .empty then
        match f.skip rest with
        | [] => none
        | rest => some (b.add (.single ']') 0, rest)
      else some (b, s)
    | _, _ => some (b, s)
  match f.skip s with
  | '^' :: rest => dashes ⟨true, none, .empty, []⟩ (rest.length + 1) (f.skip rest)
  | s => dashes ⟨false, none, .empty, []⟩ (s.length + 1) s

def readNamedClass (f : Flags) : List Char → Option (CharSet × List Char)
  | ':' :: rest =>
    let (negated, rest) := match rest with
      | '^' :: rest => (true, rest)
      | _ => (false, rest)
    let name := rest.takeWhile (· != ':')
    match rest.drop name.length, AsciiClass.ofName? (String.ofList name) with
    | ':' :: ']' :: rest, some cls =>
      let s := f.foldSet (.ascii cls)
      some (if negated then .compl s else s, rest)
    | _, _ => none
  | _ => none

def readItem (f : Flags) : List Char → Option (Escape × List Char)
  | [] => none
  | '\\' :: rest => readEscape f rest
  | c :: rest => if !f.unicode ∧ 128 ≤ c.toNat then none else some (.literal c, rest)

def readRange (f : Flags) (s : List Char) : Option (CharSet × List Char) :=
  (readItem f s).bind fun (item, rest) =>
    let alone := fun rest => match item with
      | Escape.literal c => some (CharSet.single c, rest)
      | .set s => some (s, rest)
      | .look _ => none
    match f.skip rest with
    | [] => none
    | '-' :: after =>
      match f.skip after with
      | ']' :: _ | '-' :: _ => alone (f.skip rest)
      | [] => none
      | after => (readItem f after).bind fun (last, rest) =>
        match item, last with
        | .literal a, .literal b => if a ≤ b then some (.range a b, rest) else none
        | _, _ => none
    | rest => alone rest

/-- Reads items until every open bracket is closed, the set and how deep it nests. -/
def readItems (f : Flags) (b : Bracket) (outer : List Bracket) :
    (fuel : Nat) → List Char → Option (CharSet × Nat × List Char)
  | 0, _ => none
  | fuel + 1, s =>
    match f.skip s with
    | [] => none
    | '[' :: rest =>
      match readNamedClass f rest with
      | some (cls, rest) => readItems f (b.add cls 0) outer fuel rest
      | none => (readBracketOpen f rest).bind fun (inner, rest) =>
        readItems f inner (b :: outer) fuel rest
    | ']' :: rest =>
      match outer with
      | [] => some (b.close f, b.depth + 1, rest)
      | next :: outer => readItems f (next.add (b.close f) (b.depth + 1)) outer fuel rest
    | '&' :: '&' :: rest => readItems f (b.operate f .inter) outer fuel rest
    | '-' :: '-' :: rest => readItems f (b.operate f .diff) outer fuel rest
    | '~' :: '~' :: rest => readItems f (b.operate f .symmDiff) outer fuel rest
    | s => (readRange f s).bind fun (set, rest) => readItems f (b.add set 0) outer fuel rest

def readBracket (f : Flags) (s : List Char) : Option (CharSet × Nat × List Char) :=
  (readBracketOpen f s).bind fun (b, rest) =>
    (readItems f b [] (rest.length + 1) rest).bind fun (set, depth, rest) =>
      if f.unicode ∨ set.withinAscii then some (set, depth, rest) else none

end Storefront.Pattern

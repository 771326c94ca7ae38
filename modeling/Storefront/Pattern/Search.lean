import Storefront.Pattern.Program

/-! # Searching for patterns

All ways through the program advance together over the text, one character at a time, in order of
preference; of two ways that reach one instruction at one place only the preferred one is kept. The
match found starts as far left as possible, and among those it is the most preferred.
-/
namespace Storefront.Pattern
open Unicode

/-- Positions saved so far, by slot. -/
abbrev Slots := Array (Option Nat)

def wordAt (ascii : Bool) (c : Option Char) : Bool :=
  match c with
  | some c => if ascii then isAsciiLetter c || isAsciiDigit c || c == '_' else isWordChar c
  | none => false

def Look.holds (l : Look) (before after : Option Char) : Bool :=
  match l with
  | start => before.isNone
  | finish => after.isNone
  | lineStart => before.isNone || before == some '\n'
  | lineFinish => after.isNone || after == some '\n'
  | crlfStart => before.isNone || before == some '\n' || (before == some '\r' && after != some '\n')
  | crlfFinish => after.isNone || after == some '\r' || (after == some '\n' && before != some '\r')
  | wordBoundary a => wordAt a before != wordAt a after
  | noBoundary a => wordAt a before == wordAt a after
  | wordStart a => !wordAt a before && wordAt a after
  | wordFinish a => wordAt a before && !wordAt a after
  | wordStartHalf a => !wordAt a before
  | wordFinishHalf a => !wordAt a after

/-- Ways waiting for a character at one place, most preferred first, and the instructions seen. -/
structure Ways where
  list : Array (CharSet × Nat × Slots)
  accepted : Option Slots
  seen : Array Bool

def Ways.none (size : Nat) : Ways := ⟨#[], Option.none, Array.replicate size false⟩

/-- Follows instructions that consume nothing. Once a way accepts, less preferred ones are dropped. -/
def Ways.follow (p : Program) (pos : Nat) (before after : Option Char) :
    (fuel : Nat) → List (Nat × Slots) → Ways → Ways
  | 0, _, w => w
  | _, [], w => w
  | fuel + 1, (pc, slots) :: stack, w =>
    if w.accepted.isSome || w.seen.getD pc true then Ways.follow p pos before after fuel stack w
    else
      let w := { w with seen := w.seen.setIfInBounds pc true }
      match p.code[pc]? with
      | some (.one s next) =>
        Ways.follow p pos before after fuel stack { w with list := w.list.push (s, next, slots) }
      | some (.split a b) =>
        Ways.follow p pos before after fuel ((a, slots) :: (b, slots) :: stack) w
      | some (.save slot next) =>
        Ways.follow p pos before after fuel ((next, slots.setIfInBounds slot (some pos)) :: stack) w
      | some (.look l next) =>
        Ways.follow p pos before after fuel
          (if l.holds before after then (next, slots) :: stack else stack) w
      | some .accept => Ways.follow p pos before after fuel stack { w with accepted := some slots }
      | Option.none => Ways.follow p pos before after fuel stack w

def Ways.add (w : Ways) (p : Program) (pos : Nat) (before after : Option Char) (pc : Nat)
    (slots : Slots) : Ways :=
  Ways.follow p pos before after (3 * p.code.size + 3) [(pc, slots)] w

/-- Advances over the rest of a text from the place `pos`. A match found earlier is kept unless a
preferred way goes on to a longer one. -/
def Program.advance (p : Program) (pos : Nat) (before : Option Char) (rest : List Char) (w : Ways)
    (found : Option Slots) : Option Slots :=
  let w := if found.isSome || w.accepted.isSome then w
    else w.add p pos before rest.head? p.start (Array.replicate p.slots Option.none)
  let found := w.accepted.or found
  match rest with
  | [] => found
  | c :: rest =>
    if w.list.isEmpty && found.isSome then found
    else
      let next := w.list.foldl (fun (n : Ways) (s, pc, slots) =>
        if s.mem c then n.add p (pos + 1) (some c) rest.head? pc slots else n)
        (Ways.none p.code.size)
      p.advance (pos + 1) (some c) rest next found

/-- The first match in `rest`, which stands at `pos` after the character `before`. -/
def Program.find (p : Program) (pos : Nat) (before : Option Char) (rest : List Char) : Option Slots :=
  p.advance pos before rest (Ways.none p.code.size) Option.none

def groupBounds (slots : Slots) (i : Nat) : Option (Nat × Nat) :=
  match slots[2 * i]?, slots[2 * i + 1]? with
  | some (some a), some (some b) => some (a, b)
  | _, _ => Option.none

/-- All matches from left to right, none overlapping the one before it. An empty match right after
another match is passed over. -/
def Program.findAll (p : Program) : (fuel : Nat) → (pos : Nat) → (before : Option Char) →
    (rest : List Char) → (last : Option Nat) → List Slots
  | 0, _, _, _, _ => []
  | fuel + 1, pos, before, rest, last =>
    match p.find pos before rest with
    | Option.none => []
    | some slots =>
      match groupBounds slots 0 with
      | Option.none => []
      | some (a, b) =>
        if a = b ∧ last = some b then
          match rest with
          | [] => []
          | c :: rest => p.findAll fuel (pos + 1) (some c) rest Option.none
        else
          let passed := b - pos
          let before := if passed = 0 then before else (rest.drop (passed - 1)).head?
          slots :: p.findAll fuel b before (rest.drop passed) (some b)

end Storefront.Pattern

namespace Storefront

structure Pattern.Match where
  slots : Pattern.Slots
  text : List Char

namespace Pattern

def Match.group? (m : Match) (i : Nat) : Option (List Char) :=
  (groupBounds m.slots i).map fun (a, b) => (m.text.drop a).take (b - a)

def Match.bounds (m : Match) : Nat × Nat := (groupBounds m.slots 0).getD (0, 0)

def firstMatch (p : Pattern) (s : List Char) : Option Match :=
  (p.program.find 0 none s).map (⟨·, s⟩)

def allMatches (p : Pattern) (s : List Char) : List Match :=
  (p.program.findAll (2 * s.length + 2) 0 none s none).map (⟨·, s⟩)

end Pattern
end Storefront

import Storefront.Mold.Basic
import Storefront.Pattern.Reader
import Storefront.Pattern.Replace
import Storefront.Text.Address
import Storefront.Text.Number
import Storefront.Text.Reference
import Storefront.Text.TitleCase

/-! # What molds do

A mold works on a buffer. It looks at its attributes, and the first fault found ends the work; the buffer is then as the
work has left it so far.
-/
namespace Storefront.Mold
open Unicode

/-- Work on a buffer that can fail on its way. -/
abbrev Work := EStateM Fault (List Char)

instance : MonadLift (Except Fault) Work := ⟨MonadExcept.ofExcept⟩

def ellipsis : Char := '…'

def isNumberChar (c : Char) : Bool := isDecimalDigit c || c == '-' || c == '.' || c == ','

def commaToPoint (c : Char) : Char := if c = ',' then '.' else c

def commentOpen : List Char := ['<', '!', '-', '-']
def commentClose : List Char := ['-', '-', '>']

/-- The length of the comment that a text begins with, or 0. -/
def commentSpan (s : List Char) : Nat :=
  if commentOpen.isPrefixOf s then
    match Text.splitFirst commentClose (s.drop commentOpen.length) with
    | some (inside, _) => commentOpen.length + inside.length + commentClose.length
    | none => 0
  else 0

/-- Appends a filler again and again, until there are enough characters. -/
def fillUp (length : Nat) {filler : List Char} (h : filler ≠ []) (s : List Char) : List Char :=
  if s.length < length then fillUp length h (s ++ filler) else s
termination_by length - s.length
decreasing_by
  have := List.length_pos_iff.mpr h
  simp only [List.length_append]
  omega

def integer? (s : List Char) : Option Int :=
  let (negative, body) := Decimal.splitSign s
  (Decimal.digitsValue? body).bind fun n =>
    let value : Int := if negative then -(n : Int) else n
    if -(pow2 63) ≤ value ∧ value < pow2 63 then some value else none

def textAttribute (m : Mold) (index : Nat) : Except Fault (List Char) :=
  match m.attributes[index]? with
  | some s => .ok s.toList
  | none => .error ⟨m.kind, .missingAttribute index⟩

def searchAttribute (m : Mold) (index : Nat) : Except Fault (List Char) := do
  let s ← m.textAttribute index
  if s.isEmpty then .error ⟨m.kind, .emptySearch⟩ else .ok s

def intAttribute (m : Mold) (index : Nat) : Except Fault Int := do
  let s ← m.textAttribute index
  match integer? (Text.trim s) with
  | some n => .ok n
  | none => .error ⟨m.kind, .notInteger (String.ofList s)⟩

def countAttribute (m : Mold) (index : Nat) : Except Fault Nat := do
  let n ← m.intAttribute index
  if n < 0 then .error ⟨m.kind, .negative n⟩ else .ok n.toNat

/-- Combines the number in the buffer with an operand. A buffer that holds none is left alone, and so is every one if the
operand is none. -/
def combine (m : Mold) (op : Float → Float → Float) : Work Unit := do
  let operand ← m.textAttribute 0
  if let (some x, some y) := (Text.float? (← get), Text.float? operand) then
    set (Binary64.toText (op x y))

/-- What a mold does to the buffer, in the order in which it is done. -/
def work (m : Mold) : Work Unit :=
  match m.kind with
  | .append => do
    let tail ← m.textAttribute 0
    modify (· ++ tail)
  | .prepend => do
    let head ← m.textAttribute 0
    modify (head ++ ·)
  | .floatAdd => m.combine (· + ·)
  | .floatMult => m.combine (· * ·)
  | .float1DivX => do
    match Text.float? (← get) with
    | some x => set (if x == 0.0 then ['0'] else Binary64.toText (1.0 / x))
    | none => set ['0']
  | .addIfMissing => do
    let text ← m.textAttribute 0
    if !Text.contains text (← get) then modify (· ++ text)
  | .spacer => modify Text.collapseBlanks
  | .deSpace => modify Text.removeBlanks
  | .onlyFloatChars => modify (·.filter isNumberChar)
  | .fakeLength => do
    let length ← m.countAttribute 0
    let filler := match m.attributes[1]? with
      | some s => s.toList
      | none => ['/']
    if h : filler = [] then throw ⟨m.kind, .emptyFiller⟩ else modify (fillUp length h)
  | .substr => do
    let start ← m.intAttribute 0
    let length ← match m.attributes[1]? with
      | some _ => some <$> m.intAttribute 1
      | none => pure none
    modify (Text.slice · start length)
  | .trim => modify Text.trim
  | .htmlDecode => modify Text.decodeReferences
  | .before => do
    let delimiter ← m.textAttribute 0
    if let some (before, _) := Text.splitFirst delimiter (← get) then set before
  | .after => do
    let delimiter ← m.textAttribute 0
    if let some (_, after) := Text.splitFirst delimiter (← get) then set after
  | .afterLast => do
    let delimiter ← m.textAttribute 0
    if let some (_, after) := Text.splitLast delimiter (← get) then set after
  | .between => do
    let opening ← m.textAttribute 0
    let closing ← m.textAttribute 1
    if let some (_, after) := Text.splitFirst opening (← get) then
      if let some (between, _) := Text.splitFirst closing after then set between
  | .commas2Points => modify (·.map commaToPoint)
  | .replace => do
    let old ← m.searchAttribute 0
    let new ← m.textAttribute 1
    modify (Text.replaceAll old new)
  | .remove => do
    let old ← m.searchAttribute 0
    modify (Text.replaceAll old [])
  | .stripHtmlComments => modify (Text.replaceSpans commentSpan [] 0)
  | .setIfEmpty => do
    let text ← m.textAttribute 0
    if (← get).isEmpty then set text
  | .replaceIfLonger => do
    let limit ← m.countAttribute 0
    let text ← m.textAttribute 1
    if limit < (← get).length then set text
  | .cutEnd => do
    let limit ← m.countAttribute 0
    if limit < (← get).length then modify fun s => Text.slice s 0 (some limit) ++ [ellipsis]
  | .cutStart => do
    let limit ← m.countAttribute 0
    if limit < (← get).length then modify fun s => ellipsis :: Text.slice s (-(limit : Int)) none
  | .easyHash => do
    let limit ← match m.attributes.head? with
      | some raw => if raw.isEmpty then pure none else some <$> m.countAttribute 0
      | none => pure none
    modify (Text.shortHash · limit)
  | .titleCase => modify Text.titleCase
  | .regexReplace => do
    let pattern ← m.textAttribute 0
    let replacement ← m.textAttribute 1
    match Pattern.ofText? pattern with
    | some p => modify (p.replaceMatches replacement)
    | none => throw ⟨m.kind, .invalidPattern⟩
  | .override => do
    let text ← m.textAttribute 0
    set text

end Storefront.Mold

import Storefront.Mold.Pipeline

/-! # Molds as edits

A mold that is well formed is an edit: an operation with attributes of their proper types, which changes any text and
cannot fail. Any other fails before it has changed anything. Which of the two it is does not depend on the buffer.
-/
namespace Storefront.Mold
variable {α : Type} {m : Mold}

inductive Edit
  | append (tail : List Char)
  | prepend (head : List Char)
  /-- Texts that are no numbers are left alone, and so is every text if the operand is none. -/
  | addNumber (operand : Option Float)
  | multiply (operand : Option Float)
  | invert
  | addIfMissing (text : List Char)
  | collapseBlanks
  | removeBlanks
  | keepNumberChars
  | pad (length : Nat) (filler : List Char)
  | slice (start : Int) (length : Option Int)
  | trim
  | decodeReferences
  | before (delimiter : List Char)
  | after (delimiter : List Char)
  | afterLast (delimiter : List Char)
  | between (opening closing : List Char)
  | commasToPoints
  | replace (old new : List Char)
  | stripComments
  | setIfEmpty (text : List Char)
  | replaceIfLonger (limit : Nat) (text : List Char)
  | cutEnd (limit : Nat)
  | cutStart (limit : Nat)
  | hash (limit : Option Nat)
  | titleCase
  | replacePattern (pattern : Pattern) (replacement : List Char)
  | override (text : List Char)

/-- How many copies of a filler of `size` characters reach `length` from `have`. -/
def copiesNeeded (size have' length : Nat) : Nat := (length - have' + (size - 1)) / size

def combined (op : Float → Float → Float) (operand : Option Float) (s : List Char) : List Char :=
  match Text.float? s, operand with
  | some x, some y => Binary64.toText (op x y)
  | _, _ => s

def Edit.apply : Edit → List Char → List Char
  | append tail, s => s ++ tail
  | prepend head, s => head ++ s
  | addNumber y, s => combined (· + ·) y s
  | multiply y, s => combined (· * ·) y s
  | invert, s => match Text.float? s with
    | some x => if x == 0.0 then ['0'] else Binary64.toText (1.0 / x)
    | none => ['0']
  | addIfMissing t, s => if Text.contains t s then s else s ++ t
  | collapseBlanks, s => Text.collapseBlanks s
  | removeBlanks, s => Text.removeBlanks s
  | keepNumberChars, s => s.filter isNumberChar
  | pad length filler, s =>
    s ++ (List.replicate (copiesNeeded filler.length s.length length) filler).flatten
  | slice start length, s => Text.slice s start length
  | trim, s => Text.trim s
  | decodeReferences, s => Text.decodeReferences s
  | before d, s => match Text.splitFirst d s with
    | some (a, _) => a
    | none => s
  | after d, s => match Text.splitFirst d s with
    | some (_, b) => b
    | none => s
  | afterLast d, s => match Text.splitLast d s with
    | some (_, b) => b
    | none => s
  | between o c, s => match Text.splitFirst o s with
    | some (_, b) => match Text.splitFirst c b with
      | some (a, _) => a
      | none => s
    | none => s
  | commasToPoints, s => s.map commaToPoint
  | replace old new, s => Text.replaceAll old new s
  | stripComments, s => Text.replaceSpans commentSpan [] 0 s
  | setIfEmpty t, s => if s.isEmpty then t else s
  | replaceIfLonger limit t, s => if limit < s.length then t else s
  | cutEnd limit, s =>
    if limit < s.length then Text.slice s 0 (some limit) ++ [ellipsis] else s
  | cutStart limit, s =>
    if limit < s.length then ellipsis :: Text.slice s (-(limit : Int)) none else s
  | hash limit, s => Text.shortHash s limit
  | titleCase, s => Text.titleCase s
  | replacePattern p r, s => p.replaceMatches r s
  | override t, _ => t

/-- The edit that a mold is, or what is wrong with it. -/
def edit (m : Mold) : Except Fault Edit :=
  match m.kind with
  | .append => do return .append (← m.textAttribute 0)
  | .prepend => do return .prepend (← m.textAttribute 0)
  | .floatAdd => do return .addNumber (Text.float? (← m.textAttribute 0))
  | .floatMult => do return .multiply (Text.float? (← m.textAttribute 0))
  | .float1DivX => .ok .invert
  | .addIfMissing => do return .addIfMissing (← m.textAttribute 0)
  | .spacer => .ok .collapseBlanks
  | .deSpace => .ok .removeBlanks
  | .onlyFloatChars => .ok .keepNumberChars
  | .fakeLength => do
    let length ← m.countAttribute 0
    let filler := match m.attributes[1]? with
      | some s => s.toList
      | none => ['/']
    if filler.isEmpty then .error ⟨m.kind, .emptyFiller⟩ else .ok (.pad length filler)
  | .substr => do
    let start ← m.intAttribute 0
    match m.attributes[1]? with
    | some _ => return .slice start (some (← m.intAttribute 1))
    | none => return .slice start none
  | .trim => .ok .trim
  | .htmlDecode => .ok .decodeReferences
  | .before => do return .before (← m.textAttribute 0)
  | .after => do return .after (← m.textAttribute 0)
  | .afterLast => do return .afterLast (← m.textAttribute 0)
  | .between => do
    let opening ← m.textAttribute 0
    return .between opening (← m.textAttribute 1)
  | .commas2Points => .ok .commasToPoints
  | .replace => do
    let old ← m.searchAttribute 0
    return .replace old (← m.textAttribute 1)
  | .remove => do return .replace (← m.searchAttribute 0) []
  | .stripHtmlComments => .ok .stripComments
  | .setIfEmpty => do return .setIfEmpty (← m.textAttribute 0)
  | .replaceIfLonger => do
    let limit ← m.countAttribute 0
    return .replaceIfLonger limit (← m.textAttribute 1)
  | .cutEnd => do return .cutEnd (← m.countAttribute 0)
  | .cutStart => do return .cutStart (← m.countAttribute 0)
  | .easyHash =>
    match m.attributes.head? with
    | some raw => if raw.isEmpty then .ok (.hash none) else do return .hash (some (← m.countAttribute 0))
    | none => .ok (.hash none)
  | .titleCase => .ok .titleCase
  | .regexReplace => do
    let pattern ← m.textAttribute 0
    let replacement ← m.textAttribute 1
    match Pattern.ofText? pattern with
    | some p => return .replacePattern p replacement
    | none => .error ⟨m.kind, .invalidPattern⟩
  | .override => do return .override (← m.textAttribute 0)

theorem copiesNeeded_succ {size have' length : Nat} (hsize : 0 < size) (hshort : have' < length) :
    copiesNeeded size have' length = copiesNeeded size (have' + size) length + 1 := by
  unfold copiesNeeded
  rcases Nat.le_total (length - have') size with hlast | hmore
  · have hone : (length - have' + (size - 1)) / size = 1 := Nat.div_eq_of_lt_le (by omega) (by omega)
    have hnone : (length - (have' + size) + (size - 1)) / size = 0 := Nat.div_eq_of_lt (by omega)
    rw [hone, hnone]
  · rw [show length - have' + (size - 1) = length - (have' + size) + (size - 1) + size by omega,
      Nat.add_div_right _ hsize]

/-- The rounds of the filler come to as many copies as are needed. -/
theorem fillUp_eq (length : Nat) {filler : List Char} (h : filler ≠ []) (s : List Char) :
    fillUp length h s = (Edit.pad length filler).apply s := by
  have hsize : 0 < filler.length := List.length_pos_iff.mpr h
  fun_induction fillUp length h s with
  | case1 s hshort ih =>
    rw [ih, Edit.apply, Edit.apply, List.length_append, copiesNeeded_succ hsize hshort, List.replicate_succ,
      List.flatten_cons, List.append_assoc]
  | case2 s hlong =>
    have hnone : copiesNeeded filler.length s.length length = 0 := by
      rw [copiesNeeded, Nat.sub_eq_zero_of_le (Nat.le_of_not_lt hlong), Nat.zero_add]
      exact Nat.div_eq_of_lt (Nat.sub_one_lt_of_lt hsize)
    rw [Edit.apply, hnone, List.replicate_zero, List.flatten_nil, List.append_nil]

/-- Whether work comes to what an edit does, or fails with the buffer as it was if there is none. -/
def Amounts (w : Work Unit) (x : Except Fault Edit) : Prop :=
  ∀ s, w.run s = match x with
    | .ok e => .ok () (e.apply s)
    | .error f => .error f s

section
variable {e : Edit} {w : Work Unit}

theorem amounts_ok (h : ∀ s, w.run s = .ok () (e.apply s)) : Amounts w (.ok e) := h

theorem amounts_modify {g : List Char → List Char} (h : ∀ s, g s = e.apply s) : Amounts (modify g) (.ok e) :=
  amounts_ok fun s => h s ▸ rfl

theorem amounts_throw (f : Fault) : Amounts (throw f) (.error f) := fun _ => rfl

/-- What is read off the attributes does not depend on the buffer. -/
theorem Amounts.bind {x : Except Fault α} {w : α → Work Unit} {g : α → Except Fault Edit}
    (h : ∀ a, Amounts (w a) (g a)) : Amounts (liftM x >>= w) (x >>= g) := by
  cases x with
  | ok a => exact h a
  | error f => exact amounts_throw f

theorem Amounts.map {x : Except Fault α} {w : α → Work Unit} {g : α → Edit} (h : ∀ a, Amounts (w a) (.ok (g a))) :
    Amounts (liftM x >>= w) (x >>= fun a => pure (g a)) := .bind h

theorem run_get (k : List Char → Work Unit) (s : List Char) : (get >>= k).run s = (k s).run s := rfl

end

theorem amounts_combine (op : Float → Float → Float) {number : Option Float → Edit}
    (hnumber : ∀ y s, (number y).apply s = combined op y s) :
    Amounts (m.combine op) (m.textAttribute 0 >>= fun operand => pure (number (Text.float? operand))) := by
  refine .map fun operand => amounts_ok fun s => ?_
  rw [run_get, hnumber]
  unfold combined
  cases Text.float? s with
  | none => rfl
  | some x => cases Text.float? operand <;> rfl

theorem amounts_fillUp (length : Nat) (filler : List Char) (f : Fault) :
    Amounts (if h : filler = [] then throw f else modify (fillUp length h))
      (if filler.isEmpty then .error f else .ok (.pad length filler)) := by
  by_cases h : filler = []
  · rw [dif_pos h, if_pos (List.isEmpty_iff.mpr h)]
    exact amounts_throw f
  · rw [dif_neg h, if_neg (mt List.isEmpty_iff.mp h)]
    exact amounts_modify (fillUp_eq length h)

/-- A mold works as the edit that it is, or fails before it has changed anything. -/
theorem amounts_work (m : Mold) : Amounts m.work m.edit := by
  obtain ⟨kind, attributes⟩ := m
  cases kind with
  | spacer | deSpace | onlyFloatChars | trim | htmlDecode | commas2Points | stripHtmlComments | titleCase =>
    exact amounts_modify fun s => rfl
  | append | prepend | override => exact .map fun text => amounts_modify fun s => rfl
  | floatAdd => exact amounts_combine _ fun y s => rfl
  | floatMult => exact amounts_combine _ fun y s => rfl
  | float1DivX =>
    refine amounts_ok fun s => ?_
    rw [work, run_get, Edit.apply]
    cases Text.float? s <;> rfl
  | addIfMissing =>
    refine .map fun text => amounts_ok fun s => ?_
    rw [run_get, Edit.apply]
    cases Text.contains text s <;> rfl
  | fakeLength =>
    refine .bind fun length => ?_
    cases attributes[1]? with
    | none => exact amounts_fillUp length ['/'] _
    | some filler => exact amounts_fillUp length filler.toList _
  | substr =>
    refine .bind fun start => ?_
    cases attributes[1]? with
    | none => exact amounts_modify fun s => rfl
    | some _ =>
      cases intAttribute ⟨.substr, attributes⟩ 1 with
      | ok length => exact amounts_modify fun s => rfl
      | error f => exact amounts_throw f
  | before =>
    refine .map fun d => amounts_ok fun s => ?_
    rw [run_get, Edit.apply]
    cases Text.splitFirst d s <;> rfl
  | after =>
    refine .map fun d => amounts_ok fun s => ?_
    rw [run_get, Edit.apply]
    cases Text.splitFirst d s <;> rfl
  | afterLast =>
    refine .map fun d => amounts_ok fun s => ?_
    rw [run_get, Edit.apply]
    cases Text.splitLast d s <;> rfl
  | between =>
    refine .bind fun opening => .map fun closing => amounts_ok fun s => ?_
    rw [run_get, Edit.apply]
    cases Text.splitFirst opening s with
    | none => rfl
    | some parts =>
      dsimp only
      cases Text.splitFirst closing parts.2 <;> rfl
  | replace => exact .bind fun old => .map fun new => amounts_modify fun s => rfl
  | remove => exact .map fun old => amounts_modify fun s => rfl
  | setIfEmpty =>
    refine .map fun text => amounts_ok fun s => ?_
    rw [run_get, Edit.apply]
    cases s <;> rfl
  | replaceIfLonger =>
    refine .bind fun limit => .map fun text => amounts_ok fun s => ?_
    rw [run_get, Edit.apply]
    split <;> rfl
  | cutEnd =>
    refine .map fun limit => amounts_ok fun s => ?_
    rw [run_get, Edit.apply]
    split <;> rfl
  | cutStart =>
    refine .map fun limit => amounts_ok fun s => ?_
    rw [run_get, Edit.apply]
    split <;> rfl
  | easyHash =>
    simp only [work, edit]
    cases attributes.head? with
    | none => exact amounts_modify fun s => rfl
    | some raw =>
      dsimp only
      split
      · exact amounts_modify fun s => rfl
      · cases countAttribute ⟨.easyHash, attributes⟩ 0 with
        | ok limit => exact amounts_modify fun s => rfl
        | error f => exact amounts_throw f
  | regexReplace =>
    refine .bind fun pattern => .bind fun replacement => ?_
    cases Pattern.ofText? pattern with
    | some p => exact amounts_modify fun s => rfl
    | none => exact amounts_throw _

section
variable {e : Edit} {f : Fault}

theorem run_work_of_edit (h : m.edit = .ok e) (s : List Char) : m.work.run s = .ok () (e.apply s) := by
  rw [amounts_work m s, h]

theorem run_work_of_no_edit (h : m.edit = .error f) (s : List Char) : m.work.run s = .error f s := by
  rw [amounts_work m s, h]

theorem apply_of_edit (h : m.edit = .ok e) (s : List Char) : m.apply s = .ok (e.apply s) := by
  rw [apply, run_work_of_edit h]

theorem apply_of_no_edit (h : m.edit = .error f) (s : List Char) : m.apply s = .error f := by
  rw [apply, run_work_of_no_edit h]

end

end Storefront.Mold

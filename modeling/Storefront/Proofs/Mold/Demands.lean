import Storefront.Proofs.Mold.Edit

/-! # What molds demand

Each kind of mold demands something of its attributes and of nothing else. A mold of which every demand is met works on
any text, and another fails on any text with the first objection. So a pipeline works on every text or on none: it
always comes as far as the first of its molds that is not well formed.
-/
namespace Storefront.Mold

/-- What the text of an attribute may be asked to be. -/
inductive Form
  | text
  | search
  | filler
  | integer
  | count
  /-- A count, or empty. -/
  | limit
  | pattern

/-- What there is to object to an integer. -/
def integerObjection (raw : String) : Option Cause :=
  match integer? (Text.trim raw.toList) with
  | none => some (.notInteger raw)
  | some _ => none

/-- What there is to object to a count: a negative integer is none. -/
def countObjection (raw : String) : Option Cause :=
  match integer? (Text.trim raw.toList) with
  | none => some (.notInteger raw)
  | some n => if n < 0 then some (.negative n) else none

def Form.objection (raw : String) : Form → Option Cause
  | text => none
  | search => if raw.isEmpty then some .emptySearch else none
  | filler => if raw.isEmpty then some .emptyFiller else none
  | integer => integerObjection raw
  | count => countObjection raw
  | limit => if raw.isEmpty then none else countObjection raw
  | pattern => if (Pattern.ofText? raw.toList).isNone then some .invalidPattern else none

/-- What a kind of mold demands: an attribute of some form, which may be optional. -/
structure Demand where
  index : Nat
  form : Form := .text
  optional : Bool := false

def Demand.objection (d : Demand) (attributes : List String) : Option Cause :=
  match attributes[d.index]? with
  | some raw => d.form.objection raw
  | none => if d.optional then none else some (.missingAttribute d.index)

def Kind.demands : Kind → List Demand
  | float1DivX | spacer | deSpace | onlyFloatChars | trim | htmlDecode | commas2Points | stripHtmlComments
  | titleCase => []
  | append | prepend | floatAdd | floatMult | addIfMissing | before | after | afterLast | setIfEmpty
  | override => [{ index := 0 }]
  | fakeLength => [{ index := 0, form := .count }, { index := 1, form := .filler, optional := true }]
  | substr => [{ index := 0, form := .integer }, { index := 1, form := .integer, optional := true }]
  | between => [{ index := 0 }, { index := 1 }]
  | replace => [{ index := 0, form := .search }, { index := 1 }]
  | remove => [{ index := 0, form := .search }]
  | replaceIfLonger => [{ index := 0, form := .count }, { index := 1 }]
  | cutEnd | cutStart => [{ index := 0, form := .count }]
  | easyHash => [{ index := 0, form := .limit, optional := true }]
  | regexReplace => [{ index := 0 }, { index := 1 }, { index := 0, form := .pattern }]

/-- The fault of a mold by itself: the first demand that is not met. -/
def fault? (m : Mold) : Option Fault :=
  (m.kind.demands.findSome? fun d => d.objection m.attributes).map fun cause => ⟨m.kind, cause⟩

section
variable {α β : Type} {m : Mold} {demands more : List Demand} {index : Nat} {form : Form}

/-- Whether something succeeds unless there is an objection, and then fails with it. -/
def Heeds (kind : Kind) (objection : Option Cause) (x : Except Fault α) : Prop :=
  match objection with
  | none => ∃ a, x = .ok a
  | some cause => x = .error ⟨kind, cause⟩

/-- Whether something that is read off the attributes of a mold heeds the first of the demands that is not met. -/
def Follows (m : Mold) (demands : List Demand) (x : Except Fault α) : Prop :=
  Heeds m.kind (demands.findSome? fun d => d.objection m.attributes) x

theorem follows_ok (m : Mold) (a : α) : m.Follows [] (.ok a) := ⟨a, rfl⟩

theorem follows_singleton {d : Demand} {x : Except Fault α} :
    m.Follows [d] x ↔ Heeds m.kind (d.objection m.attributes) x := by
  rw [Follows, List.findSome?_singleton]

theorem Follows.bind {x : Except Fault α} {f : α → Except Fault β} (h : m.Follows demands x)
    (hf : ∀ a, x = .ok a → m.Follows more (f a)) : m.Follows (demands ++ more) (x >>= f) := by
  unfold Follows at h ⊢
  rw [List.findSome?_append]
  cases hfirst : demands.findSome? fun d => d.objection m.attributes with
  | none =>
    rw [hfirst] at h
    obtain ⟨a, rfl⟩ := h
    exact hf a rfl
  | some cause =>
    rw [hfirst] at h
    obtain rfl : x = .error ⟨m.kind, cause⟩ := h
    rfl

theorem Heeds.map {kind : Kind} {objection : Option Cause} {x : Except Fault α} (h : Heeds kind objection x)
    (f : α → β) : Heeds kind objection (x >>= fun a => pure (f a)) := by
  cases objection with
  | none =>
    obtain ⟨a, rfl⟩ := h
    exact ⟨f a, rfl⟩
  | some cause =>
    obtain rfl : x = .error ⟨kind, cause⟩ := h
    rfl

theorem Follows.map {x : Except Fault α} (h : m.Follows demands x) (f : α → β) :
    m.Follows demands (x >>= fun a => pure (f a)) := Heeds.map h f

theorem follows_mandatory {x : Except Fault α}
    (hnone : m.attributes[index]? = none → x = .error ⟨m.kind, .missingAttribute index⟩)
    (hsome : ∀ raw, m.attributes[index]? = some raw → Heeds m.kind (form.objection raw) x) :
    m.Follows [{ index, form }] x := by
  rw [follows_singleton, Demand.objection]
  cases hraw : m.attributes[index]? with
  | none => exact hnone hraw
  | some raw => exact hsome raw hraw

theorem follows_optional {x : Except Fault α} (hnone : m.attributes[index]? = none → ∃ a, x = .ok a)
    (hsome : ∀ raw, m.attributes[index]? = some raw → Heeds m.kind (form.objection raw) x) :
    m.Follows [{ index, form, optional := true }] x := by
  rw [follows_singleton, Demand.objection]
  cases hraw : m.attributes[index]? with
  | none => exact hnone hraw
  | some raw => exact hsome raw hraw

theorem textAttribute_of_none (h : m.attributes[index]? = none) :
    m.textAttribute index = .error ⟨m.kind, .missingAttribute index⟩ := by
  rw [textAttribute, h]

theorem textAttribute_of_some {raw : String} (h : m.attributes[index]? = some raw) :
    m.textAttribute index = .ok raw.toList := by
  rw [textAttribute, h]

theorem follows_text (m : Mold) (index : Nat) : m.Follows [{ index }] (m.textAttribute index) :=
  follows_mandatory textAttribute_of_none fun raw hraw => ⟨raw.toList, textAttribute_of_some hraw⟩

theorem isEmpty_toList (s : String) : s.toList.isEmpty = s.isEmpty := by
  rw [Bool.eq_iff_iff, List.isEmpty_iff, String.toList_eq_nil_iff, String.isEmpty_iff]

theorem follows_search (m : Mold) (index : Nat) :
    m.Follows [{ index, form := .search }] (m.searchAttribute index) := by
  unfold searchAttribute
  refine follows_mandatory (fun hnone => ?_) fun raw hraw => ?_
  · rw [textAttribute_of_none hnone]
    rfl
  · rw [textAttribute_of_some hraw, Form.objection, ← isEmpty_toList]
    cases hempty : raw.toList.isEmpty with
    | true => exact if_pos hempty
    | false => exact ⟨raw.toList, if_neg (by simp [hempty])⟩

theorem intAttribute_of_none (h : m.attributes[index]? = none) :
    m.intAttribute index = .error ⟨m.kind, .missingAttribute index⟩ := by
  rw [intAttribute, textAttribute_of_none h]
  rfl

theorem intAttribute_of_some {raw : String} (h : m.attributes[index]? = some raw) :
    m.intAttribute index = match integer? (Text.trim raw.toList) with
      | some n => .ok n
      | none => .error ⟨m.kind, .notInteger raw⟩ := by
  have hread : m.intAttribute index = match integer? (Text.trim raw.toList) with
      | some n => .ok n
      | none => .error ⟨m.kind, .notInteger (String.ofList raw.toList)⟩ := by
    rw [intAttribute, textAttribute_of_some h]
    rfl
  rw [hread, String.ofList_toList]

theorem heeds_int {raw : String} (h : m.attributes[index]? = some raw) :
    Heeds m.kind (integerObjection raw) (m.intAttribute index) := by
  rw [intAttribute_of_some h, integerObjection]
  cases integer? (Text.trim raw.toList) with
  | none => rfl
  | some n => exact ⟨n, rfl⟩

theorem follows_int (m : Mold) (index : Nat) : m.Follows [{ index, form := .integer }] (m.intAttribute index) :=
  follows_mandatory intAttribute_of_none fun _ => heeds_int

theorem heeds_count {raw : String} (h : m.attributes[index]? = some raw) :
    Heeds m.kind (countObjection raw) (m.countAttribute index) := by
  rw [countAttribute, intAttribute_of_some h, countObjection]
  cases integer? (Text.trim raw.toList) with
  | none => rfl
  | some n =>
    by_cases hnegative : n < 0
    · simp only [if_pos hnegative]
      exact if_pos hnegative
    · simp only [if_neg hnegative]
      exact ⟨n.toNat, if_neg hnegative⟩

theorem follows_count (m : Mold) (index : Nat) : m.Follows [{ index, form := .count }] (m.countAttribute index) := by
  refine follows_mandatory (fun hnone => ?_) fun _ => heeds_count
  rw [countAttribute, intAttribute_of_none hnone]
  rfl

end

/-- A mold is an edit just when its demands are met. -/
theorem follows_edit (m : Mold) : m.Follows m.kind.demands m.edit := by
  obtain ⟨kind, attributes⟩ := m
  cases kind with
  | float1DivX | spacer | deSpace | onlyFloatChars | trim | htmlDecode | commas2Points | stripHtmlComments
  | titleCase => exact follows_ok _ _
  | append | prepend | floatAdd | floatMult | addIfMissing | before | after | afterLast | setIfEmpty
  | override => exact (follows_text _ 0).map _
  | remove => exact (follows_search _ 0).map _
  | cutEnd | cutStart => exact (follows_count _ 0).map _
  | between => exact (follows_text _ 0).bind fun opening _ => (follows_text _ 1).map _
  | replace => exact (follows_search _ 0).bind fun old _ => (follows_text _ 1).map _
  | replaceIfLonger => exact (follows_count _ 0).bind fun limit _ => (follows_text _ 1).map _
  | fakeLength =>
    refine (follows_count _ 0).bind fun length _ => follows_optional (fun hnone => ?_) fun raw hraw => ?_
    · exact ⟨.pad length ['/'], by simp only [hnone]; rfl⟩
    · simp only [hraw, isEmpty_toList, Form.objection]
      cases raw.isEmpty with
      | true => rfl
      | false => exact ⟨.pad length raw.toList, rfl⟩
  | substr =>
    refine (follows_int _ 0).bind fun start _ => follows_optional (fun hnone => ?_) fun raw hraw => ?_
    · exact ⟨.slice start none, by simp only [hnone]; rfl⟩
    · simp only [hraw]
      exact (heeds_int hraw).map _
  | easyHash =>
    refine follows_optional (fun hnone => ?_) fun raw hraw => ?_
    · rw [← List.head?_eq_getElem?] at hnone
      exact ⟨.hash none, by simp only [edit, hnone]⟩
    · have hhead := hraw
      rw [← List.head?_eq_getElem?] at hhead
      simp only [edit, hhead, Form.objection]
      cases raw.isEmpty with
      | true => exact ⟨.hash none, rfl⟩
      | false => exact (heeds_count hraw).map _
  | regexReplace =>
    refine (follows_text _ 0).bind fun pattern hpattern => (follows_text _ 1).bind fun replacement _ => ?_
    refine follows_mandatory (fun hnone => ?_) fun raw hraw => ?_
    · rw [textAttribute_of_none hnone] at hpattern
      cases hpattern
    · rw [textAttribute_of_some hraw] at hpattern
      obtain rfl : raw.toList = pattern := Except.ok.inj hpattern
      simp only [Form.objection]
      cases Pattern.ofText? raw.toList with
      | none => rfl
      | some p => exact ⟨.replacePattern p replacement, rfl⟩

variable {m : Mold} {before : List Mold}

/-- A mold that is well formed works on any buffer. -/
theorem exists_run_work (h : m.fault? = none) (s : List Char) : ∃ t, m.work.run s = .ok () t := by
  have hfollows := m.follows_edit
  rw [fault?, Option.map_eq_none_iff] at h
  rw [Follows, h] at hfollows
  obtain ⟨e, he⟩ := hfollows
  exact ⟨e.apply s, run_work_of_edit he s⟩

/-- Any other fails on any buffer with its fault, and leaves the buffer as it was. -/
theorem run_work_of_fault {f : Fault} (h : m.fault? = some f) (s : List Char) : m.work.run s = .error f s := by
  have hfollows := m.follows_edit
  obtain ⟨cause, hcause, rfl⟩ := Option.map_eq_some_iff.mp h
  rw [Follows, hcause] at hfollows
  exact run_work_of_no_edit hfollows s

theorem exists_run (h : ∀ b ∈ before, b.fault? = none) (s : List Char) :
    ∃ t, ∀ after, run (before ++ after) s = run after t := by
  induction before generalizing s with
  | nil => exact ⟨s, fun _ => rfl⟩
  | cons b rest ih =>
    rw [List.forall_mem_cons] at h
    obtain ⟨s', hs'⟩ := exists_run_work h.1 s
    obtain ⟨t, ht⟩ := ih h.2 s'
    refine ⟨t, fun after => ?_⟩
    rw [List.cons_append, run, hs']
    exact ht after

theorem applyString_of_run {molds : List Mold} {s : String} {t : List Char} (h : run molds s.toList = (t, none)) :
    applyString molds s = .ok (String.ofList t) := by
  rw [applyString, applyAll, h]
  rfl

theorem exists_applyString (h : ∀ b ∈ before, b.fault? = none) (s : String) :
    ∃ t, applyString before s = .ok (String.ofList t) ∧
      ∀ after, run (before ++ after) s.toList = run after t := by
  obtain ⟨t, ht⟩ := exists_run h s.toList
  have hrun := ht []
  rw [List.append_nil] at hrun
  exact ⟨t, applyString_of_run hrun, ht⟩

theorem applyString_of_stop {molds : List Mold} {s : String} {t : List Char} {f : Fault}
    (h : run molds s.toList = (t, some f)) : applyString molds s = .error f := by
  rw [applyString, applyAll, h]
  rfl

/-- A pipeline of well-formed molds works on every text. Any other fails on every text with the fault of the first mold
that is not well formed, as this mold does by itself on every buffer without a change, and leaves what the molds before
it have made of the text. -/
theorem pipeline_works_or_fails (molds : List Mold) :
    ((∀ m ∈ molds, m.fault? = none) ∧ ∀ s, ∃ t, applyString molds s = .ok t) ∨
    ∃ before m after f, molds = before ++ m :: after ∧
      (∀ b ∈ before, b.fault? = none ∧ ∀ s, ∃ t, applyString [b] s = .ok t) ∧
      m.fault? = some f ∧ (∀ s, m.work.run s = .error f s) ∧ (∀ s, applyString [m] s = .error f) ∧
      ∀ s, applyString molds s = .error f ∧
        ∃ t, applyString before s = .ok t ∧ run molds s.toList = (t.toList, some f) := by
  have hworks {molds : List Mold} (h : ∀ m ∈ molds, m.fault? = none) (s : String) :
      ∃ t, applyString molds s = .ok t := by
    obtain ⟨t, ht, -⟩ := exists_applyString h s
    exact ⟨String.ofList t, ht⟩
  cases hfirst : molds.findSome? fault? with
  | none =>
    have hgood : ∀ m ∈ molds, m.fault? = none := List.findSome?_eq_none_iff.mp hfirst
    exact .inl ⟨hgood, hworks hgood⟩
  | some f =>
    obtain ⟨before, m, after, rfl, hm, hbefore⟩ := List.findSome?_eq_some_iff.mp hfirst
    have hfails := run_work_of_fault hm
    refine .inr ⟨before, m, after, f, rfl, fun b hb => ⟨hbefore b hb, ?_⟩, hm, hfails, fun s => ?_, fun s => ?_⟩
    · exact hworks (List.forall_mem_singleton.mpr (hbefore b hb))
    · refine applyString_of_stop (t := s.toList) ?_
      rw [run, hfails]
    · obtain ⟨t, ht, hrun⟩ := exists_applyString hbefore s
      have hstop : run (before ++ m :: after) s.toList = (t, some f) := by
        rw [hrun, run, hfails]
      refine ⟨applyString_of_stop hstop, String.ofList t, ht, ?_⟩
      rw [hstop, String.toList_ofList]

/-- An optional attribute is looked at where there is one. -/
example : fault? ⟨.fakeLength, ["3", ""]⟩ = some ⟨.fakeLength, .emptyFiller⟩ ∧ fault? ⟨.fakeLength, ["3"]⟩ = none ∧
    fault? ⟨.fakeLength, ["-3"]⟩ = some ⟨.fakeLength, .negative (-3)⟩ := by
  decide +kernel

end Storefront.Mold

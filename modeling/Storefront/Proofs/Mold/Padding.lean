import Mathlib.Algebra.Order.Floor.Div
import Storefront.Proofs.Mold.Edit

/-! # Texts filled up to a length

A text that is too short is filled up in rounds: each appends the filler, until there are enough characters. The rounds
come to an end unless the filler is empty, and a mold with such a filler is refused. How many rounds there are is known
before the first of them.
-/
namespace Storefront.Mold
variable {length k : Nat} {filler s t : List Char}

/-- So many copies of a filler in a row. -/
def copies (k : Nat) (filler : List Char) : List Char := (List.replicate k filler).flatten

theorem copies_zero (filler : List Char) : copies 0 filler = [] := rfl

theorem append_copies_succ (k : Nat) (filler s : List Char) :
    s ++ copies (k + 1) filler = s ++ filler ++ copies k filler := by
  rw [copies, List.replicate_succ, List.flatten_cons, List.append_assoc, copies]

theorem length_append_copies (k : Nat) (filler s : List Char) :
    (s ++ copies k filler).length = s.length + k * filler.length := by
  rw [List.length_append, copies, List.length_flatten, List.map_replicate, List.sum_replicate_nat]

/-- The rounds from `s` on: they end after `k` of them, with `t`. -/
inductive PadsIn (length : Nat) (filler : List Char) : Nat → List Char → List Char → Prop
  | enough {s : List Char} (h : length ≤ s.length) : PadsIn length filler 0 s s
  | round {k : Nat} {s t : List Char} (h : s.length < length) (rest : PadsIn length filler k (s ++ filler) t) :
    PadsIn length filler (k + 1) s t

/-- `t` is `s` with `k` copies of the filler, which are enough and no more than needed. -/
structure Padded (length : Nat) (filler : List Char) (k : Nat) (s t : List Char) : Prop where
  whole : t = s ++ copies k filler
  enough : length ≤ t.length
  least : ∀ j < k, (s ++ copies j filler).length < length

theorem padded_zero (h : length ≤ s.length) : Padded length filler 0 s s :=
  ⟨(List.append_nil s).symm, h, nofun⟩

theorem padded_succ_iff :
    Padded length filler (k + 1) s t ↔ s.length < length ∧ Padded length filler k (s ++ filler) t := by
  constructor
  · rintro ⟨hwhole, henough, hleast⟩
    refine ⟨?_, by rw [hwhole, append_copies_succ], henough, fun j hj => ?_⟩
    · have hfirst := hleast 0 (Nat.succ_pos k)
      rwa [copies_zero, List.append_nil] at hfirst
    · rw [← append_copies_succ]
      exact hleast (j + 1) (Nat.succ_lt_succ hj)
  · rintro ⟨hshort, hwhole, henough, hleast⟩
    refine ⟨by rw [hwhole, append_copies_succ], henough, fun j hj => ?_⟩
    cases j with
    | zero => rwa [copies_zero, List.append_nil]
    | succ j =>
      rw [append_copies_succ]
      exact hleast j (Nat.lt_of_succ_lt_succ hj)

/-- The rounds end where there are enough copies for the first time. -/
theorem padsIn_iff : PadsIn length filler k s t ↔ Padded length filler k s t := by
  constructor
  · intro h
    induction h with
    | enough h => exact padded_zero h
    | round h _ ih => exact padded_succ_iff.mpr ⟨h, ih⟩
  · intro h
    induction k generalizing s with
    | zero =>
      obtain ⟨rfl, henough, -⟩ := h
      rw [copies_zero, List.append_nil] at henough ⊢
      exact .enough henough
    | succ k ih =>
      obtain ⟨hshort, hrest⟩ := padded_succ_iff.mp h
      exact .round hshort (ih hrest)

theorem Padded.eq_self (h : Padded length filler k s t) (hs : length ≤ s.length) : t = s := by
  cases k with
  | zero => rw [h.whole, copies_zero, List.append_nil]
  | succ k => exact absurd (padded_succ_iff.mp h).1 (Nat.not_lt.mpr hs)

/-- The last copy is needed, so that what is too much is less than a copy. -/
theorem Padded.length_lt (h : Padded length filler k s t) (hs : s.length < length) :
    t.length < length + filler.length := by
  cases k with
  | zero =>
    have henough := h.enough
    rw [h.whole, copies_zero, List.append_nil] at henough
    exact absurd hs (Nat.not_lt.mpr henough)
  | succ k =>
    have hlast := h.least k (Nat.lt_succ_self k)
    rw [length_append_copies] at hlast
    rw [h.whole, length_append_copies, Nat.succ_mul]
    omega

theorem Padded.count_le {k' : Nat} {t' : List Char} (h : Padded length filler k s t)
    (h' : Padded length filler k' s t') : k ≤ k' := by
  refine Nat.not_lt.mp fun hlt => ?_
  have hshort := h.least k' hlt
  rw [← h'.whole] at hshort
  exact absurd h'.enough (Nat.not_le.mpr hshort)

theorem Padded.unique {k' : Nat} {t' : List Char} (h : Padded length filler k s t)
    (h' : Padded length filler k' s t') : k = k' ∧ t = t' := by
  obtain rfl := Nat.le_antisymm (h.count_le h') (h'.count_le h)
  exact ⟨rfl, h.whole.trans h'.whole.symm⟩

theorem copiesNeeded_le_iff {size : Nat} (hsize : 0 < size) (have' length k : Nat) :
    copiesNeeded size have' length ≤ k ↔ length ≤ have' + k * size := by
  have hceil : copiesNeeded size have' length = (length - have') ⌈/⌉ size := by
    rw [Nat.ceilDiv_eq_add_pred_div, Nat.add_sub_assoc hsize]
    rfl
  rw [hceil, ceilDiv_le_iff_le_mul hsize, Nat.sub_le_iff_le_add', Nat.mul_comm]

/-- The copies that are appended at once are just enough. -/
theorem padded_pad (hfiller : filler ≠ []) (length : Nat) (s : List Char) :
    Padded length filler (copiesNeeded filler.length s.length length) s ((Edit.pad length filler).apply s) := by
  have hneeded := copiesNeeded_le_iff (List.length_pos_iff.mpr hfiller) s.length length
  refine ⟨rfl, ?_, fun j hj => ?_⟩
  · have henough := (hneeded _).mp (Nat.le_refl _)
    rwa [← length_append_copies] at henough
  · rw [length_append_copies]
    exact Nat.not_le.mp (mt (hneeded j).mpr (Nat.not_le.mpr hj))

theorem padsIn_nil_iff : PadsIn length [] k s t ↔ k = 0 ∧ t = s ∧ length ≤ s.length := by
  constructor
  · intro h
    have hpadded := padsIn_iff.mp h
    have hlength (j : Nat) : (s ++ copies j []).length = s.length := by
      rw [length_append_copies, List.length_nil, Nat.mul_zero, Nat.add_zero]
    have hs : length ≤ s.length := by
      have henough := hpadded.enough
      rwa [hpadded.whole, hlength] at henough
    obtain ⟨rfl, rfl⟩ := hpadded.unique (padded_zero hs)
    exact ⟨rfl, rfl, hs⟩
  · rintro ⟨rfl, rfl, hs⟩
    exact .enough hs

theorem exists_padsIn_iff : (∃ k t, PadsIn length filler k s t) ↔ filler ≠ [] ∨ length ≤ s.length := by
  constructor
  · rintro ⟨k, t, h⟩
    by_cases hfiller : filler = []
    · subst hfiller
      exact .inr (padsIn_nil_iff.mp h).2.2
    · exact .inl hfiller
  · rintro (hfiller | hs)
    · exact ⟨_, _, padsIn_iff.mpr (padded_pad hfiller length s)⟩
    · exact ⟨0, s, .enough hs⟩

/-- A mold whose first attribute reads as a count fills a text up to so many characters, with its second attribute or
with slashes. -/
theorem apply_fakeLength {m : Mold} (hkind : m.kind = .fakeLength) (hcount : m.countAttribute 0 = .ok length)
    (hfiller : ((m.attributes[1]?).getD "/").toList = filler) (s : List Char) :
    m.apply s = if filler = [] then .error ⟨.fakeLength, .emptyFiller⟩ else .ok ((Edit.pad length filler).apply s) := by
  have hedit : m.edit = if filler = [] then .error ⟨.fakeLength, .emptyFiller⟩ else .ok (.pad length filler) := by
    rw [← hfiller]
    cases hraw : m.attributes[1]? with
    | none =>
      simp only [edit, hkind, hcount, hraw]
      rfl
    | some raw =>
      simp only [edit, hkind, hcount, hraw, List.isEmpty_iff]
      rfl
  split
  · rename_i hempty
    rw [if_pos hempty] at hedit
    exact apply_of_no_edit hedit s
  · rename_i hfilled
    rw [if_neg hfilled] at hedit
    exact apply_of_edit hedit s

/-- The rounds come to an end just when the filler is not empty or there is nothing to fill up. If it is not empty, they
can only end with the fewest copies that make the text long enough, which the edit appends at once. A mold is this edit
unless its filler is empty, and then it is refused. -/
theorem pad_ends (length : Nat) (filler s : List Char) :
    ((∃ k t, PadsIn length filler k s t) ↔ filler ≠ [] ∨ length ≤ s.length) ∧
    (filler ≠ [] → ∃ k t, (Edit.pad length filler).apply s = t ∧ (∀ j u, PadsIn length filler j s u ↔ j = k ∧ u = t) ∧
      Padded length filler k s t ∧ (length ≤ s.length → t = s) ∧
      (s.length < length → t.length < length + filler.length)) ∧
    ∀ m : Mold, m.kind = .fakeLength → m.countAttribute 0 = .ok length →
      ((m.attributes[1]?).getD "/").toList = filler →
      m.apply s = if filler = [] then .error ⟨.fakeLength, .emptyFiller⟩ else .ok ((Edit.pad length filler).apply s) := by
  refine ⟨exists_padsIn_iff, fun hfiller => ?_, fun m hkind hcount hraw => apply_fakeLength hkind hcount hraw s⟩
  have hpad := padded_pad hfiller length s
  refine ⟨_, _, rfl, fun j u => ?_, hpad, hpad.eq_self, hpad.length_lt⟩
  rw [padsIn_iff]
  constructor
  · intro hu
    exact hu.unique hpad
  · rintro ⟨rfl, rfl⟩
    exact hpad

theorem pad_ends_arrows :
    let m : Mold := ⟨.fakeLength, ["10", "→ж"]⟩
    let s := "abc".toList
    m.countAttribute 0 = .ok 10 ∧ "→ж".toList ≠ [] ∧ m.apply s = .ok "abc→ж→ж→ж→ж".toList ∧
      ∃ k, (∀ j u, PadsIn 10 "→ж".toList j s u ↔ j = k ∧ u = "abc→ж→ж→ж→ж".toList) ∧
        "abc→ж→ж→ж→ж".toList.length < 10 + "→ж".toList.length := by
  intro m s
  have hcount : m.countAttribute 0 = .ok 10 := by rfl
  have hfiller : "→ж".toList ≠ [] := by decide
  have hresult : (Edit.pad 10 "→ж".toList).apply s = "abc→ж→ж→ж→ж".toList := by decide
  obtain ⟨-, hends, hmold⟩ := pad_ends 10 "→ж".toList s
  obtain ⟨k, t, ht, hrounds, -, -, hlength⟩ := hends hfiller
  obtain rfl := ht.symm.trans hresult
  have happly := hmold m rfl hcount rfl
  rw [if_neg hfiller, hresult] at happly
  exact ⟨hcount, hfiller, happly, k, hrounds, hlength (by decide)⟩

end Storefront.Mold

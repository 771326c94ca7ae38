import Storefront.Proofs.Mold.Edit
import Storefront.Proofs.Text.Delimiters

/-! # Texts kept on one side of a delimiter

What stands before and after a delimiter is kept of its first occurrence, or what stands after it of its last one, and a
text without the delimiter is left alone. Between two delimiters stands what is before the closing one in the text after
the opening one.
-/
namespace Storefront
open Text

namespace Mold
variable {d s before after opening closing : List Char}

theorem apply_before (h : FirstCut d s before after) : (Edit.before d).apply s = before := by
  simp only [Edit.apply, splitFirst_eq_some_iff.mpr h]

theorem apply_after (h : FirstCut d s before after) : (Edit.after d).apply s = after := by
  simp only [Edit.apply, splitFirst_eq_some_iff.mpr h]

theorem apply_before_of_not (h : ¬ d <:+: s) : (Edit.before d).apply s = s := by
  simp only [Edit.apply, splitFirst_eq_none_iff.mpr h]

theorem apply_after_of_not (h : ¬ d <:+: s) : (Edit.after d).apply s = s := by
  simp only [Edit.apply, splitFirst_eq_none_iff.mpr h]

theorem apply_afterLast_of_not (h : ¬ d <:+: s) : (Edit.afterLast d).apply s = s := by
  simp only [Edit.apply, splitLast_eq_none_iff.mpr h]

theorem firstCut_apply (h : d <:+: s) : FirstCut d s ((Edit.before d).apply s) ((Edit.after d).apply s) := by
  obtain ⟨before, after, hcut⟩ := exists_firstCut h
  rwa [apply_before hcut, apply_after hcut]

theorem lastCut_apply (h : d <:+: s) : ∃ front, LastCut d s front ((Edit.afterLast d).apply s) := by
  cases hsplit : splitLast d s with
  | none => exact absurd h (splitLast_eq_none_iff.mp hsplit)
  | some parts =>
    refine ⟨parts.1, ?_⟩
    simp only [Edit.apply, hsplit]
    exact lastCut_of_splitLast hsplit

theorem apply_between (hopening : opening <:+: s) (hclosing : closing <:+: (Edit.after opening).apply s) :
    (Edit.between opening closing).apply s = (Edit.before closing).apply ((Edit.after opening).apply s) := by
  obtain ⟨before, after, hcut⟩ := exists_firstCut hopening
  rw [apply_after hcut] at hclosing ⊢
  obtain ⟨inside, rest, hinside⟩ := exists_firstCut hclosing
  rw [apply_before hinside]
  simp only [Edit.apply, splitFirst_eq_some_iff.mpr hcut, splitFirst_eq_some_iff.mpr hinside]

theorem apply_between_of_not (h : ¬ (opening <:+: s ∧ closing <:+: (Edit.after opening).apply s)) :
    (Edit.between opening closing).apply s = s := by
  by_cases hopening : opening <:+: s
  · obtain ⟨before, after, hcut⟩ := exists_firstCut hopening
    have hclosing : ¬ closing <:+: after := fun hclosing => h ⟨hopening, by rwa [apply_after hcut]⟩
    simp only [Edit.apply, splitFirst_eq_some_iff.mpr hcut, splitFirst_eq_none_iff.mpr hclosing]
  · simp only [Edit.apply, splitFirst_eq_none_iff.mpr hopening]

theorem apply_before_idem (hd : d ≠ []) (s : List Char) :
    (Edit.before d).apply ((Edit.before d).apply s) = (Edit.before d).apply s := by
  apply apply_before_of_not
  by_cases h : d <:+: s
  · exact (firstCut_apply h).not_isInfix hd
  · rwa [apply_before_of_not h]

theorem apply_afterLast_idem (hd : d ≠ []) (s : List Char) :
    (Edit.afterLast d).apply ((Edit.afterLast d).apply s) = (Edit.afterLast d).apply s := by
  apply apply_afterLast_of_not
  by_cases h : d <:+: s
  · obtain ⟨front, hcut⟩ := lastCut_apply h
    exact hcut.not_isInfix hd
  · rwa [apply_afterLast_of_not h]

/-- Whether the sides of a delimiter are those of a text that has it: the cut is at the first occurrence, or at the last
one, and the delimiter does not occur on the side that the search has passed. -/
structure Sides (d s before after last : List Char) : Prop where
  firstCut : FirstCut d s before after
  before_free : ¬ d <:+: before
  lastCut : ∃ front, LastCut d s front last
  last_free : ¬ d <:+: last

theorem sides_apply (hd : d ≠ []) (h : d <:+: s) :
    Sides d s ((Edit.before d).apply s) ((Edit.after d).apply s) ((Edit.afterLast d).apply s) := by
  have hfirst := firstCut_apply h
  obtain ⟨front, hlast⟩ := lastCut_apply h
  exact ⟨hfirst, hfirst.not_isInfix hd, ⟨front, hlast⟩, hlast.not_isInfix hd⟩

/-- The molds keep the sides of a delimiter of a text that has it, and leave a text without it alone. To keep a side of
the first or of the last occurrence once more changes nothing. What is kept between two delimiters is what stands before
the second one after the first one, if there is such a place, and all of the text if there is none. -/
theorem cut_at_occurrence (s : List Char) (d opening closing : String) (hd : d ≠ "") :
    (∃ before after last, Mold.apply ⟨.before, [d]⟩ s = .ok before ∧ Mold.apply ⟨.after, [d]⟩ s = .ok after ∧
      Mold.apply ⟨.afterLast, [d]⟩ s = .ok last ∧
      (d.toList <:+: s → Sides d.toList s before after last) ∧
      (¬ d.toList <:+: s → before = s ∧ after = s ∧ last = s) ∧
      Mold.apply ⟨.before, [d]⟩ before = .ok before ∧ Mold.apply ⟨.afterLast, [d]⟩ last = .ok last) ∧
    ∃ rest, Mold.apply ⟨.after, [opening]⟩ s = .ok rest ∧
      (opening.toList <:+: s ∧ closing.toList <:+: rest →
        Mold.apply ⟨.between, [opening, closing]⟩ s = Mold.apply ⟨.before, [closing]⟩ rest) ∧
      (¬ (opening.toList <:+: s ∧ closing.toList <:+: rest) →
        Mold.apply ⟨.between, [opening, closing]⟩ s = .ok s) := by
  have hd : d.toList ≠ [] := mt String.toList_eq_nil_iff.mp hd
  have hbefore (d : String) (t : List Char) : Mold.apply ⟨.before, [d]⟩ t = .ok ((Edit.before d.toList).apply t) :=
    apply_of_edit rfl t
  have hafter (d : String) : Mold.apply ⟨.after, [d]⟩ s = .ok ((Edit.after d.toList).apply s) := apply_of_edit rfl s
  have hlast (t : List Char) : Mold.apply ⟨.afterLast, [d]⟩ t = .ok ((Edit.afterLast d.toList).apply t) :=
    apply_of_edit rfl t
  have hbetween : Mold.apply ⟨.between, [opening, closing]⟩ s =
      .ok ((Edit.between opening.toList closing.toList).apply s) := apply_of_edit rfl s
  refine ⟨⟨_, _, _, hbefore d s, hafter d, hlast s, sides_apply hd, fun h => ?_, ?_, ?_⟩, _, hafter opening,
    fun ⟨hopening, hclosing⟩ => ?_, fun h => ?_⟩
  · exact ⟨apply_before_of_not h, apply_after_of_not h, apply_afterLast_of_not h⟩
  · rw [hbefore, apply_before_idem hd]
  · rw [hlast, apply_afterLast_idem hd]
  · rw [hbetween, apply_between hopening hclosing, hbefore]
  · rw [hbetween, apply_between_of_not h]

/-- The brackets stand at two places that overlap. -/
theorem cut_at_occurrence_brackets :
    let s := "x[[[é]]]y".toList
    "[[" ≠ "" ∧ Mold.apply ⟨.before, ["[["]⟩ s = .ok "x".toList ∧ Mold.apply ⟨.after, ["[["]⟩ s = .ok "[é]]]y".toList ∧
      Sides "[[".toList s "x".toList "[é]]]y".toList "é]]]y".toList ∧
      Mold.apply ⟨.between, ["[[", "]]"]⟩ s = .ok "[é".toList := by
  intro s
  have hd : "[[" ≠ "" := by decide
  have hx : Mold.apply ⟨.before, ["[["]⟩ s = .ok "x".toList := by decide
  have hkept : Mold.apply ⟨.after, ["[["]⟩ s = .ok "[é]]]y".toList := by decide
  have hend : Mold.apply ⟨.afterLast, ["[["]⟩ s = .ok "é]]]y".toList := by decide
  obtain ⟨⟨before, after, last, hbefore, hafter, hlast, hsides, -⟩, rest, hrest, hbetween, -⟩ :=
    cut_at_occurrence s "[[" "[[" "]]" hd
  obtain rfl := Except.ok.inj (hbefore.symm.trans hx)
  obtain rfl := Except.ok.inj (hafter.symm.trans hkept)
  obtain rfl := Except.ok.inj (hrest.symm.trans hkept)
  obtain rfl := Except.ok.inj (hlast.symm.trans hend)
  refine ⟨hd, hx, hkept, hsides (by decide), ?_⟩
  rw [hbetween (by decide)]
  decide

end Mold
end Storefront

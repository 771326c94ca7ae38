import Mathlib.Data.List.Infix
import Storefront.Text.Split

/-! # Occurrences of a delimiter

A text is cut at the first or at the last occurrence of a delimiter, and overlapping occurrences count. It is not cut
just when the delimiter does not occur in it.
-/
namespace Storefront.Text
variable {d s before after : List Char}

/-- The delimiter stands between two parts of a text, and nowhere further to the left. -/
structure FirstCut (d s before after : List Char) : Prop where
  whole : before ++ d ++ after = s
  first : ∀ front back, front ++ d ++ back = s → before.length ≤ front.length

structure LastCut (d s before after : List Char) : Prop where
  whole : before ++ d ++ after = s
  last : ∀ front back, front ++ d ++ back = s → front.length ≤ before.length

theorem FirstCut.isInfix (h : FirstCut d s before after) : d <:+: s := ⟨before, after, h.whole⟩

theorem FirstCut.not_isInfix (h : FirstCut d s before after) (hd : d ≠ []) : ¬ d <:+: before := by
  rintro ⟨front, back, hbefore⟩
  have hle := h.first front (back ++ d ++ after) (by simp [← h.whole, ← hbefore])
  have hlength := congrArg List.length hbefore
  have hpos := List.length_pos_iff.mpr hd
  simp only [List.length_append] at hlength
  omega

theorem LastCut.not_isInfix (h : LastCut d s before after) (hd : d ≠ []) : ¬ d <:+: after := by
  rintro ⟨front, back, hafter⟩
  have hle := h.last (before ++ d ++ front) back (by simp [← h.whole, ← hafter])
  have hpos := List.length_pos_iff.mpr hd
  simp only [List.length_append] at hle
  omega

theorem FirstCut.unique {before' after' : List Char} (h : FirstCut d s before after)
    (h' : FirstCut d s before' after') : before = before' ∧ after = after' := by
  have hlength := Nat.le_antisymm (h.first _ _ h'.whole) (h'.first _ _ h.whole)
  have hsame := h.whole.trans h'.whole.symm
  rw [List.append_assoc, List.append_assoc] at hsame
  obtain ⟨hbefore, hrest⟩ := List.append_inj hsame hlength
  exact ⟨hbefore, List.append_cancel_left hrest⟩

theorem firstCut_nil (h : d <+: s) : FirstCut d s [] (s.drop d.length) := by
  obtain ⟨after, rfl⟩ := h
  exact ⟨by simp, fun _ _ _ => Nat.zero_le _⟩

theorem FirstCut.cons {c : Char} (h : FirstCut d s before after) (hc : ¬ d <+: c :: s) :
    FirstCut d (c :: s) (c :: before) after := by
  refine ⟨by simp [← h.whole], ?_⟩
  intro front back hfront
  cases front with
  | nil => exact absurd ⟨back, hfront⟩ hc
  | cons c' front =>
    have htail : front ++ d ++ back = s := (List.cons.inj hfront).2
    exact Nat.succ_le_succ (h.first front back htail)

theorem FirstCut.of_cons {c : Char} (h : FirstCut d s (c :: before) after) :
    ∃ rest, s = c :: rest ∧ ¬ d <+: s ∧ FirstCut d rest before after := by
  refine ⟨before ++ d ++ after, by simp [← h.whole], ?_, rfl, ?_⟩
  · rintro ⟨back, hback⟩
    exact absurd (h.first [] back hback) (Nat.not_succ_le_zero _)
  · intro front back hfront
    exact Nat.le_of_succ_le_succ (h.first (c :: front) back (by simp [← h.whole, ← hfront]))

theorem LastCut.cons (h : LastCut d s before after) (c : Char) : LastCut d (c :: s) (c :: before) after := by
  refine ⟨by simp [← h.whole], ?_⟩
  intro front back hfront
  cases front with
  | nil => exact Nat.zero_le _
  | cons c' front =>
    have htail : front ++ d ++ back = s := (List.cons.inj hfront).2
    exact Nat.succ_le_succ (h.last front back htail)

theorem lastCut_nil {c : Char} (h : d <+: c :: s) (hs : ¬ d <:+: s) :
    LastCut d (c :: s) [] ((c :: s).drop d.length) := by
  refine ⟨?_, ?_⟩
  · obtain ⟨after, hafter⟩ := h
    simp [← hafter]
  · intro front back hfront
    cases front with
    | nil => exact Nat.le_refl _
    | cons c' front =>
      have htail : front ++ d ++ back = s := (List.cons.inj hfront).2
      exact absurd ⟨front, back, htail⟩ hs

theorem splitFirst_eq_none_iff : splitFirst d s = none ↔ ¬ d <:+: s := by
  induction s with
  | nil => cases d <;> simp [splitFirst]
  | cons c s ih =>
    rw [splitFirst, List.infix_cons_iff, ← List.isPrefixOf_iff_prefix]
    split
    · simp [*]
    · simp [*]

theorem firstCut_of_splitFirst (h : splitFirst d s = some (before, after)) : FirstCut d s before after := by
  induction s generalizing before with
  | nil =>
    cases d with
    | nil =>
      cases h
      exact firstCut_nil List.nil_prefix
    | cons a d => simp [splitFirst] at h
  | cons c s ih =>
    rw [splitFirst] at h
    split at h
    · rename_i hprefix
      cases h
      exact firstCut_nil (List.isPrefixOf_iff_prefix.mp hprefix)
    · rename_i hprefix
      obtain ⟨⟨front, back⟩, hsplit, hparts⟩ := Option.map_eq_some_iff.mp h
      cases hparts
      exact (ih hsplit).cons (mt List.isPrefixOf_iff_prefix.mpr hprefix)

theorem exists_firstCut (h : d <:+: s) : ∃ before after, FirstCut d s before after := by
  cases hsplit : splitFirst d s with
  | none => exact absurd h (splitFirst_eq_none_iff.mp hsplit)
  | some parts => exact ⟨parts.1, parts.2, firstCut_of_splitFirst hsplit⟩

theorem splitFirst_eq_some_iff : splitFirst d s = some (before, after) ↔ FirstCut d s before after := by
  constructor
  · exact firstCut_of_splitFirst
  · intro h
    cases hsplit : splitFirst d s with
    | none => exact absurd h.isInfix (splitFirst_eq_none_iff.mp hsplit)
    | some parts =>
      obtain ⟨rfl, rfl⟩ := (firstCut_of_splitFirst hsplit).unique h
      rfl

theorem splitLast_eq_none_iff : splitLast d s = none ↔ ¬ d <:+: s := by
  induction s with
  | nil => cases d <;> simp [splitLast]
  | cons c s ih =>
    rw [splitLast, List.infix_cons_iff, ← List.isPrefixOf_iff_prefix]
    cases hsplit : splitLast d s with
    | none => simp [ih.mp hsplit]
    | some parts =>
      have hs : d <:+: s := not_not.mp (mt ih.mpr (by simp [hsplit]))
      simp [hs]

theorem lastCut_of_splitLast (h : splitLast d s = some (before, after)) : LastCut d s before after := by
  induction s generalizing before with
  | nil =>
    cases d with
    | nil =>
      cases h
      exact ⟨rfl, by simp⟩
    | cons a d => simp [splitLast] at h
  | cons c s ih =>
    rw [splitLast] at h
    cases hsplit : splitLast d s with
    | some parts =>
      simp only [hsplit] at h
      cases h
      exact (ih hsplit).cons c
    | none =>
      simp only [hsplit] at h
      split at h
      · rename_i hprefix
        cases h
        exact lastCut_nil (List.isPrefixOf_iff_prefix.mp hprefix) (splitLast_eq_none_iff.mp hsplit)
      · cases h

end Storefront.Text

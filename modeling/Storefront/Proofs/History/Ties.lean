import Storefront.Proofs.History.Weights

/-! # Moments that are seen more than once

What is seen at one moment has no order of its own, but the first of it weighs half the gap before the moment and the
last of it half the gap after. So the shares of a moment agree just when it is seen once, or twice and in the middle
between its neighbours, or when no time passes around it.
-/
namespace Storefront.History
variable {stamps left right : List Timestamp} {t : Timestamp}

/-- The milliseconds from the moment before. -/
def lapseBefore (stamps : List Timestamp) (t : Timestamp) : ℤ := gap (stamps.filter (·.before t)).getLast? (some t)

def lapseAfter (stamps : List Timestamp) (t : Timestamp) : ℤ := gap (some t) (stamps.filter (t.before ·)).head?

/-- Whether it makes no difference which of what is seen at a moment comes first. -/
def Fair (stamps : List Timestamp) (t : Timestamp) : Prop :=
  between stamps = 0 ∨ stamps.count t ≤ 1 ∨
    lapseBefore stamps t = lapseAfter stamps t ∧ (stamps.count t = 2 ∨ lapseBefore stamps t = 0)

instance (stamps : List Timestamp) (t : Timestamp) : Decidable (Fair stamps t) :=
  inferInstanceAs (Decidable (_ ∨ _ ∨ _ ∧ (_ ∨ _)))

theorem fair_of_forall_mem (h : ∀ t ∈ stamps, Fair stamps t) (t : Timestamp) : Fair stamps t := by
  by_cases ht : t ∈ stamps
  · exact h t ht
  · exact .inr (.inl (by rw [List.count_eq_zero.mpr ht]; exact Nat.zero_le 1))

/-- Whether all places of a moment have the same share. -/
def SharesAgree (stamps : List Timestamp) (t : Timestamp) : Prop :=
  ∀ u u', (t, u) ∈ stamps.zip (shares stamps) → (t, u') ∈ stamps.zip (shares stamps) → u = u'

/-- The weights of a moment that is seen `k` times. -/
def tied (before after : ℤ) : ℕ → List ℚ
  | 0 => []
  | 1 => [before / 2 + after / 2]
  | k + 2 => before / 2 :: tied 0 after (k + 1)

theorem length_tied (before after : ℤ) (k : ℕ) : (tied before after k).length = k := by
  induction k generalizing before with
  | zero => rfl
  | succ k ih =>
    cases k with
    | zero => rfl
    | succ k => rw [tied, List.length_cons, ih]

theorem tied_zero (after : ℤ) (k : ℕ) : tied 0 after (k + 1) = List.replicate k 0 ++ [(after / 2 : ℚ)] := by
  induction k with
  | zero => simp [tied]
  | succ k ih => simp [tied, ih, List.replicate_succ]

theorem mem_tied_iff {before after : ℤ} {k : ℕ} {w : ℚ} :
    w ∈ tied before after (k + 3) ↔ w = before / 2 ∨ w = 0 ∨ w = after / 2 := by
  simp only [tied, tied_zero, List.mem_cons, List.mem_append, List.mem_replicate, Int.cast_zero, zero_div,
    List.not_mem_nil, or_false]
  tauto

theorem tied_agree_iff (before after : ℤ) (k : ℕ) :
    (∀ w ∈ tied before after k, ∀ w' ∈ tied before after k, w = w') ↔
      k ≤ 1 ∨ before = after ∧ (k = 2 ∨ before = 0) := by
  match k with
  | 0 => simp [tied]
  | 1 => simp [tied]
  | 2 =>
    have hhalf : (before / 2 : ℚ) = after / 2 ↔ before = after := by
      rw [div_left_inj' (by norm_num), Int.cast_inj]
    simp [tied, eq_comm, hhalf]
  | k + 3 =>
    simp only [mem_tied_iff]
    constructor
    · intro h
      have hbefore := h (before / 2) (.inl rfl) 0 (.inr (.inl rfl))
      have hafter := h (after / 2) (.inr (.inr rfl)) 0 (.inr (.inl rfl))
      rw [div_eq_zero_iff, or_iff_left two_ne_zero, Int.cast_eq_zero] at hbefore hafter
      exact .inr ⟨hbefore.trans hafter.symm, .inr hbefore⟩
    · rintro (hk | ⟨rfl, hk | rfl⟩)
      · omega
      · omega
      · simp only [Int.cast_zero, zero_div, or_self]
        rintro w rfl w' rfl
        rfl

theorem gap_self (t : Timestamp) : gap (some t) (some t) = 0 := by
  simp [gap, Timestamp.millisSince, Timestamp.since]

theorem weightsAfter_replicate (before : ℤ) (t : Timestamp) (k : ℕ) (right : List Timestamp) :
    weightsAfter before (List.replicate (k + 1) t ++ right) =
      tied before (gap (some t) right.head?) (k + 1) ++ weightsAfter (gap (some t) right.head?) right := by
  induction k generalizing before with
  | zero => rfl
  | succ k ih =>
    rw [List.replicate_succ, List.cons_append, weightsAfter]
    have hhead : (List.replicate (k + 1) t ++ right).head? = some t := rfl
    rw [hhead, gap_self, ih, tied, List.cons_append, Int.cast_zero, zero_div, add_zero]

theorem exists_weightsAfter_append (before : ℤ) (left : List Timestamp) (t : Timestamp) (rest : List Timestamp) :
    ∃ ws, ws.length = left.length ∧ weightsAfter before (left ++ t :: rest) =
      ws ++ weightsAfter (left.getLast?.elim before fun l => gap (some l) (some t)) (t :: rest) := by
  induction left generalizing before with
  | nil => exact ⟨[], rfl, rfl⟩
  | cons l left ih =>
    obtain ⟨ws, hlength, hws⟩ := ih (gap (some l) (left ++ t :: rest).head?)
    refine ⟨(before / 2 + gap (some l) (left ++ t :: rest).head? / 2) :: ws, by simp [hlength], ?_⟩
    rw [List.cons_append, weightsAfter, hws, List.cons_append]
    cases left with
    | nil => rfl
    | cons => rfl

/-- In a series in order a moment has its places between what is before it and what is after it. -/
theorem eq_filter_append_replicate (hsorted : stamps.Pairwise fun a b => a.notAfter b = true) (t : Timestamp) :
    stamps = stamps.filter (·.before t) ++ (List.replicate (stamps.count t) t ++ stamps.filter (t.before ·)) := by
  induction stamps with
  | nil => rfl
  | cons u rest ih =>
    obtain ⟨hu, hrest⟩ := List.pairwise_cons.mp hsorted
    have ih := ih hrest
    cases hbefore : u.before t with
    | true =>
      have hne : u ≠ t := by
        rintro rfl
        simp [Timestamp.not_before_self] at hbefore
      have hnot := Timestamp.not_before_of_notAfter (Timestamp.notAfter_of_before hbefore)
      have hleft : (u :: rest).filter (·.before t) = u :: rest.filter (·.before t) := List.filter_cons_of_pos hbefore
      have hright : (u :: rest).filter (t.before ·) = rest.filter (t.before ·) :=
        List.filter_cons_of_neg (by simp [hnot])
      rw [hleft, hright, List.count_cons_of_ne hne, List.cons_append, ← ih]
    | false =>
      -- no moment from here on is before `t`
      have htu : t.notAfter u = true := by rw [Timestamp.notAfter, hbefore]; rfl
      have hnone : ∀ v ∈ u :: rest, ¬ v.before t = true := by
        intro v hv
        rw [Bool.not_eq_true]
        rcases List.mem_cons.mp hv with rfl | hv
        · exact hbefore
        · exact Timestamp.not_before_of_notAfter (Timestamp.notAfter_trans htu (hu v hv))
      rw [List.filter_eq_nil_iff.mpr hnone, List.nil_append]
      by_cases hne : u = t
      · subst hne
        rw [List.filter_eq_nil_iff.mpr fun v hv => hnone v (List.mem_cons_of_mem u hv), List.nil_append] at ih
        rw [List.count_cons_self, List.replicate_succ, List.filter_cons_of_neg (by simp [Timestamp.not_before_self]),
          List.cons_append, ← ih]
      · have hafter : ∀ v ∈ u :: rest, t.before v = true := by
          intro v hv
          have htu := Timestamp.before_of_notAfter_of_ne htu (Ne.symm hne)
          rcases List.mem_cons.mp hv with rfl | hv
          · exact htu
          · exact Timestamp.before_of_before_of_notAfter htu (hu v hv)
        have hcount : (u :: rest).count t = 0 := by
          refine List.count_eq_zero_of_not_mem fun hmem => ?_
          simpa [Timestamp.not_before_self] using hafter t hmem
        rw [hcount, List.replicate_zero, List.nil_append, List.filter_eq_self.mpr hafter]

theorem exists_weights_eq (hsorted : stamps.Pairwise fun a b => a.notAfter b = true) (hcount : stamps.count t ≠ 0) :
    ∃ ws ws', ws.length = (stamps.filter (·.before t)).length ∧
      weights stamps = ws ++ (tied (lapseBefore stamps t) (lapseAfter stamps t) (stamps.count t) ++ ws') := by
  obtain ⟨k, hk⟩ : ∃ k, stamps.count t = k + 1 := Nat.exists_eq_succ_of_ne_zero hcount
  obtain ⟨ws, hlength, hws⟩ := exists_weightsAfter_append 0 (stamps.filter (·.before t)) t
    (List.replicate k t ++ stamps.filter (t.before ·))
  have hbefore : (stamps.filter (·.before t)).getLast?.elim 0 (fun l => gap (some l) (some t)) =
      lapseBefore stamps t := by
    rw [lapseBefore]
    cases (stamps.filter (·.before t)).getLast? <;> rfl
  rw [← List.cons_append, ← List.replicate_succ, weightsAfter_replicate, hbefore, ← hk] at hws
  exact ⟨ws, _, hlength, (congrArg (weightsAfter 0) (eq_filter_append_replicate hsorted t)).trans hws⟩

theorem mem_zip_replicate {us : List ℚ} {u : ℚ} {k : ℕ} (h : us.length = k) :
    (t, u) ∈ (List.replicate k t).zip us ↔ u ∈ us := by
  subst h
  induction us with
  | nil => simp
  | cons v us ih => simp [List.replicate_succ, ih]

theorem mem_places_iff (hsorted : stamps.Pairwise fun a b => a.notAfter b = true) (hzero : between stamps ≠ 0)
    (hcount : stamps.count t ≠ 0) {u : ℚ} : (t, u) ∈ stamps.zip (shares stamps) ↔
      ∃ w ∈ tied (lapseBefore stamps t) (lapseAfter stamps t) (stamps.count t), w / between stamps = u := by
  obtain ⟨ws, ws', hlength, hws⟩ := exists_weights_eq hsorted hcount
  have hlength' : ((stamps.filter (·.before t)).length) = (ws.map (· / (between stamps : ℚ))).length := by
    rw [List.length_map, hlength]
  have htied : ((tied (lapseBefore stamps t) (lapseAfter stamps t) (stamps.count t)).map
      (· / (between stamps : ℚ))).length = stamps.count t := by
    rw [List.length_map, length_tied]
  have hplaces : stamps.zip (shares stamps) =
      (stamps.filter (·.before t)).zip (ws.map (· / (between stamps : ℚ))) ++
        ((List.replicate (stamps.count t) t).zip
            ((tied (lapseBefore stamps t) (lapseAfter stamps t) (stamps.count t)).map (· / (between stamps : ℚ))) ++
          (stamps.filter (t.before ·)).zip (ws'.map (· / (between stamps : ℚ)))) := by
    rw [← List.zip_append (by rw [List.length_replicate, htied]), ← List.zip_append hlength', ← List.map_append,
      ← List.map_append, ← hws, ← eq_filter_append_replicate hsorted t, shares, if_neg hzero]
  have hleft (us : List ℚ) : (t, u) ∉ (stamps.filter (·.before t)).zip us := fun hmem => by
    simpa [Timestamp.not_before_self] using (List.of_mem_zip hmem).1
  have hright (us : List ℚ) : (t, u) ∉ (stamps.filter (t.before ·)).zip us := fun hmem => by
    simpa [Timestamp.not_before_self] using (List.of_mem_zip hmem).1
  rw [hplaces, List.mem_append, or_iff_right (hleft _), List.mem_append, or_iff_left (hright _),
    mem_zip_replicate htied, List.mem_map]

/-- A moment is fair just when its shares agree. -/
theorem sharesAgree_iff (hsorted : stamps.Pairwise fun a b => a.notAfter b = true) (t : Timestamp) :
    SharesAgree stamps t ↔ Fair stamps t := by
  by_cases hzero : between stamps = 0
  · refine iff_of_true (fun u u' hu hu' => ?_) (.inl hzero)
    rw [shares, if_pos hzero] at hu hu'
    rw [List.eq_of_mem_replicate (List.of_mem_zip hu).2, List.eq_of_mem_replicate (List.of_mem_zip hu').2]
  by_cases hcount : stamps.count t = 0
  · have hnone : t ∉ stamps := List.count_eq_zero.mp hcount
    exact iff_of_true (fun u u' hu => absurd (List.of_mem_zip hu).1 hnone) (.inr (.inl (by omega)))
  · have hzero' : (between stamps : ℚ) ≠ 0 := by exact_mod_cast hzero
    rw [Fair, or_iff_right hzero, ← tied_agree_iff]
    simp only [SharesAgree, mem_places_iff hsorted hzero hcount]
    constructor
    · intro h w hw w' hw'
      exact (div_left_inj' hzero').mp (h _ _ ⟨w, hw, rfl⟩ ⟨w', hw', rfl⟩)
    · rintro h _ _ ⟨w, hw, rfl⟩ ⟨w', hw', rfl⟩
      rw [h w hw w' hw']

end Storefront.History

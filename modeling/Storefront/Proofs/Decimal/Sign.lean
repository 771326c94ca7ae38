import Storefront.Proofs.Decimal.Division

/-! # The signs of sums

A sum that is out of range is rounded, but never to zero: decimals are dropped one at a time, and only where the
digits that are left do not fit.
-/
namespace Storefront.Decimal
variable {n m k kept j : ℕ}

theorem le_roundDiv (n d : ℕ) : n / d ≤ roundDiv n d := by
  simp only [roundDiv]
  split <;> omega

theorem roundDiv_zero {d : ℕ} (hd : 0 < d) : roundDiv 0 d = 0 := by
  simp only [roundDiv, Nat.zero_div, Nat.zero_mod]
  rw [if_neg (by omega)]

theorem roundDiv_succ_pos (h : limit ≤ roundDiv n (pow10 k)) : 0 < roundDiv n (pow10 (k + 1)) := by
  have hdigits : 10 ≤ n / pow10 k := by
    have := roundDiv_le n (pow10 k)
    have : 11 ≤ limit := by decide
    omega
  have hn : pow10 (k + 1) ≤ n := by
    rw [Nat.le_div_iff_mul_le (pow10_pos k)] at hdigits
    simpa [pow10, Nat.pow_succ, Nat.mul_comm] using hdigits
  exact (Nat.div_pos hn (pow10_pos _)).trans_le (le_roundDiv _ _)

theorem pos_of_fitFrom (hpos : 0 < roundDiv n (pow10 k)) (h : fitFrom n k kept = some (m, j)) : 0 < m := by
  induction kept generalizing k with
  | zero =>
    simp only [fitFrom] at h
    split at h
    · cases h
      exact hpos
    · cases h
  | succ kept ih =>
    simp only [fitFrom] at h
    split at h
    · cases h
      exact hpos
    · rename_i hlimit
      exact ih (roundDiv_succ_pos (Nat.le_of_not_lt hlimit)) h

theorem fitFrom_zero (k kept : ℕ) : fitFrom 0 k kept = some (0, kept) := by
  cases kept <;> simp only [fitFrom, roundDiv_zero (pow10_pos k), if_pos (show 0 < limit by decide)]

theorem fitFrom_pos_iff (h : fitFrom n 0 kept = some (m, j)) : 0 < m ↔ 0 < n := by
  constructor
  · intro hm
    by_contra hn
    obtain rfl := Nat.eq_zero_of_not_pos hn
    rw [fitFrom_zero] at h
    cases h
    exact absurd hm (Nat.lt_irrefl 0)
  · intro hn
    exact pos_of_fitFrom (k := 0) (show 0 < roundDiv n 1 by rwa [roundDiv_one]) h

/-- A sum is positive just when the exact sum is. -/
theorem isPositive_add {a b d : Decimal} (h : a.add b = some d) : d.isPositive = true ↔ 0 < a.value + b.value := by
  unfold add at h
  -- a summand of zero leaves the other as it is
  split at h
  · rename_i ha
    cases h
    rw [isPositive_iff, isZero_iff.mp ha, zero_add]
  split at h
  · rename_i hb
    cases h
    rw [isPositive_iff, isZero_iff.mp hb, add_zero]
  have hsum := cast_sum a b
  dsimp only at h
  generalize a.coeff * pow10 (max a.scale b.scale - a.scale) + b.coeff * pow10 (max a.scale b.scale - b.scale) = sum
    at h hsum
  have hvalue : 0 < a.value + b.value ↔ 0 < sum := by
    rw [← Int.cast_pos (R := ℚ), hsum, mul_pos_iff_of_pos_right (by positivity)]
  simp only [fit, Nat.sub_eq_zero_of_le (show max a.scale b.scale ≤ maxScale from max_le a.scale_le b.scale_le),
    Option.bind_eq_some_iff] at h
  obtain ⟨⟨m, kept⟩, hfit, hparts⟩ := h
  have hm := fitFrom_pos_iff hfit
  rw [hvalue, isPositive, decide_eq_true_iff, (ofParts?_eq_some hparts).1, signed]
  split
  · rename_i hneg
    have := of_decide_eq_true hneg
    omega
  · rename_i hnonneg
    have : ¬ sum < 0 := fun h => hnonneg (decide_eq_true h)
    omega

end Storefront.Decimal

import Storefront.Proofs.Decimal.Product

/-! # Relative errors

Amounts that are worked out in several steps are right to a fraction of themselves. The fractions of the steps add up.
They are doubled wherever one of them is taken of a number that is itself only nearly right, which is more than enough.
-/
namespace Storefront

/-- Whether `x` is right to the fraction `ε` of `y`. -/
def Near (ε x y : ℚ) : Prop := |x - y| ≤ ε * y

namespace Near
variable {ε δ a a' b b' x y z : ℚ}

theorem mono (h : Near ε x y) (hle : ε ≤ δ) (hy : 0 ≤ y) : Near δ x y :=
  h.trans (mul_le_mul_of_nonneg_right hle hy)

theorem half_le (h : Near ε x y) (hε : ε ≤ 1 / 2) (hy : 0 ≤ y) : y / 2 ≤ x := by
  have := (abs_le.mp (h.mono hε hy)).1
  linarith

theorem le_two_mul (h : Near ε x y) (hε : ε ≤ 1 / 2) (hy : 0 ≤ y) : x ≤ 2 * y := by
  have := (abs_le.mp (h.mono hε hy)).2
  linarith

theorem trans (hxy : Near ε x y) (hyz : Near δ y z) (hε : 0 ≤ ε) (hδ : δ ≤ 1 / 2) (hz : 0 ≤ z) :
    Near (2 * ε + δ) x z :=
  calc |x - z| ≤ |x - y| + |y - z| := abs_sub_le x y z
    _ ≤ ε * y + δ * z := add_le_add hxy hyz
    _ ≤ ε * (2 * z) + δ * z := by
      gcongr
      exact hyz.le_two_mul hδ hz
    _ = (2 * ε + δ) * z := by ring

theorem mul_left (h : Near ε x y) (hz : 0 ≤ z) : Near ε (z * x) (z * y) := by
  rw [Near, ← mul_sub, abs_mul, abs_of_nonneg hz, mul_left_comm]
  exact mul_le_mul_of_nonneg_left h hz

theorem add (h : Near ε a a') (h' : Near ε b b') : Near ε (a + b) (a' + b') := by
  have hsum := abs_add_le (a - a') (b - b')
  have heq : a + b - (a' + b') = a - a' + (b - b') := by ring
  rw [Near, heq, mul_add]
  exact hsum.trans (add_le_add h h')

theorem div_left (hb : Near ε b b') (ha : 0 ≤ a) (hε : 0 ≤ ε) (hε' : ε ≤ 1 / 2) (hb' : 0 < b') :
    Near (2 * ε) (a / b) (a / b') := by
  have hhalf := hb.half_le hε' hb'.le
  have hpos : 0 < b := by linarith
  have heq : a / b - a / b' = a / b' * ((b' - b) / b) := by
    field_simp
  have hquotient : |(b' - b) / b| ≤ 2 * ε := by
    rw [abs_div, abs_of_pos hpos, abs_sub_comm, div_le_iff₀ hpos]
    calc |b - b'| ≤ ε * b' := hb
      _ ≤ ε * (2 * b) := by
        gcongr
        linarith
      _ = 2 * ε * b := by ring
  rw [Near, heq, abs_mul, abs_of_nonneg (div_nonneg ha hb'.le), mul_comm]
  exact mul_le_mul_of_nonneg_right hquotient (div_nonneg ha hb'.le)

end Near

namespace Decimal
variable {a b : Decimal}

theorem exists_add_near (hsum : 0 ≤ a.value + b.value) (hrange : a.value + b.value < 2 ^ 96 - 1 / 2) :
    ∃ d, a.add b = some d ∧ Near (1 / 10 ^ 28) d.value (a.value + b.value) := by
  cases hd : a.add b with
  | none => exact absurd (by rwa [InRange, abs_of_nonneg hsum]) (add_eq_none_iff.mp hd)
  | some d =>
    have hnear := add_near hd
    rw [abs_of_nonneg hsum, div_eq_inv_mul, ← one_div] at hnear
    exact ⟨d, rfl, hnear⟩

/-- An error of some parts in `10 ^ 28` is a fraction of a number that is not small. -/
theorem near_of_error {n x y : ℚ} (hn : 0 < n) (hlow : 1 / n ≤ x) (h : |y - x| ≤ (1 + |x|) / 10 ^ 28) :
    Near ((n + 1) / 10 ^ 28) y x := by
  rw [abs_of_pos ((div_pos one_pos hn).trans_le hlow)] at h
  rw [div_le_iff₀ hn] at hlow
  refine h.trans ?_
  rw [div_mul_eq_mul_div]
  gcongr
  linarith

/-- A quotient that is not small is right to a fraction of itself. -/
theorem exists_div_near {n : ℚ} (hn : 0 < n) (hlow : 1 / n ≤ a.value / b.value)
    (hrange : a.value / b.value < 2 ^ 96 - 1 / 2) :
    ∃ d, a.div b = some d ∧ Near ((n + 1) / 10 ^ 28) d.value (a.value / b.value) := by
  have hpos : 0 < a.value / b.value := (div_pos one_pos hn).trans_le hlow
  obtain ⟨d, hd, hnear, -⟩ := exists_div (a := a) (b := b) (by rintro h; simp [h] at hpos)
    (by rwa [abs_of_pos hpos])
  exact ⟨d, hd, near_of_error hn hlow hnear⟩

theorem exists_mul_near {n : ℚ} (hn : 0 < n) (hlow : 1 / n ≤ a.value * b.value)
    (hrange : a.value * b.value < 2 ^ 96 - 1 / 2) :
    ∃ d, a.mul b = some d ∧ Near ((n + 1) / 10 ^ 28) d.value (a.value * b.value) := by
  have hpos : 0 < a.value * b.value := (div_pos one_pos hn).trans_le hlow
  cases hd : a.mul b with
  | none => exact absurd (by rwa [InRange, abs_of_pos hpos]) (mul_eq_none_iff.mp hd)
  | some d =>
    refine ⟨d, rfl, near_of_error hn hlow ((mul_near hd).trans ?_)⟩
    rw [abs_of_pos hpos]
    exact div_le_div_of_nonneg_right (by linarith) (by norm_num)

end Decimal
end Storefront

import Mathlib.Algebra.Order.Field.Power
import Mathlib.Data.Rat.Cast.Order
import Mathlib.Tactic
import Storefront.Decimal.Arithmetic

/-! # The values of decimals

A decimal stands for a rational number. Sums and products are exact as long as their coefficients are
in range.
-/
namespace Storefront.Decimal

def value (d : Decimal) : ℚ := d.coeff / 10 ^ d.scale

@[simp] theorem value_zero : zero.value = 0 := by simp [value, zero]
@[simp] theorem value_one : one.value = 1 := by simp [value, one]
@[simp] theorem value_two : two.value = 2 := by simp [value, two]

theorem value_ofUInt64 (n : UInt64) : (ofUInt64 n).value = n.toNat := by
  simp [value, ofUInt64]

theorem exists_ofParts? {c : ℤ} {s : ℕ} (hc : c.natAbs < limit) (hs : s ≤ maxScale) :
    ∃ d, ofParts? c s = some d ∧ d.value = c / 10 ^ s ∧ d.scale = s := by
  have h : ofParts? c s = some ⟨c, s, hc, hs⟩ := dif_pos ⟨hc, hs⟩
  exact ⟨_, h, rfl, rfl⟩

theorem value_mul_pow (d : Decimal) : d.value * 10 ^ d.scale = d.coeff :=
  div_mul_cancel₀ _ (by positivity)

theorem abs_value (d : Decimal) : |d.value| = d.coeff.natAbs / 10 ^ d.scale := by
  rw [value, abs_div, abs_of_pos (by positivity : (0 : ℚ) < 10 ^ d.scale), Nat.cast_natAbs, Int.cast_abs]

theorem abs_value_mul_pow {d : Decimal} {k : ℕ} (h : d.scale ≤ k) :
    |d.value| * 10 ^ k = (d.coeff.natAbs * 10 ^ (k - d.scale) : ℕ) := by
  rw [abs_value, ← Nat.add_sub_cancel' h, pow_add, ← mul_assoc, div_mul_cancel₀ _ (by positivity),
    Nat.add_sub_cancel_left]
  push_cast
  rfl

@[simp] theorem value_neg (d : Decimal) : d.neg.value = -d.value := by
  simp [value, neg, neg_div]

theorem isZero_iff {d : Decimal} : d.isZero = true ↔ d.value = 0 := by
  simp [isZero, value]

theorem isNegative_iff {d : Decimal} : d.isNegative = true ↔ d.value < 0 := by
  rw [isNegative, decide_eq_true_iff, value, div_neg_iff]
  simp

theorem isNegative_eq_false_iff {d : Decimal} : d.isNegative = false ↔ 0 ≤ d.value := by
  rw [← Bool.not_eq_true, isNegative_iff, not_lt]

theorem isPositive_iff {d : Decimal} : d.isPositive = true ↔ 0 < d.value := by
  rw [isPositive, decide_eq_true_iff, value, div_pos_iff]
  simp

theorem signed_natAbs {negative : Bool} {c : ℤ} (h : negative = true ↔ c < 0) :
    signed negative c.natAbs = c := by
  unfold signed
  split
  · have := h.mp ‹_›
    omega
  · have : ¬ c < 0 := fun hc => ‹¬ negative = true› (h.mpr hc)
    omega

theorem roundDiv_one (n : ℕ) : roundDiv n 1 = n := by
  simp [roundDiv, Nat.mod_one]

theorem fitFrom_of_lt {n : ℕ} (h : n < limit) (kept : ℕ) : fitFrom n 0 kept = some (n, kept) := by
  cases kept <;> simp [fitFrom, roundDiv_one, h]

theorem fit_of_lt {negative : Bool} {n s : ℕ} (hn : n < limit) (hs : s ≤ maxScale) :
    fit negative n s = ofParts? (signed negative n) s := by
  simp [fit, Nat.sub_eq_zero_of_le hs, Nat.min_eq_left hs, fitFrom_of_lt hn]

theorem natAbs_lt_limit {c : ℤ} {x : ℚ} {s k : ℕ} (hc : (c : ℚ) = x * 10 ^ s) (hs : s ≤ k)
    (h : |x| * 10 ^ k < 2 ^ 96) : c.natAbs < limit := by
  have hle : (10 : ℚ) ^ s ≤ 10 ^ k := pow_le_pow_right₀ (by norm_num) hs
  have habs : ((c.natAbs : ℕ) : ℚ) = |x| * 10 ^ s := by
    rw [Nat.cast_natAbs, Int.cast_abs, hc, abs_mul, abs_of_pos (by positivity : (0 : ℚ) < 10 ^ s)]
  have hlt : ((c.natAbs : ℕ) : ℚ) < ((2 ^ 96 : ℕ) : ℚ) := by
    rw [habs]
    push_cast
    exact (mul_le_mul_of_nonneg_left hle (abs_nonneg x)).trans_lt h
  exact_mod_cast hlt

theorem cast_raised {d : Decimal} {s : ℕ} (hs : d.scale ≤ s) :
    ((d.coeff * pow10 (s - d.scale) : ℤ) : ℚ) = d.value * 10 ^ s := by
  rw [← Nat.sub_add_cancel hs, pow_add, ← mul_assoc, mul_right_comm, value_mul_pow]
  simp [pow10]

/-- The coefficients add up once they are brought to the larger of the two scales. -/
theorem cast_sum (a b : Decimal) :
    ((a.coeff * pow10 (max a.scale b.scale - a.scale) + b.coeff * pow10 (max a.scale b.scale - b.scale) : ℤ) : ℚ) =
      (a.value + b.value) * 10 ^ max a.scale b.scale := by
  rw [Int.cast_add, cast_raised (le_max_left _ _), cast_raised (le_max_right _ _), add_mul]

/-- The sum of two decimals, where it is not rounded. -/
def ExactSum (a b d : Decimal) : Prop := a.add b = some d ∧ d.value = a.value + b.value

def ExactProduct (a b d : Decimal) : Prop := a.mul b = some d ∧ d.value = a.value * b.value

def ExactQuotient (a b d : Decimal) : Prop := a.div b = some d ∧ d.value = a.value / b.value

/-- Sums of at most `k` decimals are exact. -/
theorem exists_add {a b : Decimal} {k : ℕ} (ha : a.scale ≤ k) (hb : b.scale ≤ k)
    (h : |a.value + b.value| * 10 ^ k < 2 ^ 96) :
    ∃ d, a.add b = some d ∧ d.value = a.value + b.value ∧ d.scale ≤ k := by
  by_cases za : a.isZero = true
  · exact ⟨b, by simp [add, za], by simp [isZero_iff.mp za], hb⟩
  by_cases zb : b.isZero = true
  · exact ⟨a, by simp [add, za, zb], by simp [isZero_iff.mp zb], ha⟩
  let s := max a.scale b.scale
  let sum := a.coeff * pow10 (s - a.scale) + b.coeff * pow10 (s - b.scale)
  have hsum : ((sum : ℤ) : ℚ) = (a.value + b.value) * 10 ^ s := cast_sum a b
  have hn : sum.natAbs < limit := natAbs_lt_limit hsum (max_le ha hb) h
  obtain ⟨d, hd, hv, hs⟩ := exists_ofParts? hn (max_le a.scale_le b.scale_le : s ≤ maxScale)
  refine ⟨d, ?_, ?_, hs ▸ max_le ha hb⟩
  · simp only [add, za, zb, if_false, Bool.false_eq_true]
    rw [fit_of_lt hn (max_le a.scale_le b.scale_le), signed_natAbs decide_eq_true_iff]
    exact hd
  · rw [hv, hsum, mul_div_cancel_right₀ _ (by positivity)]

theorem exists_mul {a b : Decimal} {j k : ℕ} (ha : a.scale ≤ j) (hb : b.scale ≤ k)
    (hjk : j + k ≤ maxScale) (h : |a.value * b.value| * 10 ^ (j + k) < 2 ^ 96) :
    ∃ d, a.mul b = some d ∧ d.value = a.value * b.value ∧ d.scale ≤ j + k := by
  by_cases z : (a.isZero || b.isZero) = true
  · refine ⟨zero, by simp [mul, z], ?_, Nat.zero_le _⟩
    rcases Bool.or_eq_true_iff.mp z with z | z <;> simp [isZero_iff.mp z]
  have hs : a.scale + b.scale ≤ j + k := Nat.add_le_add ha hb
  have hprod : ((a.coeff * b.coeff : ℤ) : ℚ) = a.value * b.value * 10 ^ (a.scale + b.scale) := by
    rw [Int.cast_mul, ← value_mul_pow, ← value_mul_pow, pow_add]
    ring
  have hn : (a.coeff * b.coeff).natAbs < limit := natAbs_lt_limit hprod hs h
  obtain ⟨d, hd, hv, hscale⟩ := exists_ofParts? hn (hs.trans hjk)
  refine ⟨d, ?_, ?_, hscale ▸ hs⟩
  · have near : ¬ vanishingScale < a.scale + b.scale := by
      have : maxScale < vanishingScale := by decide
      omega
    have hsign : (a.isNegative != b.isNegative) = true ↔ a.coeff * b.coeff < 0 := by
      simp only [isZero, Bool.or_eq_true, beq_iff_eq, not_or] at z
      simp only [isNegative, bne_iff_ne, ne_eq, decide_eq_decide, mul_neg_iff]
      omega
    simp only [mul, z, near, and_false, if_false, Bool.false_eq_true]
    rw [← Int.natAbs_mul, fit_of_lt hn (hs.trans hjk), signed_natAbs hsign]
    exact hd
  · rw [hv, hprod, mul_div_cancel_right₀ _ (by positivity)]

end Storefront.Decimal

import Storefront.Proofs.Decimal.Sign

/-! # The range of the operations

An operation has a result just when the exact one is nearer to some coefficient than to the limit. A sum loses its
last decimals only where it fills the range, so that it is right to one part in `10 ^ 28`.
-/
namespace Storefront.Decimal
variable {n m d s k kept j : ℕ}

/-- Whether a number is nearer to some coefficient than to the limit. -/
def InRange (x : ℚ) : Prop := |x| < 2 ^ 96 - 1 / 2

theorem abs_value_le (d : Decimal) : |d.value| ≤ (2 ^ 96 - 1) / 10 ^ d.scale := by
  have hle : ((d.coeff.natAbs + 1 : ℕ) : ℚ) ≤ (limit : ℕ) := Nat.cast_le.mpr d.coeff_lt
  rw [limit_cast, Nat.cast_succ] at hle
  rw [abs_value]
  gcongr
  linarith

theorem inRange_value (d : Decimal) : InRange d.value :=
  calc |d.value| ≤ (2 ^ 96 - 1) / 10 ^ d.scale := d.abs_value_le
    _ ≤ 2 ^ 96 - 1 := div_le_self (by norm_num) (one_le_pow₀ (by norm_num))
    _ < 2 ^ 96 - 1 / 2 := by norm_num

theorem limit_le_of_not_inRange {n : ℕ} (h : 2 ^ 96 - 1 / 2 ≤ (n : ℚ)) : (2 : ℚ) ^ 96 ≤ n := by
  by_contra hlt
  have hlt : n < 2 ^ 96 := by exact_mod_cast not_le.mp hlt
  have hle : ((n + 1 : ℕ) : ℚ) ≤ (2 ^ 96 : ℕ) := Nat.cast_le.mpr hlt
  push_cast at hle
  linarith

/-- The limit is even, so a number halfway to it rounds up. -/
theorem roundDiv_lt_limit_iff (n : ℕ) (hd : 0 < d) : roundDiv n d < limit ↔ (n : ℚ) / d < 2 ^ 96 - 1 / 2 := by
  have hd' : (0 : ℚ) < d := by exact_mod_cast hd
  have hcast : (n : ℚ) / d < 2 ^ 96 - 1 / 2 ↔ 2 * n < (2 * (limit - 1) + 1) * d := by
    have hlimit : ((2 * (limit - 1) + 1 : ℕ) : ℚ) = 2 * (2 ^ 96 - 1 / 2) := by norm_num [limit, pow2]
    rw [div_lt_iff₀ hd', ← Nat.cast_lt (α := ℚ), Nat.cast_mul _ d, hlimit]
    push_cast
    constructor <;> intro h <;> linarith
  have hn := Nat.div_add_mod n d
  have hr := Nat.mod_lt n hd
  have hlast : 1 < limit ∧ (limit - 1) % 2 = 1 := by decide
  rw [hcast, roundDiv]
  rcases Nat.lt_trichotomy (n / d) (limit - 1) with hlt | heq | hgt
  · have : d * (n / d) + d ≤ (limit - 1) * d := by
      rw [← Nat.mul_succ, Nat.mul_comm (limit - 1)]
      exact Nat.mul_le_mul_left d hlt
    rw [Nat.add_mul, Nat.mul_assoc]
    split <;> omega
  · rw [Nat.add_mul, Nat.mul_assoc]
    rw [heq, Nat.mul_comm d] at hn
    split <;> omega
  · have : (limit - 1) * d + d ≤ d * (n / d) := by
      rw [← Nat.succ_mul, Nat.mul_comm]
      exact Nat.mul_le_mul_left d hgt
    rw [Nat.add_mul, Nat.mul_assoc]
    split <;> omega

theorem fitFrom_eq_some (h : fitFrom n k kept = some (m, j)) :
    ∃ i, i + j = kept ∧ m = roundDiv n (pow10 (k + i)) ∧ m < limit ∧
      (i = 0 ∨ limit ≤ roundDiv n (pow10 (k + i - 1))) := by
  induction kept generalizing k with
  | zero =>
    simp only [fitFrom] at h
    split at h
    · cases h
      exact ⟨0, rfl, rfl, ‹_›, .inl rfl⟩
    · cases h
  | succ kept ih =>
    simp only [fitFrom] at h
    split at h
    · cases h
      exact ⟨0, Nat.zero_add _, rfl, ‹_›, .inl rfl⟩
    · rename_i hge
      obtain ⟨i, hij, hm, hlt, hleast⟩ := ih h
      refine ⟨i + 1, by omega, by rw [hm]; congr 2; omega, hlt, .inr ?_⟩
      rcases hleast with rfl | hleast
      · exact Nat.le_of_not_lt hge
      · have : k + (i + 1) - 1 = k + 1 + i - 1 := by omega
        rwa [this]

theorem roundDiv_lt_limit_add (i : ℕ) (h : roundDiv n (pow10 k) < limit) : roundDiv n (pow10 (k + i)) < limit := by
  rw [roundDiv_lt_limit_iff n (pow10_pos _)] at h ⊢
  refine lt_of_le_of_lt (div_le_div_of_nonneg_left (Nat.cast_nonneg n) ?_ ?_) h
  · exact_mod_cast pow10_pos k
  · exact_mod_cast Nat.pow_le_pow_right (by decide : 0 < 10) (Nat.le_add_right k i)

theorem fitFrom_eq_none_iff (n k kept : ℕ) :
    fitFrom n k kept = none ↔ limit ≤ roundDiv n (pow10 (k + kept)) := by
  induction kept generalizing k with
  | zero => simp [fitFrom]
  | succ kept ih =>
    simp only [fitFrom]
    split
    · rename_i hlt
      simp only [reduceCtorEq, false_iff, Nat.not_le]
      exact roundDiv_lt_limit_add _ hlt
    · rw [ih, Nat.add_right_comm, Nat.add_assoc]

/-- A magnitude has a decimal just when it rounds to one without any places. -/
theorem fit_eq_none_iff (negative : Bool) (n s : ℕ) :
    fit negative n s = none ↔ 2 ^ 96 - 1 / 2 ≤ (n : ℚ) / 10 ^ s := by
  have hkept : s - maxScale + min s maxScale = s := by omega
  have hsmall := roundDiv_lt_limit_iff n (pow10_pos s)
  simp only [pow10, Nat.pow_eq, Nat.cast_pow, Nat.cast_ofNat] at hsmall
  rw [← not_lt, ← hsmall, Nat.not_lt, fit]
  cases hfit : fitFrom n (s - maxScale) (min s maxScale) with
  | none =>
    rw [fitFrom_eq_none_iff, hkept] at hfit
    simpa using hfit
  | some p =>
    obtain ⟨m, j⟩ := p
    obtain ⟨i, hij, -, hlt, -⟩ := fitFrom_eq_some hfit
    obtain ⟨d, hd, -⟩ := exists_ofParts? (c := signed negative m) (s := j) (by rwa [natAbs_signed])
      (by omega)
    have hsome : roundDiv n (pow10 s) < limit := by
      rw [← Nat.not_le, ← hkept, ← fitFrom_eq_none_iff, hfit]
      simp
    simpa [hd] using hsome

variable {a b : Decimal}

theorem natAbs_sum (a b : Decimal) : (((a.coeff * pow10 (max a.scale b.scale - a.scale) +
      b.coeff * pow10 (max a.scale b.scale - b.scale)).natAbs : ℕ) : ℚ) / 10 ^ max a.scale b.scale =
    |a.value + b.value| := by
  rw [Nat.cast_natAbs, Int.cast_abs, cast_sum, abs_mul,
    abs_of_pos (by positivity : (0 : ℚ) < 10 ^ max a.scale b.scale), mul_div_cancel_right₀ _ (by positivity)]

theorem natAbs_product (a b : Decimal) :
    ((a.coeff.natAbs * b.coeff.natAbs : ℕ) : ℚ) / 10 ^ (a.scale + b.scale) = |a.value * b.value| := by
  rw [abs_mul, abs_value, abs_value, pow_add, Nat.cast_mul, mul_div_mul_comm]

theorem add_eq_none_iff : a.add b = none ↔ ¬ InRange (a.value + b.value) := by
  by_cases za : a.isZero = true
  · simpa [add, za, isZero_iff.mp za] using inRange_value b
  by_cases zb : b.isZero = true
  · simpa [add, za, zb, isZero_iff.mp zb] using inRange_value a
  simp only [add, za, zb, if_false, Bool.false_eq_true]
  rw [fit_eq_none_iff, natAbs_sum, InRange, not_lt]

theorem mul_eq_none_iff : a.mul b = none ↔ ¬ InRange (a.value * b.value) := by
  by_cases z : (a.isZero || b.isZero) = true
  · have hzero : a.value * b.value = 0 := by
      rcases Bool.or_eq_true_iff.mp z with z | z <;> simp [isZero_iff.mp z]
    have hrange : InRange 0 := by norm_num [InRange]
    simpa [mul, z, hzero] using hrange
  simp only [mul, z, if_false, Bool.false_eq_true]
  rw [InRange, not_lt, ← natAbs_product]
  split
  · -- a product that vanishes is far below one
    rename_i hvanish
    have hlt : a.coeff.natAbs * b.coeff.natAbs < pow2 64 :=
      (Nat.mul_lt_mul'' hvanish.1 hvanish.2.1).trans_le (by decide)
    have hcast : ((a.coeff.natAbs * b.coeff.natAbs : ℕ) : ℚ) < 2 ^ 64 := by exact_mod_cast hlt
    have hle := div_le_self (Nat.cast_nonneg (α := ℚ) (a.coeff.natAbs * b.coeff.natAbs))
      (one_le_pow₀ (by norm_num : (1 : ℚ) ≤ 10) : (1 : ℚ) ≤ 10 ^ (a.scale + b.scale))
    simp only [reduceCtorEq, false_iff, not_le]
    linarith
  · exact fit_eq_none_iff _ _ _

/-- A magnitude that does not keep its value has lost decimals, since one more of them has no room. -/
theorem fit_eq_or_full {negative : Bool} {d : Decimal} (hs : s ≤ maxScale) (h : fit negative n s = some d) :
    d.value = signed negative n / 10 ^ s ∨ d.scale < s ∧ 2 ^ 96 - 1 / 2 ≤ (n : ℚ) / 10 ^ s * 10 ^ (d.scale + 1) ∧
      |d.value - signed negative n / 10 ^ s| ≤ 1 / 2 / 10 ^ d.scale := by
  simp only [fit, Nat.sub_eq_zero_of_le hs, Nat.min_eq_left hs, Option.bind_eq_some_iff] at h
  obtain ⟨⟨m, j⟩, hfit, hparts⟩ := h
  obtain ⟨i, rfl, rfl, -, hleast⟩ := fitFrom_eq_some hfit
  obtain ⟨hcoeff, hscale⟩ := ofParts?_eq_some hparts
  simp only [Nat.zero_add] at hcoeff hscale hleast
  rw [value, hcoeff, hscale]
  rcases Nat.eq_zero_or_pos i with rfl | hi
  · left
    rw [show pow10 0 = 1 from rfl, roundDiv_one, Nat.zero_add]
  · right
    have hfull := hleast.resolve_left hi.ne'
    rw [← Nat.not_lt, roundDiv_lt_limit_iff n (pow10_pos _), not_lt] at hfull
    have hnear := roundDiv_near n (pow10_pos i)
    simp only [pow10, Nat.pow_eq, Nat.cast_pow, Nat.cast_ofNat] at hfull hnear
    refine ⟨by omega, ?_, ?_⟩
    · have hpow : (10 : ℚ) ^ (i + j) = 10 ^ (i - 1) * 10 ^ (j + 1) := by
        rw [← pow_add]
        congr 1
        omega
      rwa [hpow, div_mul_eq_div_div, div_mul_cancel₀ _ (by positivity)]
    · calc |(signed negative (roundDiv n (10 ^ i)) : ℚ) / 10 ^ j - signed negative n / 10 ^ (i + j)|
        _ = |(roundDiv n (10 ^ i) : ℚ) - n / 10 ^ i| / 10 ^ j := by
          rw [signed_cast, signed_cast, pow_add, mul_div_assoc, mul_div_assoc, ← mul_sub, abs_mul, abs_sign, one_mul,
            ← div_div, ← sub_div, abs_div, abs_of_pos (by positivity : (0 : ℚ) < 10 ^ j)]
        _ ≤ 1 / 2 / 10 ^ j := by gcongr

theorem add_scale_le {d : Decimal} (h : a.add b = some d) : d.scale ≤ max a.scale b.scale := by
  by_cases za : a.isZero = true
  · obtain rfl : b = d := by simpa [add, za] using h
    exact le_max_right _ _
  by_cases zb : b.isZero = true
  · obtain rfl : a = d := by simpa [add, za, zb] using h
    exact le_max_left _ _
  simp only [add, za, zb, if_false, Bool.false_eq_true] at h
  simp only [fit, Option.bind_eq_some_iff] at h
  obtain ⟨⟨m, j⟩, hfit, hparts⟩ := h
  obtain ⟨i, hij, -⟩ := fitFrom_eq_some hfit
  rw [(ofParts?_eq_some hparts).2]
  omega

theorem add_eq_or_full {d : Decimal} (h : a.add b = some d) :
    d.value = a.value + b.value ∨ d.scale < max a.scale b.scale ∧
      2 ^ 96 - 1 / 2 ≤ |a.value + b.value| * 10 ^ (d.scale + 1) ∧
      |d.value - (a.value + b.value)| ≤ 1 / 2 / 10 ^ d.scale := by
  by_cases za : a.isZero = true
  · obtain rfl : b = d := by simpa [add, za] using h
    simp [isZero_iff.mp za]
  by_cases zb : b.isZero = true
  · obtain rfl : a = d := by simpa [add, za, zb] using h
    simp [isZero_iff.mp zb]
  simp only [add, za, zb, if_false, Bool.false_eq_true] at h
  have hfull := fit_eq_or_full (max_le a.scale_le b.scale_le) h
  rwa [signed_natAbs decide_eq_true_iff, natAbs_sum, cast_sum, mul_div_cancel_right₀ _ (by positivity)] at hfull

/-- A sum is right to one part in `10 ^ 28`. -/
theorem add_near {d : Decimal} (h : a.add b = some d) :
    |d.value - (a.value + b.value)| ≤ |a.value + b.value| / 10 ^ 28 := by
  rcases add_eq_or_full h with hexact | ⟨-, hfull, hnear⟩
  · rw [hexact, sub_self, abs_zero]
    positivity
  · refine hnear.trans ?_
    rw [pow_succ (10 : ℚ)] at hfull
    rw [div_le_div_iff₀ (by positivity) (by norm_num)]
    linarith

section
variable {x : ℚ} {divisor : ℕ} {q : Quotient}

theorem scale_nonpos_of_large {s : ℤ} (hlarge : 2 ^ 96 - 1 / 2 ≤ x) (h : x * 10 ^ s < 2 ^ 97) : s ≤ 0 := by
  by_contra hpos
  have hten : (10 : ℚ) ≤ 10 ^ s := by
    simpa using zpow_le_zpow_right₀ (by norm_num : (1 : ℚ) ≤ 10) (show (1 : ℤ) ≤ s by omega)
  nlinarith

theorem rest_div_lt_one {rest : ℕ} (h : rest < divisor) : (rest : ℚ) / divisor < 1 :=
  (div_lt_one (by exact_mod_cast h.pos)).mpr (by exact_mod_cast h)

theorem Quotient.Holds.lt (h : q.Holds divisor x) : x * 10 ^ q.scale < q.digits + 1 := by
  rw [h.eq]
  linarith [rest_div_lt_one h.rest_lt]

theorem Quotient.Holds.digits_lt_cast (h : q.Holds divisor x) : (q.digits : ℚ) ≤ 2 ^ 96 - 1 := by
  have hle : ((q.digits + 1 : ℕ) : ℚ) ≤ (limit : ℕ) := by exact_mod_cast h.digits_lt
  rw [limit_cast] at hle
  push_cast at hle
  linarith

theorem le_mul_of_scale_nonneg {s : ℤ} (hlarge : 2 ^ 96 - 1 / 2 ≤ x) (hs : 0 ≤ s) :
    2 ^ 96 - 1 / 2 ≤ x * 10 ^ s :=
  hlarge.trans (le_mul_of_one_le_right (by linarith) (one_le_zpow₀ (by norm_num) hs))

theorem Quotient.Holds.round_eq_none (h : q.Holds divisor x) (hlarge : 2 ^ 96 - 1 / 2 ≤ x) (hs : 0 ≤ q.scale) :
    q.round divisor = none := by
  have hd : 0 < divisor := h.rest_lt.pos
  have hd' : (divisor : ℚ) ≠ 0 := by exact_mod_cast hd.ne'
  have hround : ¬ roundDiv (q.digits * divisor + q.rest) divisor < limit := by
    rw [roundDiv_lt_limit_iff _ hd, not_lt, Nat.cast_add, Nat.cast_mul, add_div, mul_div_cancel_right₀ _ hd', ← h.eq]
    exact le_mul_of_scale_nonneg hlarge hs
  have hscale : q.scale ≤ 0 := scale_nonpos_of_large hlarge (by linarith [h.lt, h.digits_lt_cast])
  simp only [Quotient.round, hround, if_false]
  exact if_pos hscale

theorem divideFrom_eq_none (hlarge : 2 ^ 96 - 1 / 2 ≤ x) (fuel : ℕ) (h : q.Holds divisor x) :
    divideFrom divisor fuel q = none := by
  induction fuel generalizing q with
  | zero => rfl
  | succ fuel ih =>
    unfold divideFrom
    split
    · rename_i hrest
      split
      · rename_i hs
        have hdigits := h.integral hrest
        linarith [le_mul_of_scale_nonneg hlarge hs, h.digits_lt_cast]
      · rename_i hs
        have hscale : (0 : ℤ) ≤ maxScale := by decide
        have hnext := (h.advance (p := min 9 (-q.scale).toNat) (by omega)).2
        simp only [hrest, Nat.zero_mul, Nat.zero_div, Nat.zero_mod, Nat.add_zero] at hnext
        dsimp only
        split
        · rfl
        · rename_i hlt
          exact ih (hnext (Nat.lt_of_not_le hlt))
    · by_cases hgrowth : growth q.digits q.scale = 0
      · simp only [hgrowth, if_true]
        split
        · rfl
        · rename_i hs
          exact h.round_eq_none hlarge (not_lt.mp hs)
      · obtain ⟨hroom, hscale⟩ := growth_room hgrowth
        obtain ⟨heq, hnext⟩ := h.advance hscale
        simp only [hgrowth, if_false]
        split
        · -- the rest brings in less than a place of its own
          refine if_pos (scale_nonpos_of_large hlarge ?_)
          have hrest : q.rest * pow10 (growth q.digits q.scale) / divisor < pow10 9 := by
            rw [Nat.div_lt_iff_lt_mul h.rest_lt.pos, Nat.mul_comm]
            exact Nat.mul_lt_mul_of_le_of_lt (Nat.pow_le_pow_right (by decide) (growth_le _ _)) h.rest_lt
              (pow10_pos _)
          have hdigits : q.digits * pow10 (growth q.digits q.scale) +
              q.rest * pow10 (growth q.digits q.scale) / divisor + 1 < 2 ^ 97 :=
            (Nat.succ_lt_succ (Nat.add_lt_add hroom hrest)).trans (by decide)
          have hcast := Nat.cast_lt (α := ℚ) |>.mpr hdigits
          rw [heq]
          refine (add_lt_add_right (rest_div_lt_one (Nat.mod_lt _ h.rest_lt.pos)) _).trans ?_
          push_cast at hcast ⊢
          exact hcast
        · rename_i hlt
          exact ih (hnext (Nat.lt_of_not_le hlt))

theorem div_eq_none_iff {a b : Decimal} (hb : b.value ≠ 0) : a.div b = none ↔ ¬ InRange (a.value / b.value) := by
  constructor
  · intro hnone hrange
    obtain ⟨d, hd, -⟩ := exists_div hb hrange
    rw [hnone] at hd
    cases hd
  · intro hlarge
    rw [InRange, not_lt] at hlarge
    have zb : ¬ b.isZero = true := fun z => hb (isZero_iff.mp z)
    have za : ¬ a.isZero = true := by
      intro z
      rw [isZero_iff.mp z, zero_div, abs_zero] at hlarge
      norm_num at hlarge
    simp only [div, za, zb, if_false, Bool.false_eq_true]
    rw [divideFrom_eq_none hlarge 64 (holds_start hb), Option.bind_none]

theorem exists_rounds_of_div {a b d : Decimal} (h : a.div b = some d) :
    ∃ q : Quotient, q.Rounds |a.value / b.value| ∧
      d.value = (if (a.isNegative != b.isNegative) = true then -1 else 1) * (q.digits / 10 ^ q.scale : ℚ) := by
  have hb : b.value ≠ 0 := by
    intro hzero
    rw [div, if_pos (isZero_iff.mpr hzero)] at h
    cases h
  have hrange : InRange (a.value / b.value) := by
    by_contra hlarge
    rw [(div_eq_none_iff hb).mpr hlarge] at h
    cases h
  obtain ⟨d', hd', hrounds⟩ := exists_rounds hb hrange
  obtain rfl : d = d' := Option.some.inj (h.symm.trans hd')
  exact hrounds

theorem div_near {a b d : Decimal} (h : a.div b = some d) :
    |d.value - a.value / b.value| ≤ (1 / 2 + 2 / 3 * |a.value / b.value|) / 10 ^ 28 := by
  obtain ⟨q, hq, hvalue⟩ := exists_rounds_of_div h
  exact hq.abs_sub hvalue

theorem div_value_nonneg {a b d : Decimal} (ha : 0 ≤ a.value) (hb : 0 ≤ b.value) (h : a.div b = some d) :
    0 ≤ d.value := by
  obtain ⟨q, -, hvalue⟩ := exists_rounds_of_div h
  rw [hvalue, isNegative_eq_false_iff.mpr ha, isNegative_eq_false_iff.mpr hb, if_neg (by decide), one_mul]
  positivity

end

end Storefront.Decimal

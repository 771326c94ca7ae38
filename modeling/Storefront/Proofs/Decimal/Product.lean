import Storefront.Proofs.Decimal.Range

/-! # The order of products

Two products may lose different numbers of decimals, and so be rounded on different grids. They stay in order all the
same: what lies on the coarser grid lies on the finer one too, and a product without room for another decimal is no
smaller than one that has it.
-/
namespace Storefront.Decimal

section
variable {n n' d d' c : ℕ}

theorem roundDiv_mono (hd : 0 < d) (hd' : 0 < d') (h : (n : ℚ) / d ≤ n' / d') : roundDiv n d ≤ roundDiv n' d' := by
  have hcross : n * d' ≤ n' * d := by
    rw [div_le_div_iff₀ (by exact_mod_cast hd) (by exact_mod_cast hd')] at h
    exact_mod_cast h
  have hquotient : n / d ≤ n' / d' := by
    rw [Nat.le_div_iff_mul_le hd']
    refine Nat.le_of_mul_le_mul_right ?_ hd
    calc n / d * d' * d
      _ = n / d * d * d' := Nat.mul_right_comm _ _ _
      _ ≤ n * d' := Nat.mul_le_mul_right d' (Nat.div_mul_le_self n d)
      _ ≤ n' * d := hcross
  rcases hquotient.lt_or_eq with hlt | heq
  · exact (roundDiv_le n d).trans ((Nat.succ_le_of_lt hlt).trans (le_roundDiv n' d'))
  · -- with one whole part the rests decide
    have hrest : n % d * d' ≤ n' % d' * d := by
      rw [← Nat.div_add_mod n d, ← Nat.div_add_mod n' d', ← heq] at hcross
      nlinarith
    simp only [roundDiv, heq]
    by_cases hup : d < 2 * (n % d) ∨ 2 * (n % d) = d ∧ n' / d' % 2 = 1
    · rw [if_pos hup, if_pos]
      rcases hup with hup | ⟨hhalf, hodd⟩
      · exact .inl (Nat.lt_of_mul_lt_mul_right (a := d) (by nlinarith))
      · have hge : d' ≤ 2 * (n' % d') := Nat.le_of_mul_le_mul_right (by nlinarith) hd
        rcases hge.lt_or_eq with hgt | heq'
        · exact .inl hgt
        · exact .inr ⟨heq'.symm, hodd⟩
    · rw [if_neg hup]
      split
      · exact Nat.le_succ _
      · exact le_rfl

theorem le_roundDiv_of_le (hd : 0 < d) (h : (c : ℚ) ≤ n / d) : c ≤ roundDiv n d := by
  have hone : (c : ℚ) / (1 : ℕ) ≤ n / d := by rwa [Nat.cast_one, div_one]
  simpa only [roundDiv_one] using roundDiv_mono Nat.one_pos hd hone

theorem roundDiv_le_of_le (hd : 0 < d) (h : (n : ℚ) / d ≤ c) : roundDiv n d ≤ c := by
  have hone : (n : ℚ) / d ≤ c / (1 : ℕ) := by rwa [Nat.cast_one, div_one]
  simpa only [roundDiv_one] using roundDiv_mono hd Nat.one_pos hone

end

variable {n n' s s' m m' k k' : ℕ}

/-- Whether `m` over `10 ^ k` is what is left of `n` over `10 ^ s` when as few decimals are dropped as the ranges
demand. -/
structure Fitted (n s m k : ℕ) : Prop where
  le_scale : k ≤ s
  le_max : k ≤ maxScale
  digits : m = roundDiv n (pow10 (s - k))
  digits_lt : m < limit
  least : k = min s maxScale ∨ k < s ∧ limit ≤ roundDiv n (pow10 (s - (k + 1)))

theorem fitted_of_fitFrom (h : fitFrom n (s - maxScale) (min s maxScale) = some (m, k)) : Fitted n s m k := by
  obtain ⟨i, hi, hm, hlt, hleast⟩ := fitFrom_eq_some h
  have hdropped : s - maxScale + i = s - k := by omega
  rw [hdropped] at hm hleast
  refine ⟨by omega, by omega, hm, hlt, ?_⟩
  by_cases hi : i = 0
  · left
    omega
  · exact .inr ⟨by omega, hleast.resolve_left hi⟩

theorem Fitted.eq_zero (h : Fitted n s m k) (hzero : (n : ℚ) / 10 ^ s = 0) : m = 0 := by
  have hn : n = 0 := by
    rwa [div_eq_zero_iff, or_iff_left (by positivity), Nat.cast_eq_zero] at hzero
  rw [h.digits, hn, roundDiv_zero (pow10_pos _)]

theorem cast_div_pow (hk : k ≤ s) : (n : ℚ) / (pow10 (s - k) : ℕ) = n / 10 ^ s * 10 ^ k := by
  obtain ⟨i, rfl⟩ := Nat.exists_eq_add_of_le hk
  rw [Nat.add_sub_cancel_left, pow_add]
  simp only [pow10, Nat.pow_eq, Nat.cast_pow, Nat.cast_ofNat]
  field_simp

namespace Fitted

theorem near (h : Fitted n s m k) : |(m : ℚ) - n / 10 ^ s * 10 ^ k| ≤ 1 / 2 := by
  rw [h.digits, ← cast_div_pow h.le_scale]
  exact roundDiv_near n (pow10_pos _)

theorem eq_of_lt_max (h : Fitted n s m k) (hexact : k = min s maxScale) (hlt : k < maxScale) :
    (m : ℚ) / 10 ^ k = n / 10 ^ s := by
  obtain rfl : k = s := by omega
  rw [h.digits, Nat.sub_self, show pow10 0 = 1 from rfl, roundDiv_one]

theorem whole_of_lt (h : Fitted n s m k) (hexact : k = min s maxScale) (hlt : k < k') (hmax : k' ≤ maxScale) :
    ((m * 10 ^ (k' - k) : ℕ) : ℚ) = n / 10 ^ s * 10 ^ k' := by
  rw [← h.eq_of_lt_max hexact (hlt.trans_le hmax)]
  nth_rewrite 2 [← Nat.add_sub_of_le hlt.le]
  rw [pow_add]
  push_cast
  field_simp

theorem full (hk : k < s) (hfull : limit ≤ roundDiv n (pow10 (s - (k + 1)))) :
    2 ^ 96 - 1 / 2 ≤ (n : ℚ) / 10 ^ s * 10 ^ k * 10 := by
  rwa [← Nat.not_lt, roundDiv_lt_limit_iff n (pow10_pos _), not_lt, cast_div_pow hk, pow_succ (10 : ℚ),
    ← mul_assoc] at hfull

/-- One tenth of what is out of range is out of reach of what is in range with a decimal more. -/
theorem limit_le (h : Fitted n s m k) (hk : k < s) (hfull : limit ≤ roundDiv n (pow10 (s - (k + 1)))) :
    limit ≤ m * 10 := by
  have hlarge := full hk hfull
  have hnear := (abs_le.mp h.near).1
  have hm : 7922816251426433759354395033 < m := by
    have : ((7922816251426433759354395033 : ℕ) : ℚ) < m := by
      push_cast
      linarith
    exact Nat.cast_lt.mp this
  have : limit = 79228162514264337593543950336 := by decide
  omega

theorem mono_of_lt (h : Fitted n s m k) (h' : Fitted n' s' m' k') (hle : (n : ℚ) / 10 ^ s ≤ n' / 10 ^ s')
    (hlt : k < k') : (m : ℚ) / 10 ^ k ≤ m' / 10 ^ k' := by
  have hle' : (n : ℚ) / 10 ^ s * 10 ^ k' ≤ n' / 10 ^ s' * 10 ^ k' := by gcongr
  rcases h.least with hexact | ⟨hk, hfull⟩
  · -- the smaller one is exact, and it is no larger than the other one on the grid of that
    have hwhole := h.whole_of_lt hexact hlt h'.le_max
    have hkept : m * 10 ^ (k' - k) ≤ m' := by
      rw [h'.digits]
      refine le_roundDiv_of_le (pow10_pos _) ?_
      rwa [hwhole, cast_div_pow h'.le_scale]
    rw [h.eq_of_lt_max hexact (hlt.trans_le h'.le_max), le_div_iff₀ (by positivity), ← hwhole]
    exact_mod_cast hkept
  · -- the smaller one has no room for a decimal that the larger one has
    have hround : roundDiv n (pow10 (s - (k + 1))) ≤ m' := by
      rw [h'.digits]
      refine roundDiv_mono (pow10_pos _) (pow10_pos _) ?_
      rw [cast_div_pow hk, cast_div_pow h'.le_scale]
      refine le_trans ?_ hle'
      gcongr
      · norm_num
      · exact hlt
    exact absurd (hfull.trans hround) (Nat.not_le_of_lt h'.digits_lt)

theorem mono_of_gt (h : Fitted n s m k) (h' : Fitted n' s' m' k') (hle : (n : ℚ) / 10 ^ s ≤ n' / 10 ^ s')
    (hgt : k' < k) : (m : ℚ) / 10 ^ k ≤ m' / 10 ^ k' := by
  have hle' : (n : ℚ) / 10 ^ s * 10 ^ k ≤ n' / 10 ^ s' * 10 ^ k := by gcongr
  rcases h'.least with hexact | ⟨hk, hfull⟩
  · have hwhole := h'.whole_of_lt hexact hgt h.le_max
    have hkept : m ≤ m' * 10 ^ (k - k') := by
      rw [h.digits]
      refine roundDiv_le_of_le (pow10_pos _) ?_
      rwa [hwhole, cast_div_pow h.le_scale]
    rw [h'.eq_of_lt_max hexact (hgt.trans_le h.le_max), div_le_iff₀ (by positivity), ← hwhole]
    exact_mod_cast hkept
  · calc (m : ℚ) / 10 ^ k
      _ ≤ (m' * 10 : ℕ) / 10 ^ (k' + 1) := by
        gcongr
        · exact (h.digits_lt.trans_le (h'.limit_le hk hfull)).le
        · norm_num
        · exact hgt
      _ = m' / 10 ^ k' := by
        rw [pow_succ]
        push_cast
        field_simp

theorem mono (h : Fitted n s m k) (h' : Fitted n' s' m' k') (hle : (n : ℚ) / 10 ^ s ≤ n' / 10 ^ s') :
    (m : ℚ) / 10 ^ k ≤ m' / 10 ^ k' := by
  rcases lt_trichotomy k k' with hlt | rfl | hgt
  · exact h.mono_of_lt h' hle hlt
  · have hround : m ≤ m' := by
      rw [h.digits, h'.digits]
      refine roundDiv_mono (pow10_pos _) (pow10_pos _) ?_
      rw [cast_div_pow h.le_scale, cast_div_pow h'.le_scale]
      gcongr
    gcongr
  · exact h.mono_of_gt h' hle hgt

theorem error (h : Fitted n s m k) :
    |(m : ℚ) / 10 ^ k - n / 10 ^ s| ≤ (1 / 2 + 2 / 3 * (n / 10 ^ s)) / 10 ^ 28 := by
  have hfull : (m : ℚ) = n / 10 ^ s * 10 ^ k ∨ k = maxScale ∨ 2 ^ 96 - 1 ≤ 10 * ((n : ℚ) / 10 ^ s * 10 ^ k) := by
    rcases h.least with hexact | ⟨hk, hfull⟩
    · rcases h.le_max.lt_or_eq with hlt | heq
      · left
        rw [← h.eq_of_lt_max hexact hlt, div_mul_cancel₀ _ (by positivity)]
      · exact .inr (.inl heq)
    · have := full hk hfull
      exact .inr (.inr (by linarith))
  have herror := error_of_near (x := (n : ℚ) / 10 ^ s) (k := (k : ℤ)) (by positivity) (by simpa using h.near)
    (by simpa using hfull)
  rwa [zpow_natCast] at herror

end Fitted

section
variable {a b d a' b' d' : Decimal}

theorem fitted_of_vanish (hn : n < pow2 64) (hs : vanishingScale < s) : Fitted n s 0 maxScale := by
  have hmax : maxScale < vanishingScale := by decide
  have hpow : 2 * pow2 64 ≤ pow10 (s - maxScale) :=
    (show 2 * pow2 64 ≤ pow10 (48 - maxScale) by decide).trans
      (Nat.pow_le_pow_right (by decide) (Nat.sub_le_sub_right hs maxScale))
  have hlt : n < pow10 (s - maxScale) := by omega
  have hzero : roundDiv n (pow10 (s - maxScale)) = 0 := by
    rw [roundDiv, Nat.div_eq_of_lt hlt, Nat.mod_eq_of_lt hlt]
    exact if_neg (by omega)
  exact ⟨by omega, le_rfl, hzero.symm, by decide, .inl (by omega)⟩

/-- The magnitude of a product is what is left of the exact one. -/
theorem exists_fitted (h : a.mul b = some d) :
    ∃ m k, Fitted (a.coeff.natAbs * b.coeff.natAbs) (a.scale + b.scale) m k ∧
      d.value = (if (a.isNegative != b.isNegative) = true then -1 else 1) * (m / 10 ^ k) := by
  unfold mul at h
  split at h
  · rename_i hzero
    obtain rfl : zero = d := Option.some.inj h
    have hn : a.coeff.natAbs * b.coeff.natAbs = 0 := by
      simpa [isZero, Nat.mul_eq_zero] using hzero
    refine ⟨0, min (a.scale + b.scale) maxScale, ?_, by rw [value_zero, Nat.cast_zero, zero_div, mul_zero]⟩
    rw [hn]
    exact fitted_of_fitFrom (fitFrom_zero _ _)
  · dsimp only at h
    split at h
    · rename_i hvanish
      obtain rfl : zero = d := Option.some.inj h
      have hlt : a.coeff.natAbs * b.coeff.natAbs < pow2 64 :=
        (Nat.mul_lt_mul'' hvanish.1 hvanish.2.1).trans_le (by decide)
      exact ⟨0, _, fitted_of_vanish hlt hvanish.2.2, by rw [value_zero, Nat.cast_zero, zero_div, mul_zero]⟩
    · simp only [fit, Option.bind_eq_some_iff] at h
      obtain ⟨⟨m, k⟩, hfit, hparts⟩ := h
      obtain ⟨hcoeff, hscale⟩ := ofParts?_eq_some hparts
      refine ⟨m, k, fitted_of_fitFrom hfit, ?_⟩
      rw [value, hcoeff, hscale, signed_cast, mul_div_assoc]

theorem value_mul_value (a b : Decimal) :
    a.value * b.value = (if (a.isNegative != b.isNegative) = true then -1 else 1) * |a.value * b.value| := by
  by_cases hb : b.value = 0
  · rw [hb, mul_zero, abs_zero, mul_zero]
  have hsquare : a.value * b.value = a.value / b.value * b.value ^ 2 := by
    field_simp
  rw [hsquare, abs_mul, abs_of_nonneg (sq_nonneg b.value), ← mul_assoc, ← value_div_value]

theorem mul_mono (h : a.mul b = some d) (h' : a'.mul b' = some d') (hle : a.value * b.value ≤ a'.value * b'.value) :
    d.value ≤ d'.value := by
  obtain ⟨m, k, hfit, hvalue⟩ := exists_fitted h
  obtain ⟨m', k', hfit', hvalue'⟩ := exists_fitted h'
  rw [value_mul_value a b, value_mul_value a' b', ← natAbs_product, ← natAbs_product] at hle
  rw [hvalue, hvalue']
  have hnonneg : (0 : ℚ) ≤ m / 10 ^ k := by positivity
  have hnonneg' : (0 : ℚ) ≤ m' / 10 ^ k' := by positivity
  -- by the signs of the two products
  split at hle <;> split at hle
  · rename_i hsign hsign'
    rw [if_pos hsign, if_pos hsign']
    linarith [hfit'.mono hfit (by linarith)]
  · rename_i hsign hsign'
    rw [if_pos hsign, if_neg hsign']
    linarith
  · -- nothing but zero is at once no less and no more than zero
    have hx : (0 : ℚ) ≤ (a.coeff.natAbs * b.coeff.natAbs : ℕ) / 10 ^ (a.scale + b.scale) := by positivity
    have hx' : (0 : ℚ) ≤ (a'.coeff.natAbs * b'.coeff.natAbs : ℕ) / 10 ^ (a'.scale + b'.scale) := by positivity
    rw [hfit.eq_zero (by linarith), hfit'.eq_zero (by linarith)]
    simp
  · rename_i hsign hsign'
    rw [if_neg hsign, if_neg hsign']
    linarith [hfit.mono hfit' (by linarith)]

theorem mul_near (h : a.mul b = some d) :
    |d.value - a.value * b.value| ≤ (1 / 2 + 2 / 3 * |a.value * b.value|) / 10 ^ 28 := by
  obtain ⟨m, k, hfit, hvalue⟩ := exists_fitted h
  have herror := hfit.error
  rw [natAbs_product] at herror
  have hdistance : |d.value - a.value * b.value| = |m / 10 ^ k - (|a.value * b.value| : ℚ)| := by
    conv_lhs => rw [hvalue, value_mul_value a b, ← mul_sub, abs_mul, abs_sign, one_mul]
  rwa [hdistance]

end

end Storefront.Decimal

import Storefront.Proofs.Decimal.Value

/-! # The accuracy of division

A quotient is right to one unit of its last digit, and it keeps as many digits as the ranges of
coefficients and scales allow. So quotients that are decimals with a digit to spare are exact.
-/
namespace Storefront.Decimal

theorem cast_div_eq (n : ℕ) {d : ℕ} (hd : 0 < d) : (n : ℚ) / d = (n / d : ℕ) + ((n % d : ℕ) : ℚ) / d := by
  have hd' : (d : ℚ) ≠ 0 := by exact_mod_cast hd.ne'
  have hn : (n : ℚ) = d * (n / d : ℕ) + (n % d : ℕ) := by exact_mod_cast (Nat.div_add_mod n d).symm
  conv_lhs => rw [hn]
  rw [add_div, mul_div_cancel_left₀ _ hd']

theorem roundDiv_near (n : ℕ) {d : ℕ} (hd : 0 < d) : |(roundDiv n d : ℚ) - n / d| ≤ 1 / 2 := by
  have hd' : (0 : ℚ) < d := by exact_mod_cast hd
  have hr : ((n % d : ℕ) : ℚ) / d < 1 := (div_lt_one hd').mpr (by exact_mod_cast Nat.mod_lt n hd)
  have hr0 : (0 : ℚ) ≤ ((n % d : ℕ) : ℚ) / d := by positivity
  simp only [roundDiv, cast_div_eq n hd]
  split
  · have : (1 : ℚ) / 2 ≤ ((n % d : ℕ) : ℚ) / d := by
      rw [div_le_div_iff₀ (by norm_num) hd']
      have : d ≤ 2 * (n % d) := by omega
      have : (d : ℚ) ≤ 2 * (n % d : ℕ) := by exact_mod_cast this
      linarith
    rw [abs_le]
    push_cast
    constructor <;> linarith
  · have : ((n % d : ℕ) : ℚ) / d ≤ 1 / 2 := by
      rw [div_le_div_iff₀ hd' (by norm_num)]
      have : 2 * (n % d) ≤ d := by omega
      have : 2 * ((n % d : ℕ) : ℚ) ≤ d := by exact_mod_cast this
      linarith
    rw [abs_le]
    constructor <;> linarith

theorem roundDiv_le (n d : ℕ) : roundDiv n d ≤ n / d + 1 := by
  simp only [roundDiv]
  split <;> omega

/-- The digits found and what is left of the dividend make up `x` at the scale reached. -/
structure Quotient.Holds (q : Quotient) (divisor : ℕ) (x : ℚ) : Prop where
  rest_lt : q.rest < divisor
  digits_lt : q.digits < limit
  scale_le : q.scale ≤ maxScale
  eq : x * 10 ^ q.scale = q.digits + (q.rest : ℚ) / divisor

/-- `x` rounded to its last digit: it is exact, or no further digit has room. -/
structure Quotient.Rounds (q : Quotient) (x : ℚ) : Prop where
  digits_lt : q.digits < limit
  scale_nonneg : 0 ≤ q.scale
  scale_le : q.scale ≤ maxScale
  near : |(q.digits : ℚ) - x * 10 ^ q.scale| ≤ 1 / 2
  full : (q.digits : ℚ) = x * 10 ^ q.scale ∨ q.scale = maxScale ∨ 2 ^ 96 - 1 ≤ 10 * (x * 10 ^ q.scale)

theorem limit_cast : ((limit : ℕ) : ℚ) = 2 ^ 96 := by
  norm_num [limit, pow2]

theorem le_cast_of_limit_le {n : ℕ} (h : limit ≤ n) : (2 : ℚ) ^ 96 ≤ n := by
  rw [← limit_cast]
  exact_mod_cast h

section
variable {x : ℚ} {divisor : ℕ} {q r : Quotient}

theorem error_of_near {m : ℚ} {k : ℤ} (hx : 0 ≤ x) (hnear : |m - x * 10 ^ k| ≤ 1 / 2)
    (hfull : m = x * 10 ^ k ∨ k = maxScale ∨ 2 ^ 96 - 1 ≤ 10 * (x * 10 ^ k)) :
    |m / 10 ^ k - x| ≤ (1 / 2 + 2 / 3 * x) / 10 ^ 28 := by
  have hpow : (0 : ℚ) < 10 ^ k := by positivity
  have hunit : |m / 10 ^ k - x| ≤ 1 / 2 / 10 ^ k := by
    rwa [le_div_iff₀ hpow, ← abs_of_pos hpow, ← abs_mul, abs_of_pos hpow, sub_mul, div_mul_cancel₀ _ hpow.ne']
  rcases hfull with hexact | hscale | hfull
  · rw [hexact, mul_div_cancel_right₀ _ hpow.ne', sub_self, abs_zero]
    positivity
  · refine hunit.trans ?_
    rw [hscale, show ((maxScale : ℕ) : ℤ) = (28 : ℕ) from rfl, zpow_natCast]
    gcongr
    linarith
  · refine hunit.trans ?_
    rw [div_le_div_iff₀ hpow (by norm_num)]
    nlinarith

theorem Quotient.Rounds.error (h : q.Rounds x) (hx : 0 ≤ x) :
    |(q.digits : ℚ) / 10 ^ q.scale - x| ≤ (1 / 2 + 2 / 3 * x) / 10 ^ 28 :=
  error_of_near hx h.near h.full

theorem Quotient.Rounds.exact (h : q.Rounds x) {c s : ℕ} (hx : x * 10 ^ s = c) (hc : 10 * c < limit)
    (hs : s ≤ maxScale) : (q.digits : ℚ) / 10 ^ q.scale = x := by
  have hpow : (0 : ℚ) < 10 ^ q.scale := by positivity
  suffices heq : (q.digits : ℚ) = x * 10 ^ q.scale by rw [heq, mul_div_cancel_right₀ _ hpow.ne']
  by_cases hle : (s : ℤ) ≤ q.scale
  · obtain ⟨k, hk⟩ := Int.le.dest hle
    have hint : x * 10 ^ q.scale = ((c * 10 ^ k : ℕ) : ℚ) := by
      rw [← hk, zpow_add₀ (by norm_num), zpow_natCast, zpow_natCast, ← mul_assoc, hx]
      push_cast
      rfl
    have hnear := h.near
    rw [hint] at hnear ⊢
    have : |((q.digits : ℤ) - (c * 10 ^ k : ℕ) : ℤ)| < 1 := by
      have : ((|((q.digits : ℤ) - (c * 10 ^ k : ℕ) : ℤ)| : ℤ) : ℚ) < ((1 : ℤ) : ℚ) := by
        push_cast at hnear ⊢
        linarith
      exact_mod_cast this
    have hz := Int.abs_lt_one_iff.mp this
    exact_mod_cast Int.sub_eq_zero.mp hz
  · rcases h.full with hexact | hscale | hfull
    · exact hexact
    · omega
    · -- a digit further down would still have room
      have hx0 : 0 ≤ x := by
        have : 0 ≤ x * 10 ^ s := hx ▸ Nat.cast_nonneg c
        exact nonneg_of_mul_nonneg_left this (by positivity)
      have hstep : x * 10 ^ q.scale * 10 ≤ c := by
        rw [← hx, mul_assoc, ← zpow_add_one₀ (by norm_num), ← zpow_natCast]
        exact mul_le_mul_of_nonneg_left (zpow_le_zpow_right₀ (by norm_num) (by omega)) hx0
      have hc' : 10 * (c : ℚ) < 2 ^ 96 := by
        rw [← limit_cast]
        exact_mod_cast hc
      linarith

theorem growth_go_spec (n : ℕ) (s : ℤ) (p : ℕ) :
    (growth.go n s p = 0 → p ≠ 0 → limit ≤ n * 10 ∨ (maxScale : ℤ) ≤ s) ∧
      (growth.go n s p ≠ 0 → n * pow10 (growth.go n s p) < limit ∧ s + growth.go n s p ≤ maxScale) ∧
        growth.go n s p ≤ p := by
  induction p with
  | zero => simp [growth.go]
  | succ p ih =>
    obtain ⟨hzero, hroom, hle⟩ := ih
    unfold growth.go
    split
    · rename_i h
      exact ⟨by omega, fun _ => by exact_mod_cast h, le_rfl⟩
    · rename_i h
      refine ⟨fun hz _ => ?_, hroom, by omega⟩
      by_cases hp : p = 0
      · subst hp
        simp only [zero_add, not_and_or, not_lt, not_le] at h
        rcases h with h | h
        · exact .inl (by simpa [pow10] using h)
        · exact .inr (by omega)
      · exact hzero hz hp

theorem growth_eq_zero {n : ℕ} {s : ℤ} (h : growth n s = 0) : limit ≤ n * 10 ∨ (maxScale : ℤ) ≤ s :=
  (growth_go_spec n s 9).1 h (by decide)

theorem growth_room {n : ℕ} {s : ℤ} (h : growth n s ≠ 0) :
    n * pow10 (growth n s) < limit ∧ s + growth n s ≤ maxScale :=
  (growth_go_spec n s 9).2.1 h

theorem growth_le (n : ℕ) (s : ℤ) : growth n s ≤ 9 := (growth_go_spec n s 9).2.2

theorem Quotient.Holds.integral (h : q.Holds divisor x) (hrest : q.rest = 0) :
    (q.digits : ℚ) = x * 10 ^ q.scale := by
  simp [h.eq, hrest]

theorem Quotient.Holds.digits_le (h : q.Holds divisor x) : (q.digits : ℚ) ≤ x * 10 ^ q.scale := by
  rw [h.eq]
  exact le_add_of_nonneg_right (by positivity)

theorem limit_le_of_scale_nonpos {n : ℕ} {s : ℤ} (hx : 0 ≤ x) (hs : s ≤ 0) (h : (n : ℚ) ≤ x * 10 ^ s) :
    (n : ℚ) ≤ x := by
  have : (10 : ℚ) ^ s ≤ 1 := zpow_le_one_of_nonpos₀ (by norm_num) hs
  nlinarith

theorem Quotient.Holds.advance (h : q.Holds divisor x) {p : ℕ} (hs : q.scale + p ≤ maxScale) :
    let next : Quotient := ⟨q.digits * pow10 p + q.rest * pow10 p / divisor,
      q.rest * pow10 p % divisor, q.scale + p⟩
    x * 10 ^ next.scale = next.digits + (next.rest : ℚ) / divisor ∧
      (next.digits < limit → next.Holds divisor x) := by
  intro next
  have hd : 0 < divisor := h.rest_lt.pos
  have hd' : (divisor : ℚ) ≠ 0 := by exact_mod_cast hd.ne'
  have hdm : (q.rest * 10 ^ p : ℚ) =
      divisor * ↑(q.rest * pow10 p / divisor) + ↑(q.rest * pow10 p % divisor) := by
    exact_mod_cast (Nat.div_add_mod (q.rest * pow10 p) divisor).symm
  have heq : x * 10 ^ next.scale = next.digits + (next.rest : ℚ) / divisor := by
    calc x * 10 ^ (q.scale + p)
      _ = x * 10 ^ q.scale * 10 ^ p := by rw [zpow_add₀ (by norm_num), zpow_natCast, mul_assoc]
      _ = q.digits * 10 ^ p + q.rest * 10 ^ p / divisor := by rw [h.eq]; ring
      _ = next.digits + (next.rest : ℚ) / divisor := by
        rw [hdm]
        simp only [next, pow10, Nat.pow_eq]
        push_cast
        field_simp
        ring
  exact ⟨heq, fun hlt => ⟨Nat.mod_lt _ hd, hlt, hs, heq⟩⟩

theorem Quotient.exists_shrink (hx : 0 ≤ x) (hlim : x < 2 ^ 96 - 1 / 2) (hs : q.scale ≤ maxScale)
    (hrest : q.rest < divisor) (hdigits : q.digits < 2 * limit) (hfull : 2 ^ 96 - 1 / 2 ≤ x * 10 ^ q.scale)
    (hnear : |(roundDiv (q.digits * divisor + q.rest) (10 * divisor) : ℚ) - x * 10 ^ q.scale / 10| ≤ 1 / 2) :
    ∃ r, q.shrink divisor = some r ∧ r.Rounds x := by
  have hd : 0 < divisor := hrest.pos
  have hpos : ¬ q.scale ≤ 0 := by
    intro hle
    have : (10 : ℚ) ^ q.scale ≤ 1 := zpow_le_one_of_nonpos₀ (by norm_num) hle
    nlinarith
  have hten : x * 10 ^ (q.scale - 1) = x * 10 ^ q.scale / 10 := by
    rw [zpow_sub_one₀ (by norm_num)]
    ring
  have hlt : roundDiv (q.digits * divisor + q.rest) (10 * divisor) < limit := by
    have hquot : (q.digits * divisor + q.rest) / (10 * divisor) < limit - 1 := by
      rw [Nat.div_lt_iff_lt_mul (by omega)]
      have : 2 < limit - 1 := by decide
      have hup : q.digits * divisor + q.rest < (q.digits + 1) * divisor := by
        rw [Nat.add_mul]
        omega
      refine hup.trans_le ?_
      rw [← Nat.mul_assoc]
      exact Nat.mul_le_mul_right _ (by omega)
    have := roundDiv_le (q.digits * divisor + q.rest) (10 * divisor)
    omega
  refine ⟨_, if_neg hpos, hlt, by simp only; omega, by simp only; omega, ?_, .inr (.inr ?_)⟩
  · simpa only [hten] using hnear
  · simp only [hten]
    linarith

theorem roundDiv_limit_ten {divisor : ℕ} (hd : 0 < divisor) :
    roundDiv (limit * divisor + 0) (10 * divisor) = 7922816251426433759354395034 := by
  have hnear := roundDiv_near (limit * divisor + 0) (Nat.mul_pos (by decide : 0 < 10) hd)
  have hcast : ((limit * divisor + 0 : ℕ) : ℚ) / (10 * divisor : ℕ) = 2 ^ 96 / 10 := by
    have hd' : (divisor : ℚ) ≠ 0 := by exact_mod_cast hd.ne'
    rw [Nat.add_zero]
    push_cast [limit_cast]
    field_simp
  rw [hcast, abs_le] at hnear
  have hlow : ((7922816251426433759354395033 : ℕ) : ℚ) < roundDiv (limit * divisor + 0) (10 * divisor) := by
    push_cast
    linarith
  have hup : (roundDiv (limit * divisor + 0) (10 * divisor) : ℚ) < (7922816251426433759354395035 : ℕ) := by
    push_cast
    linarith
  have := Nat.cast_lt.mp hlow
  have := Nat.cast_lt.mp hup
  omega

theorem Quotient.exists_round (h : q.Holds divisor x) (hx : 0 ≤ x) (hlim : x < 2 ^ 96 - 1 / 2)
    (hs : 0 ≤ q.scale) (hroom : limit ≤ q.digits * 10 ∨ (maxScale : ℤ) ≤ q.scale) :
    ∃ r, q.round divisor = some r ∧ r.Rounds x := by
  have hd : 0 < divisor := h.rest_lt.pos
  have hd' : (divisor : ℚ) ≠ 0 := by exact_mod_cast hd.ne'
  have hnear := roundDiv_near (q.digits * divisor + q.rest) hd
  have heq : ((q.digits * divisor + q.rest : ℕ) : ℚ) / divisor = x * 10 ^ q.scale := by
    rw [h.eq]
    push_cast
    field_simp
  rw [heq] at hnear
  simp only [Quotient.round]
  split
  · rename_i hlt
    refine ⟨_, rfl, hlt, hs, h.scale_le, hnear, .inr ?_⟩
    rcases hroom with hroom | hscale
    · have hten := le_cast_of_limit_le hroom
      push_cast at hten
      exact .inr (by linarith [h.digits_le])
    · exact .inl (le_antisymm h.scale_le hscale)
  · -- the last digit rounds up to the limit, which loses its final place in turn
    rename_i hge
    have hm : roundDiv (q.digits * divisor + q.rest) divisor = limit := by
      have hlast : roundDiv (q.digits * divisor + q.rest) divisor ≤ q.digits + 1 := by
        have : (q.digits * divisor + q.rest) / divisor = q.digits := by
          rw [Nat.mul_comm, Nat.mul_add_div hd, Nat.div_eq_of_lt h.rest_lt, Nat.add_zero]
        have := roundDiv_le (q.digits * divisor + q.rest) divisor
        omega
      have := h.digits_lt
      omega
    rw [hm, limit_cast, abs_le] at hnear
    rw [hm]
    refine exists_shrink hx hlim h.scale_le hd (by simp only; decide) ?_ ?_
    · simp only
      linarith
    · simp only [roundDiv_limit_ten hd, abs_le]
      push_cast
      constructor <;> linarith

theorem Quotient.Holds.digits_lt_of_whole (h : q.Holds divisor x) (hrest : q.rest = 0) (hx : 0 ≤ x)
    (hlim : x < 2 ^ 96 - 1 / 2) {p : ℕ} (hp : q.scale + p ≤ 0) :
    q.digits * pow10 p < limit ∧ Quotient.Holds ⟨q.digits * pow10 p, 0, q.scale + p⟩ divisor x := by
  obtain ⟨heq, hnext⟩ := h.advance (p := p) (hp.trans (by decide))
  simp only [hrest, Nat.zero_mul, Nat.zero_div, Nat.zero_mod, Nat.cast_zero, zero_div, add_zero] at heq hnext
  have hlt : q.digits * pow10 p < limit := by
    by_contra hge
    have hlarge := le_cast_of_limit_le (Nat.le_of_not_lt hge)
    have hle := limit_le_of_scale_nonpos hx hp heq.ge
    linarith
  exact ⟨hlt, hnext hlt⟩

/-- A quotient without room for a digit has reached its whole part: ten times its digits are still no
more than `x` times a power of ten. -/
theorem Quotient.Holds.scale_nonneg_of_full (h : q.Holds divisor x) (hx : 0 ≤ x) (hlim : x < 2 ^ 96 - 1 / 2)
    (hroom : limit ≤ q.digits * 10 ∨ (maxScale : ℤ) ≤ q.scale) : 0 ≤ q.scale := by
  rcases hroom with hroom | hroom
  · by_contra hneg
    have hten : x * 10 ^ (q.scale + 1) = x * 10 ^ q.scale * 10 := by
      rw [zpow_add_one₀ (by norm_num), mul_assoc]
    have hle : ((q.digits * 10 : ℕ) : ℚ) ≤ x * 10 ^ (q.scale + 1) := by
      rw [hten]
      push_cast
      linarith [h.digits_le]
    have hlarge := le_cast_of_limit_le hroom
    have hsmall := limit_le_of_scale_nonpos hx (by omega) hle
    linarith
  · have : (0 : ℤ) ≤ maxScale := by decide
    omega

theorem Quotient.Holds.exists_shrink_advance (h : q.Holds divisor x) (hx : 0 ≤ x) (hlim : x < 2 ^ 96 - 1 / 2)
    {p : ℕ} (hp : p ≤ 9) (hs : q.scale + p ≤ maxScale) (hroom : q.digits * pow10 p < limit) :
    let next : Quotient := ⟨q.digits * pow10 p + q.rest * pow10 p / divisor,
      q.rest * pow10 p % divisor, q.scale + p⟩
    limit ≤ next.digits → ∃ r, next.shrink divisor = some r ∧ r.Rounds x := by
  intro next hge
  have hd : 0 < divisor := h.rest_lt.pos
  have hd' : (divisor : ℚ) ≠ 0 := by exact_mod_cast hd.ne'
  have heq : x * 10 ^ next.scale = next.digits + (next.rest : ℚ) / divisor := (h.advance hs).1
  have hdigits : q.rest * pow10 p / divisor < limit := by
    -- the rest brings in at most nine digits
    rw [Nat.div_lt_iff_lt_mul hd, Nat.mul_comm]
    refine Nat.mul_lt_mul_of_le_of_lt ?_ h.rest_lt (by decide)
    exact (Nat.pow_le_pow_right (by decide) hp).trans (by decide)
  refine Quotient.exists_shrink hx hlim hs (Nat.mod_lt _ hd) ?_ ?_ ?_
  · simp only [next]
    omega
  · rw [heq]
    have hlarge := le_cast_of_limit_le hge
    have hrest : (0 : ℚ) ≤ (next.rest : ℚ) / divisor := by positivity
    linarith
  · rw [heq]
    convert roundDiv_near _ (Nat.mul_pos (by decide : 0 < 10) hd) using 3
    push_cast
    field_simp

/-- Every quotient in range is found, right to its last digit. -/
theorem exists_divideFrom (hx : 0 ≤ x) (hlim : x < 2 ^ 96 - 1 / 2) (fuel : ℕ) (h : q.Holds divisor x)
    (hfuel : maxScale - q.scale < fuel) : ∃ r, divideFrom divisor fuel q = some r ∧ r.Rounds x := by
  induction fuel generalizing q with
  | zero =>
    have := h.scale_le
    omega
  | succ fuel ih =>
    unfold divideFrom
    split
    · rename_i hrest
      split
      · rename_i hs
        exact ⟨q, rfl, h.digits_lt, hs, h.scale_le, by simp [h.integral hrest], .inl (h.integral hrest)⟩
      · rename_i hs
        have hp : q.scale + (min 9 (-q.scale).toNat : ℕ) ≤ 0 := by omega
        obtain ⟨hlt, hnext⟩ := h.digits_lt_of_whole hrest hx hlim hp
        simp only [Nat.not_le_of_lt hlt, if_false]
        exact ih hnext (by simp only; omega)
    · by_cases hgrowth : growth q.digits q.scale = 0
      · have hroom := growth_eq_zero hgrowth
        have hs := h.scale_nonneg_of_full hx hlim hroom
        simp only [hgrowth, if_true, if_neg (not_lt.mpr hs)]
        exact Quotient.exists_round h hx hlim hs hroom
      · obtain ⟨hroom, hscale⟩ := growth_room hgrowth
        simp only [hgrowth, if_false]
        split
        · rename_i hge
          exact h.exists_shrink_advance hx hlim (growth_le _ _) hscale hroom hge
        · rename_i hlt
          exact ih ((h.advance hscale).2 (Nat.lt_of_not_le hlt)) (by simp only; omega)

def Strips (p r : ℕ × ℕ) : Prop :=
  (r.1 : ℚ) / 10 ^ r.2 = p.1 / 10 ^ p.2 ∧ r.1 ≤ p.1 ∧ r.2 ≤ p.2

theorem Strips.trans {p r t : ℕ × ℕ} (h : Strips p r) (h' : Strips r t) : Strips p t :=
  ⟨h'.1.trans h.1, h'.2.1.trans h.2.1, h'.2.2.trans h.2.2⟩

theorem strips_div {p : ℕ × ℕ} {k : ℕ} (hdvd : p.1 % pow10 k = 0) (hk : k ≤ p.2) :
    Strips p (p.1 / pow10 k, p.2 - k) := by
  refine ⟨?_, Nat.div_le_self _ _, Nat.sub_le _ _⟩
  have hpos : ((pow10 k : ℕ) : ℚ) ≠ 0 := by exact_mod_cast (pow10_pos k).ne'
  simp only
  rw [Nat.cast_div (Nat.dvd_of_mod_eq_zero hdvd) hpos, div_div]
  congr 1
  simp only [pow10, Nat.pow_eq]
  push_cast
  rw [← pow_add, Nat.add_sub_cancel' hk]

theorem stripOnce_strips (k : ℕ) (p : ℕ × ℕ) : Strips p (stripOnce k p) := by
  unfold stripOnce
  split
  · exact strips_div ‹_ ∧ _›.1 ‹_ ∧ _›.2
  · exact ⟨rfl, le_rfl, le_rfl⟩

theorem stripEights_strips (fuel : ℕ) (p : ℕ × ℕ) : Strips p (stripEights fuel p) := by
  induction fuel generalizing p with
  | zero => exact ⟨rfl, le_rfl, le_rfl⟩
  | succ fuel ih =>
    unfold stripEights
    split
    · rename_i h
      exact (strips_div h.2.2 h.2.1).trans (ih _)
    · exact ⟨rfl, le_rfl, le_rfl⟩

theorem stripBlocks_strips (p : ℕ × ℕ) : Strips p (stripBlocks p) :=
  (((stripEights_strips 4 p).trans (stripOnce_strips 4 _)).trans (stripOnce_strips 2 _)).trans
    (stripOnce_strips 1 _)

theorem stripOnce_scale_le (k : ℕ) (p : ℕ × ℕ) : (stripOnce k p).2 ≤ p.2 := (stripOnce_strips k p).2.2

theorem stripOnce_zeros {k j : ℕ} (m s : ℕ) : stripOnce k (m * pow10 (j + k), s + k) = (m * pow10 j, s) := by
  have hpow : m * pow10 (j + k) = m * pow10 j * pow10 k := by
    rw [Nat.mul_assoc]
    simp [pow10, Nat.pow_add]
  rw [stripOnce, hpow, if_pos ⟨Nat.mul_mod_left _ _, Nat.le_add_left _ _⟩,
    Nat.mul_div_cancel _ (pow10_pos k), Nat.add_sub_cancel]

theorem stripBlocks_scale_le (m : ℕ) : (stripBlocks (m * pow10 8, 9)).2 ≤ 2 := by
  unfold stripBlocks
  by_cases h : m * pow10 8 % pow2 32 = 0
  · have heights : stripEights 4 (m * pow10 8, 9) = (m, 1) := by
      rw [stripEights, if_pos ⟨h, Nat.le_succ 8, Nat.mul_mod_left m _⟩, Nat.mul_div_cancel _ (pow10_pos 8)]
      exact if_neg (by simp)
    rw [heights]
    have := stripOnce_scale_le 4 (m, 1)
    have := stripOnce_scale_le 2 (stripOnce 4 (m, 1))
    have := stripOnce_scale_le 1 (stripOnce 2 (stripOnce 4 (m, 1)))
    omega
  · have heights : stripEights 4 (m * pow10 8, 9) = (m * pow10 8, 9) := if_neg fun hc => h hc.1
    rw [heights, stripOnce_zeros (k := 4) (j := 4) m 5, stripOnce_zeros (k := 2) (j := 2) m 3,
      stripOnce_zeros (k := 1) (j := 1) m 2]

end

theorem signed_cast (negative : Bool) (n : ℕ) :
    ((signed negative n : ℤ) : ℚ) = (if negative then -1 else 1) * n := by
  unfold signed
  split <;> simp

theorem abs_sign (p : Prop) [Decidable p] : |(if p then -1 else 1 : ℚ)| = 1 := by
  split <;> simp

theorem natAbs_signed (negative : Bool) (n : ℕ) : (signed negative n).natAbs = n := by
  unfold signed
  split <;> simp

theorem value_div_value (a b : Decimal) :
    a.value / b.value = (if (a.isNegative != b.isNegative) = true then -1 else 1) * |a.value / b.value| := by
  have ha := isNegative_iff (d := a)
  have hb := isNegative_iff (d := b)
  cases hna : a.isNegative <;> cases hnb : b.isNegative <;>
    simp only [hna, hnb, Bool.false_eq_true, false_iff, true_iff, not_lt] at ha hb
  · rw [abs_of_nonneg (div_nonneg ha hb)]
    simp
  · rw [abs_of_nonpos (div_nonpos_of_nonneg_of_nonpos ha hb.le)]
    simp
  · rw [abs_of_nonpos (div_nonpos_of_nonpos_of_nonneg ha.le hb)]
    simp
  · rw [abs_of_nonneg (div_nonneg_of_nonpos ha.le hb.le)]
    simp

theorem holds_start {a b : Decimal} (hb : b.value ≠ 0) :
    Quotient.Holds ⟨a.coeff.natAbs / b.coeff.natAbs, a.coeff.natAbs % b.coeff.natAbs, (a.scale : ℤ) - b.scale⟩
      b.coeff.natAbs |a.value / b.value| := by
  have hd : 0 < b.coeff.natAbs := Int.natAbs_pos.mpr fun h => hb (by simp [value, h])
  have hd' : (b.coeff.natAbs : ℚ) ≠ 0 := by exact_mod_cast hd.ne'
  refine ⟨Nat.mod_lt _ hd, (Nat.div_le_self _ _).trans_lt a.coeff_lt, ?_, ?_⟩
  · have := a.scale_le
    simp only [maxScale]
    omega
  · calc |a.value / b.value| * 10 ^ ((a.scale : ℤ) - b.scale)
      _ = (a.coeff.natAbs : ℚ) / b.coeff.natAbs := by
        rw [abs_div, abs_value, abs_value, zpow_sub₀ (by norm_num), zpow_natCast, zpow_natCast]
        field_simp
      _ = (a.coeff.natAbs / b.coeff.natAbs : ℕ) +
          ((a.coeff.natAbs % b.coeff.natAbs : ℕ) : ℚ) / b.coeff.natAbs := cast_div_eq _ hd

/-- `d` is `x` to one part in `10 ^ 28`, and equal to it where a digit is to spare. -/
structure Approximates (d : Decimal) (x : ℚ) : Prop where
  error : |d.value - x| ≤ (1 + |x|) / 10 ^ 28
  exact : ∀ c s : ℕ, |x| * 10 ^ s = c → 10 * c < limit → s ≤ maxScale → d.value = x

theorem exists_rounds {a b : Decimal} (hb : b.value ≠ 0) (h : |a.value / b.value| < 2 ^ 96 - 1 / 2) :
    ∃ d, a.div b = some d ∧ ∃ q : Quotient, q.Rounds |a.value / b.value| ∧
      d.value = (if (a.isNegative != b.isNegative) = true then -1 else 1) * (q.digits / 10 ^ q.scale : ℚ) := by
  have zb : ¬ b.isZero = true := fun z => hb (isZero_iff.mp z)
  by_cases za : a.isZero = true
  · refine ⟨zero, by simp [div, za, zb], ⟨0, 0, 0⟩, ?_, by simp⟩
    exact ⟨by simp only; decide, le_rfl, by simp only; decide, by simp [isZero_iff.mp za], by simp [isZero_iff.mp za]⟩
  obtain ⟨q, hq, hr⟩ := exists_divideFrom (abs_nonneg _) h 64 (holds_start hb) (by
    simp only [maxScale]
    have := b.scale_le
    omega)
  let parts := (q.digits, q.scale.toNat)
  obtain ⟨r, hparts, hvalue, hdigits, hscale⟩ : ∃ r, (if a.coeff.natAbs % b.coeff.natAbs = 0 then parts
      else stripBlocks parts) = r ∧ Strips parts r := by
    split
    · exact ⟨_, rfl, rfl, le_rfl, le_rfl⟩
    · exact ⟨_, rfl, stripBlocks_strips _⟩
  have hint : ((q.scale.toNat : ℕ) : ℤ) = q.scale := Int.toNat_of_nonneg hr.scale_nonneg
  have hvalue : (r.1 : ℚ) / 10 ^ r.2 = q.digits / 10 ^ q.scale := by
    rw [hvalue, ← hint, zpow_natCast]
  have hmax : r.2 ≤ maxScale := by
    have := hr.scale_le
    simp only [parts] at hscale
    omega
  have hlt : (signed (a.isNegative != b.isNegative) r.1).natAbs < limit := by
    rw [natAbs_signed]
    exact hdigits.trans_lt hr.digits_lt
  obtain ⟨d, hd, hdv, -⟩ := exists_ofParts? hlt hmax
  refine ⟨d, ?_, q, hr, by rw [hdv, signed_cast, mul_div_assoc, hvalue]⟩
  simp only [div, za, zb, hq, if_false, Bool.false_eq_true, Option.bind_some]
  rw [hparts]
  exact hd

theorem Quotient.Rounds.abs_sub {a b d : Decimal} {q : Quotient} (hr : q.Rounds |a.value / b.value|)
    (hd : d.value = (if (a.isNegative != b.isNegative) = true then -1 else 1) * (q.digits / 10 ^ q.scale : ℚ)) :
    |d.value - a.value / b.value| ≤ (1 / 2 + 2 / 3 * |a.value / b.value|) / 10 ^ 28 := by
  have hdistance : |d.value - a.value / b.value| = |q.digits / 10 ^ q.scale - (|a.value / b.value| : ℚ)| := by
    conv_lhs => rw [hd, value_div_value a b, ← mul_sub, abs_mul, abs_sign, one_mul]
  rw [hdistance]
  exact hr.error (abs_nonneg _)

theorem exists_div {a b : Decimal} (hb : b.value ≠ 0) (h : |a.value / b.value| < 2 ^ 96 - 1 / 2) :
    ∃ d, a.div b = some d ∧ d.Approximates (a.value / b.value) := by
  obtain ⟨d, hd, q, hr, hvalue⟩ := exists_rounds hb h
  refine ⟨d, hd, (hr.abs_sub hvalue).trans ?_, fun c s hc hlim hs => ?_⟩
  · have := abs_nonneg (a.value / b.value)
    exact div_le_div_of_nonneg_right (by linarith) (by norm_num)
  · rw [hvalue, hr.exact hc hlim hs, ← value_div_value]

theorem divideFrom_two_odd {n : ℕ} (h : n < 2 ^ 64) (fuel : ℕ) :
    divideFrom 2 (fuel + 2) ⟨n, 1, 0⟩ = some ⟨(10 * n + 5) * pow10 8, 0, 9⟩ := by
  have hlim : (10 * n + 5) * pow10 8 < limit := by
    have : (10 * 2 ^ 64 + 5) * pow10 8 < limit := by decide
    exact (Nat.mul_le_mul_right _ (by omega)).trans_lt this
  have hdigits : n * pow10 9 + 1 * pow10 9 / 2 = (10 * n + 5) * pow10 8 := by
    simp only [pow10, Nat.pow_eq]
    omega
  have hroom : n * pow10 9 < limit := (Nat.le_add_right _ _).trans_lt (hdigits ▸ hlim)
  have hgrowth : growth n 0 = 9 := if_pos ⟨hroom, by decide⟩
  rw [divideFrom, if_neg Nat.one_ne_zero]
  simp only [hgrowth, hdigits]
  rw [if_neg (by decide), if_neg (Nat.not_le_of_lt hlim)]
  rfl

theorem scale_le_of_div_two {a d : Decimal} (ha : a.scale = 0) (hlt : a.coeff.natAbs < 2 ^ 64)
    (hd : a.div two = some d) : d.scale ≤ 2 := by
  by_cases za : a.isZero = true
  · have hz : zero = d := by simpa [div, za, show two.isZero = false by decide] using hd
    simp [← hz, zero]
  simp only [div, za, show two.isZero = false by decide, if_false, Bool.false_eq_true, ha,
    show two.coeff.natAbs = 2 by decide, show ((0 : ℕ) : ℤ) - (two.scale : ℤ) = 0 by decide] at hd
  rcases Nat.mod_two_eq_zero_or_one a.coeff.natAbs with heven | hodd
  · rw [heven] at hd
    have hwhole : divideFrom 2 64 ⟨a.coeff.natAbs / 2, 0, 0⟩ = some ⟨a.coeff.natAbs / 2, 0, 0⟩ := rfl
    rw [hwhole] at hd
    simp [(ofParts?_eq_some hd).2]
  · rw [hodd, divideFrom_two_odd (by omega) 62] at hd
    simp only [Option.bind_some, Nat.one_ne_zero, if_false] at hd
    rw [(ofParts?_eq_some hd).2]
    exact stripBlocks_scale_le _

theorem exists_half {n : ℤ} (h : n.natAbs < 2 ^ 64) :
    ∃ a d, ofParts? n 0 = some a ∧ a.div two = some d ∧ d.value = n / 2 ∧ d.scale ≤ 2 := by
  have hlim : 2 ^ 64 * 100 < limit := by decide
  obtain ⟨a, ha, hv, hs⟩ := exists_ofParts? (c := n) (s := 0) (by omega) (by decide)
  simp only [pow_zero, div_one] at hv
  have habs : |a.value / two.value| = n.natAbs / 2 := by
    rw [hv, value_two, abs_div, Nat.cast_natAbs, Int.cast_abs, abs_of_pos (by norm_num : (0 : ℚ) < 2)]
  obtain ⟨d, hd, happrox⟩ := exists_div (a := a) (b := two) (by simp) (by
    rw [habs]
    have : (n.natAbs : ℚ) < 2 ^ 64 := by exact_mod_cast h
    linarith)
  have hcoeff : a.coeff = n := (ofParts?_eq_some ha).1
  refine ⟨a, d, ha, hd, ?_, scale_le_of_div_two hs (hcoeff ▸ h) hd⟩
  rw [happrox.exact (5 * n.natAbs) 1 (by rw [habs]; push_cast; ring) (by omega) (by decide), hv, value_two]

end Storefront.Decimal

import Storefront.History
import Storefront.Money.Reader
import Storefront.Proofs.Decimal.Range
import Storefront.Proofs.Plan.Faults

/-! # Shifts that can be shown

The quotient of two prices is checked, but neither its distance from one nor the percentage of that is. A shift is shown
just when the quotient is near enough to one for its percentage to be a decimal.
-/
namespace Storefront

namespace Decimal
variable {d : Decimal} {places : ℕ}

theorem round_of_scale_le (h : d.scale ≤ places) : d.round places = d := if_pos h

theorem round_near (d : Decimal) (places : ℕ) : |(d.round places).value - d.value| ≤ 1 / 2 / 10 ^ places := by
  by_cases h : d.scale ≤ places
  · rw [round_of_scale_le h, sub_self, abs_zero]
    positivity
  simp only [round, if_neg h]
  cases hparts : ofParts? (signed d.isNegative (roundDiv d.coeff.natAbs (pow10 (d.scale - places)))) places with
  | none =>
    rw [Option.getD_none, sub_self, abs_zero]
    positivity
  | some r =>
    obtain ⟨hcoeff, hscale⟩ := ofParts?_eq_some hparts
    have hnear := roundDiv_near d.coeff.natAbs (pow10_pos (d.scale - places))
    simp only [pow10, Nat.pow_eq, Nat.cast_pow, Nat.cast_ofNat] at hnear hcoeff
    have hvalue : d.value =
        (if d.isNegative then -1 else 1) * (d.coeff.natAbs / 10 ^ (d.scale - places)) / 10 ^ places := by
      rw [mul_div_assoc, div_div, ← pow_add, Nat.sub_add_cancel (by omega), ← mul_div_assoc, ← signed_cast,
        isNegative, signed_natAbs decide_eq_true_iff, value]
    rw [Option.getD_some, hvalue, value, hcoeff, hscale, signed_cast, ← sub_div, ← mul_sub, abs_div, abs_mul, abs_sign,
      one_mul, abs_of_pos (by positivity : (0 : ℚ) < 10 ^ places)]
    gcongr

/-- How far a ratio lies above or below one. -/
def deviation (ratio : Decimal) : Option Decimal :=
  if ratio.compare one = .lt then (one.sub ratio).map neg else ratio.sub one

def percentage (ratio : Decimal) : Option Decimal := ratio.deviation.bind fun d => (d.round 2).mul hundred

/-- Whichever way a deviation is computed, it is a sum that lies as far from zero as the ratio lies from one. -/
theorem exists_sum_of_deviation (ratio : Decimal) : ∃ a b : Decimal, |a.value + b.value| = |ratio.value - 1| ∧
    max a.scale b.scale = ratio.scale ∧ (ratio.deviation = none → a.add b = none) ∧
      ∀ d, ratio.deviation = some d → ∃ sum, a.add b = some sum ∧ |sum.value| = |d.value| ∧ sum.scale = d.scale := by
  unfold deviation
  split
  · refine ⟨one, ratio.neg, ?_, Nat.zero_max _, by simp [sub], fun d hd => ?_⟩
    · rw [value_one, value_neg, ← sub_eq_add_neg, abs_sub_comm]
    · obtain ⟨sum, hsum, rfl⟩ := Option.map_eq_some_iff.mp hd
      exact ⟨sum, hsum, by rw [value_neg, abs_neg], rfl⟩
  · refine ⟨ratio, one.neg, ?_, Nat.max_zero _, id, fun d hd => ⟨d, hd, rfl, rfl⟩⟩
    rw [value_neg, value_one, sub_eq_add_neg]

theorem value_hundred : hundred.value = 100 := by
  simp [hundred, value_ofUInt64]

theorem inRange_percent_iff : InRange (d.value * hundred.value) ↔ |d.value| * 100 < 2 ^ 96 - 1 / 2 := by
  rw [InRange, value_hundred, abs_mul, abs_of_pos (by norm_num : (0 : ℚ) < 100)]

theorem le_of_whole_percent (h : d.scale ≤ 2) (hlarge : 2 ^ 96 - 1 / 2 ≤ |d.value| * 100) :
    2 ^ 96 ≤ |d.value| * 100 := by
  have hwhole := abs_value_mul_pow h
  norm_num only at hwhole
  rw [hwhole] at hlarge ⊢
  exact limit_le_of_not_inRange hlarge

theorem percent_of_sum {a b sum : Decimal} (hscale : max a.scale b.scale ≤ 2) (hsum : a.add b = some sum) :
    2 ^ 96 - 1 / 2 ≤ |sum.value| * 100 ↔ 2 ^ 96 ≤ |a.value + b.value| * 100 := by
  rcases add_eq_or_full hsum with hexact | ⟨hplaces, hfull, hnear⟩
  · rw [← hexact]
    exact ⟨le_of_whole_percent ((add_scale_le hsum).trans hscale), fun h => by linarith⟩
  have hbelow := abs_sub_abs_le_abs_sub (a.value + b.value) sum.value
  rw [abs_sub_comm] at hbelow
  obtain hone | hnone : sum.scale = 1 ∨ sum.scale = 0 := by omega
  · -- the limit lies between two multiples of ten, and rounding to them does not pass it
    have hwhole := natAbs_sum a b
    rw [show max a.scale b.scale = 2 by omega] at hwhole
    have htenth := abs_value_mul_pow hone.le
    rw [hone] at hfull hnear
    generalize (a.coeff * pow10 (2 - a.scale) + b.coeff * pow10 (2 - b.scale)).natAbs = n at hwhole
    generalize sum.coeff.natAbs * 10 ^ (1 - sum.scale) = m at htenth
    have hcent : |a.value + b.value| * 100 = n := by linarith
    have hlimit : 2 ^ 96 ≤ |a.value + b.value| * 100 := by
      rw [hcent]
      exact limit_le_of_not_inRange (by linarith)
    refine iff_of_true ?_ hlimit
    have hm : 7922816251426433759354395033 < m := by
      have : ((7922816251426433759354395033 : ℕ) : ℚ) < m := by
        push_cast
        linarith
      exact Nat.cast_lt.mp this
    have hm : ((7922816251426433759354395034 : ℕ) : ℚ) ≤ m := Nat.cast_le.mpr hm
    push_cast at hm
    linarith
  · rw [hnone] at hfull hnear
    norm_num only at hfull hnear
    constructor <;> intro <;> linarith

/-- A ratio has a percentage just when it is near enough to one. -/
theorem percentage_eq_none_iff (ratio : Decimal) : ratio.percentage = none ↔ 2 ^ 96 ≤ |ratio.value - 1| * 100 := by
  obtain ⟨a, b, habs, hscale, hnone, hsome⟩ := exists_sum_of_deviation ratio
  unfold percentage
  cases hd : ratio.deviation with
  | none =>
    have hlarge := add_eq_none_iff.mp (hnone hd)
    rw [InRange, not_lt, habs] at hlarge
    simp only [Option.bind_none, true_iff]
    linarith
  | some d =>
    obtain ⟨sum, hsum, hvalue, hplaces⟩ := hsome d hd
    rw [Option.bind_some, mul_eq_none_iff, inRange_percent_iff, not_lt, ← habs]
    by_cases hsmall : ratio.scale ≤ 2
    · have hsum_scale : sum.scale ≤ 2 := (add_scale_le hsum).trans (hscale.le.trans hsmall)
      rw [round_of_scale_le (hplaces ▸ hsum_scale), ← hvalue]
      exact percent_of_sum (hscale ▸ hsmall) hsum
    · -- a ratio of three places and more is a thousand times smaller than the limit
      have hratio : |ratio.value| ≤ 2 ^ 96 / 1000 := by
        have hpow : (1000 : ℚ) ≤ 10 ^ ratio.scale := by
          simpa [show (10 : ℚ) ^ 3 = 1000 by norm_num] using
            pow_le_pow_right₀ (by norm_num : (1 : ℚ) ≤ 10) (show 3 ≤ ratio.scale by omega)
        exact ratio.abs_value_le.trans (div_le_div₀ (by norm_num) (by norm_num) (by norm_num) hpow)
      have hone := abs_sub ratio.value 1
      have hnear := add_near hsum
      have hround := round_near d 2
      have hsum_le := abs_sub_abs_le_abs_sub sum.value (a.value + b.value)
      have hround_le := abs_sub_abs_le_abs_sub (d.round 2).value d.value
      rw [abs_one, ← habs] at hone
      refine iff_of_false ?_ ?_ <;> linarith

end Decimal

open Attempt

def shiftText (general current : Money) (e : Exchange) : Attempt String := do
  renderShift (← priceShift (some general) (some current) e)

variable {general current average : Money} {e : Exchange} {ratio : Decimal}

theorem shiftText_of_zero (hconvert : general.convert current.currency e = .ok average)
    (hzero : (current.amount.isZero || average.amount.isZero) = true) :
    shiftText general current e = .ok "no shift: a price is missing or zero" := by
  simp only [shiftText, priceShift, hconvert, ok_bind, hzero, if_true]
  rfl

theorem priceShift_of_ratio (hconvert : general.convert current.currency e = .ok average)
    (hzero : (current.amount.isZero || average.amount.isZero) = false)
    (hratio : current.amount.div average.amount = some ratio) :
    priceShift (some general) (some current) e =
      ofOption .outOfRange ratio.deviation >>= fun d => .ok (some (d.round 2)) := by
  simp only [priceShift, hconvert, ok_bind, hzero, hratio, Bool.false_eq_true, if_false]
  rfl

theorem shiftText_of_ratio (hconvert : general.convert current.currency e = .ok average)
    (hzero : (current.amount.isZero || average.amount.isZero) = false)
    (hratio : current.amount.div average.amount = some ratio) :
    shiftText general current e = ofOption .outOfRange ratio.percentage >>= fun percent =>
      .ok ((if percent.normalize.isPositive then "+" else "") ++ toString percent.normalize ++ "%") := by
  rw [shiftText, priceShift_of_ratio hconvert hzero hratio, Decimal.percentage]
  cases ratio.deviation <;> rfl

/-- A shift is shown, or there is a fault of the prices, just when the quotient of the prices is near enough to one for
its distance from one, in percent, to be below the limit. -/
theorem shiftText_fails_iff (general current : Money) (e : Exchange) :
    FailsWith (PriceFault e.Lacks) (shiftText general current e) ↔
      ∀ average, general.convert current.currency e = .ok average →
        ∀ ratio, current.amount.div average.amount = some ratio → |ratio.value - 1| * 100 < 2 ^ 96 := by
  cases hconvert : general.convert current.currency e with
  | error f =>
    have hfails : FailsWith (PriceFault e.Lacks) (general.convert current.currency e) :=
      Money.convert_fails fun _ _ hlacks => hlacks
    refine iff_of_true ?_ fun average h => of_error_eq_ok h
    rw [shiftText, priceShift, hconvert]
    exact failsWith_error (hfails f hconvert)
  | ok average =>
    simp only [Except.ok.injEq, forall_eq']
    cases hzero : current.amount.isZero || average.amount.isZero with
    | true =>
      rw [shiftText_of_zero hconvert hzero]
      refine iff_of_true (failsWith_ok _) fun ratio hratio => ?_
      -- nothing over something is nothing, and there is no quotient over nothing
      by_cases haverage : average.amount.isZero = true
      · simp [Decimal.div, haverage] at hratio
      · rw [Bool.or_eq_true, or_iff_left haverage] at hzero
        obtain rfl : Decimal.zero = ratio := by simpa [Decimal.div, haverage, hzero] using hratio
        norm_num
    | false =>
      cases hratio : current.amount.div average.amount with
      | none =>
        refine iff_of_true ?_ fun _ h => absurd h (Option.some_ne_none _).symm
        simp only [shiftText, priceShift, hconvert, ok_bind, hzero, hratio, Bool.false_eq_true, if_false]
        exact failsWith_error (.overflow _)
      | some ratio =>
        simp only [Option.some.injEq, forall_eq', shiftText_of_ratio hconvert hzero hratio]
        rw [← not_le, ← Decimal.percentage_eq_none_iff]
        cases ratio.percentage with
        | none => exact iff_of_false (fun h => (h .outOfRange rfl).ne_outOfRange rfl) (not_not_intro rfl)
        | some percent => exact iff_of_true (failsWith_ok _) (Option.some_ne_none _)

/-- A fortune lies further above a dollar than there are decimals for in percent, and a debt that fills the range lies
further below it than there are decimals for. -/
theorem debt_has_no_shift :
    (∃ dollar fortune debt : Money, Money.read "1 USD".toList = .ok dollar ∧
      Money.read "1000000000000000000000000000 USD".toList = .ok fortune ∧
      Money.read "-79228162514264337593543950335 USD".toList = .ok debt ∧
      (∃ shift, priceShift (some dollar) (some fortune) (RateTable.ofMain .usd).exchange = .ok (some shift) ∧
        renderShift (some shift) = .error .outOfRange) ∧
      priceShift (some dollar) (some debt) (RateTable.ofMain .usd).exchange = .error .outOfRange) ∧
    ¬ ∀ (s s' : List Char) (general current : Money) (t : RateTable),
      Money.read s = .ok general → Money.read s' = .ok current → (∀ p ∈ t.rates, p.2.isPositive = true) →
        FailsWith (· ≠ .outOfRange) (shiftText general current t.exchange) := by
  constructor
  · refine ⟨_, _, _, rfl, rfl, rfl, ⟨_, rfl, ?_⟩, ?_⟩ <;> decide +kernel
  · intro h
    refine h "1 USD".toList "-79228162514264337593543950335 USD".toList _ _ (RateTable.ofMain .usd) rfl rfl (by decide)
      .outOfRange ?_ rfl
    decide +kernel

end Storefront

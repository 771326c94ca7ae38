import Storefront.Proofs.History.Shift
import Storefront.Proofs.Money.Conversion
import Storefront.Proofs.Plan.Economics

/-! # What a shift says

A ratio that is not negative has an exact deviation from one. The shift is that deviation in whole percent, so that it
errs by half a percent and by what the quotient errs by. For usual prices this is far less than half a percent, and a
shift of a percent or more cannot have the wrong sign.
-/
namespace Storefront

namespace Decimal
variable {d ratio : Decimal} {places : ℕ}

theorem round_scale_le (d : Decimal) (places : ℕ) : (d.round places).scale ≤ places := by
  by_cases h : d.scale ≤ places
  · rwa [round_of_scale_le h]
  have hplaces : places ≤ maxScale := (Nat.le_of_not_le h).trans d.scale_le
  -- one digit at least is dropped, so that the rest is in range
  have hdropped : 10 ≤ pow10 (d.scale - places) := by
    have := Nat.pow_le_pow_right (show 0 < 10 by decide) (show 1 ≤ d.scale - places by omega)
    simpa [pow10] using this
  have hfits : roundDiv d.coeff.natAbs (pow10 (d.scale - places)) < limit := by
    have hquotient : d.coeff.natAbs / pow10 (d.scale - places) ≤ d.coeff.natAbs / 10 :=
      Nat.div_le_div_left hdropped (by decide)
    have hcoeff : d.coeff.natAbs < limit := d.coeff_lt
    have hlimit : 10 ≤ limit := by decide
    have := roundDiv_le d.coeff.natAbs (pow10 (d.scale - places))
    omega
  obtain ⟨r, hr, -, hscale⟩ := exists_ofParts?
    (c := signed d.isNegative (roundDiv d.coeff.natAbs (pow10 (d.scale - places)))) (by rwa [natAbs_signed]) hplaces
  rw [round, if_neg h, hr, Option.getD_some, hscale]

theorem exists_percent (h : d.scale ≤ 2) : ∃ n : ℤ, d.value = n / 100 := by
  have hcast := cast_raised h
  refine ⟨d.coeff * pow10 (2 - d.scale), ?_⟩
  rw [hcast]
  norm_num

/-- Neither the ratio nor one has more decimals than there is room for in the difference of the two. -/
theorem exists_deviation (h : 0 ≤ ratio.value) : ∃ d, ratio.deviation = some d ∧ d.value = ratio.value - 1 := by
  have hroom : |ratio.value - 1| * 10 ^ ratio.scale < 2 ^ 96 := by
    have hcoeff : ratio.value * 10 ^ ratio.scale < 2 ^ 96 := by
      rw [value_mul_pow]
      have hlt : ratio.coeff < 2 ^ 96 := by
        have : ratio.coeff.natAbs < 2 ^ 96 := ratio.coeff_lt
        omega
      exact_mod_cast hlt
    have hone : (10 : ℚ) ^ ratio.scale < 2 ^ 96 :=
      (pow_le_pow_right₀ (by norm_num) ratio.scale_le).trans_lt (by norm_num)
    have hpos : (0 : ℚ) < 10 ^ ratio.scale := by positivity
    rcases le_total 1 ratio.value with hge | hle
    · rw [abs_of_nonneg (sub_nonneg.mpr hge)]
      linarith
    · rw [abs_of_nonpos (sub_nonpos.mpr hle)]
      nlinarith
  unfold deviation
  split
  · obtain ⟨d, hd, hvalue, -⟩ := exists_add (a := one) (b := ratio.neg) (Nat.zero_le _) le_rfl
      (by rwa [value_one, value_neg, ← sub_eq_add_neg, abs_sub_comm])
    refine ⟨d.neg, by rw [sub, hd, Option.map_some], ?_⟩
    rw [value_neg, hvalue, value_one, value_neg]
    ring
  · obtain ⟨d, hd, hvalue, -⟩ := exists_add (a := ratio) (b := one.neg) le_rfl (Nat.zero_le _)
      (by rwa [value_neg, value_one, ← sub_eq_add_neg])
    refine ⟨d, hd, ?_⟩
    rw [hvalue, value_neg, value_one, sub_eq_add_neg]

theorem percent_sign {x : ℚ} (hscale : d.scale ≤ 2) (hnear : |d.value - x| ≤ 1 / 200 + 1 / 10 ^ 15) :
    (-1 ≤ x → -1 ≤ d.value) ∧ (0 < d.value → 0 < x) ∧ (d.value < 0 → x < 0) := by
  obtain ⟨n, hn⟩ := exists_percent hscale
  rw [abs_le] at hnear
  obtain ⟨hlow, hhigh⟩ := hnear
  refine ⟨fun hx => ?_, fun hpos => ?_, fun hneg => ?_⟩
  · have hlt : (-101 : ℤ) < n := by
      have : (-101 : ℚ) < n := by linarith
      exact_mod_cast this
    have hle : (-100 : ℚ) ≤ n := by exact_mod_cast (show (-100 : ℤ) ≤ n by omega)
    linarith
  · have hlt : 0 < n := by
      have : (0 : ℚ) < n := by linarith
      exact_mod_cast this
    have hle : (1 : ℚ) ≤ n := by exact_mod_cast hlt
    linarith
  · have hlt : n < 0 := by
      have : (n : ℚ) < 0 := by linarith
      exact_mod_cast this
    have hle : (n : ℚ) ≤ -1 := by exact_mod_cast (show n ≤ -1 by omega)
    linarith

/-- The quotient of usual prices is there, positive, and nearly right. -/
theorem exists_ratio {a b : Decimal} (ha : a.UsualPrice) (hb : b.UsualPrice) :
    ∃ ratio, a.div b = some ratio ∧ 0 ≤ ratio.value ∧ |ratio.value - a.value / b.value| ≤ 1 / 10 ^ 15 := by
  obtain ⟨ha, ha'⟩ := ha
  obtain ⟨hb, hb'⟩ := hb
  have hpos : 0 < b.value := by linarith
  have hlow : 1 / 10 ^ 11 ≤ a.value / b.value := by
    rw [div_le_div_iff₀ (by norm_num) hpos]
    linarith
  have hhigh : a.value / b.value ≤ 10 ^ 11 := by
    rw [div_le_iff₀ hpos]
    linarith
  have habs : |a.value / b.value| = a.value / b.value := abs_of_nonneg (by linarith)
  obtain ⟨ratio, hratio, herror, -⟩ := exists_div (a := a) (b := b) hpos.ne' (by
    rw [habs]
    linarith)
  rw [habs] at herror
  have hsmall := abs_le.mp herror
  exact ⟨ratio, hratio, by linarith, by linarith⟩

end Decimal

variable {general current average : Money} {e : Exchange}

/-- The shift of a usual price from another one says in whole percent how far it lies above or below, to the nearest
percent that there is for the quotient. It is no less than minus a hundred percent, and it has the right sign. -/
theorem priceShift_near_deviation (hconvert : general.convert current.currency e = .ok average)
    (hcurrent : current.amount.UsualPrice) (haverage : average.amount.UsualPrice) :
    ∃ shift, priceShift (some general) (some current) e = .ok (some shift) ∧ shift.scale ≤ 2 ∧
      |shift.value - (current.amount.value / average.amount.value - 1)| ≤ 5 / 1000 + 1 / 10 ^ 15 ∧
      -1 ≤ shift.value ∧
      (0 < shift.value → average.amount.value < current.amount.value) ∧
      (shift.value < 0 → current.amount.value < average.amount.value) := by
  obtain ⟨ratio, hratio, hpos, hnear⟩ := Decimal.exists_ratio hcurrent haverage
  obtain ⟨d, hd, hvalue⟩ := Decimal.exists_deviation hpos
  have hcurrent_pos : 0 < current.amount.value := by linarith [hcurrent.1]
  have haverage_pos : 0 < average.amount.value := by linarith [haverage.1]
  have hzero : (current.amount.isZero || average.amount.isZero) = false := by
    rw [Bool.or_eq_false_iff, ← Bool.not_eq_true, ← Bool.not_eq_true, Decimal.isZero_iff, Decimal.isZero_iff]
    exact ⟨hcurrent_pos.ne', haverage_pos.ne'⟩
  have hshift : |(d.round 2).value - (current.amount.value / average.amount.value - 1)| ≤ 1 / 200 + 1 / 10 ^ 15 :=
    calc |(d.round 2).value - (current.amount.value / average.amount.value - 1)|
      _ ≤ |(d.round 2).value - d.value| + |d.value - (current.amount.value / average.amount.value - 1)| :=
        abs_sub_le _ _ _
      _ ≤ 1 / 2 / 10 ^ 2 + 1 / 10 ^ 15 := by
        refine add_le_add (d.round_near 2) ?_
        rwa [hvalue, sub_sub_sub_cancel_right]
      _ = 1 / 200 + 1 / 10 ^ 15 := by norm_num
  obtain ⟨hlow, habove, hbelow⟩ := Decimal.percent_sign (d.round_scale_le 2) hshift
  have hratio_pos : 0 < current.amount.value / average.amount.value := div_pos hcurrent_pos haverage_pos
  refine ⟨d.round 2, ?_, d.round_scale_le 2, by linarith, hlow (by linarith), fun h => ?_, fun h => ?_⟩
  · rw [priceShift_of_ratio hconvert hzero hratio, hd]
    rfl
  · exact (one_lt_div haverage_pos).mp (sub_pos.mp (habove h))
  · exact (div_lt_one haverage_pos).mp (sub_neg.mp (hbelow h))

open Money

theorem priceShift_near_deviation_euros :
    (euros 7).convert .usd tripleEuro.exchange = .ok (dollars 21) ∧
    (dollars 20).amount.UsualPrice ∧ (dollars 21).amount.UsualPrice ∧
      ∃ shift, priceShift (some (euros 7)) (some (dollars 20)) tripleEuro.exchange = .ok (some shift) ∧ shift.scale ≤ 2 ∧
        |shift.value - (20 / 21 - 1)| ≤ 5 / 1000 + 1 / 10 ^ 15 ∧ -1 ≤ shift.value ∧ ¬ 0 < shift.value := by
  have hconvert : (euros 7).convert (dollars 20).currency tripleEuro.exchange = .ok (dollars 21) := by decide +kernel
  have htwenty : (dollars 20).amount.value = 20 := by simp [dollars, Decimal.value_ofUInt64]
  have htwentyone : (dollars 21).amount.value = 21 := by simp [dollars, Decimal.value_ofUInt64]
  have hcurrent : (dollars 20).amount.UsualPrice := by constructor <;> norm_num [htwenty]
  have haverage : (dollars 21).amount.UsualPrice := by constructor <;> norm_num [htwentyone]
  obtain ⟨shift, hshift, hscale, hnear, hlow, habove, -⟩ := priceShift_near_deviation hconvert hcurrent haverage
  rw [htwenty, htwentyone] at hnear habove
  exact ⟨hconvert, hcurrent, haverage, shift, hshift, hscale, hnear, hlow, fun h => absurd (habove h) (by norm_num)⟩

end Storefront

import Storefront.Proofs.Money.Conversion

/-! # Comparisons across currencies

Two amounts are compared in the currency of the first, and so each side asks with a conversion of its own. What the
conversion of the other amount loses is bounded. Where the two are further apart than that, or nothing is lost, the answer
is the order of what the amounts are worth. Where they are not, it may depend on which side asks.
-/
namespace Storefront
open Attempt

namespace Decimal

theorem value_lt_iff (a b : Decimal) : a.value < b.value ↔ a.coeff * pow10 b.scale < b.coeff * pow10 a.scale := by
  rw [value, value, div_lt_div_iff₀ (by positivity) (by positivity)]
  simp only [pow10, Nat.pow_eq]
  exact_mod_cast Iff.rfl

theorem compare_eq_cmp (a b : Decimal) : a.compare b = cmp a.value b.value := by
  rcases lt_trichotomy a.value b.value with hlt | heq | hgt
  · rw [(cmp_eq_lt_iff _ _).mpr hlt, compare, Int.compare_eq_lt]
    exact (value_lt_iff a b).mp hlt
  · have hnot : ¬ a.coeff * pow10 b.scale < b.coeff * pow10 a.scale := fun h => heq.not_lt ((value_lt_iff a b).mpr h)
    have hnot' : ¬ b.coeff * pow10 a.scale < a.coeff * pow10 b.scale := fun h => heq.not_gt ((value_lt_iff b a).mpr h)
    rw [(cmp_eq_eq_iff _ _).mpr heq, compare, Int.compare_eq_eq]
    omega
  · rw [(cmp_eq_gt_iff _ _).mpr hgt, compare, Int.compare_eq_gt]
    exact (value_lt_iff b a).mp hgt

theorem rescale_near {x y r ρ u : ℚ} (hρ : 0 ≤ ρ) (hu : 0 ≤ u) (hr : |r - ρ| ≤ (1 / 2 + 2 / 3 * ρ) / 10 ^ 28)
    (hy : |y - x * r| ≤ (1 / 2 + 2 / 3 * |x * r|) / 10 ^ 28) :
    |y * u - x * (ρ * u)| ≤ ((1 + |x|) * u + 2 * |x * (ρ * u)|) / 10 ^ 28 := by
  have hrate : |x * r - x * ρ| ≤ |x| * ((1 / 2 + 2 / 3 * ρ) / 10 ^ 28) := by
    rw [← mul_sub, abs_mul]
    exact mul_le_mul_of_nonneg_left hr (abs_nonneg x)
  have hxρ : |x * ρ| = |x| * ρ := by rw [abs_mul, abs_of_nonneg hρ]
  have hxr : |x * r| ≤ |x * ρ| + |x * r - x * ρ| := by
    linarith [abs_sub_abs_le_abs_sub (x * r) (x * ρ)]
  have hsum : |y - x * ρ| ≤ (1 + |x| + 2 * (|x| * ρ)) / 10 ^ 28 := by
    have htriangle := abs_sub_le y (x * r) (x * ρ)
    have hx := abs_nonneg x
    have hprod : 0 ≤ |x| * ρ := mul_nonneg hx hρ
    rw [hxρ] at hxr
    linarith
  have hxρu : |x * (ρ * u)| = |x| * ρ * u := by rw [← mul_assoc, abs_mul, hxρ, abs_of_nonneg hu]
  calc |y * u - x * (ρ * u)|
    _ = |y - x * ρ| * u := by rw [← mul_assoc, ← sub_mul, abs_mul, abs_of_nonneg hu]
    _ ≤ (1 + |x| + 2 * (|x| * ρ)) / 10 ^ 28 * u := mul_le_mul_of_nonneg_right hsum hu
    _ = ((1 + |x|) * u + 2 * |x * (ρ * u)|) / 10 ^ 28 := by
      rw [hxρu]
      ring

end Decimal

theorem cmp_eq_of_near {a x y ε : ℚ} (h : |y - x| ≤ ε) (hfar : ε < |a - x|) : cmp a y = cmp a x := by
  obtain ⟨hlow, hhigh⟩ := abs_le.mp h
  rcases lt_trichotomy a x with hlt | rfl | hgt
  · rw [abs_of_neg (sub_neg.mpr hlt)] at hfar
    rw [(cmp_eq_lt_iff a x).mpr hlt, cmp_eq_lt_iff]
    linarith
  · rw [sub_self, abs_zero] at hfar
    linarith
  · rw [abs_of_pos (sub_pos.mpr hgt)] at hfar
    rw [(cmp_eq_gt_iff a x).mpr hgt, cmp_eq_gt_iff]
    linarith

def Exchange.unit (e : Exchange) (c : Currency) : ℚ := (e.worth c).elim 0 Decimal.value

namespace Money

/-- What an amount is worth without any rounding. -/
def worth (m : Money) (e : Exchange) : ℚ := m.amount.value * e.unit m.currency

section
variable {e : Exchange} {m m' a b : Money} {target : Currency} {o o' : Ordering}

theorem unit_pos_of_convert (hne : m.currency ≠ target) (h : m.convert target e = .ok m') : 0 < e.unit target := by
  obtain ⟨-, source, unit, rate, -, -, hunit, hpos, -⟩ := exists_rate_of_convert hne h
  rwa [Exchange.unit, hunit]

/-- A conversion loses the error of the rate times the amount, and then the error of the product. -/
theorem convert_near (hne : m.currency ≠ target) (h : m.convert target e = .ok m') :
    |m'.worth e - m.worth e| ≤ ((1 + |m.amount.value|) * e.unit target + 2 * |m.worth e|) / 10 ^ 28 := by
  obtain ⟨hcurrency, source, unit, rate, hsource, hsource_pos, hunit, hunit_pos, hrate, hmul⟩ :=
    exists_rate_of_convert hne h
  have hunit_eq : e.unit target = unit.value := by rw [Exchange.unit, hunit, Option.elim_some]
  have hsource_eq : e.unit m.currency = source.value := by rw [Exchange.unit, hsource, Option.elim_some]
  have hratio : 0 < source.value / unit.value := div_pos hsource_pos hunit_pos
  have hquotient := Decimal.div_near hrate
  rw [abs_of_pos hratio] at hquotient
  have hproduct := Decimal.mul_near hmul
  have hsplit : source.value = source.value / unit.value * unit.value := (div_mul_cancel₀ _ hunit_pos.ne').symm
  rw [worth, worth, hcurrency, hunit_eq, hsource_eq, hsplit]
  exact Decimal.rescale_near hratio.le hunit_pos.le hquotient hproduct

/-- Of two amounts the order that the first one's side sees is certain: what the other amount loses by its conversion is
nothing, or less than lies between the two. -/
def Apart (a b : Money) (e : Exchange) : Prop :=
  (∀ c, b.convert a.currency e = .ok c → c.worth e = b.worth e) ∨
    ((1 + |b.amount.value|) * e.unit a.currency + 2 * |b.worth e|) / 10 ^ 28 < |a.worth e - b.worth e|

theorem exists_of_compare (h : a.compare b e = .ok o) :
    ∃ c, b.convert a.currency e = .ok c ∧ o = cmp a.amount.value c.amount.value := by
  obtain ⟨c, hc, h⟩ := bind_eq_ok_iff.mp h
  exact ⟨c, hc, by rw [← Decimal.compare_eq_cmp, Except.ok.inj h]⟩

theorem compare_eq_cmp_worth (hne : a.currency ≠ b.currency) (h : a.compare b e = .ok o) (hapart : a.Apart b e) :
    o = cmp (a.worth e) (b.worth e) := by
  obtain ⟨c, hc, rfl⟩ := exists_of_compare h
  have hpos := unit_pos_of_convert hne.symm hc
  have hunit : cmp a.amount.value c.amount.value = cmp (a.worth e) (c.worth e) := by
    rw [worth, worth, currency_of_convert hc, cmp_mul_pos_right hpos]
  rw [hunit]
  rcases hapart with hexact | hfar
  · rw [hexact c hc]
  · exact cmp_eq_of_near (convert_near hne.symm hc) hfar

/-- Comparison does not depend on which side asks, where what either side loses does not matter. It is the order of the
amounts in one currency, or of what they are worth. -/
theorem compare_swap_of_apart (hab : a.compare b e = .ok o) (hba : b.compare a e = .ok o')
    (hapart : a.currency ≠ b.currency → a.Apart b e ∧ b.Apart a e) :
    o' = o.swap ∧ o =
      if a.currency = b.currency then cmp a.amount.value b.amount.value else cmp (a.worth e) (b.worth e) := by
  by_cases hcurrency : a.currency = b.currency
  · obtain ⟨b', hb, rfl⟩ := exists_of_compare hab
    obtain ⟨a', ha, rfl⟩ := exists_of_compare hba
    rw [convert_of_currency hcurrency.symm hb, convert_of_currency hcurrency ha, if_pos hcurrency]
    exact ⟨(cmp_swap _ _).symm, rfl⟩
  · obtain ⟨ha, hb⟩ := hapart hcurrency
    rw [compare_eq_cmp_worth hcurrency hab ha, compare_eq_cmp_worth (Ne.symm hcurrency) hba hb, if_neg hcurrency]
    exact ⟨(cmp_swap _ _).symm, rfl⟩

end

theorem compare_swap_of_apart_euro :
    (euros 1).compare (dollars 2) tripleEuro.exchange = .ok .gt ∧
    (dollars 2).compare (euros 1) tripleEuro.exchange = .ok .lt ∧
    (euros 1).Apart (dollars 2) tripleEuro.exchange ∧ (dollars 2).Apart (euros 1) tripleEuro.exchange ∧
      Ordering.lt = Ordering.gt.swap := by
  have hgt : (euros 1).compare (dollars 2) tripleEuro.exchange = .ok .gt := by decide +kernel
  have hlt : (dollars 2).compare (euros 1) tripleEuro.exchange = .ok .lt := by decide +kernel
  have heuros : (euros 1).amount.value = 1 := by simp [euros, Decimal.value_ofUInt64]
  have hdollars : (dollars 2).amount.value = 2 := by simp [dollars, Decimal.value_ofUInt64]
  have heuro : tripleEuro.exchange.unit .eur = 3 := Decimal.value_ofUInt64 3
  have hdollar : tripleEuro.exchange.unit .usd = 1 := Decimal.value_one
  have hfirst : (euros 1).Apart (dollars 2) tripleEuro.exchange := by
    refine .inr ?_
    rw [worth, worth, heuros, hdollars]
    norm_num [euros, dollars, heuro, hdollar]
  have hsecond : (dollars 2).Apart (euros 1) tripleEuro.exchange := by
    refine .inr ?_
    rw [worth, worth, heuros, hdollars]
    norm_num [euros, dollars, heuro, hdollar]
  exact ⟨hgt, hlt, hfirst, hsecond, (compare_swap_of_apart hgt hlt fun _ => ⟨hfirst, hsecond⟩).1⟩

/-- A euro is worth three dollars, but the dollars come to a little less than a euro. -/
theorem compare_not_swap :
    (euros 1).compare (dollars 3) tripleEuro.exchange = .ok .gt ∧
    (dollars 3).compare (euros 1) tripleEuro.exchange = .ok .eq ∧
      ¬ ∀ (t : RateTable) (a b : Money) (o o' : Ordering), (∀ entry ∈ t.rates, entry.2.isPositive = true) →
        a.compare b t.exchange = .ok o → b.compare a t.exchange = .ok o' → o' = o.swap := by
  have hgt : (euros 1).compare (dollars 3) tripleEuro.exchange = .ok .gt := by decide +kernel
  have heq : (dollars 3).compare (euros 1) tripleEuro.exchange = .ok .eq := by decide +kernel
  have hpositive : ∀ entry ∈ tripleEuro.rates, entry.2.isPositive = true := by decide +kernel
  exact ⟨hgt, heq, fun h => nomatch h tripleEuro _ _ _ _ hpositive hgt heq⟩

end Money
end Storefront

import Storefront.Proofs.Decimal.Relative
import Storefront.Proofs.Money.Comparison

/-! # Conversions there and back

On its way to another currency and back an amount goes through two quotients of rates and two products, and each of the
four is rounded. For rates and amounts that are usual it comes back up to one part in `10 ^ 15`.
-/
namespace Storefront
open Attempt Decimal

namespace Exchange
variable {e : Exchange} {c source target : Currency}

/-- Rates that are usual: a unit is worth between a ten-thousandth and ten thousand. -/
def UsualRate (e : Exchange) (c : Currency) : Prop := 1 / 10 ^ 4 ≤ e.unit c ∧ e.unit c ≤ 10 ^ 4

theorem UsualRate.unit_pos (h : e.UsualRate c) : 0 < e.unit c := (by norm_num : (0 : ℚ) < 1 / 10 ^ 4).trans_le h.1

theorem UsualRate.ratio_bounds (hsource : e.UsualRate source) (htarget : e.UsualRate target) :
    1 / 10 ^ 8 ≤ e.unit source / e.unit target ∧ e.unit source / e.unit target ≤ 10 ^ 8 := by
  have hpos := htarget.unit_pos
  obtain ⟨hlow, hhigh⟩ := hsource
  obtain ⟨hlow', hhigh'⟩ := htarget
  constructor
  · rw [le_div_iff₀ hpos]
    linarith
  · rw [div_le_iff₀ hpos]
    linarith

theorem exists_positive_of_unit (h : 0 < e.unit c) : ∃ d, e.positive c = .ok d ∧ d.value = e.unit c := by
  cases hworth : e.worth c with
  | none => simp [unit, hworth] at h
  | some d =>
    have hunit : e.unit c = d.value := by rw [unit, hworth, Option.elim_some]
    exact ⟨d, positive_eq_ok_iff.mpr ⟨hworth, isPositive_iff.mpr (hunit ▸ h)⟩, hunit.symm⟩

theorem exists_rate_near (hsource : e.UsualRate source) (htarget : e.UsualRate target) :
    ∃ rate, e.rate target source = .ok rate ∧ Near (1 / 10 ^ 19) rate.value (e.unit source / e.unit target) := by
  obtain ⟨hlow, hhigh⟩ := hsource.ratio_bounds htarget
  obtain ⟨s, hs, hs_value⟩ := exists_positive_of_unit hsource.unit_pos
  obtain ⟨t, ht, ht_value⟩ := exists_positive_of_unit htarget.unit_pos
  rw [← hs_value, ← ht_value] at hlow hhigh ⊢
  obtain ⟨rate, hrate, hnear⟩ := exists_div_near (a := s) (b := t) (n := 10 ^ 8) (by norm_num) hlow (by linarith)
  refine ⟨rate, ?_, hnear.mono (by norm_num) (by linarith)⟩
  rw [Exchange.rate, hs, ok_bind, ht, ok_bind, hrate]
  rfl

end Exchange

namespace Money
variable {e : Exchange} {m : Money} {target : Currency}

theorem exists_convert_near (hne : m.currency ≠ target) (hsource : e.UsualRate m.currency)
    (htarget : e.UsualRate target) (hpos : 0 ≤ m.amount.value)
    (hlow : 1 / (2 * 10 ^ 10) ≤ m.amount.value * (e.unit m.currency / e.unit target))
    (hhigh : m.amount.value * (e.unit m.currency / e.unit target) ≤ 10 ^ 18) :
    ∃ m', m.convert target e = .ok m' ∧ m'.currency = target ∧
      Near (1 / 10 ^ 17) m'.amount.value (m.amount.value * (e.unit m.currency / e.unit target)) := by
  obtain ⟨rate, hrate, hrate_near⟩ := Exchange.exists_rate_near hsource htarget
  have hexact := hrate_near.mul_left hpos
  have hhalf := hexact.half_le (by norm_num) (by linarith)
  have htwice := hexact.le_two_mul (by norm_num) (by linarith)
  obtain ⟨amount, hamount, hnear⟩ := exists_mul_near (a := m.amount) (b := rate) (n := 4 * 10 ^ 10) (by norm_num)
    (by linarith) (by linarith)
  refine ⟨⟨amount, target⟩, ?_, rfl,
    (hnear.trans hexact (by norm_num) (by norm_num) (by linarith)).mono (by norm_num) (by linarith)⟩
  rw [convert, if_neg hne, hrate, ok_bind, hamount]
  rfl

/-- An amount from a cent to a billion comes back from another currency up to one part in `10 ^ 15`. -/
theorem convert_back_near (hne : m.currency ≠ target) (hsource : e.UsualRate m.currency)
    (htarget : e.UsualRate target) (hcent : 1 / 100 ≤ m.amount.value) (hbillion : m.amount.value ≤ 10 ^ 9) :
    ∃ there back, m.convert target e = .ok there ∧ there.convert m.currency e = .ok back ∧
      back.currency = m.currency ∧ |back.amount.value - m.amount.value| ≤ 1 / 10 ^ 15 * m.amount.value := by
  have hsource_pos := hsource.unit_pos
  have htarget_pos := htarget.unit_pos
  obtain ⟨hlow, hhigh⟩ := hsource.ratio_bounds htarget
  have hpos : 0 ≤ m.amount.value := by linarith
  have hsmall := mul_le_mul hcent hlow (by norm_num) hpos
  have hlarge := mul_le_mul hbillion hhigh (by linarith) (by norm_num)
  obtain ⟨there, hthere, hcurrency, hthere_near⟩ := exists_convert_near hne hsource htarget hpos
    (by linarith) (by linarith)
  have hthere_low := hthere_near.half_le (by norm_num) (mul_nonneg hpos (by linarith))
  -- the two exact ratios cancel
  have hratio : 0 ≤ e.unit m.currency / e.unit target := by linarith
  have hback : 0 ≤ e.unit target / e.unit m.currency := by positivity
  have hcancel : e.unit target / e.unit m.currency * (m.amount.value * (e.unit m.currency / e.unit target)) =
      m.amount.value := by
    field_simp
  have hexact := hthere_near.mul_left hback
  rw [hcancel, mul_comm] at hexact
  have hhalf := hexact.half_le (by norm_num) hpos
  have htwice := hexact.le_two_mul (by norm_num) hpos
  subst hcurrency
  obtain ⟨back, hback, hback_currency, hback_near⟩ := exists_convert_near (Ne.symm hne) htarget hsource
    (by linarith [mul_nonneg hpos hratio]) (by linarith) (by linarith)
  exact ⟨there, back, hthere, hback, hback_currency,
    (hback_near.trans hexact (by norm_num) (by norm_num) hpos).mono (by norm_num) hpos⟩

theorem convert_back_near_hundred :
    (dollars 100).currency ≠ .eur ∧ tripleEuro.exchange.UsualRate (dollars 100).currency ∧
    tripleEuro.exchange.UsualRate .eur ∧ 1 / 100 ≤ (dollars 100).amount.value ∧
    (dollars 100).amount.value ≤ 10 ^ 9 ∧
      ∃ there back, (dollars 100).convert .eur tripleEuro.exchange = .ok there ∧
        there.convert (dollars 100).currency tripleEuro.exchange = .ok back ∧
        back.amount.coeff = 9999999999999999999999999999 ∧ back.amount.scale = 26 ∧
        |back.amount.value - (dollars 100).amount.value| ≤ 1 / 10 ^ 15 * (dollars 100).amount.value := by
  have hne : (dollars 100).currency ≠ .eur := by decide
  have heuro : tripleEuro.exchange.unit .eur = 3 := Decimal.value_ofUInt64 3
  have hdollar : tripleEuro.exchange.unit .usd = 1 := Decimal.value_one
  have hvalue : (dollars 100).amount.value = 100 := Decimal.value_ofUInt64 100
  have hsource : tripleEuro.exchange.UsualRate (dollars 100).currency := by
    rw [Exchange.UsualRate, show (dollars 100).currency = .usd from rfl, hdollar]
    norm_num
  have htarget : tripleEuro.exchange.UsualRate .eur := by
    rw [Exchange.UsualRate, heuro]
    norm_num
  have hcent : 1 / 100 ≤ (dollars 100).amount.value := by
    rw [hvalue]
    norm_num
  have hbillion : (dollars 100).amount.value ≤ 10 ^ 9 := by
    rw [hvalue]
    norm_num
  refine ⟨hne, hsource, htarget, hcent, hbillion, ?_⟩
  have hthere : (dollars 100).convert .eur tripleEuro.exchange =
      .ok ⟨⟨33333333333333333333333333330, 27, by decide, by decide⟩, .eur⟩ := by decide +kernel
  have hback : Money.convert ⟨⟨33333333333333333333333333330, 27, by decide, by decide⟩, .eur⟩ .usd
      tripleEuro.exchange = .ok ⟨⟨9999999999999999999999999999, 26, by decide, by decide⟩, .usd⟩ := by decide +kernel
  obtain ⟨there, back, hthere', hback', -, hnear⟩ := convert_back_near hne hsource htarget hcent hbillion
  obtain rfl := Except.ok.inj (hthere.symm.trans hthere')
  obtain rfl := Except.ok.inj (hback.symm.trans hback')
  exact ⟨_, _, hthere, hback, rfl, rfl, hnear⟩

end Money
end Storefront

import Storefront.Proofs.Attempt
import Storefront.Proofs.Decimal.Product
import Storefront.Money.Exchange

/-! # Conversions

An amount is converted by one rounded quotient and one rounded product. The quotient is the same for all amounts of a
currency, and so conversion never changes their order. What it loses is a small fraction of the amount, of what comes of
it, and of one.
-/
namespace Storefront
open Attempt

theorem Exchange.positive_eq_ok_iff {e : Exchange} {c : Currency} {rate : Decimal} :
    e.positive c = .ok rate ↔ e.worth c = some rate ∧ rate.isPositive = true := by
  rw [positive, Attempt.ofOption_eq_ok_iff, Option.filter_eq_some_iff]

namespace Money
variable {e : Exchange} {m m' x x' y y' : Money} {target : Currency}

theorem convert_of_currency (h : m.currency = target) (hm : m.convert target e = .ok m') : m' = m := by
  rw [convert, if_pos h] at hm
  exact (Except.ok.inj hm).symm

/-- Into another currency an amount is converted by the quotient of what two units are worth. -/
theorem exists_rate_of_convert (hne : m.currency ≠ target) (h : m.convert target e = .ok m') :
    m'.currency = target ∧ ∃ source unit rate : Decimal, e.worth m.currency = some source ∧ 0 < source.value ∧
      e.worth target = some unit ∧ 0 < unit.value ∧ source.div unit = some rate ∧ m.amount.mul rate = some m'.amount := by
  rw [convert, if_neg hne] at h
  obtain ⟨rate, hrate, h⟩ := bind_eq_ok_iff.mp h
  obtain ⟨amount, hamount, h⟩ := bind_eq_ok_iff.mp h
  obtain ⟨source, hsource, hrate⟩ := bind_eq_ok_iff.mp hrate
  obtain ⟨unit, hunit, hrate⟩ := bind_eq_ok_iff.mp hrate
  obtain ⟨hsource, hsource_pos⟩ := Exchange.positive_eq_ok_iff.mp hsource
  obtain ⟨hunit, hunit_pos⟩ := Exchange.positive_eq_ok_iff.mp hunit
  obtain rfl : ⟨amount, target⟩ = m' := Except.ok.inj h
  exact ⟨rfl, source, unit, rate, hsource, Decimal.isPositive_iff.mp hsource_pos, hunit,
    Decimal.isPositive_iff.mp hunit_pos, ofOption_eq_ok_iff.mp hrate, ofOption_eq_ok_iff.mp hamount⟩

theorem currency_of_convert (h : m.convert target e = .ok m') : m'.currency = target := by
  by_cases hne : m.currency = target
  · rw [convert_of_currency hne h, hne]
  · exact (exists_rate_of_convert hne h).1

/-- Conversion keeps the order of the amounts of a currency. -/
theorem convert_mono (hcurrency : x.currency = y.currency) (hle : x.amount.value ≤ y.amount.value)
    (hx : x.convert target e = .ok x') (hy : y.convert target e = .ok y') : x'.amount.value ≤ y'.amount.value := by
  by_cases heq : x.currency = target
  · rwa [convert_of_currency heq hx, convert_of_currency (hcurrency ▸ heq) hy]
  · obtain ⟨-, source, unit, rate, hsource, hsource_pos, hunit, hunit_pos, hrate, hmul⟩ := exists_rate_of_convert heq hx
    obtain ⟨-, source', unit', rate', hsource', -, hunit', -, hrate', hmul'⟩ :=
      exists_rate_of_convert (hcurrency ▸ heq) hy
    -- both are multiplied by the same rate
    obtain rfl : source = source' := Option.some.inj (hsource.symm.trans (hcurrency ▸ hsource'))
    obtain rfl : unit = unit' := Option.some.inj (hunit.symm.trans hunit')
    obtain rfl : rate = rate' := Option.some.inj (hrate.symm.trans hrate')
    have hrate_nonneg := Decimal.div_value_nonneg hsource_pos.le hunit_pos.le hrate
    exact Decimal.mul_mono hmul hmul' (mul_le_mul_of_nonneg_right hle hrate_nonneg)

def tripleEuro : RateTable := (RateTable.ofMain .usd).set .eur (.ofUInt64 3)

def euros (n : UInt64) : Money := ⟨.ofUInt64 n, .eur⟩
def dollars (n : UInt64) : Money := ⟨.ofUInt64 n, .usd⟩

def fullEuros : Money := ⟨⟨79228162514264337593543950335, 28, by decide, by decide⟩, .eur⟩

def roundEuros : Money := ⟨⟨792281625142643375935439504, 26, by decide, by decide⟩, .eur⟩

/-- Three times the one has to be rounded, three times the other has not. -/
theorem convert_mono_limit :
    fullEuros.currency = roundEuros.currency ∧ fullEuros.amount.value ≤ roundEuros.amount.value ∧
      ∃ x y, fullEuros.convert .usd tripleEuro.exchange = .ok x ∧ roundEuros.convert .usd tripleEuro.exchange = .ok y ∧
        x.amount.coeff = 23768448754279301278063185100 ∧ y.amount.coeff = 2376844875427930127806318512 ∧
        x.amount.value ≤ y.amount.value := by
  have hcurrency : fullEuros.currency = roundEuros.currency := rfl
  have hle : fullEuros.amount.value ≤ roundEuros.amount.value := by
    norm_num [fullEuros, roundEuros, Decimal.value]
  have hx : fullEuros.convert .usd tripleEuro.exchange =
      .ok ⟨⟨23768448754279301278063185100, 27, by decide, by decide⟩, .usd⟩ := by decide +kernel
  have hy : roundEuros.convert .usd tripleEuro.exchange =
      .ok ⟨⟨2376844875427930127806318512, 26, by decide, by decide⟩, .usd⟩ := by decide +kernel
  exact ⟨hcurrency, hle, _, _, hx, hy, rfl, rfl, convert_mono hcurrency hle hx hy⟩

end Money
end Storefront

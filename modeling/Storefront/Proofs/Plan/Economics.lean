import Storefront.Proofs.Decimal.Relative
import Storefront.Proofs.Plan.Overflow

/-! # Prices under the terms of a plan

What a piece costs is its price without the deduction, and its share of the fee of an order that is filled up to the
limit. The price of an option is worked out in five steps, each of which is rounded. For terms and prices that are usual
it is the exact one up to one part in `10 ^ 15`.
-/
namespace Storefront
open Attempt Decimal

namespace Economics

/-- What a piece of this price costs under the terms. -/
def due (t : Economics) (price : ℚ) : ℚ :=
  match t.limit, t.extra with
  | some limit, some extra =>
    price / (1 + t.deduction.value) * (1 + extra.amount.value / limit.amount.value)
  | _, _ => price / (1 + t.deduction.value)

/-- Terms that are usual. A limit with a fee is in the main currency. -/
structure Usual (t : Economics) (main : Currency) : Prop where
  deduction_nonneg : 0 ≤ t.deduction.value
  deduction_le : t.deduction.value ≤ 10
  limit {limit extra : Money} (hlimit : t.limit = some limit) (hextra : t.extra = some extra) :
    limit.currency = main ∧ 1 ≤ limit.amount.value ∧ limit.amount.value ≤ 10 ^ 9
  extra {limit extra : Money} (hlimit : t.limit = some limit) (hextra : t.extra = some extra) :
    extra.currency = main ∧ 0 ≤ extra.amount.value ∧ extra.amount.value ≤ 10 ^ 9

end Economics

/-- Prices that are usual: from a cent to a billion. -/
def Decimal.UsualPrice (a : Decimal) : Prop := 1 / 100 ≤ a.value ∧ a.value ≤ 10 ^ 9

section
variable {d divisor a value limit extra : Decimal} {x : ℚ}

theorem exists_divisor (h0 : 0 ≤ d.value) (h10 : d.value ≤ 10) :
    ∃ divisor, one.add d = some divisor ∧ Near (1 / 10 ^ 28) divisor.value (1 + d.value) := by
  simpa only [value_one] using exists_add_near (a := one) (b := d) (by rw [value_one]; linarith)
    (by rw [value_one]; linarith)

theorem exists_deducted (h0 : 0 ≤ d.value) (h10 : d.value ≤ 10)
    (hdivisor : Near (1 / 10 ^ 28) divisor.value (1 + d.value)) (ha : a.UsualPrice) :
    ∃ value, a.div divisor = some value ∧ Near (1 / 10 ^ 23) value.value (a.value / (1 + d.value)) := by
  obtain ⟨hcent, hbillion⟩ := ha
  have hhalf := hdivisor.half_le (by norm_num) (by linarith)
  have htwice := hdivisor.le_two_mul (by norm_num) (by linarith)
  have hpos : 0 < divisor.value := by linarith
  obtain ⟨value, hvalue, hnear⟩ := exists_div_near (a := a) (b := divisor) (n := 10 ^ 4) (by norm_num) (by
    rw [div_le_div_iff₀ (by norm_num) hpos]
    linarith) (by
    rw [div_lt_iff₀ hpos]
    linarith)
  have hexact := hdivisor.div_left (a := a.value) (by linarith) (by norm_num) (by norm_num) (by linarith)
  refine ⟨value, hvalue, (hnear.trans hexact (by norm_num) (by norm_num) ?_).mono (by norm_num) ?_⟩ <;>
    exact div_nonneg (by linarith) (by linarith)

section
variable (hlimit : 1 ≤ limit.value) (hlimit' : limit.value ≤ 10 ^ 9) (hextra : 0 ≤ extra.value)
variable (hextra' : extra.value ≤ 10 ^ 9) (hx : 1 / 1100 ≤ x) (hx' : x ≤ 10 ^ 9)
variable (hvalue : Near (1 / 10 ^ 23) value.value x)
include hlimit hlimit' hextra hextra' hx hx' hvalue

/-- The share of a fee is right to a fraction of what it should be, and to one more unit of the last place. -/
theorem exists_share :
    ∃ share, PagePlan.feeShare limit extra value = some share ∧
      ∃ y, 0 ≤ y ∧ y ≤ 10 ^ 19 ∧ Near (2 / 10 ^ 17) y (extra.value / (limit.value / x)) ∧
        |share.value - y| ≤ (1 + y) / 10 ^ 28 := by
  have hhalf := hvalue.half_le (by norm_num) (by linarith)
  have htwice := hvalue.le_two_mul (by norm_num) (by linarith)
  have hpos : 0 < value.value := by linarith
  have hx0 : 0 < x := by linarith
  have hcount : 1 / 10 ^ 9 ≤ limit.value / x := by
    rw [div_le_div_iff₀ (by norm_num) hx0]
    linarith
  obtain ⟨pieces, hpieces, hnear⟩ := exists_div_near (a := limit) (b := value) (n := 10 ^ 10) (by norm_num) (by
    rw [div_le_div_iff₀ (by norm_num) hpos]
    linarith) (by
    rw [div_lt_iff₀ hpos]
    linarith)
  have hexact := hvalue.div_left (a := limit.value) (by linarith) (by norm_num) (by norm_num) hx0
  have hpieces_near : Near (1 / 10 ^ 17) pieces.value (limit.value / x) :=
    (hnear.trans hexact (by norm_num) (by norm_num) (by linarith)).mono (by norm_num) (by linarith)
  have hpieces_low := hpieces_near.half_le (by norm_num) (by linarith)
  have hpieces_pos : 0 < pieces.value := by linarith
  have hy0 : 0 ≤ extra.value / pieces.value := div_nonneg hextra hpieces_pos.le
  have hy : extra.value / pieces.value ≤ 10 ^ 19 := by
    rw [div_le_iff₀ hpieces_pos]
    linarith
  obtain ⟨share, hshare, herror, -⟩ := exists_div (a := extra) (b := pieces) hpieces_pos.ne' (by
    rw [abs_of_nonneg hy0]
    linarith)
  refine ⟨share, ?_, _, hy0, hy, ?_, by rwa [abs_of_nonneg hy0] at herror⟩
  · rw [PagePlan.feeShare, hpieces, Option.bind_some, hshare]
  · exact (hpieces_near.div_left hextra (by norm_num) (by norm_num) (by linarith)).mono (by norm_num)
      (div_nonneg hextra (by linarith))

theorem exists_shared :
    ∃ amount, (PagePlan.feeShare limit extra value).bind value.add = some amount ∧
      Near (1 / 10 ^ 15) amount.value (x * (1 + extra.value / limit.value)) := by
  obtain ⟨share, hshare, y, hy, hy', hshare_near, herror⟩ :=
    exists_share hlimit hlimit' hextra hextra' hx hx' hvalue
  have hhalf := hvalue.half_le (by norm_num) (by linarith)
  have htwice := hvalue.le_two_mul (by norm_num) (by linarith)
  have hx0 : 0 < x := by linarith
  have hfee : 0 ≤ extra.value / (limit.value / x) := div_nonneg hextra (div_nonneg (by linarith) hx0.le)
  have hdue : x + extra.value / (limit.value / x) = x * (1 + extra.value / limit.value) := by
    field_simp
  have hexact : Near (2 / 10 ^ 17) (value.value + y) (x + extra.value / (limit.value / x)) :=
    (hvalue.mono (by norm_num) hx0.le).add hshare_near
  -- the unit of the last place is a small fraction of the price
  have hsum : Near (1 / 10 ^ 20) (value.value + share.value) (value.value + y) := by
    rw [Near, add_sub_add_left_eq_sub]
    linarith
  have herror' := abs_le.mp herror
  obtain ⟨amount, hamount, hnear⟩ := exists_add_near (a := value) (b := share) (by linarith) (by linarith)
  refine ⟨amount, by rw [hshare, Option.bind_some, hamount], ?_⟩
  rw [← hdue]
  exact ((hnear.trans hsum (by norm_num) (by norm_num) (by linarith)).trans hexact (by norm_num) (by norm_num)
    (by linarith)).mono (by norm_num) (by linarith)

end

end

namespace PagePlan
variable {t : Economics} {main : Currency} {e : Exchange} {a value divisor : Decimal} {limit extra : Option Money}

theorem convertOption_of_currency {m : Money} (h : m.currency = main) :
    convertOption (some m) main e = .ok (some m) := by
  rw [convertOption, Money.convert, if_pos h]
  rfl

theorem exists_withFee (ht : t.Usual main) (ha : a.UsualPrice) (hlimit : convertOption t.limit main e = .ok limit)
    (hextra : convertOption t.extra main e = .ok extra)
    (hvalue : Near (1 / 10 ^ 23) value.value (a.value / (1 + t.deduction.value))) :
    ∃ amount, withFee limit extra value = .ok amount ∧ Near (1 / 10 ^ 15) amount.value (t.due a.value) := by
  obtain ⟨hcent, hbillion⟩ := ha
  have hd := ht.deduction_nonneg
  have hd' := ht.deduction_le
  have hx : 1 / 1100 ≤ a.value / (1 + t.deduction.value) := by
    rw [div_le_div_iff₀ (by norm_num) (by linarith)]
    linarith
  have hx' : a.value / (1 + t.deduction.value) ≤ 10 ^ 9 := by
    rw [div_le_iff₀ (by linarith)]
    linarith
  have hplain : Near (1 / 10 ^ 15) value.value (a.value / (1 + t.deduction.value)) :=
    hvalue.mono (by norm_num) (by linarith)
  cases hl : t.limit with
  | none =>
    rw [hl] at hlimit
    obtain rfl := Except.ok.inj hlimit
    exact ⟨value, rfl, by simpa only [Economics.due, hl] using hplain⟩
  | some l =>
    cases hf : t.extra with
    | none =>
      rw [hf] at hextra
      obtain rfl := Except.ok.inj hextra
      exact ⟨value, by cases limit <;> rfl, by simpa only [Economics.due, hl, hf] using hplain⟩
    | some fee =>
      obtain ⟨hlc, hl1, hl9⟩ := ht.limit hl hf
      obtain ⟨hfc, hf0, hf9⟩ := ht.extra hl hf
      rw [hl, convertOption_of_currency hlc] at hlimit
      rw [hf, convertOption_of_currency hfc] at hextra
      obtain rfl := Except.ok.inj hlimit
      obtain rfl := Except.ok.inj hextra
      have hpositive : (l.amount.isPositive && value.isPositive) = true := by
        rw [Bool.and_eq_true, isPositive_iff, isPositive_iff]
        have := hvalue.half_le (by norm_num) (by linarith)
        constructor <;> linarith
      obtain ⟨amount, hamount, hnear⟩ := exists_shared hl1 hl9 hf0 hf9 hx hx' hvalue
      refine ⟨amount, ?_, by simpa only [Economics.due, hl, hf] using hnear⟩
      rw [withFee, if_pos hpositive, hamount]
      rfl

/-- The price that a plan with usual terms gives for each usual price. -/
theorem exists_normalizeOption {p : PagePlan} (ht : p.economics.Usual main)
    (hdivisor : Near (1 / 10 ^ 28) divisor.value (1 + p.economics.deduction.value))
    (hlimit : convertOption p.economics.limit main e = .ok limit)
    (hextra : convertOption p.economics.extra main e = .ok extra) (ha : a.UsualPrice) :
    ∃ amount : Decimal, Near (1 / 10 ^ 15) amount.value (p.economics.due a.value) ∧
      ∀ v : Variant, v.price = ⟨a, main⟩ →
        p.normalizeOption divisor limit extra main e v = .ok { v with price := ⟨amount, main⟩ } := by
  obtain ⟨value, hvalue, hvalue_near⟩ := exists_deducted ht.deduction_nonneg ht.deduction_le hdivisor ha
  obtain ⟨amount, hamount, hnear⟩ := exists_withFee ht ha hlimit hextra hvalue_near
  refine ⟨amount, hnear, fun v hv => ?_⟩
  rw [normalizeOption, hv, Money.convert, if_pos rfl, ok_bind, hvalue]
  simp only [ofOption, ok_bind, hamount]
  rfl

/-- Under usual terms a page of usual prices keeps all but its prices, and each price becomes what is due for it up to
one part in `10 ^ 15`, whatever else is on the page. -/
theorem normalize_near_due (p : PagePlan) (main : Currency) (e : Exchange) (ht : p.economics.Usual main)
    (hconvert : ∀ m, p.economics.limit = some m ∨ p.economics.extra = some m → ∃ m', m.convert main e = .ok m') :
    ∃ price : Decimal → Decimal,
      (∀ a : Decimal, a.UsualPrice →
        |(price a).value - p.economics.due a.value| ≤ 1 / 10 ^ 15 * p.economics.due a.value) ∧
      ∀ page : Page, (∀ v ∈ page.options, v.price.currency = main ∧ v.price.amount.UsualPrice) →
        p.normalize page main e = .ok { page with
          options := page.options.map fun v => { v with price := ⟨price v.price.amount, main⟩ } } := by
  obtain ⟨divisor, hdivisor, hdivisor_near⟩ := exists_divisor ht.deduction_nonneg ht.deduction_le
  obtain ⟨limit, hlimit⟩ := exists_convertOption fun m hm => hconvert m (.inl hm)
  obtain ⟨extra, hextra⟩ := exists_convertOption fun m hm => hconvert m (.inr hm)
  choose! price hnear hoption using fun (a : Decimal) (ha : a.UsualPrice) =>
    exists_normalizeOption ht hdivisor_near hlimit hextra ha
  refine ⟨price, hnear, fun page hpage => ?_⟩
  have hoptions : page.options.mapM (p.normalizeOption divisor limit extra main e) =
      .ok (page.options.map fun v => { v with price := ⟨price v.price.amount, main⟩ }) := by
    rw [mapM_eq_ok_iff, List.forall₂_map_right_iff, List.forall₂_same]
    intro v hv
    obtain ⟨hcurrency, ha⟩ := hpage v hv
    exact hoption _ ha v (by rw [← hcurrency])
  simp only [normalize, hdivisor, ofOption, hlimit, hextra, hoptions, ok_bind]
  rfl

def shipping : Economics where
  deduction := ⟨1, 1, one.coeff_lt, one_le_maxScale⟩
  limit := some ⟨.ofUInt64 100, .usd⟩
  extra := some ⟨.ofUInt64 7, .usd⟩

theorem usual_shipping : shipping.Usual .usd where
  deduction_nonneg := by norm_num [shipping, value]
  deduction_le := by norm_num [shipping, value]
  limit hlimit _ := by
    obtain rfl := Option.some.inj hlimit
    norm_num [value_ofUInt64, show (100 : UInt64).toNat = 100 from rfl]
  extra _ hextra := by
    obtain rfl := Option.some.inj hextra
    norm_num [value_ofUInt64, show (7 : UInt64).toNat = 7 from rfl]

theorem normalize_near_due_chairs :
    (chairs shipping).economics.Usual .usd ∧
    (∀ m, (chairs shipping).economics.limit = some m ∨ (chairs shipping).economics.extra = some m →
      ∃ m', m.convert .usd (RateTable.ofMain .usd).exchange = .ok m') ∧
    ∃ amount : Decimal, |amount.value - 321 / 11| ≤ 1 / 10 ^ 15 * (321 / 11) ∧
      (chairs shipping).normalize (chair ⟨⟨30, 0, by decide, by decide⟩, .usd⟩) .usd
        (RateTable.ofMain .usd).exchange = .ok (chair ⟨amount, .usd⟩) := by
  have hconvert : ∀ m, (chairs shipping).economics.limit = some m ∨ (chairs shipping).economics.extra = some m →
      ∃ m', m.convert .usd (RateTable.ofMain .usd).exchange = .ok m' := by
    rintro m (hm | hm) <;> obtain rfl := Option.some.inj hm <;> exact ⟨_, rfl⟩
  refine ⟨usual_shipping, hconvert, ?_⟩
  obtain ⟨price, hnear, hpage⟩ :=
    normalize_near_due (chairs shipping) .usd (RateTable.ofMain .usd).exchange usual_shipping hconvert
  have husual : UsualPrice ⟨30, 0, by decide, by decide⟩ := by
    constructor <;> norm_num [value]
  have hdue : (chairs shipping).economics.due (Decimal.mk 30 0 (by decide) (by decide)).value = 321 / 11 := by
    simp only [Economics.due, chairs, shipping, value_ofUInt64, UInt64.reduceToNat]
    norm_num [value]
  exact ⟨_, hdue ▸ hnear _ husual, hpage (chair _) (by simpa [chair] using husual)⟩

def limited : Economics where
  limit := some ⟨.ofUInt64 100, .eur⟩

theorem usual_limited : limited.Usual .usd where
  deduction_nonneg := by simp [limited]
  deduction_le := by simp [limited]
  limit _ hextra := absurd hextra (Option.some_ne_none _).symm
  extra _ hextra := absurd hextra (Option.some_ne_none _).symm

/-- A limit alone has no effect on a price, but it is converted all the same. -/
theorem lone_limit_needs_rate :
    (chairs limited).normalize (chair ⟨⟨10, 0, by decide, by decide⟩, .usd⟩) .usd (RateTable.ofMain .usd).exchange =
      .error (.rateUnavailable .eur .notInTable) ∧
    ¬ ∀ (p : PagePlan) (page : Page) (main : Currency) (t : RateTable), p.economics.Usual main →
      (∀ v ∈ page.options, v.price.currency = main ∧ v.price.amount.UsualPrice) →
        ∃ page', p.normalize page main t.exchange = .ok page' := by
  have hfails : (chairs limited).normalize (chair ⟨⟨10, 0, by decide, by decide⟩, .usd⟩) .usd
      (RateTable.ofMain .usd).exchange = .error (.rateUnavailable .eur .notInTable) := by
    decide +kernel
  refine ⟨hfails, fun h => ?_⟩
  obtain ⟨page, hpage⟩ := h (chairs limited) (chair ⟨⟨10, 0, by decide, by decide⟩, .usd⟩) .usd (RateTable.ofMain .usd)
    usual_limited (by norm_num [chair, UsualPrice, value])
  exact of_error_eq_ok (hfails.symm.trans hpage)

end PagePlan

end Storefront

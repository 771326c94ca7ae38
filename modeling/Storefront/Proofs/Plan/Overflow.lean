import Storefront.Proofs.Decimal.Range
import Storefront.Proofs.Plan.Faults

/-! # Prices that the terms of a plan make too large

A price is divided by one and the deduction. For a quotient that is too large the plan is blamed as if it left nothing
to divide by, and the sum of one and the deduction is not checked. Both can happen for some deductions only: for those
that make prices grow and for the largest one.
-/
namespace Storefront

namespace Decimal
variable {a d divisor : Decimal}

theorem one_add_eq_none_iff : one.add d = none ↔ d.value = 2 ^ 96 - 1 := by
  rw [add_eq_none_iff, value_one, InRange, not_lt]
  constructor
  · intro hlarge
    have hscale : d.scale = 0 := by
      by_contra hpos
      have hten : (10 : ℚ) ≤ 10 ^ d.scale := le_self_pow₀ (by norm_num) hpos
      have hsmall := d.abs_value_le.trans (div_le_div_of_nonneg_left (by norm_num) (by norm_num) hten)
      have hone := abs_add_le 1 d.value
      rw [abs_one] at hone
      linarith
    have hwhole : d.value = d.coeff := by rw [value, hscale, pow_zero, div_one]
    have hcoeff : d.coeff.natAbs < 2 ^ 96 := d.coeff_lt
    rw [hwhole] at hlarge ⊢
    by_contra hne
    have hle : d.coeff ≤ 2 ^ 96 - 2 := by
      have : d.coeff ≠ 2 ^ 96 - 1 := by exact_mod_cast hne
      omega
    have hge : -(2 ^ 96) ≤ d.coeff := by omega
    have hle : (d.coeff : ℚ) ≤ 2 ^ 96 - 2 := by exact_mod_cast hle
    have hge : -(2 ^ 96) ≤ (d.coeff : ℚ) := by exact_mod_cast hge
    rcases le_abs.mp hlarge with h | h <;> linarith
  · intro h
    rw [h]
    norm_num

theorem inRange_div {x : ℚ} (a : Decimal) (hx : 1 ≤ |x|) : InRange (a.value / x) := by
  rw [InRange, abs_div]
  exact (div_le_self (abs_nonneg _) hx).trans_lt a.inRange_value

/-- A divisor that is rounded is so far from zero that no quotient by it is out of range. -/
theorem div_one_add_eq_none_iff (hd : d.value ≠ -1) (h : one.add d = some divisor) :
    a.div divisor = none ↔ ¬ InRange (a.value / (1 + d.value)) := by
  have hne : 1 + d.value ≠ 0 := fun hzero => hd (by linarith)
  rcases add_eq_or_full h with hexact | ⟨hscale, hfull, -⟩
  · rw [value_one] at hexact
    rw [← hexact, div_eq_none_iff (hexact ▸ hne)]
  · have hnear := add_near h
    rw [value_one] at hfull hnear
    have hlarge : 2 ≤ |1 + d.value| := by
      have hpow : (10 : ℚ) ^ (divisor.scale + 1) ≤ 10 ^ 28 :=
        pow_le_pow_right₀ (by norm_num) (hscale.trans_le (max_le one.scale_le d.scale_le))
      have := mul_le_mul_of_nonneg_left hpow (abs_nonneg (1 + d.value))
      linarith
    have hdivisor : 1 ≤ |divisor.value| := by
      have := abs_sub_abs_le_abs_sub (1 + d.value) divisor.value
      rw [abs_sub_comm] at this
      linarith
    rw [div_eq_none_iff (abs_pos.mp (by linarith))]
    exact not_congr (iff_of_true (a.inRange_div hdivisor) (a.inRange_div (by linarith)))

theorem one_le_maxScale : 1 ≤ maxScale := by decide

/-- The largest decimal. -/
def largest : Decimal := ⟨limit - 1, 0, by decide, zero.scale_le⟩

theorem value_largest : largest.value = 2 ^ 96 - 1 := by
  norm_num [value, largest, limit, pow2]

/-- A divisor below one is at most `1 - 1 / 10 ^ 28`, and so the largest decimal has no quotient by it. -/
theorem div_largest_eq_none (h : |d.value| < 1) : largest.div d = none := by
  by_cases hd : d.value = 0
  · rw [div, if_pos (isZero_iff.mpr hd)]
  have hwhole := abs_value_mul_pow d.scale_le
  have hle : |d.value| * 10 ^ 28 ≤ 10 ^ 28 - 1 := by
    rw [hwhole]
    have hlt : d.coeff.natAbs * 10 ^ (28 - d.scale) < 10 ^ 28 := by
      have : ((d.coeff.natAbs * 10 ^ (28 - d.scale) : ℕ) : ℚ) < ((10 ^ 28 : ℕ) : ℚ) := by
        rw [← hwhole]
        push_cast
        linarith
      exact Nat.cast_lt.mp this
    have : ((d.coeff.natAbs * 10 ^ (28 - d.scale) + 1 : ℕ) : ℚ) ≤ ((10 ^ 28 : ℕ) : ℚ) := Nat.cast_le.mpr hlt
    push_cast at this ⊢
    linarith
  rw [div_eq_none_iff hd, InRange, not_lt, value_largest, abs_div, le_div_iff₀ (abs_pos.mpr hd)]
  norm_num
  linarith

end Decimal

open Attempt Decimal

def Exchange.par : Exchange := ⟨fun _ => some one, .notInTable⟩

theorem Money.exists_convert_par (m : Money) (c : Currency) : ∃ m', m.convert c .par = .ok m' := by
  unfold convert
  split
  · exact ⟨m, rfl⟩
  · have hrate : Exchange.par.rate c m.currency = .ok one := rfl
    cases hmul : m.amount.mul one with
    | none =>
      rw [mul_eq_none_iff, value_one, mul_one] at hmul
      exact absurd m.amount.inRange_value hmul
    | some amount =>
      refine ⟨⟨amount, c⟩, ?_⟩
      rw [hrate, ok_bind, hmul]
      rfl

namespace PagePlan
variable {p : PagePlan} {page : Page} {main : Currency} {e : Exchange}

theorem normalize_fails_of_inRange (hd : p.economics.deduction.value ≠ -1)
    (hlargest : p.economics.deduction.value ≠ 2 ^ 96 - 1)
    (hrange : ∀ v ∈ page.options, ∀ m, v.price.convert main e = .ok m →
      InRange (m.amount.value / (1 + p.economics.deduction.value))) :
    FailsWith (PriceFault e.Lacks) (p.normalize page main e) := by
  refine (normalize_fails fun _ _ hlacks => hlacks).mono fun f hf => ?_
  cases hf with
  | price h => exact h
  | divisor h => exact absurd (one_add_eq_none_iff.mp h) hlargest
  | quotient hdivisor hv hm h => exact absurd (hrange _ hv _ hm) ((div_one_add_eq_none_iff hd hdivisor).mp h)

theorem normalize_of_largest (h : p.economics.deduction.value = 2 ^ 96 - 1) (page : Page) (main : Currency)
    (e : Exchange) : p.normalize page main e = .error .outOfRange := by
  rw [normalize, one_add_eq_none_iff.mpr h]
  rfl

theorem exists_convertOption {m : Option Money} (h : ∀ money, m = some money → ∃ m', money.convert main e = .ok m') :
    ∃ converted, convertOption m main e = .ok converted := by
  cases m with
  | none => exact ⟨none, rfl⟩
  | some money =>
    obtain ⟨m', hm'⟩ := h money rfl
    exact ⟨some m', by rw [convertOption, hm']; rfl⟩

theorem normalize_of_div_eq_none {v : Variant} {divisor : Decimal}
    (hdivisor : one.add p.economics.deduction = some divisor) (hdiv : v.price.amount.div divisor = none) :
    p.normalize { title := "", options := [v] } v.price.currency .par =
      .error (.misconfigured (.nothingLeft p.name p.economics.deduction)) := by
  have hterm (m : Option Money) : ∃ m', convertOption m v.price.currency .par = .ok m' :=
    exists_convertOption fun money _ => money.exists_convert_par v.price.currency
  obtain ⟨limit, hlimit⟩ := hterm p.economics.limit
  obtain ⟨extra, hextra⟩ := hterm p.economics.extra
  have hoption : p.normalizeOption divisor limit extra v.price.currency .par v =
      .error (.misconfigured (.nothingLeft p.name p.economics.deduction)) := by
    rw [normalizeOption, Money.convert, if_pos rfl, ok_bind, hdiv]
    rfl
  simp only [normalize, hdivisor, hlimit, hextra, ofOption, ok_bind, List.mapM_cons, hoption]
  rfl

/-- Nothing but the prices ever fails just when the deduction is not the largest decimal and does not make prices grow.
Where it makes them grow, nothing else fails as long as no price grows out of range. -/
theorem normalize_fails_iff (p : PagePlan) (hd : p.economics.deduction.value ≠ -1) :
    ((∀ page main e, FailsWith (PriceFault e.Lacks) (p.normalize page main e)) ↔
      p.economics.deduction.value ≠ 2 ^ 96 - 1 ∧
        (0 ≤ p.economics.deduction.value ∨ p.economics.deduction.value ≤ -2)) ∧
    (p.economics.deduction.value ≠ 2 ^ 96 - 1 → ∀ page main e,
      (∀ v ∈ page.options, ∀ m, v.price.convert main e = .ok m →
        InRange (m.amount.value / (1 + p.economics.deduction.value))) →
      FailsWith (PriceFault e.Lacks) (p.normalize page main e)) := by
  refine ⟨⟨fun h => ⟨fun hlargest => ?_, ?_⟩, fun ⟨hlargest, hgrow⟩ page main e => ?_⟩,
    fun hlargest page main e hrange => normalize_fails_of_inRange hd hlargest hrange⟩
  · exact (h { title := "" } .usd .par _ (normalize_of_largest hlargest _ _ _)).ne_outOfRange rfl
  · by_contra! hbetween
    have hlt : |1 + p.economics.deduction.value| < 1 := by
      rw [abs_lt]
      constructor <;> linarith
    obtain ⟨divisor, hdivisor, hvalue, -⟩ := exists_add (k := 28) one.scale_le p.economics.deduction.scale_le (by
      rw [value_one]
      linarith)
    rw [value_one] at hvalue
    have hblamed := normalize_of_div_eq_none (v := { price := ⟨largest, .usd⟩ }) hdivisor
      (div_largest_eq_none (hvalue ▸ hlt))
    exact (h _ _ _ _ hblamed).ne_misconfigured _ rfl
  · refine normalize_fails_of_inRange hd hlargest fun v hv m hm => m.amount.inRange_div ?_
    rcases hgrow with h | h
    · exact (show 1 ≤ 1 + p.economics.deduction.value by linarith).trans (le_abs_self _)
    · exact (show 1 ≤ -(1 + p.economics.deduction.value) by linarith).trans (neg_le_abs _)

def chairs (economics : Economics) : PagePlan where
  id := none
  name := "Chairs"
  domain := { scheme := "https".toList, authority := some { host := .name "a.test".toList }, path := ['/'] }
  title := Rule.css "title"
  economics := economics

def chair (price : Money) : Page := { title := "Chair", options := [{ price }] }

theorem normalize_fails_iff_chairs :
    (chairs { deduction := ⟨1, 1, by decide, by decide⟩ }).economics.deduction.value ≠ -1 ∧
      ∀ page main e, FailsWith (PriceFault e.Lacks)
        ((chairs { deduction := ⟨1, 1, by decide, by decide⟩ }).normalize page main e) := by
  have hvalue : (chairs { deduction := ⟨1, 1, by decide, by decide⟩ }).economics.deduction.value = 1 / 10 := by
    norm_num [chairs, value]
  have hd : (chairs { deduction := ⟨1, 1, by decide, by decide⟩ }).economics.deduction.value ≠ -1 := by
    norm_num [hvalue]
  exact ⟨hd, (normalize_fails_iff _ hd).1.mpr (by norm_num [hvalue])⟩

def doubling : Decimal := ⟨-5, 1, by decide, one_le_maxScale⟩

/-- A plan that doubles prices is blamed for one that is too large to be doubled, and a deduction that fills the range
breaks the reading of a page without any prices. -/
theorem doubled_chair_blames_plan :
    (chairs { deduction := doubling }).normalize
        (chair ⟨⟨50000000000000000000000000000, 0, by decide, by decide⟩, .usd⟩) .usd (RateTable.ofMain .usd).exchange =
      .error (.misconfigured (.nothingLeft "Chairs" doubling)) ∧
    (chairs { deduction := largest }).normalize { title := "Chair" } .usd (RateTable.ofMain .usd).exchange =
      .error .outOfRange ∧
    ¬ ∀ (p : PagePlan) (page : Page) (main : Currency) (t : RateTable), p.economics.deduction.value ≠ -1 →
      FailsWith (PriceFault t.exchange.Lacks) (p.normalize page main t.exchange) := by
  have hblamed : (chairs { deduction := doubling }).normalize
      (chair ⟨⟨50000000000000000000000000000, 0, by decide, by decide⟩, .usd⟩) .usd (RateTable.ofMain .usd).exchange =
        .error (.misconfigured (.nothingLeft "Chairs" doubling)) := by
    decide +kernel
  refine ⟨hblamed, by decide +kernel, fun h => ?_⟩
  exact (h _ _ _ (RateTable.ofMain .usd) (by norm_num [chairs, doubling, value]) _ hblamed).ne_misconfigured _ rfl

end PagePlan

end Storefront

import Storefront.Proofs.Decimal.Sign
import Storefront.Proofs.Plan.Prices

/-! # Prices that are positive

A price of its own is positive. A difference is not checked, and neither is what becomes of it when the default price
is added. So a page has a price that is not positive just when a difference takes the whole default price away.
-/
namespace Storefront.PagePlan
variable {p : PagePlan} {doc : Fragment} {e : Exchange} {v w : Variant} {vs ws ds : List Variant}

/-- Whether a difference leaves something of the default price, in the currency of the difference. -/
def Leaves (base : Money) (e : Exchange) (v : Variant) : Prop :=
  ∃ converted, base.convert v.price.currency e = .ok converted ∧
    0 < v.price.amount.value + converted.amount.value

theorem Raises.positive_iff {base : Money} (h : Raises base e v w) :
    Leaves base e v ↔ 0 < w.price.amount.value := by
  obtain ⟨converted, amount, hconverted, hadd, rfl⟩ := h
  rw [← Decimal.isPositive_iff, Decimal.isPositive_add hadd]
  constructor
  · rintro ⟨converted', hconverted', hpositive⟩
    obtain rfl := Except.ok.inj (hconverted.symm.trans hconverted')
    exact hpositive
  · exact fun hpositive => ⟨converted, hconverted, hpositive⟩

theorem positive_of_listed (hp : p.priceMode = .standalone) (h : p.listedOptions doc = .ok vs) :
    ∀ v ∈ vs, 0 < v.price.amount.value := by
  intro v hv
  obtain ⟨plan, f, -, hf⟩ := exists_parseOption h hv
  rw [parseOption_standalone hp] at hf
  exact Decimal.isPositive_iff.mp ((VariantPlan.price_of_parseWith hf).2 rfl)

theorem DefaultPart.positive (h : p.DefaultPart doc ws ds) : ∀ d ∈ ds, 0 < d.price.amount.value := by
  cases h with
  | kept _ hlabelled =>
    obtain ⟨_, -, -, hpositive⟩ := hlabelled.price
    simpa using Decimal.isPositive_iff.mp hpositive
  | dropped => simp

/-- With a default price, all prices of a page are positive just when they stand alone or every difference leaves
something of the default price. -/
theorem prices_positive_iff (p : PagePlan) (markup : List Char) (e : Exchange) (page : Page)
    (hm : p.defaultMode ≠ .ignore) (h : p.extract markup e = .ok page) :
    ∃ doc vs base, p.Reads markup doc ∧ p.listedOptions doc = .ok vs ∧ p.Labelled doc base ∧
      ((∀ w ∈ page.options, 0 < w.price.amount.value) ↔
        p.priceMode = .standalone ∨ ∀ v ∈ vs, Leaves base.price e v) := by
  obtain ⟨doc, _, vs, options, hreads, -, hlisted, hmerge, rfl⟩ := extract_eq_ok_iff.mp h
  obtain ⟨hlabelled, ws, ds, hquoted, hdefault, rfl⟩ := mergeDefault_eq_ok_iff.mp hmerge
  obtain ⟨base, hbase⟩ := hlabelled hm
  refine ⟨doc, vs, base, hreads, hlisted, hbase, ?_⟩
  rw [List.forall_mem_append, and_iff_left hdefault.positive]
  cases hquoted with
  | plain hplain =>
    have hp : p.priceMode = .standalone := hplain.resolve_right hm
    exact iff_of_true (positive_of_listed hp hlisted) (.inl hp)
  | raised hp _ hbase' all =>
    obtain rfl := hbase.unique hbase'
    have hraised := forall_mem_iff_of_forall₂ (fun v w hvw => hvw.positive_iff) all
    rw [← hraised, or_iff_right (by simp [hp])]

def discountedSizes : List Char :=
  "<title>Shoes</title><i>100</i><p><b>-60</b><p><b>-50</b><p><b>20</b>".toList

theorem prices_positive_iff_discountedSizes :
    (sizes .alongside .additive).defaultMode ≠ .ignore ∧
    ∃ page, (sizes .alongside .additive).extract discountedSizes twoDollars = .ok page ∧
      ∃ doc vs base, (sizes .alongside .additive).Reads discountedSizes doc ∧
        (sizes .alongside .additive).listedOptions doc = .ok vs ∧
        (sizes .alongside .additive).Labelled doc base ∧
        ((∀ w ∈ page.options, 0 < w.price.amount.value) ↔
          (sizes .alongside .additive).priceMode = .standalone ∨ ∀ v ∈ vs, Leaves base.price twoDollars v) := by
  have hm : (sizes .alongside .additive).defaultMode ≠ .ignore := by decide
  have read : ((sizes .alongside .additive).extract discountedSizes twoDollars).toOption.isSome = true := by
    decide +kernel
  cases h : (sizes .alongside .additive).extract discountedSizes twoDollars with
  | error failure => simp [h, Except.toOption] at read
  | ok page =>
    exact ⟨hm, page, rfl, prices_positive_iff (sizes .alongside .additive) discountedSizes twoDollars page hm h⟩

theorem discounted_size_is_negative :
    (sizes .alongside .additive).defaultMode ≠ .ignore ∧
    (∀ entry ∈ ((RateTable.ofMain .usd).set .eur Decimal.two).rates, 0 < entry.2.value) ∧
    ∃ page, (sizes .alongside .additive).extract discountedSizes
        ((RateTable.ofMain .usd).set .eur Decimal.two).exchange = .ok page ∧
      page.options.map (·.price.amount.toText) =
        ["-10.00".toList, "0.00".toList, "70.00".toList, "100".toList] ∧
      ∃ v ∈ page.options, v.price.amount.value < 0 := by
  have prices : ((sizes .alongside .additive).extract discountedSizes twoDollars).toOption.any
      (fun page => page.options.map (·.price.amount.toText) =
        ["-10.00".toList, "0.00".toList, "70.00".toList, "100".toList] ∧
        page.options.any fun v => v.price.amount.isNegative) = true := by decide +kernel
  refine ⟨by decide, by simp [RateTable.ofMain, RateTable.set], ?_⟩
  cases h : (sizes .alongside .additive).extract discountedSizes twoDollars with
  | error failure => simp [h, Except.toOption] at prices
  | ok page =>
    simp only [h, Except.toOption, Option.any_some, decide_eq_true_eq, List.any_eq_true] at prices
    obtain ⟨htexts, v, hv, hnegative⟩ := prices
    exact ⟨page, h, htexts, v, hv, Decimal.isNegative_iff.mp hnegative⟩

end Storefront.PagePlan

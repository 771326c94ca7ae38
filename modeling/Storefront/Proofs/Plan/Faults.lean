import Storefront.Proofs.Plan.Prices

/-! # How the reading of a page can fail

A page that has been fetched is read by the rules of its plan, and its prices are converted. All that can fail is a
rule, a price, or a conversion. A conversion is from or to a currency that the plan declares, or to the main one.
-/
namespace Storefront
open Attempt

/-- The faults of reading where some currencies may lack a rate. -/
inductive ReadFault (lacking : Currency → Prop) : Failure → Prop
  | misconfigured (cause : Misconfiguration) : ReadFault lacking (.misconfigured cause)
  | selectorNotFound (query context : String) : ReadFault lacking (.selectorNotFound query context)
  | noResults (query : String) : ReadFault lacking (.noResults query)
  | invalidPrice (raw : String) : ReadFault lacking (.invalidPrice raw)
  | overflow (computation : Computation) : ReadFault lacking (.overflow computation)
  | rateUnavailable {c : Currency} (h : lacking c) (problem : RateProblem) :
      ReadFault lacking (.rateUnavailable c problem)
  | outOfRange : ReadFault lacking .outOfRange

theorem RuleFault.readFault {lacking : Currency → Prop} {f : Failure} (h : RuleFault f) : ReadFault lacking f := by
  cases h with
  | misconfigured cause => exact .misconfigured cause
  | selectorNotFound query context => exact .selectorNotFound query context
  | noResults query => exact .noResults query

/-- The faults of prices: one that is too large, and one in a currency that lacks a rate. -/
inductive PriceFault (lacking : Currency → Prop) : Failure → Prop
  | overflow (computation : Computation) : PriceFault lacking (.overflow computation)
  | rateUnavailable {c : Currency} (h : lacking c) (problem : RateProblem) :
      PriceFault lacking (.rateUnavailable c problem)

theorem PriceFault.readFault {lacking : Currency → Prop} {f : Failure} (h : PriceFault lacking f) :
    ReadFault lacking f := by
  cases h with
  | overflow computation => exact .overflow computation
  | rateUnavailable h problem => exact .rateUnavailable h problem

theorem PriceFault.ne_outOfRange {lacking : Currency → Prop} {f : Failure} (h : PriceFault lacking f) :
    f ≠ .outOfRange := by
  rintro rfl
  cases h

theorem PriceFault.ne_misconfigured {lacking : Currency → Prop} {f : Failure} (h : PriceFault lacking f)
    (cause : Misconfiguration) : f ≠ .misconfigured cause := by
  rintro rfl
  cases h

def Exchange.Lacks (e : Exchange) (c : Currency) : Prop := (e.worth c).filter Decimal.isPositive = none

variable {lacking : Currency → Prop}

theorem VariantPlan.parseWith_fails (strict : Bool) (p : VariantPlan) (f : Fragment) :
    FailsWith (ReadFault lacking) (p.parseWith strict f) := by
  have hoptional (rule : Option Rule) : FailsWith (ReadFault lacking) (optionalField rule f) :=
    (optionalField_fails rule f).mono fun _ => RuleFault.readFault
  refine ((p.price.extract_fails f).mono fun _ => RuleFault.readFault).bind fun raw => ?_
  dsimp only
  split
  · exact failsWith_error (.invalidPrice _)
  · refine (hoptional p.code).bind fun _ => (hoptional p.propertyA).bind fun _ => (hoptional p.propertyB).bind fun _ =>
      (hoptional p.propertyC).bind fun _ => (hoptional p.stock).bind fun _ => failsWith_ok _

theorem Money.convert_fails {m : Money} {target : Currency} {e : Exchange}
    (hlacks : ∀ c, c = target ∨ c = m.currency → e.Lacks c → lacking c) :
    FailsWith (PriceFault lacking) (m.convert target e) := by
  have hpositive {c : Currency} (hc : c = target ∨ c = m.currency) : FailsWith (PriceFault lacking) (e.positive c) := by
    intro f hf
    obtain ⟨hnone, rfl⟩ := ofOption_eq_error_iff.mp hf
    exact .rateUnavailable (hlacks c hc hnone) _
  have hrate : FailsWith (PriceFault lacking) (e.rate target m.currency) :=
    (hpositive (.inr rfl)).bind fun _ => (hpositive (.inl rfl)).bind fun _ => failsWith_ofOption (.overflow _) _
  unfold convert
  split
  · exact failsWith_ok _
  · exact hrate.bind fun _ => (failsWith_ofOption (.overflow _) _).bind fun _ => failsWith_ok _

namespace PagePlan
variable (p : PagePlan)

theorem readOptions_fails {parse : Fragment → Attempt Variant} (hparse : ∀ f, FailsWith (ReadFault lacking) (parse f))
    (fs : List Fragment) : ∀ failure, (readOptions parse fs).2 = some failure → ReadFault lacking failure := by
  induction fs with
  | nil => simp [readOptions]
  | cons f rest ih =>
    unfold readOptions
    split
    · exact ih
    · exact ih
    · rename_i failure hother hfailure
      intro failure' heq
      cases heq
      exact hparse f failure hfailure

theorem collect_fails (doc : Fragment) : ∀ failure, (p.collect doc).2 = some failure → ReadFault lacking failure := by
  have hparse (plan : VariantPlan) (f : Fragment) : FailsWith (ReadFault lacking) (p.parseOption plan f) := by
    unfold parseOption
    split
    · exact plan.parseWith_fails true f
    · exact plan.parseWith_fails false f
  unfold collect
  split
  · rename_i list plan _ _
    have hfragments : FailsWith RuleFault (fragments list doc) := by
      unfold fragments
      split
      · exact (list.strings_fails _).bind fun _ => failsWith_ok _
      · exact (list.elements_fails doc).bind fun _ => failsWith_ok _
    split
    · exact readOptions_fails (hparse plan) _
    · rename_i failure hfailure
      intro failure' heq
      cases heq
      exact (hfragments failure hfailure).readFault
  · intro failure heq
    cases heq
    exact .misconfigured _

theorem listedOptions_fails (doc : Fragment) : FailsWith (ReadFault lacking) (p.listedOptions doc) := by
  have hcollect : ∀ failure, (p.collect doc).2 = some failure → ReadFault lacking failure := p.collect_fails doc
  unfold listedOptions
  split
  · exact failsWith_ok _
  · split
    · exact failsWith_ok _
    · rename_i options failure hfailure
      rw [hfailure] at hcollect
      split
      · exact failsWith_ok _
      · exact failsWith_error (hcollect failure rfl)

section
variable {p} {main : Currency} {e : Exchange}

theorem mergeDefault_fails {doc : Fragment} {options : List Variant}
    (hlacks : ∀ c ∈ p.currencies, e.Lacks c → lacking c)
    (hoptions : ∀ v ∈ options, v.price.currency ∈ p.currencies) :
    FailsWith (ReadFault lacking) (p.mergeDefault doc options e) := by
  have hdefault : FailsWith (ReadFault lacking) (p.readDefault doc) := by
    unfold readDefault
    split
    · exact failsWith_error (.misconfigured _)
    · rename_i plan _
      exact (plan.parseWith_fails true doc).bind fun _ => failsWith_ok _
  have hadd {base v : Variant} (hbase : p.readDefault doc = .ok base) (hv : v ∈ options) :
      FailsWith (ReadFault lacking) (addBase base.price e v) := by
    have hconvert : FailsWith (PriceFault lacking) (base.price.convert v.price.currency e) := by
      refine Money.convert_fails ?_
      rintro c (rfl | rfl)
      · exact hlacks _ (hoptions v hv)
      · exact hlacks _ (currency_mem_of_labelled (readDefault_eq_ok_iff.mp hbase))
    exact (hconvert.mono fun _ => PriceFault.readFault).bind fun _ =>
      (failsWith_ofOption (.overflow _) _).bind fun _ => failsWith_ok _
  unfold mergeDefault
  split
  · exact failsWith_ok _
  · refine hdefault.bind_of fun base hbase => ?_
    dsimp only
    split
    · exact (failsWith_mapM fun v hv => hadd hbase hv).bind fun _ => failsWith_ok _
    · exact failsWith_ok _

theorem extract_fails {markup : List Char} (hlacks : ∀ c ∈ p.currencies, e.Lacks c → lacking c) :
    FailsWith (ReadFault lacking) (p.extract markup e) := by
  unfold extract
  split
  · exact failsWith_error (.misconfigured _)
  · refine ((p.title.extract_fails _).mono fun _ => RuleFault.readFault).bind fun _ =>
      (p.listedOptions_fails _).bind_of fun options hoptions => ?_
    exact (mergeDefault_fails hlacks fun v => currency_mem_of_listed hoptions).bind fun _ => failsWith_ok _

theorem withFee_fails (limit extra : Option Money) (value : Decimal) :
    FailsWith (PriceFault lacking) (withFee limit extra value) := by
  unfold withFee
  split
  · split
    · exact failsWith_ofOption (.overflow _) _
    · exact failsWith_ok _
  · exact failsWith_ok _

theorem convertOption_fails {m : Option Money}
    (hlacks : ∀ money, m = some money → ∀ c, c = main ∨ c = money.currency → e.Lacks c → lacking c) :
    FailsWith (PriceFault lacking) (convertOption m main e) := by
  cases m with
  | none => exact failsWith_ok _
  | some money => exact (Money.convert_fails (hlacks money rfl)).bind fun _ => failsWith_ok _

/-- The faults of normalizing: those of prices, a divisor that is too large, and a quotient that is too large, for which
the plan is blamed. -/
inductive TermsFault (p : PagePlan) (page : Page) (main : Currency) (e : Exchange) (lacking : Currency → Prop) :
    Failure → Prop
  | price {f : Failure} (h : PriceFault lacking f) : TermsFault p page main e lacking f
  | divisor (h : Decimal.one.add p.economics.deduction = none) : TermsFault p page main e lacking .outOfRange
  | quotient {divisor : Decimal} {v : Variant} {m : Money}
      (hdivisor : Decimal.one.add p.economics.deduction = some divisor) (hv : v ∈ page.options)
      (hm : v.price.convert main e = .ok m) (h : m.amount.div divisor = none) :
      TermsFault p page main e lacking (.misconfigured (.nothingLeft p.name p.economics.deduction))

theorem TermsFault.readFault {page : Page} {f : Failure} (h : p.TermsFault page main e lacking f) :
    ReadFault lacking f := by
  cases h with
  | price h => exact h.readFault
  | divisor => exact .outOfRange
  | quotient => exact .misconfigured _

theorem normalize_fails {page : Page}
    (hlacks : ∀ c, c = main ∨ c ∈ p.currencies ∨ (∃ v ∈ page.options, v.price.currency = c) → e.Lacks c → lacking c) :
    FailsWith (p.TermsFault page main e lacking) (p.normalize page main e) := by
  have hterms {m : Option Money} (hm : ∀ money, m = some money → money.currency ∈ p.currencies) :
      FailsWith (p.TermsFault page main e lacking) (convertOption m main e) := by
    refine (convertOption_fails ?_).mono fun _ => .price
    rintro money hmoney c (rfl | rfl)
    · exact hlacks _ (.inl rfl)
    · exact hlacks _ (.inr (.inl (hm money hmoney)))
  have hlimit := hterms fun m hm => mem_currencies_iff.mpr (.inr ⟨m, .inl hm, rfl⟩)
  have hextra := hterms fun m hm => mem_currencies_iff.mpr (.inr ⟨m, .inr hm, rfl⟩)
  have hdivisor : FailsWith (p.TermsFault page main e lacking)
      (ofOption .outOfRange (Decimal.one.add p.economics.deduction)) := by
    intro f hf
    obtain ⟨hnone, rfl⟩ := ofOption_eq_error_iff.mp hf
    exact .divisor hnone
  refine hdivisor.bind_of fun divisor hsome => hlimit.bind fun limit => hextra.bind fun extra => ?_
  have hsome := ofOption_eq_ok_iff.mp hsome
  refine (failsWith_mapM fun v hv => ?_).bind fun _ => failsWith_ok _
  have hprice : FailsWith (PriceFault lacking) (v.price.convert main e) := by
    refine Money.convert_fails ?_
    rintro c (rfl | rfl)
    · exact hlacks _ (.inl rfl)
    · exact hlacks _ (.inr (.inr ⟨v, hv, rfl⟩))
  refine (hprice.mono fun _ => .price).bind_of fun m hm => FailsWith.bind (fun f hf => ?_) fun value =>
    ((withFee_fails limit extra value).mono fun _ => .price).bind fun _ => failsWith_ok _
  obtain ⟨hnone, rfl⟩ := ofOption_eq_error_iff.mp hf
  exact .quotient hsome hv hm hnone

/-- A page that has been fetched fails to be read for its rules or its prices, or for the want of a rate that the plan
needs. -/
theorem parse_fails {markup : List Char} (hlacks : ∀ c, c = main ∨ c ∈ p.currencies → e.Lacks c → lacking c) :
    FailsWith (ReadFault lacking) (p.parse markup main e) :=
  (extract_fails fun c hc => hlacks c (.inr hc)).bind_of fun page hpage => by
    refine (normalize_fails ?_).mono fun _ => TermsFault.readFault
    rintro c (hc | hc | ⟨v, hv, rfl⟩)
    · exact hlacks c (.inl hc)
    · exact hlacks c (.inr hc)
    · exact hlacks _ (.inr (currency_mem_of_extract hpage v hv))

end

end PagePlan
end Storefront

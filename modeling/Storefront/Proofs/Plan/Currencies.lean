import Storefront.Proofs.Plan.Faults

/-! # Rates that a plan needs

The currencies that a plan declares, and the main one, are all that its pages are ever converted between. Complete
prices are read without any rate.
-/
namespace Storefront.PagePlan
variable {p : PagePlan} {markup : List Char} {main c : Currency} {e : Exchange} {problem : RateProblem}

theorem lacks_of_extract (h : p.extract markup e = .error (.rateUnavailable c problem)) :
    c ∈ p.currencies ∧ e.Lacks c := by
  have hfails : Attempt.FailsWith (ReadFault fun c => c ∈ p.currencies ∧ e.Lacks c) (p.extract markup e) :=
    extract_fails fun _ hc hlacks => ⟨hc, hlacks⟩
  cases hfails _ h with
  | rateUnavailable hc => exact hc

/-- A page that fails for the want of a rate names a currency that the plan needs. -/
theorem lacks_of_parse (h : p.parse markup main e = .error (.rateUnavailable c problem)) :
    (c = main ∨ c ∈ p.currencies) ∧ e.Lacks c := by
  have hfails : Attempt.FailsWith (ReadFault fun c => (c = main ∨ c ∈ p.currencies) ∧ e.Lacks c)
      (p.parse markup main e) := parse_fails fun _ hc hlacks => ⟨hc, hlacks⟩
  cases hfails _ h with
  | rateUnavailable hc => exact hc

theorem not_lacks_exchange {t : RateTable} {r : Decimal} (hlookup : t.rates.lookup c = some r) (hr : 0 < r.value) :
    ¬ t.exchange.Lacks c := by
  simp [Exchange.Lacks, RateTable.exchange, hlookup, Option.filter, Decimal.isPositive_iff.mpr hr]

theorem extract_standalone (hp : p.priceMode = .standalone) (markup : List Char) (e₁ e₂ : Exchange) :
    p.extract markup e₁ = p.extract markup e₂ := by
  simp only [extract, mergeDefault, hp]

/-- Rates for the declared currencies and the main one suffice, and for complete prices no rate matters. -/
theorem rates_suffice (p : PagePlan) (markup : List Char) (main : Currency) (t : RateTable)
    (hrates : ∀ c, c = main ∨ c ∈ p.currencies → ∃ r, t.rates.lookup c = some r ∧ 0 < r.value) :
    (∀ c problem, p.extract markup t.exchange ≠ .error (.rateUnavailable c problem)) ∧
      (∀ c problem, p.parse markup main t.exchange ≠ .error (.rateUnavailable c problem)) ∧
      (p.priceMode = .standalone →
        ∀ t₁ t₂ : RateTable, p.extract markup t₁.exchange = p.extract markup t₂.exchange) := by
  refine ⟨fun c problem h => ?_, fun c problem h => ?_, fun hp t₁ t₂ => extract_standalone hp markup _ _⟩
  · obtain ⟨hc, hlacks⟩ := lacks_of_extract h
    obtain ⟨r, hlookup, hr⟩ := hrates c (.inr hc)
    exact not_lacks_exchange hlookup hr hlacks
  · obtain ⟨hc, hlacks⟩ := lacks_of_parse h
    obtain ⟨r, hlookup, hr⟩ := hrates c hc
    exact not_lacks_exchange hlookup hr hlacks

def limitedSizes : PagePlan :=
  { sizes .alongside .additive with economics := { limit := some ⟨.ofUInt64 100, .gbp⟩ } }

def withoutZloty : RateTable :=
  (((RateTable.ofMain .usd).set .eur Decimal.two).set .gbp Decimal.two).set .uah ⟨24, 3, by decide, by decide⟩

theorem rates_suffice_limitedSizes :
    (∀ c, c = .uah ∨ c ∈ limitedSizes.currencies → ∃ r, withoutZloty.rates.lookup c = some r ∧ 0 < r.value) ∧
      (∀ c problem, limitedSizes.extract listedSizes withoutZloty.exchange ≠ .error (.rateUnavailable c problem)) ∧
      (∀ c problem, limitedSizes.parse listedSizes .uah withoutZloty.exchange ≠ .error (.rateUnavailable c problem)) ∧
      (limitedSizes.priceMode = .standalone → ∀ t₁ t₂ : RateTable,
        limitedSizes.extract listedSizes t₁.exchange = limitedSizes.extract listedSizes t₂.exchange) := by
  have hrates : ∀ c, c = .uah ∨ c ∈ limitedSizes.currencies →
      ∃ r, withoutZloty.rates.lookup c = some r ∧ 0 < r.value := by
    intro c hc
    cases c with
    | usd => exact ⟨_, rfl, by norm_num⟩
    | eur => exact ⟨_, rfl, by norm_num⟩
    | gbp => exact ⟨_, rfl, by norm_num⟩
    | uah => exact ⟨_, rfl, by norm_num [Decimal.value]⟩
    | pln => exact absurd hc (by decide)
  exact ⟨hrates, rates_suffice limitedSizes listedSizes .uah withoutZloty hrates⟩

end Storefront.PagePlan

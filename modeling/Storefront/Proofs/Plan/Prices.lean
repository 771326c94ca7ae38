import Storefront.Proofs.Decimal.Value
import Storefront.Proofs.Plan.Merge

/-! # The prices that a page quotes

An option is quoted in the currency of the plan that reads it. A price of its own is positive; a difference may be of
any sign. Whatever is added to a difference, it stays in its currency.
-/
namespace Storefront

theorem VariantPlan.exists_raw_of_parseWith {strict : Bool} {plan : VariantPlan} {f : Fragment} {v : Variant}
    (h : plan.parseWith strict f = .ok v) :
    ∃ raw, plan.price.extract f = .ok raw ∧
      v.price = ⟨(Text.decimal? raw).getD Decimal.zero, plan.currency⟩ ∧
      (strict = true → v.price.amount.isPositive = true) := by
  obtain ⟨raw, hraw, h⟩ := Attempt.bind_eq_ok_iff.mp h
  dsimp only at h
  split at h
  · cases h
  · rename_i hvalid
    simp only [Attempt.bind_eq_ok_iff] at h
    obtain ⟨_, -, _, -, _, -, _, -, _, -, h⟩ := h
    cases h
    refine ⟨raw, hraw, rfl, ?_⟩
    rintro rfl
    simpa using hvalid

theorem VariantPlan.price_of_parseWith {strict : Bool} {plan : VariantPlan} {f : Fragment} {v : Variant}
    (h : plan.parseWith strict f = .ok v) :
    v.price.currency = plan.currency ∧ (strict = true → v.price.amount.isPositive = true) := by
  obtain ⟨raw, -, hprice, hpositive⟩ := exists_raw_of_parseWith h
  exact ⟨by rw [hprice], hpositive⟩

theorem forall_mem_iff_of_forall₂ {α β : Type} {R : α → β → Prop} {P : α → Prop} {Q : β → Prop} {xs : List α}
    {ys : List β} (hR : ∀ x y, R x y → (P x ↔ Q y)) (h : List.Forall₂ R xs ys) :
    (∀ x ∈ xs, P x) ↔ ∀ y ∈ ys, Q y := by
  induction h with
  | nil => simp
  | cons hxy _ ih => simp only [List.forall_mem_cons, hR _ _ hxy, ih]

namespace PagePlan
variable {p : PagePlan} {markup : List Char} {doc f : Fragment} {e : Exchange} {plan : VariantPlan} {v w d : Variant}
  {vs ws : List Variant} {c : Currency}

theorem currency_of_parseOption (h : p.parseOption plan f = .ok v) : v.price.currency = plan.currency := by
  unfold parseOption at h
  split at h
  · exact (VariantPlan.price_of_parseWith h).1
  · exact (VariantPlan.price_of_parseWith h).1

theorem Labelled.price (h : p.Labelled doc d) :
    ∃ plan, p.defaultOption = some plan ∧ d.price.currency = plan.currency ∧ d.price.amount.isPositive = true := by
  obtain ⟨plan, v, hplan, hv, rfl⟩ := h
  obtain ⟨hcurrency, hpositive⟩ := VariantPlan.price_of_parseWith hv
  exact ⟨plan, hplan, hcurrency, hpositive rfl⟩

theorem Raises.currency {base : Money} (h : Raises base e v w) : w.price.currency = v.price.currency := by
  obtain ⟨_, _, -, -, rfl⟩ := h
  rfl

theorem exists_parseOption (h : p.listedOptions doc = .ok vs) (hv : v ∈ vs) :
    ∃ plan f, p.option = some plan ∧ p.parseOption plan f = .ok v := by
  have hcollect : v ∈ (p.collect doc).1 := by
    unfold listedOptions at h
    split at h
    · cases h
      cases hv
    · split at h
      · rename_i hc
        cases h
        rwa [hc]
      · rename_i hc
        split at h
        · cases h
          rwa [hc]
        · cases h
  unfold collect at hcollect
  split at hcollect
  · rename_i list plan _ hplan
    split at hcollect
    · rw [readOptions_eq, readable, List.mem_filterMap] at hcollect
      obtain ⟨f, -, hf⟩ := hcollect
      exact ⟨plan, f, hplan, Attempt.eq_ok_of_toOption hf⟩
    · cases hcollect
  · cases hcollect

theorem mem_currencies_iff : c ∈ p.currencies ↔
    (∃ plan, (p.defaultOption = some plan ∨ p.option = some plan) ∧ plan.currency = c) ∨
      ∃ m, (p.economics.limit = some m ∨ p.economics.extra = some m) ∧ m.currency = c := by
  have hall : c ∈ Currency.all := by cases c <;> decide
  simp [currencies, hall, @eq_comm _ (some _)]

theorem currency_mem_of_default (h : p.defaultOption = some plan) : plan.currency ∈ p.currencies :=
  mem_currencies_iff.mpr (.inl ⟨plan, .inl h, rfl⟩)

theorem currency_mem_of_option (h : p.option = some plan) : plan.currency ∈ p.currencies :=
  mem_currencies_iff.mpr (.inl ⟨plan, .inr h, rfl⟩)

theorem currency_mem_of_listed (h : p.listedOptions doc = .ok vs) (hv : v ∈ vs) : v.price.currency ∈ p.currencies := by
  obtain ⟨plan, f, hplan, hf⟩ := exists_parseOption h hv
  rw [currency_of_parseOption hf]
  exact currency_mem_of_option hplan

theorem currency_mem_of_labelled (h : p.Labelled doc d) : d.price.currency ∈ p.currencies := by
  obtain ⟨plan, hplan, hcurrency, -⟩ := h.price
  rw [hcurrency]
  exact currency_mem_of_default hplan

/-- Every price on a page is in a currency that the plan declares. -/
theorem currency_mem_of_extract {page : Page} (h : p.extract markup e = .ok page) :
    ∀ v ∈ page.options, v.price.currency ∈ p.currencies := by
  obtain ⟨doc, _, vs, options, -, -, hlisted, hmerge, rfl⟩ := extract_eq_ok_iff.mp h
  obtain ⟨-, ws, ds, hquoted, hdefault, rfl⟩ := mergeDefault_eq_ok_iff.mp hmerge
  have hvs : ∀ v ∈ vs, v.price.currency ∈ p.currencies := fun v => currency_mem_of_listed hlisted
  refine List.forall_mem_append.mpr ⟨?_, ?_⟩
  · cases hquoted with
    | plain => exact hvs
    | raised _ _ _ all => exact (forall_mem_iff_of_forall₂ (fun v w hvw => by rw [hvw.currency]) all).mp hvs
  · cases hdefault with
    | kept _ hlabelled => simpa using currency_mem_of_labelled hlabelled
    | dropped => simp

end PagePlan
end Storefront

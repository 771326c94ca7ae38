import Storefront.Proofs.Plan.Merge

/-! # Absences within a list

Modes that allow a page without repeating options also go on after an absence inside the list. The
options before it are kept then, and the fragments behind it are not read.
-/
namespace Storefront.PagePlan
variable {p : PagePlan} {markup : List Char} {doc : Fragment} {e : Exchange}
variable {plan : VariantPlan} {fs : List Fragment} {vs ws : List Variant}

theorem Quoted.length_eq (h : p.Quoted doc e vs ws) : vs.length = ws.length := by
  cases h with
  | plain => rfl
  | raised _ _ _ all => exact all.length_eq

theorem readable_append (parse : Fragment → Attempt Variant) (fs gs : List Fragment) :
    readable parse (fs ++ gs) = readable parse fs ++ readable parse gs := List.filterMap_append

theorem readable_eq_nil_iff {parse : Fragment → Attempt Variant} :
    readable parse fs = [] ↔ ∀ f ∈ fs, ∀ v, parse f ≠ .ok v := by
  simp only [readable, List.filterMap_eq_nil_iff]
  refine forall₂_congr fun f _ => ?_
  cases parse f <;> simp [Except.toOption]

theorem Lists.listedOptions_before_absence (h : p.Lists doc plan fs)
    (tolerant : p.defaultMode.toleratesMissingOptions = true) (hv : p.listedOptions doc = .ok vs) :
    vs = readable (p.parseOption plan) (fs.takeWhile fun f => !lacks (p.parseOption plan) f) := by
  have hm : p.defaultMode ≠ .single := by
    rintro hm
    simp [hm, DefaultMode.toleratesMissingOptions] at tolerant
  cases hs : fs.findSome? (halt? (p.parseOption plan)) with
  | none =>
    rw [h.listedOptions_of_none hm hs, Except.ok.injEq] at hv
    rw [← hv, ← takeWhile_halt?_eq_lacks (by simp [hs]), takeWhile_halt?_of_none hs]
  | some failure =>
    rw [h.listedOptions_of_some hm hs] at hv
    split at hv
    · next ha =>
      rw [← takeWhile_halt?_eq_lacks (by simp [hs, ha.1])]
      exact (Except.ok.inj hv).symm
    · cases hv

/-- Of a page that is read, the options of the list stand for the fragments before the first absence.
They stand for all that can be read exactly when nothing behind that absence can be. -/
theorem extract_before_absence {page : Page} (tolerant : p.defaultMode.toleratesMissingOptions = true)
    (hd : p.Reads markup doc) (hl : p.Lists doc plan fs) (h : p.extract markup e = .ok page) :
    ∃ ws ds, page.options = ws ++ ds ∧ p.DefaultPart doc ws ds ∧
      p.Quoted doc e
        (readable (p.parseOption plan) (fs.takeWhile fun f => !lacks (p.parseOption plan) f)) ws ∧
      (p.Quoted doc e (readable (p.parseOption plan) fs) ws ↔
        ∀ f ∈ fs.dropWhile fun f => !lacks (p.parseOption plan) f, ∀ v, p.parseOption plan f ≠ .ok v) := by
  obtain ⟨_, _, vs, options, hd', -, hv, ho, rfl⟩ := extract_eq_ok_iff.mp h
  obtain rfl := hd.unique hd'
  obtain ⟨-, ws, ds, hq, hp, rfl⟩ := mergeDefault_eq_ok_iff.mp ho
  obtain rfl := hl.listedOptions_before_absence tolerant hv
  refine ⟨ws, ds, rfl, hp, hq, ?_⟩
  rw [← readable_eq_nil_iff]
  have parts := readable_append (p.parseOption plan)
    (fs.takeWhile fun f => !lacks (p.parseOption plan) f)
    (fs.dropWhile fun f => !lacks (p.parseOption plan) f)
  rw [List.takeWhile_append_dropWhile] at parts
  rw [parts]
  constructor
  · intro all
    have lengths := all.length_eq.trans hq.length_eq.symm
    rw [List.length_append] at lengths
    exact List.eq_nil_of_length_eq_zero (by omega)
  · intro none
    rw [none, List.append_nil]
    exact hq

def soldOutSizes : List Char := "<title>Shoes</title><i>100</i><p><b>10</b><p>sold out<p><b>20</b>".toList

theorem lists_sizes (mode : DefaultMode) (priceMode : PriceMode) {fs : List Fragment}
    (h : fragments (Rule.css "p") doc = .ok fs) :
    (sizes mode priceMode).Lists doc { price := Rule.css "b", currency := .eur } fs :=
  ⟨rfl, Rule.css "p", rfl, h⟩

theorem extract_before_absence_sizes : ∃ doc plan fs page,
    (sizes .alongside .additive).defaultMode.toleratesMissingOptions = true ∧
    (sizes .alongside .additive).Reads soldOutSizes doc ∧ (sizes .alongside .additive).Lists doc plan fs ∧
    (sizes .alongside .additive).extract soldOutSizes twoDollars = .ok page ∧
    ∃ ws ds, page.options = ws ++ ds ∧ (sizes .alongside .additive).DefaultPart doc ws ds ∧
      (sizes .alongside .additive).Quoted doc twoDollars
        (readable plan.parseDelta (fs.takeWhile fun f => !lacks plan.parseDelta f)) ws ∧
      ((sizes .alongside .additive).Quoted doc twoDollars (readable plan.parseDelta fs) ws ↔
        ∀ f ∈ fs.dropWhile fun f => !lacks plan.parseDelta f, ∀ v, plan.parseDelta f ≠ .ok v) := by
  have found : (fragments (Rule.css "p") (Fragment.ofMarkup soldOutSizes)).toOption.isSome = true := by
    decide +kernel
  have read : ((sizes .alongside .additive).extract soldOutSizes twoDollars).toOption.isSome = true := by
    decide +kernel
  cases hf : fragments (Rule.css "p") (Fragment.ofMarkup soldOutSizes) with
  | error failure => simp [hf, Except.toOption] at found
  | ok fs =>
    cases h : (sizes .alongside .additive).extract soldOutSizes twoDollars with
    | error failure => simp [h, Except.toOption] at read
    | ok page =>
      have hd : (sizes .alongside .additive).Reads soldOutSizes (Fragment.ofMarkup soldOutSizes) :=
        ⟨_, rfl, rfl⟩
      have hl := lists_sizes .alongside .additive hf
      exact ⟨_, _, fs, page, rfl, hd, hl, rfl, extract_before_absence rfl hd hl h⟩

/-- The size behind the one that is sold out has a price and is not on the page. -/
theorem size_behind_absence_is_lost : ∃ doc plan fs page v,
    (sizes .alongside .standalone).defaultMode.toleratesMissingOptions = true ∧
    (sizes .alongside .standalone).Reads soldOutSizes doc ∧
    (sizes .alongside .standalone).Lists doc plan fs ∧
    (sizes .alongside .standalone).extract soldOutSizes twoDollars = .ok page ∧
    v ∈ readable plan.parse fs ∧ v ∉ page.options := by
  let plan : VariantPlan := { price := Rule.css "b", currency := .eur }
  let lost : Variant := { price := ⟨.ofUInt64 20, .eur⟩ }
  have found : (fragments (Rule.css "p") (Fragment.ofMarkup soldOutSizes)).toOption.any
      (fun fs => decide (lost ∈ readable plan.parse fs)) = true := by decide +kernel
  have read : ((sizes .alongside .standalone).extract soldOutSizes twoDollars).toOption.any
      (fun page => decide (lost ∉ page.options)) = true := by decide +kernel
  cases hf : fragments (Rule.css "p") (Fragment.ofMarkup soldOutSizes) with
  | error failure => simp [hf, Except.toOption] at found
  | ok fs =>
    cases h : (sizes .alongside .standalone).extract soldOutSizes twoDollars with
    | error failure => simp [h, Except.toOption] at read
    | ok page =>
      simp only [hf, h, Except.toOption, Option.any_some, decide_eq_true_eq] at found read
      exact ⟨_, plan, fs, page, lost, rfl, ⟨_, rfl, rfl⟩, lists_sizes .alongside .standalone hf, rfl,
        found, read⟩

end Storefront.PagePlan

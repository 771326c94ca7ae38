import Mathlib.Data.List.TakeWhile
import Storefront.Plan.Extract
import Storefront.Proofs.Rule.Faults

/-! # The options of a list

A fragment of the list gives an option, is passed over for its price, or halts the reading. The options
that are read are those before the first fragment that halts it.
-/
namespace Storefront

namespace VariantPlan
open Attempt

theorem optionalField_fails (rule : Option Rule) (f : Fragment) : FailsWith RuleFault (optionalField rule f) := by
  cases rule with
  | none => exact failsWith_ok _
  | some r =>
    refine (r.lookup_fails f).bind fun found => ?_
    cases found with
    | ok s => exact failsWith_ok _
    | error failure => exact failsWith_ok _

theorem extract_ne_invalidPrice {r : Rule} {f : Fragment} {text : String} : r.extract f ≠ .error (.invalidPrice text) :=
  fun h => nomatch r.extract_fails f _ h

theorem optionalField_ne_invalidPrice {r : Option Rule} {f : Fragment} {text : String} :
    optionalField r f ≠ .error (.invalidPrice text) := fun h => nomatch optionalField_fails r f _ h

theorem parseDelta_ne_invalidPrice {p : VariantPlan} {f : Fragment} {text : String} :
    p.parseDelta f ≠ .error (.invalidPrice text) := by
  intro h
  simp only [parseDelta, parseWith, Bool.false_and, Bool.false_eq_true, if_false,
    Attempt.bind_eq_error_iff, pure, Except.pure, reduceCtorEq, and_false, exists_false, or_false,
    extract_ne_invalidPrice, optionalField_ne_invalidPrice] at h

end VariantPlan

namespace PagePlan

/-- The failure by which a fragment halts the reading of a list. -/
def halt? (parse : Fragment → Attempt Variant) (f : Fragment) : Option Failure :=
  match parse f with
  | .ok _ => none
  | .error (.invalidPrice _) => none
  | .error failure => some failure

/-- The options of the fragments that can be read, in the order of the fragments. -/
def readable (parse : Fragment → Attempt Variant) (fs : List Fragment) : List Variant :=
  fs.filterMap fun f => (parse f).toOption

theorem halt?_eq_none_iff {parse : Fragment → Attempt Variant} {f : Fragment} :
    halt? parse f = none ↔ (∃ v, parse f = .ok v) ∨ ∃ text, parse f = .error (.invalidPrice text) := by
  unfold halt?
  split <;> simp_all

theorem halt?_eq_some_iff {parse : Fragment → Attempt Variant} {f : Fragment} {e : Failure} :
    halt? parse f = some e ↔ parse f = .error e ∧ ∀ text, e ≠ .invalidPrice text := by
  unfold halt?
  split
  · simp_all
  · next text h =>
    simp only [h, reduceCtorEq, Except.error.injEq, false_iff, not_and, not_forall, not_not]
    rintro rfl
    exact ⟨text, rfl⟩
  · next failure hne h =>
    simp only [h, Option.some.injEq, Except.error.injEq]
    constructor
    · rintro rfl
      exact ⟨rfl, hne⟩
    · exact And.left

theorem readOptions_eq (parse : Fragment → Attempt Variant) (fs : List Fragment) :
    readOptions parse fs =
      (readable parse (fs.takeWhile fun f => (halt? parse f).isNone), fs.findSome? (halt? parse)) := by
  induction fs with
  | nil => rfl
  | cons f fs ih =>
    unfold readOptions
    split
    · next v h => simp [ih, readable, halt?, h, Except.toOption]
    · next text h => simp [ih, readable, halt?, h, Except.toOption]
    · next failure hne h =>
      have hh : halt? parse f = some failure := halt?_eq_some_iff.mpr ⟨h, hne⟩
      simp [readable, hh]

/-- Whether an option is missing because something is absent from its fragment. -/
def lacks (parse : Fragment → Attempt Variant) (f : Fragment) : Bool :=
  match parse f with
  | .ok _ => false
  | .error failure => failure.isAbsence

theorem lacks_of_halt?_eq_none {parse : Fragment → Attempt Variant} {f : Fragment}
    (h : halt? parse f = none) : lacks parse f = false := by
  obtain ⟨v, h⟩ | ⟨text, h⟩ := halt?_eq_none_iff.mp h <;> simp [lacks, h, Failure.isAbsence]

theorem lacks_of_halt?_eq_some {parse : Fragment → Attempt Variant} {f : Fragment} {e : Failure}
    (h : halt? parse f = some e) : lacks parse f = e.isAbsence := by
  simp [lacks, (halt?_eq_some_iff.mp h).1]

/-- Where the reading is halted by an absence or not at all, it ends before the first absence. -/
theorem takeWhile_halt?_eq_lacks {parse : Fragment → Attempt Variant} {fs : List Fragment}
    (h : ∀ e, fs.findSome? (halt? parse) = some e → e.isAbsence = true) :
    fs.takeWhile (fun f => (halt? parse f).isNone) = fs.takeWhile (fun f => !lacks parse f) := by
  induction fs with
  | nil => rfl
  | cons f fs ih =>
    rw [List.findSome?_cons] at h
    cases hf : halt? parse f with
    | none =>
      rw [hf] at h
      simp [hf, lacks_of_halt?_eq_none hf, ih h]
    | some e =>
      rw [hf] at h
      simp [hf, lacks_of_halt?_eq_some hf, h e rfl]

theorem takeWhile_halt?_of_none {parse : Fragment → Attempt Variant} {fs : List Fragment}
    (h : fs.findSome? (halt? parse) = none) : fs.takeWhile (fun f => (halt? parse f).isNone) = fs := by
  rw [List.findSome?_eq_none_iff] at h
  exact List.takeWhile_eq_self_iff.mpr fun f hf => by simp [h f hf]

theorem forall₂_readable_iff {parse : Fragment → Attempt Variant} {fs : List Fragment}
    {vs : List Variant} (h : ∀ f ∈ fs, ∃ v, parse f = .ok v) :
    List.Forall₂ (fun f v => parse f = .ok v) fs vs ↔ vs = readable parse fs := by
  induction fs generalizing vs with
  | nil => simp [readable]
  | cons f fs ih =>
    obtain ⟨v, hv⟩ := h f List.mem_cons_self
    have readable_cons : readable parse (f :: fs) = v :: readable parse fs := by
      simp [readable, hv, Except.toOption]
    simp only [List.forall₂_cons_left_iff, ih fun g hg => h g (List.mem_cons_of_mem f hg), hv,
      Except.ok.injEq, readable_cons]
    constructor
    · rintro ⟨_, _, rfl, rfl, rfl⟩
      rfl
    · rintro rfl
      exact ⟨_, _, rfl, rfl, rfl⟩

/-- The plan for the options and the fragments that the list finds in a document. -/
structure Lists (p : PagePlan) (doc : Fragment) (plan : VariantPlan) (fs : List Fragment) : Prop where
  option : p.option = some plan
  found : ∃ list, p.list = some list ∧ fragments list doc = .ok fs

/-- The list finds nothing to read, for this failure. -/
structure Unlisted (p : PagePlan) (doc : Fragment) (e : Failure) : Prop where
  option : ∃ plan, p.option = some plan
  missed : ∃ list, p.list = some list ∧ fragments list doc = .error e

/-- Either a part of the plan is missing, or its list finds fragments or fails. -/
theorem lists_cases (p : PagePlan) (doc : Fragment) :
    (p.list = none ∨ p.option = none) ∨ (∃ plan fs, p.Lists doc plan fs) ∨ ∃ e, p.Unlisted doc e := by
  cases hl : p.list with
  | none => exact .inl (.inl rfl)
  | some list =>
    cases ho : p.option with
    | none => exact .inl (.inr rfl)
    | some plan =>
      cases hf : fragments list doc with
      | ok fs => exact .inr (.inl ⟨plan, fs, ho, list, hl, hf⟩)
      | error e => exact .inr (.inr ⟨e, ⟨plan, ho⟩, list, hl, hf⟩)

theorem Lists.unique {p : PagePlan} {doc : Fragment} {plan plan' : VariantPlan} {fs fs' : List Fragment}
    (h : p.Lists doc plan fs) (h' : p.Lists doc plan' fs') : plan = plan' ∧ fs = fs' := by
  obtain ⟨ho, list, hl, hf⟩ := h
  obtain ⟨ho', list', hl', hf'⟩ := h'
  rw [ho] at ho'
  rw [hl] at hl'
  cases ho'
  cases hl'
  rw [hf] at hf'
  exact ⟨rfl, Except.ok.inj hf'⟩

theorem Unlisted.unique {p : PagePlan} {doc : Fragment} {e e' : Failure}
    (h : p.Unlisted doc e) (h' : p.Unlisted doc e') : e = e' := by
  obtain ⟨-, list, hl, hf⟩ := h
  obtain ⟨-, list', hl', hf'⟩ := h'
  rw [hl] at hl'
  cases hl'
  rw [hf] at hf'
  exact Except.error.inj hf'

theorem Unlisted.not_missing {p : PagePlan} {doc : Fragment} {e : Failure} (h : p.Unlisted doc e) :
    ¬ (p.list = none ∨ p.option = none) := by
  obtain ⟨⟨plan, ho⟩, list, hl, -⟩ := h
  simp [ho, hl]

variable {p : PagePlan} {doc : Fragment} {plan : VariantPlan} {fs : List Fragment}

theorem Lists.not_missing (h : p.Lists doc plan fs) : ¬ (p.list = none ∨ p.option = none) := by
  obtain ⟨ho, list, hl, -⟩ := h
  simp [ho, hl]

theorem Lists.not_unlisted {e : Failure} (h : p.Lists doc plan fs) : ¬ p.Unlisted doc e := by
  obtain ⟨-, list, hl, hf⟩ := h
  rintro ⟨-, list', hl', hf'⟩
  rw [hl] at hl'
  cases hl'
  simp [hf] at hf'

theorem parseOption_standalone (hp : p.priceMode = .standalone) : p.parseOption plan = plan.parse := by
  funext f
  simp [parseOption, hp]

theorem parseOption_additive (hp : p.priceMode = .additive) : p.parseOption plan = plan.parseDelta := by
  funext f
  simp [parseOption, hp]

theorem parses_of_halt?_eq_none (h : ∀ f ∈ fs, halt? plan.parseDelta f = none) :
    ∀ f ∈ fs, ∃ v, plan.parseDelta f = .ok v := by
  intro f hf
  obtain parses | ⟨text, refused⟩ := halt?_eq_none_iff.mp (h f hf)
  · exact parses
  · exact absurd refused VariantPlan.parseDelta_ne_invalidPrice

theorem listedOptions_single (hm : p.defaultMode = .single) : p.listedOptions doc = .ok [] := if_pos hm

theorem listedOptions_of_missing (hm : p.defaultMode ≠ .single) (h : p.list = none ∨ p.option = none) :
    p.listedOptions doc = .error (.misconfigured (.noOptionList p.name p.defaultMode)) := by
  have hc : p.collect doc = ([], some (.misconfigured (.noOptionList p.name p.defaultMode))) := by
    unfold collect
    split
    · next list plan hl ho => simp [hl, ho] at h
    · rfl
  simp [listedOptions, hm, hc, Failure.isAbsence]

theorem listedOptions_of_unlisted {e : Failure} (hm : p.defaultMode ≠ .single) (h : p.Unlisted doc e) :
    p.listedOptions doc =
      if e.isAbsence ∧ p.defaultMode.toleratesMissingOptions then .ok [] else .error e := by
  obtain ⟨⟨plan, ho⟩, list, hl, hf⟩ := h
  have hc : p.collect doc = ([], some e) := by simp [collect, hl, ho, hf]
  simp [listedOptions, hm, hc]

theorem Lists.collect (h : p.Lists doc plan fs) : p.collect doc =
    (readable (p.parseOption plan) (fs.takeWhile fun f => (halt? (p.parseOption plan) f).isNone),
      fs.findSome? (halt? (p.parseOption plan))) := by
  obtain ⟨ho, list, hl, hf⟩ := h
  simp [PagePlan.collect, hl, ho, hf, readOptions_eq]

theorem Lists.listedOptions_of_none (h : p.Lists doc plan fs) (hm : p.defaultMode ≠ .single)
    (hn : fs.findSome? (halt? (p.parseOption plan)) = none) :
    p.listedOptions doc = .ok (readable (p.parseOption plan) fs) := by
  simp [listedOptions, hm, h.collect, hn, takeWhile_halt?_of_none hn]

theorem Lists.listedOptions_of_some {e : Failure} (h : p.Lists doc plan fs) (hm : p.defaultMode ≠ .single)
    (hs : fs.findSome? (halt? (p.parseOption plan)) = some e) :
    p.listedOptions doc =
      if e.isAbsence ∧ p.defaultMode.toleratesMissingOptions then
        .ok (readable (p.parseOption plan) (fs.takeWhile fun f => (halt? (p.parseOption plan) f).isNone))
      else .error e := by
  simp [listedOptions, hm, h.collect, hs]

end PagePlan
end Storefront

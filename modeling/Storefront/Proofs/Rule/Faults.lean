import Storefront.Proofs.Attempt
import Storefront.Rule.Extract

/-! # How rules fail

A rule fails because it is ill-formed or because what it describes is absent. A rule that just picks an element is
well-formed if its selector is, so that looking up what it describes does not fail.
-/
namespace Storefront
open Attempt

inductive RuleFault : Failure → Prop
  | misconfigured (cause : Misconfiguration) : RuleFault (.misconfigured cause)
  | selectorNotFound (query context : String) : RuleFault (.selectorNotFound query context)
  | noResults (query : String) : RuleFault (.noResults query)

namespace Rule
variable (r : Rule)

theorem reshape_fails (s : List Char) : FailsWith RuleFault (r.reshape s) := by
  unfold reshape
  split
  · exact failsWith_ok _
  · exact failsWith_error (.misconfigured _)

theorem select_fails (f : Fragment) : FailsWith RuleFault (r.select f) := by
  have hselector : FailsWith RuleFault r.selector := failsWith_ofOption (.misconfigured _) _
  cases f with
  | text s => exact failsWith_error (.misconfigured _)
  | element d id => exact hselector.bind fun _ => failsWith_ok _
  | document d markup => exact hselector.bind fun _ => failsWith_ok _

theorem raw_fails (f : Fragment) : FailsWith RuleFault (r.raw f) := by
  unfold raw
  split
  · refine (r.select_fails f).bind fun found => ?_
    split
    · exact failsWith_ok _
    · exact failsWith_error (.selectorNotFound _ _)
  · exact (failsWith_ofOption (.misconfigured _) _).bind fun p => failsWith_ok _

theorem extract_fails (f : Fragment) : FailsWith RuleFault (r.extract f) :=
  (r.raw_fails f).bind fun s => r.reshape_fails s

theorem lookup_fails (f : Fragment) : FailsWith RuleFault (r.lookup f) := by
  have hextract : FailsWith RuleFault (r.extract f) := r.extract_fails f
  unfold lookup
  split
  · exact failsWith_ok _
  · rename_i failure hfailure
    split
    · exact failsWith_ok _
    · exact failsWith_error (hextract failure hfailure)

theorem elements_fails (f : Fragment) : FailsWith RuleFault (r.elements f) := by
  unfold elements
  split
  · exact failsWith_error (.misconfigured _)
  · split
    · exact failsWith_error (.misconfigured _)
    · split
      · exact (failsWith_ofOption (.misconfigured _) _).bind fun _ => failsWith_error (.misconfigured _)
      · refine (r.select_fails f).bind fun found => ?_
        split
        · exact failsWith_error (.noResults _)
        · exact failsWith_ok _

theorem strings_fails (s : List Char) : FailsWith RuleFault (r.strings s) := by
  unfold strings
  split
  · exact failsWith_error (.misconfigured _)
  · refine (failsWith_ofOption (.misconfigured _) _).bind fun p => ?_
    refine (failsWith_mapM fun m _ => r.reshape_fails _).bind fun found => ?_
    split
    · exact failsWith_error (.noResults _)
    · exact failsWith_ok _

section
variable {r : Rule} {f : Fragment} {s : List Char}

/-- Whether a rule just picks what a well-formed selector describes. -/
def Picks (r : Rule) : Prop :=
  r.method = .css ∧ r.molds = [] ∧ (SelectorList.ofText? r.query.toList).isSome = true

instance (r : Rule) : Decidable r.Picks := inferInstanceAs (Decidable (_ ∧ _ ∧ _))

theorem ne_text_of_raw (hmethod : r.method = .css) (h : r.raw f = .ok s) (t : List Char) : f ≠ .text t := by
  rintro rfl
  simp only [raw, hmethod, select] at h
  cases h

theorem extract_of_raw (h : r.raw f = .ok s) : r.extract f = r.reshape s := by
  rw [extract, h, ok_bind]

theorem Picks.exists_lookup (h : r.Picks) (hf : ∀ t, f ≠ .text t) : ∃ found, r.lookup f = .ok found := by
  obtain ⟨hmethod, hmolds, hselector⟩ := h
  obtain ⟨described, hdescribed⟩ := Option.isSome_iff_exists.mp hselector
  have hselector : r.selector = .ok described := by
    rw [selector, hdescribed]
    rfl
  have hselect : ∃ found, r.select f = .ok found := by
    cases f with
    | text t => exact absurd rfl (hf t)
    | element d id => exact ⟨_, by rw [select, hselector, ok_bind]; rfl⟩
    | document d markup => exact ⟨_, by rw [select, hselector, ok_bind]; rfl⟩
  obtain ⟨found, hselect⟩ := hselect
  cases found with
  | nil =>
    have hextract : r.extract f = .error (.selectorNotFound r.query f.describe) := by
      simp only [extract, raw, hmethod, hselect, ok_bind]
      rfl
    exact ⟨_, by rw [lookup, hextract]; rfl⟩
  | cons first rest =>
    have hraw : r.raw f = .ok (r.detail.read first.1 first.2).toList := by
      simp only [raw, hmethod, hselect, ok_bind]
      rfl
    exact ⟨_, by rw [lookup, extract_of_raw hraw, reshape, hmolds]; rfl⟩

end

end Rule
end Storefront

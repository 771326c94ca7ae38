import Storefront.Proofs.Json.RoundTrip
import Storefront.Rule.Json

/-! # Rules written to JSON and read back

A rule is the same when it is read back from the text it is written to. What a text leaves out is written with its default
value, and read back so.
-/
namespace Storefront

namespace Mold

theorem Kind.ofKey?_key (k : Kind) : ofKey? k.key = some k := by cases k <;> decide

theorem ofJson?_toJson (m : Mold) : ofJson? m.toJson = some m := by
  have hattributes := Json.list?_map (f := Json.string?) (g := Json.string) (fun _ => rfl) m.attributes
  simp [toJson, ofJson?, Json.record?, Json.choice?, Kind.ofKey?_key, Json.fieldOr?, hattributes]

theorem worded_toJson (depth : Nat) (m : Mold) : Json.Worded (depth + 2) m.toJson := by
  have hattributes : Json.Worded (depth + 1) (.array (m.attributes.map Json.string)) :=
    .array (List.forall_mem_map.mpr fun a _ => .string depth a)
  refine .object ?_
  simp only [List.forall_mem_cons]
  exact ⟨.string _ _, hattributes, List.forall_mem_nil _⟩

theorem attributes_of_given {j : Json} {m : Mold} (h : ofJson? j = some m) :
    j.given 1 "attributes" = [] → m.attributes = [] := by
  unfold ofJson? at h
  split at h
  · next kind attributes hrecord =>
    obtain ⟨k, _, h⟩ := Option.bind_eq_some_iff.mp h
    obtain ⟨as, has, h⟩ := Option.bind_eq_some_iff.mp h
    obtain ⟨_, ⟨⟩, hgiven⟩ := Json.exists_given hrecord 1 rfl
    cases h
    exact Json.eq_default_of_given has hgiven
  · cases h

end Mold

namespace Rule

def toText (r : Rule) : String := r.toJson.compact

def ofText? (text : String) : Option Rule := (Json.ofText? text).bind ofJson?

theorem Method.ofKey?_key (m : Method) : ofKey? m.key = some m := by cases m <;> rfl

theorem Property.ofName?_name (p : Property) : ofName? p.name = some p := by cases p <;> rfl

theorem Detail.ofJson?_toJson (d : Detail) : ofJson? d.toJson = some d := by
  cases d with
  | attr name => simp [toJson, ofJson?, Json.record?, Json.choice?, ofKind?, Json.string?]
  | property p => simp [toJson, ofJson?, Json.record?, Json.choice?, ofKind?, Property.ofName?_name]

theorem ofJson?_toJson (r : Rule) : ofJson? r.toJson = some r := by
  have hmolds := Json.list?_map Mold.ofJson?_toJson r.molds
  simp [toJson, ofJson?, Json.record?, Json.choice?, Json.string?, Method.ofKey?_key, Json.fieldOr?,
    Detail.ofJson?_toJson, hmolds]

theorem Detail.worded_toJson (depth : Nat) (d : Detail) : Json.Worded (depth + 1) d.toJson := by
  cases d with
  | attr name => exact .object (by simp [Json.Worded.string])
  | property p => exact .object (by simp [Json.Worded.string])

theorem worded_toJson (depth : Nat) (r : Rule) : Json.Worded (depth + 4) r.toJson := by
  have hmolds : Json.Worded (depth + 3) (.array (r.molds.map Mold.toJson)) :=
    .array (List.forall_mem_map.mpr fun m _ => m.worded_toJson depth)
  refine .object ?_
  simp only [List.forall_mem_cons]
  exact ⟨.string _ _, .string _ _, r.detail.worded_toJson (depth + 2), hmolds, List.forall_mem_nil _⟩

theorem ofText?_toText (r : Rule) : ofText? r.toText = some r := by
  have hworded : Json.Worded Json.depthLimit r.toJson := r.worded_toJson 123
  rw [ofText?, toText, hworded.ofText?_compact, Option.bind_some, ofJson?_toJson]

theorem exists_given_fields {j : Json} {r : Rule} (h : ofJson? j = some r) :
    ∃ detail molds, j.given 2 "detail" = detail.toList ∧ j.given 3 "molds" = molds.toList ∧
      Json.fieldOr? (.property .innerText) Detail.ofJson? detail = some r.detail ∧
      Json.fieldOr? [] (Json.list? Mold.ofJson?) molds = some r.molds := by
  unfold ofJson? at h
  split at h
  · next method query detail molds hrecord =>
    obtain ⟨m, _, h⟩ := Option.bind_eq_some_iff.mp h
    obtain ⟨q, _, h⟩ := Option.bind_eq_some_iff.mp h
    obtain ⟨d, hd, h⟩ := Option.bind_eq_some_iff.mp h
    obtain ⟨ms, hms, h⟩ := Option.bind_eq_some_iff.mp h
    obtain ⟨_, ⟨⟩, hdetail⟩ := Json.exists_given hrecord 2 rfl
    obtain ⟨_, ⟨⟩, hmolds⟩ := Json.exists_given hrecord 3 rfl
    cases h
    exact ⟨detail, molds, hdetail, hmolds, hd, hms⟩
  · cases h

/-- Every rule is read back from its text. A text that holds a rule may leave out the detail, the molds, or the attributes
of a mold, and the rule is then the one with the inner text, without molds, or with a mold that has no attributes. -/
theorem readBack_defaults :
    (∀ r, ofText? (toText r) = some r) ∧
    ∀ text r, ofText? text = some r → ofText? r.toText = some r ∧
      ∃ j, Json.ofText? text = some j ∧
        (j.given 2 "detail" = [] → r.detail = .property .innerText) ∧
        (j.given 3 "molds" = [] → r.molds = []) ∧
        ∀ molds, j.given 3 "molds" = [.array molds] → List.Forall₂ (fun mold m =>
          Mold.ofJson? mold = some m ∧ (mold.given 1 "attributes" = [] → m.attributes = [])) molds r.molds := by
  refine ⟨ofText?_toText, ?_⟩
  intro text r h
  obtain ⟨j, htext, hj⟩ := Option.bind_eq_some_iff.mp h
  obtain ⟨detail, molds, hdetail, hmolds, hd, hms⟩ := exists_given_fields hj
  refine ⟨r.ofText?_toText, j, htext, Json.eq_default_of_given hd hdetail, Json.eq_default_of_given hms hmolds, ?_⟩
  intro items hitems
  rw [hitems, eq_comm, Option.toList_eq_singleton_iff] at hmolds
  subst hmolds
  have hread := mapM_eq_some_iff.mp hms
  exact hread.imp fun mold m hm => ⟨hm, Mold.attributes_of_given hm⟩

def sparse : Json :=
  .object [("query", .string "h1"), ("method", .string "css"), ("molds", .array [.object [("kind", .string "trim")]])]

theorem readBack_defaults_sparse :
    ofText? sparse.compact = some (.css "h1" [⟨.trim, []⟩]) ∧ sparse.given 2 "detail" = [] ∧
      ofText? (Rule.css "h1" [⟨.trim, []⟩]).toText = some (.css "h1" [⟨.trim, []⟩]) := by
  have hread : ofText? sparse.compact = some (.css "h1" [⟨.trim, []⟩]) := by
    have hmold : Json.Worded 125 (.object [("kind", .string "trim")]) := .object (by simp [Json.Worded.string])
    have hmolds : Json.Worded 126 (.array [.object [("kind", .string "trim")]]) := .array (by simpa using hmold)
    have hworded : Json.Worded Json.depthLimit sparse := .object (by simp [Json.Worded.string, hmolds])
    rw [ofText?, hworded.ofText?_compact]
    rfl
  exact ⟨hread, rfl, (readBack_defaults.2 _ _ hread).1⟩

end Rule
end Storefront

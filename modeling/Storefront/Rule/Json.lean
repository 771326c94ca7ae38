import Storefront.Json.Decode
import Storefront.Mold.Basic
import Storefront.Rule.Basic

/-! # Extraction rules and their molds in JSON -/
namespace Storefront.Mold

def toJson (m : Mold) : Json :=
  .object [("kind", .string m.kind.key), ("attributes", .array (m.attributes.map Json.string))]

def ofJson? (j : Json) : Option Mold :=
  match j.record? ["kind", "attributes"] with
  | some [some kind, attributes] => do
    let kind ← kind.choice?.bind Kind.ofKey?
    let attributes ← Json.fieldOr? [] (Json.list? Json.string?) attributes
    return ⟨kind, attributes⟩
  | _ => none

end Storefront.Mold

namespace Storefront.Rule

def Detail.toJson : Detail → Json
  | attr name => .object [("kind", .string "attribute"), ("key", .string name)]
  | property p => .object [("kind", .string "property"), ("key", .string p.name)]

def Detail.ofKind? (kind : String) (key : Json) : Option Detail :=
  match kind with
  | "attribute" => key.string?.map .attr
  | "property" => (key.choice?.bind Property.ofName?).map .property
  | _ => none

def Detail.ofJson? (j : Json) : Option Detail :=
  match j.record? ["kind", "key"] with
  | some [some kind, some key] => kind.choice?.bind (ofKind? · key)
  | _ => none

def toJson (r : Rule) : Json :=
  .object [("method", .string r.method.key), ("query", .string r.query), ("detail", r.detail.toJson),
    ("molds", .array (r.molds.map Mold.toJson))]

def ofJson? (j : Json) : Option Rule :=
  match j.record? ["method", "query", "detail", "molds"] with
  | some [some method, some query, detail, molds] => do
    let method ← method.choice?.bind Method.ofKey?
    let query ← query.string?
    let detail ← Json.fieldOr? (.property .innerText) Detail.ofJson? detail
    let molds ← Json.fieldOr? [] (Json.list? Mold.ofJson?) molds
    return ⟨method, query, detail, molds⟩
  | _ => none

end Storefront.Rule

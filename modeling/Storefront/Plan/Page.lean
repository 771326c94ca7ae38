import Storefront.Plan.Variant
import Storefront.Text.Quoted
import Storefront.Url.Reader

/-! # Plans for pages

A page plan holds what is known of a shop: its domain, the rules for its pages, and its terms of
ordering.
-/
namespace Storefront

structure Economics where
  /-- The share of the price that is added before prices are compared. -/
  deduction : Decimal := Decimal.zero
  /-- The value that an order may reach. -/
  limit : Option Money := none
  /-- The fee for each order. -/
  extra : Option Money := none
deriving DecidableEq

structure PagePlan where
  id : Option Nat
  name : String
  domain : Url
  preprocess : List Mold := []
  title : Rule
  subtitle : Option Rule := none
  thumbnail : Option Rule := none
  defaultMode : DefaultMode := .ignore
  defaultOption : Option VariantPlan := none
  list : Option Rule := none
  option : Option VariantPlan := none
  priceMode : PriceMode := .standalone
  economics : Economics := {}
deriving DecidableEq

namespace Economics

def toJson (e : Economics) : Json :=
  .object [("deduction", e.deduction.toJson), ("limit", Json.ofOption Money.toJson e.limit),
    ("extra", Json.ofOption Money.toJson e.extra)]

def ofJson? (j : Json) : Option Economics :=
  match j.record? ["deduction", "limit", "extra"] with
  | some [deduction, limit, extra] => do
    return ⟨← Json.fieldOr? Decimal.zero Decimal.ofJson? deduction,
      ← Json.optionalField? Money.ofJson? limit, ← Json.optionalField? Money.ofJson? extra⟩
  | _ => none

end Economics

namespace PagePlan

def twin (p : PagePlan) (id : Option Nat) (name : String) (domain : Url) : PagePlan :=
  { p with id, name, domain }

/-- The currencies that prices and terms may be quoted in, in display order. -/
def currencies (p : PagePlan) : List Currency :=
  let quoted := ([p.defaultOption, p.option].filterMap fun x => x).map VariantPlan.currency ++
    ([p.economics.limit, p.economics.extra].filterMap fun x => x).map Money.currency
  Currency.all.filter quoted.contains

def describe (p : PagePlan) : String :=
  let id := match p.id with
    | some n => s!"Some({n})"
    | none => "None"
  s!"PagePlan \x7b id: {id}, name: {Text.quoted p.name}, domain: {Text.quoted (toString p.domain)}, " ++
    s!"default_mode: {p.defaultMode.name}, price_mode: {p.priceMode.name}, .. \x7d"

end PagePlan
end Storefront

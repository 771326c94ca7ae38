import Storefront.Page.Basic
import Storefront.Rule.Extract
import Storefront.Rule.Json
import Storefront.Text.Number

/-! # Plans for options

An option is read by one rule for each of its fields. Only the price must be there.
-/
namespace Storefront

structure VariantPlan where
  code : Option Rule := none
  propertyA : Option Rule := none
  propertyB : Option Rule := none
  propertyC : Option Rule := none
  stock : Option Rule := none
  price : Rule
  currency : Currency
deriving DecidableEq, Repr

namespace VariantPlan

def optionalField (rule : Option Rule) (f : Fragment) : Attempt (Option String) :=
  match rule with
  | none => .ok none
  | some r => do
    match ← r.lookup f with
    | .ok s => return some (String.ofList s)
    | .error _ => return none

/-- Reads an option. A price that is no number counts as zero, and where `strict` holds the price
must be positive. -/
def parseWith (strict : Bool) (p : VariantPlan) (f : Fragment) : Attempt Variant := do
  let raw ← p.price.extract f
  let amount := (Text.decimal? raw).getD Decimal.zero
  if strict && !amount.isPositive then .error (.invalidPrice (String.ofList raw))
  return {
    code := ← optionalField p.code f
    propertyA := ← optionalField p.propertyA f
    propertyB := ← optionalField p.propertyB f
    propertyC := ← optionalField p.propertyC f
    stock := ← optionalField p.stock f
    price := ⟨amount, p.currency⟩ }

def parse (p : VariantPlan) (f : Fragment) : Attempt Variant := p.parseWith true f

def parseDelta (p : VariantPlan) (f : Fragment) : Attempt Variant := p.parseWith false f

def ofJson? (j : Json) : Option VariantPlan :=
  match j.record? ["code", "property_a", "property_b", "property_c", "stock", "price", "currency"] with
  | some [code, a, b, c, stock, some price, some currency] => do
    let rule := Json.optionalField? Rule.ofJson?
    return ⟨← rule code, ← rule a, ← rule b, ← rule c, ← rule stock, ← Rule.ofJson? price,
      ← Currency.ofJson? currency⟩
  | _ => none

end VariantPlan
end Storefront

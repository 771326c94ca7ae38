import Storefront.Currency
import Storefront.Decimal.Text
import Storefront.Json.Decode

/-! # Money

In JSON, amounts are written as strings. They may also be read from numbers.
-/
namespace Storefront

structure Money where
  amount : Decimal
  currency : Currency
deriving DecidableEq

namespace Money

def toText (m : Money) : String :=
  let amount := String.ofList ((m.amount.round 2).toFixed 2)
  match m.currency with
  | .usd => "$" ++ amount
  | .gbp => "£" ++ amount
  | .eur => amount ++ " €"
  | .uah => amount ++ " грн"
  | .pln => amount ++ " zł"

instance : ToString Money := ⟨toText⟩

end Money

def Decimal.toJson (d : Decimal) : Json := .string (toString d)

def Decimal.ofJson? : Json → Option Decimal
  | .string s => Decimal.ofText? s.toList
  | .integer n => Decimal.ofParts? n 0
  | .real x => (Decimal.read (Binary64.toText x)).toOption
  | _ => none

def Currency.toJson (c : Currency) : Json := .string c.code

def Currency.ofJson? (j : Json) : Option Currency := j.choice?.bind Currency.ofCode?

namespace Money

def toJson (m : Money) : Json := .object [("amount", m.amount.toJson), ("currency", m.currency.toJson)]

def ofJson? (j : Json) : Option Money :=
  match j.record? ["amount", "currency"] with
  | some [some amount, some currency] => do
    return ⟨← Decimal.ofJson? amount, ← Currency.ofJson? currency⟩
  | _ => none

end Money

end Storefront

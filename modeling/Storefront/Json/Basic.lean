import Storefront.Binary64.Text

/-! # JSON values

Numbers written as integers of at most 64 bits stay integers, all others are floating point numbers.
An object is a list of fields in the order in which they are written.
-/
namespace Storefront

inductive Json where
  | null
  | bool (b : Bool)
  | integer (n : Int)
  | real (x : Float)
  | string (s : String)
  | array (items : List Json)
  | object (fields : List (String × Json))
deriving Inhabited

namespace Json

def ofNat (n : Nat) : Json := .integer n

def ofOption {α : Type} (f : α → Json) : Option α → Json
  | none => .null
  | some a => f a

def fields : Json → List (String × Json)
  | object fs => fs
  | _ => []

/-- A field's value. Of several fields of one name the last counts, and a missing one is null. -/
def get (j : Json) (key : String) : Json :=
  (j.fields.foldl (fun found (k, v) => if k = key then some v else found) none).getD .null

def isNull : Json → Bool
  | null => true
  | _ => false

end Json
end Storefront

import Storefront.Json.Basic

/-! # Reading data out of JSON values

A record is an object, whose unknown fields are ignored and whose known fields occur once at most, or
an array of the fields' values in order. A choice is a string, or an object whose one field is null.
-/
namespace Storefront.Json

/-- The values of the fields with these names, where they are given. -/
def record? (names : List String) : Json → Option (List (Option Json))
  | object fs =>
    names.mapM fun name =>
      match fs.filter (·.1 == name) with
      | [] => some none
      | [(_, v)] => some (some v)
      | _ => none
  | array items =>
    if items.length ≤ names.length then
      some (items.map some ++ List.replicate (names.length - items.length) none)
    else none
  | _ => none

def string? : Json → Option String
  | string s => some s
  | _ => none

def bool? : Json → Option Bool
  | bool b => some b
  | _ => none

def integer? : Json → Option Int
  | integer n => some n
  | _ => none

def below? (bound : Nat) : Json → Option Nat
  | integer n => if 0 ≤ n ∧ n < bound then some n.toNat else none
  | _ => none

def list? {α : Type} (f : Json → Option α) : Json → Option (List α)
  | array items => items.mapM f
  | _ => none

def optional? {α : Type} (f : Json → Option α) : Json → Option (Option α)
  | null => some none
  | j => (f j).map some

def optionalField? {α : Type} (f : Json → Option α) : Option Json → Option (Option α)
  | none => some none
  | some j => optional? f j

def fieldOr? {α : Type} (default : α) (f : Json → Option α) : Option Json → Option α
  | none => some default
  | some j => f j

def choice? : Json → Option String
  | string s => some s
  | object [(s, null)] => some s
  | _ => none

end Storefront.Json

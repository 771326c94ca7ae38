import Storefront.Catalog.Builtin
import Storefront.Text.Number

/-! # Finding and listing plans -/
namespace Storefront.Catalog
open Unicode Text

def shortName (name : List Char) : List Char :=
  match Text.splitFirst [' ', '('] name with
  | some (front, _) => front
  | none => name

def sameName (a b : List Char) : Bool := a.map asciiLower == b.map asciiLower

/-- Whether a key names the plan: by its number, its name or its short name, in either case. A key
that is a number is no name. -/
def isKey (p : PagePlan) (key : String) : Bool :=
  let key := Text.trim key.toList
  match Text.natural? (pow2 32) key with
  | some id => p.id == some id
  | none => sameName p.name.toList key || sameName (shortName p.name.toList) key

def find? (plans : List PagePlan) (key : String) : Option PagePlan := plans.find? (isKey · key)

def renderPlan (p : PagePlan) : String :=
  padLeft 5 ((p.id.map toString).getD "-") ++ "  " ++ padRight 24 p.name ++ " " ++
    padRight 36 (toString p.domain) ++ " " ++ p.defaultMode.name ++ "\n"

def render (plans : List PagePlan) : String := String.join (plans.map renderPlan)

def planJson (p : PagePlan) : Json :=
  .object [("currencies", .array (p.currencies.map Currency.toJson)),
    ("default_option_mode", .string p.defaultMode.name), ("domain", .string (toString p.domain)),
    ("id", Json.ofOption Json.ofNat p.id), ("name", .string p.name)]

/-- The same as JSON, with fields in alphabetical order. -/
def json (plans : List PagePlan) : Json := .array (plans.map planJson)

end Storefront.Catalog

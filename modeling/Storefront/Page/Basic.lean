import Storefront.Money.Basic
import Storefront.Text.Quoted

/-! # Pages and their options

In JSON the fields are written in alphabetical order.
-/
namespace Storefront
open Text

structure Variant where
  code : Option String := none
  propertyA : Option String := none
  propertyB : Option String := none
  propertyC : Option String := none
  stock : Option String := none
  price : Money
deriving DecidableEq

structure Page where
  title : String
  thumbnail : Option String := none
  options : List Variant := []
deriving DecidableEq

namespace Variant

/-- The properties that are not empty, or a dash. -/
def displayName (v : Variant) : String :=
  match ([v.propertyA, v.propertyB, v.propertyC].filterMap id).filter (!·.isEmpty) with
  | [] => "-"
  | properties => String.intercalate "/" properties

def toJson (v : Variant) : Json :=
  let text := Json.ofOption Json.string
  .object [("code", text v.code), ("price", v.price.toJson), ("property_a", text v.propertyA),
    ("property_b", text v.propertyB), ("property_c", text v.propertyC), ("stock_status", text v.stock)]

def ofJson? (j : Json) : Option Variant :=
  match j.record? ["code", "property_a", "property_b", "property_c", "stock_status", "price"] with
  | some [code, a, b, c, stock, some price] => do
    let text := Json.optionalField? Json.string?
    return ⟨← text code, ← text a, ← text b, ← text c, ← text stock, ← Money.ofJson? price⟩
  | _ => none

end Variant

namespace Page

def toJson (p : Page) : Json :=
  .object [("options", .array (p.options.map Variant.toJson)),
    ("thumbnail", Json.ofOption Json.string p.thumbnail), ("title", .string p.title)]

def ofJson? (j : Json) : Option Page :=
  match j.record? ["title", "thumbnail", "options"] with
  | some [some title, thumbnail, some options] => do
    return ⟨← title.string?, ← Json.optionalField? Json.string? thumbnail,
      ← Json.list? Variant.ofJson? options⟩
  | _ => none

end Page

def Variant.render (v : Variant) : String :=
  "  " ++ padRight 12 (v.code.getD "-") ++ " " ++ padRight 24 v.displayName ++ " " ++
    padLeft 14 (toString v.price) ++ "  " ++ v.stock.getD "" ++ "\n"

def Page.render (p : Page) : String :=
  p.title ++ "\n" ++ (match p.thumbnail with
    | some t => s!"  thumbnail: {t}\n"
    | none => "") ++
    (if p.options.isEmpty then "  (no options)\n" else String.join (p.options.map Variant.render))

end Storefront

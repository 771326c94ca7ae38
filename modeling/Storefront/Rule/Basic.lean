import Storefront.Mold.Basic

/-! # Extraction rules

A rule finds a value in a page, by a selector or by a pattern, and reshapes it by molds.
-/
namespace Storefront

inductive Rule.Method
  | css
  | regex
deriving DecidableEq, Repr

inductive Rule.Property
  | innerText
  | innerHtml
  | outerHtml
deriving DecidableEq, Repr

/-- What is read off an element. -/
inductive Rule.Detail
  | attr (name : String)
  | property (p : Rule.Property)
deriving DecidableEq, Repr

structure Rule where
  method : Rule.Method
  query : String
  detail : Rule.Detail := .property .innerText
  molds : List Mold := []
deriving DecidableEq, Repr

namespace Rule

def css (query : String) (molds : List Mold := []) : Rule := ⟨.css, query, .property .innerText, molds⟩
def regex (query : String) (molds : List Mold := []) : Rule := ⟨.regex, query, .property .innerText, molds⟩

def Method.key : Method → String
  | css => "css"
  | regex => "regex"

def Method.ofKey? : String → Option Method
  | "css" => some .css
  | "regex" => some .regex
  | _ => none

def Property.name : Property → String
  | innerText => "InnerText"
  | innerHtml => "InnerHtml"
  | outerHtml => "OuterHtml"

def Property.ofName? : String → Option Property
  | "InnerText" => some .innerText
  | "InnerHtml" => some .innerHtml
  | "OuterHtml" => some .outerHtml
  | _ => none

end Rule
end Storefront

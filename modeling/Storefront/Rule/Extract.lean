import Storefront.Failure
import Storefront.Html.Parse
import Storefront.Html.Write
import Storefront.Mold.Pipeline
import Storefront.Rule.Basic
import Storefront.Selector.Match

/-! # Extraction

A rule reads one value out of a fragment: the first element that its selector describes, or the first
group of the first match of its pattern. Lists of elements or of matches are the raw material for
other rules.
-/
namespace Storefront

/-- What a rule is applied to. A document comes with the markup that it was parsed from. -/
inductive Fragment
  | text (s : List Char)
  | element (doc : Html.Document) (id : Nat)
  | document (doc : Html.Document) (markup : List Char)

namespace Fragment

def ofMarkup (s : List Char) : Fragment := .document (Html.Document.parse s) s

def elementName (d : Html.Document) (id : Nat) : String := ((d.element? id).map Html.Element.name).getD ""

def describe : Fragment → String
  | text _ => "text"
  | element d id => s!"<{elementName d id}>"
  | document _ _ => "document"

/-- The text that patterns run over: of an element its inner markup. -/
def content : Fragment → List Char
  | text s => s
  | element d id => (d.innerHtml id).toList
  | document _ markup => markup

end Fragment

namespace Rule

def selector (r : Rule) : Attempt SelectorList :=
  Attempt.ofOption (.misconfigured (.invalidSelector r.query)) (SelectorList.ofText? r.query.toList)

def pattern (r : Rule) : Attempt Pattern :=
  Attempt.ofOption (.misconfigured (.invalidPattern r.query)) (Pattern.ofText? r.query.toList)

def reshape (r : Rule) (s : List Char) : Attempt (List Char) :=
  match Mold.applyAll r.molds s with
  | .ok s => .ok s
  | .error fault => .error (.misconfigured (.mold fault))

/-- What the rule's detail says of an element. A missing attribute is empty. -/
def Detail.read (d : Detail) (doc : Html.Document) (id : Nat) : String :=
  match d with
  | attr name => ((doc.element? id).bind (Selector.attr? · name)).getD ""
  | property .innerText => doc.innerText id
  | property .innerHtml => doc.innerHtml id
  | property .outerHtml => doc.outerHtml id

def select (r : Rule) (f : Fragment) : Attempt (List (Html.Document × Nat)) :=
  match f with
  | .text _ => .error (.misconfigured (.selectorOnText r.query))
  | .element d id => do return ((← r.selector).below d id).map (d, ·)
  | .document d _ => do return ((← r.selector).inDocument d).map (d, ·)

/-- The value before it is reshaped. A pattern that does not match gives an empty text. -/
def raw (r : Rule) (f : Fragment) : Attempt (List Char) :=
  match r.method with
  | .css => do
    match ← r.select f with
    | (d, id) :: _ => return (r.detail.read d id).toList
    | [] => .error (.selectorNotFound r.query f.describe)
  | .regex => do
    let p ← r.pattern
    return ((p.firstMatch f.content).bind (·.group? 1)).getD []

def extract (r : Rule) (f : Fragment) : Attempt (List Char) := do r.reshape (← r.raw f)

/-- The value, or the failure that stands for its absence. -/
def lookup (r : Rule) (f : Fragment) : Attempt (Except Failure (List Char)) :=
  match r.extract f with
  | .ok s => .ok (.ok s)
  | .error e => if e.isAbsence then .ok (.error e) else .error e

def elements (r : Rule) (f : Fragment) : Attempt (List (Html.Document × Nat)) :=
  if r.method ≠ .css then .error (.misconfigured (.elementsByPattern r.query))
  else if !r.molds.isEmpty then .error (.misconfigured (.moldedElements r.query))
  else
    match f with
    | .text _ => do
      let _ ← r.selector
      .error (.misconfigured (.selectorOnText r.query))
    | _ => do
      match ← r.select f with
      | [] => .error (.noResults r.query)
      | found => return found

def strings (r : Rule) (s : List Char) : Attempt (List (List Char)) :=
  if r.method ≠ .regex then .error (.misconfigured (.selectorOnText r.query))
  else do
    let p ← r.pattern
    let found ← (p.allMatches s).mapM fun m => r.reshape ((m.group? 0).getD [])
    if found.isEmpty then .error (.noResults r.query) else return found

end Rule
end Storefront

import Storefront.Html.Write
import Storefront.Selector.Reader
import Storefront.Text.Blank
import Storefront.Text.Split

/-! # Matching selectors

Whether an element of a document is one that a selector describes, and the elements that are.
-/
namespace Storefront.Selector
open Html Unicode

def parentElement? (d : Document) (id : Nat) : Option Nat :=
  (d.parent? id).filter fun p => (d.element? p).isSome

def ancestors (d : Document) : (fuel : Nat) → Nat → List Nat
  | 0, _ => []
  | fuel + 1, id => match parentElement? d id with
    | some p => p :: ancestors d fuel p
    | none => []

/-- An element and its siblings that are elements. -/
def siblings (d : Document) (id : Nat) : List Nat :=
  match d.parent? id with
  | some p => (d.children p).toList.filter fun c => (d.element? c).isSome
  | none => [id]

def earlier (d : Document) (id : Nat) : List Nat :=
  ((siblings d id).takeWhile (· != id)).reverse

def sameType (d : Document) (a b : Nat) : Bool :=
  match d.element? a, d.element? b with
  | some x, some y => x.space == y.space && x.name == y.name
  | _, _ => false

/-- Whether a position, counted from one, is `a * n + b` for some `n ≥ 0`. -/
def Nth.holds (n : Nth) (position : Int) : Bool :=
  let d := position - n.b
  if n.a = 0 then d == 0 else decide (d % n.a = 0) && decide (0 ≤ d / n.a)

def position (d : Document) (id : Nat) (fromEnd ofType : Bool) : Nat :=
  let list := if ofType then (siblings d id).filter (sameType d id) else siblings d id
  let list := if fromEnd then list.reverse else list
  (list.takeWhile (· != id)).length + 1

def attrWords (s : List Char) : List (List Char) := Html.Entity.pieces isSpace s

def Compare.holds (op : Compare) (caseless : Bool) (value wanted : List Char) : Bool :=
  let norm := fun (s : List Char) => if caseless then s.map asciiLower else s
  let v := norm value
  let w := norm wanted
  match op with
  | equals => v == w
  | includes => !w.isEmpty && (attrWords v).contains w
  | dash => v == w || (w ++ ['-']).isPrefixOf v
  | startsWith => !w.isEmpty && w.isPrefixOf v
  | endsWith => !w.isEmpty && w.isSuffixOf v
  | contains => !w.isEmpty && Text.contains w v

def attrsNamed (e : Element) (anyNamespace : Bool) (name : String) : List Attr :=
  let name := if e.space == .html then lowerName name else name
  e.attrs.filter fun a => a.name == name && (anyNamespace || a.space == .plain)

def attr? (e : Element) (name : String) : Option String :=
  (e.attrs.find? fun a => a.name == name && a.space == .plain).map Attr.value

def isRoot (d : Document) (id : Nat) : Bool := d.parent? id == some 0

def isEmpty (d : Document) (id : Nat) : Bool :=
  (d.children id).all fun c => !((d.element? c).isSome || d.isText c)

/-- What matching refers to: the document, the element that a search is confined to, and the element
that a relative selector starts from. -/
structure Context where
  doc : Document
  scope : Option Nat
  anchor : Option Nat

mutual
def Part.holds (fuel : Nat) (ctx : Context) (p : Part) (id : Nat) : Bool :=
  match fuel with
  | 0 => false
  | fuel + 1 =>
    match ctx.doc.element? id with
    | none => false
    | some e => match p with
      | .localName name => e.name == (if e.space == .html then lowerName name else name)
      | .noNamespace => false
      | .any => true
      | .id name => attr? e "id" == some name
      | .cls name => ((attr? e "class").map fun v => (Text.words v.toList).contains name.toList).getD false
      | .hasAttr anyNamespace name => !(attrsNamed e anyNamespace name).isEmpty
      | .attr anyNamespace name op value rule =>
        let caseless := match rule with
          | .sensitive => false
          | .insensitive => true
          | .usual => e.space == .html
        (attrsNamed e anyNamespace name).any fun a => op.holds caseless a.value.toList value.toList
      | .root => isRoot ctx.doc id
      | .empty => isEmpty ctx.doc id
      | .scope => match ctx.scope with
        | some s => s == id
        | none => isRoot ctx.doc id
      | .nth n => n.holds (position ctx.doc id n.fromEnd n.ofType)
      | .only ofType =>
        position ctx.doc id false ofType == 1 && position ctx.doc id true ofType == 1
      | .is list => list.any fun s => Selector.holds fuel ctx s id
      | .not list => !(list.any fun s => Selector.holds fuel ctx s id)
      | .has list =>
        let around := (ctx.doc.parent? id).getD id
        let inner := { ctx with anchor := some id }
        list.any fun s => (ctx.doc.subtree around).any fun c => Selector.holds fuel inner s c
      | .anchor => ctx.anchor == some id
def holds (fuel : Nat) (ctx : Context) (s : Selector) (id : Nat) : Bool :=
  match fuel with
  | 0 => false
  | fuel + 1 =>
    match s with
    | .compound parts => parts.all fun p => Part.holds fuel ctx p id
    | .related left relation parts =>
      parts.all (fun p => Part.holds fuel ctx p id) &&
        (match relation with
        | .descendant => (ancestors ctx.doc ctx.doc.nodes.size id).any fun a => Selector.holds fuel ctx left a
        | .child => (parentElement? ctx.doc id).any fun a => Selector.holds fuel ctx left a
        | .nextSibling => (earlier ctx.doc id).head?.any fun a => Selector.holds fuel ctx left a
        | .laterSibling => (earlier ctx.doc id).any fun a => Selector.holds fuel ctx left a)
end

end Storefront.Selector

namespace Storefront

/-- A list of selectors, together with how far matching it may go. -/
structure SelectorList where
  list : List Selector
  depth : Nat

namespace SelectorList

def ofText? (s : List Char) : Option SelectorList :=
  (Selector.ofText? s).map (⟨·, Selector.readFuel s⟩)

def holds (s : SelectorList) (ctx : Selector.Context) (id : Nat) : Bool :=
  s.list.any fun one => Selector.holds s.depth ctx one id

/-- The elements of a document that match, in the order in which they were made. -/
def inDocument (s : SelectorList) (d : Html.Document) : List Nat :=
  (List.range d.nodes.size).filter fun id =>
    (d.parent? id).isSome && s.holds ⟨d, none, none⟩ id

def below (s : SelectorList) (d : Html.Document) (id : Nat) : List Nat :=
  ((d.subtree id).drop 1).filter fun c => s.holds ⟨d, some id, none⟩ c

end SelectorList
end Storefront

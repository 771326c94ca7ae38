import Storefront.Html.Token

/-! # Building document trees

The state in which tokens become nodes: the elements that are open, those whose formatting is taken up
again in new blocks, and the insertion mode. This module holds the operations that the modes share.
-/
namespace Storefront.Html

inductive Mode
  | initial
  | beforeHtml
  | beforeHead
  | inHead
  | afterHead
  | inBody
  | text
  | inTable
  | inTableText
  | inCaption
  | inColumnGroup
  | inTableBody
  | inRow
  | inCell
  | inSelect
  | inSelectInTable
  | inTemplate
  | afterBody
  | inFrameset
  | afterFrameset
  | afterAfterBody
  | afterAfterFrameset
deriving DecidableEq, Repr, Inhabited

/-- An element whose formatting is active, with the tag it was made from, or a mark that none before
it is. -/
inductive Formatting
  | marker
  | element (id : Nat) (tag : Tag)
deriving Repr, Inhabited

structure Builder where
  doc : Document := .empty
  mode : Mode := .initial
  /-- The mode to go back to after text of its own kind. -/
  comesFrom : Mode := .initial
  templates : List Mode := []
  /-- Open elements, outermost first. -/
  stack : Array Nat := #[]
  active : Array Formatting := #[]
  head : Option Nat := none
  form : Option Nat := none
  framesetOk : Bool := true
  foster : Bool := false
  skipLineFeed : Bool := false
  pending : List Char := []
  /-- A table may stand in a paragraph. -/
  loose : Bool := false
  textMode : TextMode := .markup
  lastStart : String := ""
  stopped : Bool := false
deriving Inhabited

/-- How a token goes on after a rule: it is used up, or it is processed again in another mode, or the
rules of another mode apply to it. -/
inductive Step
  | done (b : Builder)
  | again (b : Builder) (mode : Mode)
  | use (b : Builder) (mode : Mode)

inductive Place
  | lastChild (parent : Nat)
  | before (sibling : Nat)

namespace Builder

def current? (b : Builder) : Option Nat := b.stack.back?

def current (b : Builder) : Nat := b.stack.back?.getD 0

def element? (b : Builder) (id : Nat) : Option Element := b.doc.element? id

def isHtml (b : Builder) (id : Nat) (name : String) : Bool := b.doc.isHtml id name

def currentIs (b : Builder) (name : String) : Bool := b.isHtml b.current name

def currentIn (b : Builder) (names : List String) : Bool := b.doc.isHtmlIn b.current names

def openList (b : Builder) : List Nat := b.stack.toList.reverse

def hasOpen (b : Builder) (name : String) : Bool := b.stack.any fun id => b.isHtml id name

def pop (b : Builder) : Builder := { b with stack := b.stack.pop }

def push (b : Builder) (id : Nat) : Builder := { b with stack := b.stack.push id }

/-- Closes elements, innermost first, until `p` holds of one, which stays open. -/
def popWhile (b : Builder) (p : Nat → Bool) : Builder :=
  { b with stack := (b.openList.dropWhile p).reverse.toArray }

def popThrough (b : Builder) (p : Nat → Bool) : Builder :=
  { b with stack := ((b.openList.dropWhile (!p ·)).drop 1).reverse.toArray }

def popThroughName (b : Builder) (name : String) : Builder := b.popThrough (b.isHtml · name)

def removeFromStack (b : Builder) (id : Nat) : Builder :=
  { b with stack := b.stack.filter (· != id) }

/-- Elements that a search for an open element does not look beyond. -/
def isScopeBound (b : Builder) (id : Nat) : Bool :=
  match b.element? id with
  | none => false
  | some e => match e.space with
    | .html => ["applet", "caption", "html", "table", "td", "th", "marquee", "object", "template"].contains e.name
    | .mathml => ["mi", "mo", "mn", "ms", "mtext"].contains e.name
    | .svg => ["foreignObject", "desc", "title"].contains e.name

def inScopeWith (b : Builder) (bound p : Nat → Bool) : Bool :=
  let rec go : List Nat → Bool
    | [] => false
    | id :: rest => if p id then true else if bound id then false else go rest
  go b.openList

def inScopeP (b : Builder) (p : Nat → Bool) : Bool := b.inScopeWith b.isScopeBound p

def inScope (b : Builder) (name : String) : Bool := b.inScopeP (b.isHtml · name)

def inScopeOf (b : Builder) (extra : List String) (name : String) : Bool :=
  b.inScopeWith (fun id => b.isScopeBound id || b.doc.isHtmlIn id extra) (b.isHtml · name)

def inListScope (b : Builder) (name : String) : Bool := b.inScopeOf ["ol", "ul"] name

def inButtonScope (b : Builder) (name : String) : Bool := b.inScopeOf ["button"] name

def isTableBound (b : Builder) (id : Nat) : Bool := b.doc.isHtmlIn id ["html", "table", "template"]

def inTableScope (b : Builder) (name : String) : Bool :=
  b.inScopeWith b.isTableBound (b.isHtml · name)

def inTableScopeIn (b : Builder) (names : List String) : Bool :=
  b.inScopeWith b.isTableBound (b.doc.isHtmlIn · names)

def inSelectScope (b : Builder) (name : String) : Bool :=
  b.inScopeWith (fun id => !(b.doc.isHtmlIn id ["optgroup", "option"])) (b.isHtml · name)

def headings : List String := ["h1", "h2", "h3", "h4", "h5", "h6"]

def specialNames : List String :=
  ["address", "applet", "area", "article", "aside", "base", "basefont", "bgsound", "blockquote",
   "body", "br", "button", "caption", "center", "col", "colgroup", "dd", "details", "dir", "div", "dl",
   "dt", "embed", "fieldset", "figcaption", "figure", "footer", "form", "frame", "frameset", "h1", "h2",
   "h3", "h4", "h5", "h6", "head", "header", "hgroup", "hr", "html", "iframe", "img", "input",
   "isindex", "li", "link", "listing", "main", "marquee", "menu", "meta", "nav", "noembed", "noframes",
   "noscript", "object", "ol", "p", "param", "plaintext", "pre", "script", "section", "select",
   "source", "style", "summary", "table", "tbody", "td", "template", "textarea", "tfoot", "th",
   "thead", "title", "tr", "track", "ul", "wbr", "xmp"]

def isSpecial (b : Builder) (id : Nat) : Bool := b.doc.isHtmlIn id specialNames

def impliedEnds : List String := ["dd", "dt", "li", "optgroup", "option", "p", "rb", "rp", "rt", "rtc"]

/-- Closes elements whose end tags may be left out, but none named `except`. -/
def closeImplied (b : Builder) (except : String) : Builder :=
  b.popWhile fun id => b.doc.isHtmlIn id (impliedEnds.filter (· != except))

def closeImpliedThoroughly (b : Builder) : Builder :=
  b.popWhile fun id => b.doc.isHtmlIn id
    (impliedEnds ++ ["caption", "colgroup", "tbody", "td", "tfoot", "th", "thead", "tr"])

/-- The end of an element's content. That of a template is held apart. -/
def endOf (b : Builder) (id : Nat) : Place :=
  .lastChild (if b.isHtml id "template" then (b.doc.children id)[0]?.getD id else id)

/-- Where a node for the element `target` goes. Content that a table cannot hold goes before it. -/
def placeFor (b : Builder) (target : Nat) : Place :=
  if b.foster && b.doc.isHtmlIn target ["table", "tbody", "tfoot", "thead", "tr"] then
    let rec go : List Nat → Place
      | [] => .lastChild (b.stack[0]?.getD 0)
      | id :: rest =>
        if b.isHtml id "template" then b.endOf id
        else if b.isHtml id "table" then
          if (b.doc.parent? id).isSome then .before id else .lastChild (rest.head?.getD 0)
        else go rest
    go b.openList
  else b.endOf target

def putNode (b : Builder) (place : Place) (id : Nat) : Builder :=
  match place with
  | .lastChild p => { b with doc := b.doc.append p id }
  | .before s => { b with doc := b.doc.insertBefore s id }

def insertText (b : Builder) (s : String) : Builder :=
  match b.placeFor b.current with
  | .lastChild p => { b with doc := b.doc.appendText p s }
  | .before n => { b with doc := b.doc.insertTextBefore n s }

def insertChar (b : Builder) (c : Char) : Builder := b.insertText (String.singleton c)

def insertComment (b : Builder) (s : String) : Builder :=
  let (id, doc) := b.doc.create (.comment s)
  { b with doc := doc }.putNode (b.placeFor b.current) id

def commentOn (b : Builder) (parent : Nat) (s : String) : Builder :=
  let (id, doc) := b.doc.create (.comment s)
  { b with doc := doc.append parent id }

def createElement (b : Builder) (space : Space) (t : Tag) : Nat × Builder :=
  let (id, doc) := b.doc.create (.element ⟨space, t.name, t.attrs.mergeSort Attr.notAfter⟩)
  if space = .html ∧ t.name = "template" then
    let (contents, doc) := doc.create .fragment
    (id, { b with doc := doc.append id contents })
  else (id, { b with doc := doc })

def insertForeign (b : Builder) (space : Space) (t : Tag) : Builder :=
  let place := b.placeFor b.current
  let (id, b) := b.createElement space t
  (b.putNode place id).push id

def insert (b : Builder) (t : Tag) : Builder := b.insertForeign .html t

def insertNamed (b : Builder) (name : String) : Builder := b.insert ⟨name, [], false⟩

def insertVoid (b : Builder) (t : Tag) : Builder := (b.insert t).pop

def insertTextElement (b : Builder) (t : Tag) (mode : TextMode) : Builder :=
  { b.insert t with comesFrom := b.mode, mode := .text, textMode := mode, lastStart := t.name }

def isActive (b : Builder) (id : Nat) : Bool :=
  b.active.any fun
    | .element i _ => i == id
    | .marker => false

def deactivate (b : Builder) (id : Nat) : Builder :=
  { b with active := b.active.filter fun
      | .element i _ => i != id
      | .marker => true }

def addMarker (b : Builder) : Builder := { b with active := b.active.push .marker }

def clearToMarker (b : Builder) : Builder :=
  let kept := (b.active.toList.reverse.dropWhile fun
    | .marker => false
    | .element _ _ => true).drop 1
  { b with active := kept.reverse.toArray }

def sameTag (a b : Tag) : Bool :=
  a.name == b.name && a.attrs.length == b.attrs.length && a.attrs.all b.attrs.contains

/-- Activates the formatting of the current element. Of elements that are alike three stay active. -/
def activate (b : Builder) (id : Nat) (t : Tag) : Builder :=
  let recent := b.active.toList.reverse.takeWhile fun
    | .marker => false
    | .element _ _ => true
  let alike := recent.filterMap fun
    | .element i u => if sameTag t u then some i else none
    | .marker => none
  let b := match alike[2]? with
    | some oldest => b.deactivate oldest
    | none => b
  { b with active := b.active.push (.element id t) }

def reconstruct (b : Builder) : Builder :=
  let isSettled := fun
    | Formatting.marker => true
    | .element id _ => b.stack.contains id
  let settled := b.active.toList.reverse.dropWhile (!isSettled ·)
  let toOpen := b.active.toList.drop settled.length
  let step := fun (acc : Builder × List Formatting) (f : Formatting) => match f with
    | .marker => (acc.1, f :: acc.2)
    | .element _ t =>
      let b := acc.1.insert t
      (b, .element b.current t :: acc.2)
  let (b, opened) := toOpen.foldl step (b, settled)
  { b with active := opened.reverse.toArray }

def closeP (b : Builder) : Builder := (b.closeImplied "p").popThroughName "p"

def closePIfOpen (b : Builder) : Builder := if b.inButtonScope "p" then b.closeP else b

def resetMode (b : Builder) : Builder :=
  let rec go : List Nat → Mode
    | [] => .inBody
    | id :: rest =>
      match b.element? id with
      | none => go rest
      | some e =>
        if e.space != .html then go rest
        else match e.name with
          | "select" =>
            let rec inTable : List Nat → Bool
              | [] => false
              | i :: more =>
                if b.isHtml i "template" then false else if b.isHtml i "table" then true
                else inTable more
            if inTable rest then .inSelectInTable else .inSelect
          | "td" | "th" => if rest.isEmpty then go rest else .inCell
          | "tr" => .inRow
          | "tbody" | "thead" | "tfoot" => .inTableBody
          | "caption" => .inCaption
          | "colgroup" => .inColumnGroup
          | "table" => .inTable
          | "template" => b.templates.head?.getD .inBody
          | "head" => if rest.isEmpty then go rest else .inHead
          | "body" => .inBody
          | "frameset" => .inFrameset
          | "html" => if b.head.isNone then .beforeHead else .afterHead
          | _ => go rest
  { b with mode := go b.openList }

def activeIndex? (b : Builder) (id : Nat) : Option Nat :=
  b.active.findIdx? fun
    | .element i _ => i == id
    | .marker => false

def activeNamed? (b : Builder) (name : String) : Option (Nat × Tag) :=
  let recent := b.active.toList.reverse.takeWhile fun
    | .marker => false
    | .element _ _ => true
  recent.findSome? fun
    | .element id t => if t.name == name then some (id, t) else none
    | .marker => none

end Builder
end Storefront.Html

/-! # Document trees

A document is a growing array of nodes that name each other by index; node 0 is the document itself.
Nodes that have been taken out of the tree stay in the array without a parent.
-/
namespace Storefront.Html

inductive Space
  | html
  | svg
  | mathml
deriving DecidableEq, Repr, Inhabited

/-- The namespace of an attribute, which is part of its written name. -/
inductive AttrSpace
  | plain
  | xlink
  | xml
  | xmlns
deriving DecidableEq, Repr, Inhabited

structure Attr where
  space : AttrSpace := .plain
  name : String
  value : String
deriving DecidableEq, Repr, Inhabited

def Attr.rank (a : Attr) : Nat :=
  match a.space with
  | .plain => 0
  | .xmlns => if a.name = "xmlns" then 1 else 4
  | .xlink => 2
  | .xml => 3

/-- Attributes are kept by namespace and then by name. -/
def Attr.notAfter (a b : Attr) : Bool :=
  a.rank < b.rank || (a.rank == b.rank && a.name ≤ b.name)

structure Element where
  space : Space
  name : String
  attrs : List Attr
deriving DecidableEq, Repr, Inhabited

inductive Content
  | document
  /-- What a template holds; it stands between the template and its contents. -/
  | fragment
  | doctype (name : String)
  | text (s : String)
  | comment (s : String)
  | element (e : Element)
deriving Repr, Inhabited

structure Node where
  content : Content
  parent : Option Nat := none
  children : Array Nat := #[]
deriving Repr, Inhabited

structure Document where
  nodes : Array Node
deriving Repr, Inhabited

namespace Document

def empty : Document := ⟨#[{ content := .document }]⟩

def node? (d : Document) (id : Nat) : Option Node := d.nodes[id]?

def element? (d : Document) (id : Nat) : Option Element :=
  match d.node? id with
  | some ⟨.element e, _, _⟩ => some e
  | _ => none

def parent? (d : Document) (id : Nat) : Option Nat := (d.node? id).bind Node.parent

def children (d : Document) (id : Nat) : Array Nat := ((d.node? id).map Node.children).getD #[]

def isHtml (d : Document) (id : Nat) (name : String) : Bool :=
  match d.element? id with
  | some e => e.space == .html && e.name == name
  | none => false

def isHtmlIn (d : Document) (id : Nat) (names : List String) : Bool :=
  match d.element? id with
  | some e => e.space == .html && names.contains e.name
  | none => false

def create (d : Document) (c : Content) : Nat × Document :=
  (d.nodes.size, ⟨d.nodes.push { content := c }⟩)

def modify (d : Document) (id : Nat) (f : Node → Node) : Document := ⟨d.nodes.modify id f⟩

def detach (d : Document) (id : Nat) : Document :=
  match d.parent? id with
  | none => d
  | some p =>
    (d.modify p fun n => { n with children := n.children.filter (· != id) }).modify id fun n =>
      { n with parent := none }

def append (d : Document) (parent id : Nat) : Document :=
  ((d.detach id).modify parent fun n => { n with children := n.children.push id }).modify id fun n =>
    { n with parent := some parent }

def insertBefore (d : Document) (sibling id : Nat) : Document :=
  let d := d.detach id
  match d.parent? sibling with
  | none => d
  | some p =>
    (d.modify p fun n =>
      let (before, after) := n.children.toList.span (· != sibling)
      { n with children := (before ++ id :: after).toArray }).modify id fun n =>
        { n with parent := some p }

def extendText (d : Document) (id : Nat) (s : String) : Document :=
  d.modify id fun n => match n.content with
    | .text t => { n with content := .text (t ++ s) }
    | _ => n

def isText (d : Document) (id : Nat) : Bool :=
  match d.node? id with
  | some ⟨.text _, _, _⟩ => true
  | _ => false

/-- Adds text at the end of a node, to its last child if that is text. -/
def appendText (d : Document) (parent : Nat) (s : String) : Document :=
  match (d.children parent).back? with
  | some last =>
    if d.isText last then d.extendText last s
    else
      let (id, d) := d.create (.text s)
      d.append parent id
  | none =>
    let (id, d) := d.create (.text s)
    d.append parent id

def previous? (d : Document) (id : Nat) : Option Nat :=
  (d.parent? id).bind fun p =>
    (((d.children p).toList.takeWhile (· != id)).getLast?)

def insertTextBefore (d : Document) (sibling : Nat) (s : String) : Document :=
  match d.previous? sibling with
  | some p =>
    if d.isText p then d.extendText p s
    else
      let (id, d) := d.create (.text s)
      d.insertBefore sibling id
  | none =>
    let (id, d) := d.create (.text s)
    d.insertBefore sibling id

def moveChildren (d : Document) (source target : Nat) : Document :=
  (d.children source).foldl (fun d id => d.append target id) d

def addMissingAttrs (d : Document) (id : Nat) (attrs : List Attr) : Document :=
  d.modify id fun n => match n.content with
    | .element e =>
      let fresh := attrs.filter fun a => !(e.attrs.any fun b => b.name == a.name && b.space == a.space)
      { n with content := .element { e with attrs := (e.attrs ++ fresh).mergeSort Attr.notAfter } }
    | _ => n

end Document
end Storefront.Html

import Storefront.Html.Node

/-! # Texts of document trees

The text within a node, and its markup as it would be written: inside or with the node's own tags.
-/
namespace Storefront.Html.Document

/-- A node and all nodes below it, in document order. `fuel` bounds the depth. -/
def preorder (d : Document) : (fuel : Nat) → Nat → List Nat
  | 0, id => [id]
  | fuel + 1, id => id :: (d.children id).toList.flatMap (d.preorder fuel)

def subtree (d : Document) (id : Nat) : List Nat := d.preorder d.nodes.size id

def ownText (d : Document) (id : Nat) : String :=
  match d.node? id with
  | some ⟨.text s, _, _⟩ => s
  | _ => ""

def innerText (d : Document) (id : Nat) : String := String.join ((d.subtree id).map d.ownText)

def noBreakSpace : Char := Char.ofNat 0xa0

def escape (inAttr : Bool) (s : String) : String :=
  String.join (s.toList.map fun c =>
    if c = '&' then "&amp;"
    else if c = noBreakSpace then "&nbsp;"
    else if inAttr then (if c = '"' then "&quot;" else String.singleton c)
    else if c = '<' then "&lt;"
    else if c = '>' then "&gt;"
    else String.singleton c)

def attrText (a : Attr) : String :=
  let pre := match a.space with
    | .plain => ""
    | .xml => "xml:"
    | .xlink => "xlink:"
    | .xmlns => if a.name == "xmlns" then "" else "xmlns:"
  " " ++ pre ++ a.name ++ "=\"" ++ escape true a.value ++ "\""

def voidNames : List String :=
  ["area", "base", "basefont", "bgsound", "br", "col", "embed", "frame", "hr", "img", "input",
   "keygen", "link", "meta", "param", "source", "track", "wbr"]

def verbatimNames : List String :=
  ["style", "script", "xmp", "iframe", "noembed", "noframes", "plaintext"]

/-- The markup of a node. `verbatim` says whether text is written as it is. -/
def write (d : Document) (verbatim : Bool) : (fuel : Nat) → Nat → String
  | 0, _ => ""
  | fuel + 1, id =>
    match d.node? id with
    | none => ""
    | some node => match node.content with
      | .document | .fragment => String.join (node.children.toList.map (d.write false fuel))
      | .doctype name => "<!DOCTYPE " ++ name ++ ">"
      | .text s => if verbatim then s else escape false s
      | .comment s => "<!--" ++ s ++ "-->"
      | .element e =>
        let start := "<" ++ e.name ++ String.join (e.attrs.map attrText) ++ ">"
        if e.space == .html && voidNames.contains e.name then start
        else
          let verbatim := e.space == .html && verbatimNames.contains e.name
          start ++ String.join (node.children.toList.map (d.write verbatim fuel)) ++
            "</" ++ e.name ++ ">"

def outerHtml (d : Document) (id : Nat) : String := d.write false (d.nodes.size + 1) id

/-- The markup within a node. The node's own kind has no say in how its text is written. -/
def innerHtml (d : Document) (id : Nat) : String :=
  String.join ((d.children id).toList.map (d.write false (d.nodes.size + 1)))

end Storefront.Html.Document

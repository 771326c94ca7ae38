import Storefront.Html.Misnested

/-! # Rules for foreign content

Elements of vector graphics and formulas. Their names and attributes are given in lower case and mean
names with capitals.
-/
namespace Storefront.Html.Rules
open Builder

def svgNames : List String :=
  ["altGlyph", "altGlyphDef", "altGlyphItem", "animateColor", "animateMotion", "animateTransform",
   "clipPath", "feBlend", "feColorMatrix", "feComponentTransfer", "feComposite", "feConvolveMatrix",
   "feDiffuseLighting", "feDisplacementMap", "feDistantLight", "feDropShadow", "feFlood", "feFuncA",
   "feFuncB", "feFuncG", "feFuncR", "feGaussianBlur", "feImage", "feMerge", "feMergeNode",
   "feMorphology", "feOffset", "fePointLight", "feSpecularLighting", "feSpotLight", "feTile",
   "feTurbulence", "foreignObject", "glyphRef", "linearGradient", "radialGradient", "textPath"]

def svgAttrs : List String :=
  ["attributeName", "attributeType", "baseFrequency", "baseProfile", "calcMode", "clipPathUnits",
   "diffuseConstant", "edgeMode", "filterUnits", "glyphRef", "gradientTransform", "gradientUnits",
   "kernelMatrix", "kernelUnitLength", "keyPoints", "keySplines", "keyTimes", "lengthAdjust",
   "limitingConeAngle", "markerHeight", "markerUnits", "markerWidth", "maskContentUnits", "maskUnits",
   "numOctaves", "pathLength", "patternContentUnits", "patternTransform", "patternUnits", "pointsAtX",
   "pointsAtY", "pointsAtZ", "preserveAlpha", "preserveAspectRatio", "primitiveUnits", "refX", "refY",
   "repeatCount", "repeatDur", "requiredExtensions", "requiredFeatures", "specularConstant",
   "specularExponent", "spreadMethod", "startOffset", "stdDeviation", "stitchTiles", "surfaceScale",
   "systemLanguage", "tableValues", "targetX", "targetY", "textLength", "viewBox", "viewTarget",
   "xChannelSelector", "yChannelSelector", "zoomAndPan"]

def respell (names : List String) (name : String) : String :=
  (names.find? fun n => lowerString n.toList == name).getD name

def foreignAttr (a : Attr) : Attr :=
  match a.name with
  | "xlink:actuate" => { a with space := .xlink, name := "actuate" }
  | "xlink:arcrole" => { a with space := .xlink, name := "arcrole" }
  | "xlink:href" => { a with space := .xlink, name := "href" }
  | "xlink:role" => { a with space := .xlink, name := "role" }
  | "xlink:show" => { a with space := .xlink, name := "show" }
  | "xlink:title" => { a with space := .xlink, name := "title" }
  | "xlink:type" => { a with space := .xlink, name := "type" }
  | "xml:base" => { a with space := .xml, name := "base" }
  | "xml:lang" => { a with space := .xml, name := "lang" }
  | "xml:space" => { a with space := .xml, name := "space" }
  | "xmlns" => { a with space := .xmlns, name := "xmlns" }
  | "xmlns:xlink" => { a with space := .xmlns, name := "xlink" }
  | _ => a

def foreignTag (space : Space) (t : Tag) : Tag :=
  match space with
  | .html => t
  | .svg =>
    { t with
      name := respell svgNames t.name
      attrs := t.attrs.map fun a => foreignAttr { a with name := respell svgAttrs a.name } }
  | .mathml =>
    { t with
      attrs := t.attrs.map fun a =>
        foreignAttr (if a.name == "definitionurl" then { a with name := "definitionURL" } else a) }

def insertForeignTag (b : Builder) (space : Space) (t : Tag) : Builder :=
  let b := b.insertForeign space (foreignTag space t)
  if t.selfClosing then b.pop else b

def isMathTextPoint (e : Element) : Bool :=
  e.space == .mathml && ["mi", "mo", "mn", "ms", "mtext"].contains e.name

def isHtmlPoint (e : Element) : Bool :=
  e.space == .svg && ["foreignObject", "desc", "title"].contains e.name

def isForeign (b : Builder) (t : Token) : Bool :=
  match b.current?.bind b.element? with
  | none => false
  | some e =>
    if e.space == .html then false
    else match t with
      | .eof => false
      | .char _ => !(isMathTextPoint e || isHtmlPoint e)
      | .startTag tag =>
        if isMathTextPoint e && !(["mglyph", "malignmark"].contains tag.name) then false
        else if isHtmlPoint e then false
        else !(e.space == .mathml && e.name == "annotation-xml" && tag.name == "svg")
      | _ => true

def breakoutNames : List String :=
  ["b", "big", "blockquote", "body", "br", "center", "code", "dd", "div", "dl", "dt", "em", "embed",
   "h1", "h2", "h3", "h4", "h5", "h6", "head", "hr", "i", "img", "li", "listing", "menu", "meta",
   "nobr", "ol", "p", "pre", "ruby", "s", "small", "span", "strong", "strike", "sub", "sup", "table",
   "tt", "u", "ul", "var"]

def isBreakout (t : Tag) : Bool :=
  breakoutNames.contains t.name ||
    (t.name == "font" && t.attrs.any fun a => ["color", "face", "size"].contains a.name)

def leaveForeign (b : Builder) : Builder :=
  b.popWhile fun id => match b.element? id with
    | some e => !(e.space == .html || isMathTextPoint e || isHtmlPoint e)
    | none => false

/-- The end of a foreign element; an HTML element around it takes the tag over. -/
def endForeign (b : Builder) (name : String) : Step :=
  let rec go (first : Bool) : List Nat → Step
    | [] | [_] => .done b
    | id :: rest =>
      match b.element? id with
      | none => .done b
      | some e =>
        if !first && e.space == .html then .use b b.mode
        else if lowerString e.name.toList == name then .done (b.popThrough (· == id))
        else go false rest
  go true b.openList

def foreign (b : Builder) (t : Token) : Step :=
  match t with
  | .char c =>
    if c = nul then .done (b.insertChar replacement)
    else .done { b.insertChar c with framesetOk := b.framesetOk && isSpace c }
  | .comment s => .done (b.insertComment s)
  | .doctype .. => .done b
  | .startTag tag =>
    if isBreakout tag then .use (leaveForeign b) b.mode
    else
      let space := ((b.current?.bind b.element?).map Element.space).getD .html
      .done (insertForeignTag b space tag)
  | .endTag tag =>
    if tag.name == "br" || tag.name == "p" then .use (leaveForeign b) b.mode
    else endForeign b tag.name
  | .eof => .done b

end Storefront.Html.Rules

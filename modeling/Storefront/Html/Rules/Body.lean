import Storefront.Html.Rules.Foreign
import Storefront.Html.Rules.Head

/-! # Rules for the body -/
namespace Storefront.Html.Rules
open Builder

def closeItem (b : Builder) (names : List String) : Builder :=
  let rec go : List Nat → Builder
    | [] => b
    | id :: rest =>
      match b.element? id with
      | none => b
      | some e =>
        if e.space == .html && names.contains e.name then (b.closeImplied e.name).popThroughName e.name
        else if b.isSpecial id && !(b.doc.isHtmlIn id ["address", "div", "p"]) then b
        else go rest
  go b.openList

def closeBlock (b : Builder) (name : String) : Builder :=
  if b.inScope name then (b.closeImplied "").popThroughName name else b

def startFormatting (b : Builder) (t : Tag) : Builder :=
  let b := b.reconstruct.insert t
  b.activate b.current t

def bodyChar (b : Builder) (c : Char) : Builder :=
  if c = nul then b
  else
    let b := b.reconstruct.insertChar c
    { b with framesetOk := b.framesetOk && isSpace c }

/-- An element that holds nothing, after which a frameset cannot come. -/
def voidInText (b : Builder) (t : Tag) : Builder :=
  { b.reconstruct.insertVoid t with framesetOk := false }

def isHiddenInput (t : Tag) : Bool :=
  t.attrs.any fun a => a.name == "type" && lowerString a.value.toList == "hidden"

def startInBody (b : Builder) (t : Tag) : Step :=
  match t.name with
  | "html" =>
    if b.hasOpen "template" then .done b
    else .done { b with doc := b.doc.addMissingAttrs (b.stack[0]?.getD 0) t.attrs }
  | "base" | "basefont" | "bgsound" | "link" | "meta" | "noframes" | "script" | "style" | "template"
  | "title" => .use b .inHead
  | "body" =>
    match b.stack[1]? with
    | some body =>
      if b.isHtml body "body" && !b.hasOpen "template" then
        .done { b with doc := b.doc.addMissingAttrs body t.attrs, framesetOk := false }
      else .done b
    | none => .done b
  | "frameset" =>
    match b.stack[1]? with
    | some body =>
      if b.framesetOk && b.isHtml body "body" then
        let b := { b with doc := b.doc.detach body, stack := b.stack.take 1 }
        .done { b.insert t with mode := .inFrameset }
      else .done b
    | none => .done b
  | "address" | "article" | "aside" | "blockquote" | "center" | "details" | "dialog" | "dir" | "div"
  | "dl" | "fieldset" | "figcaption" | "figure" | "footer" | "header" | "hgroup" | "main" | "menu"
  | "nav" | "ol" | "p" | "section" | "summary" | "ul" => .done (b.closePIfOpen.insert t)
  | "h1" | "h2" | "h3" | "h4" | "h5" | "h6" =>
    let b := b.closePIfOpen
    .done ((if b.currentIn headings then b.pop else b).insert t)
  | "pre" | "listing" =>
    .done { b.closePIfOpen.insert t with skipLineFeed := true, framesetOk := false }
  | "form" =>
    if b.form.isSome && !b.hasOpen "template" then .done b
    else
      let b := b.closePIfOpen.insert t
      .done (if b.hasOpen "template" then b else { b with form := some b.current })
  | "li" => .done (((closeItem { b with framesetOk := false } ["li"]).closePIfOpen).insert t)
  | "dd" | "dt" => .done (((closeItem { b with framesetOk := false } ["dd", "dt"]).closePIfOpen).insert t)
  | "plaintext" => .done { b.closePIfOpen.insert t with textMode := .plain }
  | "button" =>
    let b := if b.inScope "button" then (b.closeImplied "").popThroughName "button" else b
    .done { b.reconstruct.insert t with framesetOk := false }
  | "a" =>
    let b := match b.activeNamed? "a" with
      | some (id, _) => ((b.endFormatting "a").deactivate id).removeFromStack id
      | none => b
    .done (startFormatting b t)
  | "b" | "big" | "code" | "em" | "font" | "i" | "s" | "small" | "strike" | "strong" | "tt" | "u" =>
    .done (startFormatting b t)
  | "nobr" =>
    let b := b.reconstruct
    .done (startFormatting (if b.inScope "nobr" then (b.endFormatting "nobr").reconstruct else b) t)
  | "applet" | "marquee" | "object" =>
    .done { (b.reconstruct.insert t).addMarker with framesetOk := false }
  | "table" =>
    let b := if b.loose then b else b.closePIfOpen
    .done { b.insert t with framesetOk := false, mode := .inTable }
  | "area" | "br" | "embed" | "img" | "keygen" | "wbr" => .done (voidInText b t)
  | "input" =>
    let ok := b.framesetOk && isHiddenInput t
    .done { b.reconstruct.insertVoid t with framesetOk := ok }
  | "param" | "source" | "track" => .done (b.insertVoid t)
  | "hr" => .done { b.closePIfOpen.insertVoid t with framesetOk := false }
  | "image" => .done (voidInText b { t with name := "img" })
  | "textarea" =>
    .done { b.insertTextElement t .references with skipLineFeed := true, framesetOk := false }
  | "xmp" => .done ({ b.closePIfOpen.reconstruct with framesetOk := false }.insertTextElement t .raw)
  | "iframe" => .done ({ b with framesetOk := false }.insertTextElement t .raw)
  | "noembed" | "noscript" => .done (b.insertTextElement t .raw)
  | "select" =>
    let b := { b.reconstruct.insert t with framesetOk := false }
    let inTable := [Mode.inTable, .inCaption, .inTableBody, .inRow, .inCell].contains b.mode
    .done { b with mode := if inTable then .inSelectInTable else .inSelect }
  | "optgroup" | "option" =>
    let b := if b.currentIs "option" then b.pop else b
    .done (b.reconstruct.insert t)
  | "rb" | "rtc" => .done ((if b.inScope "ruby" then b.closeImplied "" else b).insert t)
  | "rp" | "rt" => .done ((if b.inScope "ruby" then b.closeImplied "rtc" else b).insert t)
  | "math" => .done (insertForeignTag b.reconstruct .mathml t)
  | "svg" => .done (insertForeignTag b.reconstruct .svg t)
  | "caption" | "col" | "colgroup" | "frame" | "head" | "tbody" | "td" | "tfoot" | "th" | "thead"
  | "tr" => .done b
  | _ => .done (b.reconstruct.insert t)

def endForm (b : Builder) : Builder :=
  if b.hasOpen "template" then
    if b.inScope "form" then (b.closeImplied "").popThroughName "form" else b
  else
    let form := b.form
    let b := { b with form := none }
    match form with
    | none => b
    | some id => if b.inScopeP (· == id) then (b.closeImplied "").removeFromStack id else b

def endInBody (b : Builder) (t : Tag) : Step :=
  match t.name with
  | "template" => .use b .inHead
  | "body" => if b.inScope "body" then .done { b with mode := .afterBody } else .done b
  | "html" => if b.inScope "body" then .again b .afterBody else .done b
  | "address" | "article" | "aside" | "blockquote" | "button" | "center" | "details" | "dialog"
  | "dir" | "div" | "dl" | "fieldset" | "figcaption" | "figure" | "footer" | "header" | "hgroup"
  | "listing" | "main" | "menu" | "nav" | "ol" | "pre" | "section" | "summary" | "ul" =>
    .done (closeBlock b t.name)
  | "form" => .done (endForm b)
  | "p" =>
    let b := if b.inButtonScope "p" then b else b.insertNamed "p"
    .done b.closeP
  | "li" => if b.inListScope "li" then .done ((b.closeImplied "li").popThroughName "li") else .done b
  | "dd" | "dt" =>
    if b.inScope t.name then .done ((b.closeImplied t.name).popThroughName t.name) else .done b
  | "h1" | "h2" | "h3" | "h4" | "h5" | "h6" =>
    if b.inScopeP (b.doc.isHtmlIn · headings) then
      .done ((b.closeImplied "").popThrough (b.doc.isHtmlIn · headings))
    else .done b
  | "a" | "b" | "big" | "code" | "em" | "font" | "i" | "nobr" | "s" | "small" | "strike" | "strong"
  | "tt" | "u" => .done (b.endFormatting t.name)
  | "applet" | "marquee" | "object" =>
    if b.inScope t.name then
      .done (((b.closeImplied "").popThroughName t.name).clearToMarker)
    else .done b
  | "br" => .done (voidInText b ⟨"br", [], false⟩)
  | _ => .done (b.closeOther t.name)

def inBody (b : Builder) (t : Token) : Step :=
  match t with
  | .char c => .done (bodyChar b c)
  | .comment s => .done (b.insertComment s)
  | .doctype .. => .done b
  | .startTag tag => startInBody b tag
  | .endTag tag => endInBody b tag
  | .eof =>
    if b.templates.isEmpty then .done { b with stopped := true } else .use b .inTemplate

def inTemplate (b : Builder) (t : Token) : Step :=
  let switch := fun (m : Mode) =>
    Step.again { b with templates := m :: b.templates.drop 1 } m
  match t with
  | .char _ | .comment _ | .doctype .. => .use b .inBody
  | .startTag tag => match tag.name with
    | "base" | "basefont" | "bgsound" | "link" | "meta" | "noframes" | "script" | "style"
    | "template" | "title" => .use b .inHead
    | "caption" | "colgroup" | "tbody" | "tfoot" | "thead" => switch .inTable
    | "col" => switch .inColumnGroup
    | "tr" => switch .inTableBody
    | "td" | "th" => switch .inRow
    | _ => switch .inBody
  | .endTag tag => if tag.name == "template" then .use b .inHead else .done b
  | .eof =>
    if b.hasOpen "template" then
      let b := (b.popThroughName "template").clearToMarker
      let b := { b with templates := b.templates.drop 1 }.resetMode
      .again b b.mode
    else .done { b with stopped := true }

def afterBody (b : Builder) (t : Token) : Step :=
  match t with
  | .char c => if isSpace c then .use b .inBody else .again b .inBody
  | .comment s => .done (b.commentOn (b.stack[0]?.getD 0) s)
  | .doctype .. => .done b
  | .startTag tag => if tag.name == "html" then .use b .inBody else .again b .inBody
  | .endTag tag =>
    if tag.name == "html" then .done { b with mode := .afterAfterBody } else .again b .inBody
  | .eof => .done { b with stopped := true }

def afterAfterBody (b : Builder) (t : Token) : Step :=
  match t with
  | .char c => if isSpace c then .use b .inBody else .again b .inBody
  | .comment s => .done (b.commentOn 0 s)
  | .doctype .. => .use b .inBody
  | .startTag tag => if tag.name == "html" then .use b .inBody else .again b .inBody
  | .endTag _ => .again b .inBody
  | .eof => .done { b with stopped := true }

end Storefront.Html.Rules

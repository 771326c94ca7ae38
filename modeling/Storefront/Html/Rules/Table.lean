import Storefront.Html.Rules.Body

/-! # Rules for tables, selections and framesets -/
namespace Storefront.Html.Rules
open Builder

def clearTo (b : Builder) (names : List String) : Builder :=
  b.popWhile fun id => !(b.doc.isHtmlIn id names)

def clearToTable (b : Builder) : Builder := clearTo b ["table", "template", "html"]
def clearToTableBody (b : Builder) : Builder :=
  clearTo b ["tbody", "tfoot", "thead", "template", "html"]
def clearToRow (b : Builder) : Builder := clearTo b ["tr", "template", "html"]

/-- Content that a table cannot hold goes before the table. -/
def fosterUse (b : Builder) : Step := .use { b with foster := true } .inBody

def isTablePart (b : Builder) : Bool := b.currentIn ["table", "tbody", "tfoot", "thead", "tr"]

def inTable (b : Builder) (t : Token) : Step :=
  match t with
  | .char _ =>
    if isTablePart b then .again { b with pending := [], comesFrom := b.mode } .inTableText
    else fosterUse b
  | .comment s => .done (b.insertComment s)
  | .doctype .. => .done b
  | .startTag tag => match tag.name with
    | "caption" => .done { ((clearToTable b).addMarker).insert tag with mode := .inCaption }
    | "colgroup" => .done { (clearToTable b).insert tag with mode := .inColumnGroup }
    | "col" => .again ((clearToTable b).insertNamed "colgroup") .inColumnGroup
    | "tbody" | "tfoot" | "thead" => .done { (clearToTable b).insert tag with mode := .inTableBody }
    | "td" | "th" | "tr" => .again ((clearToTable b).insertNamed "tbody") .inTableBody
    | "table" =>
      if b.inTableScope "table" then
        let b := (b.popThroughName "table").resetMode
        .again b b.mode
      else .done b
    | "style" | "script" | "template" => .use b .inHead
    | "input" => if isHiddenInput tag then .done (b.insertVoid tag) else fosterUse b
    | "form" =>
      if b.hasOpen "template" || b.form.isSome then .done b
      else
        let b := b.insert tag
        .done { b with form := some b.current }.pop
    | _ => fosterUse b
  | .endTag tag => match tag.name with
    | "table" =>
      if b.inTableScope "table" then .done (b.popThroughName "table").resetMode else .done b
    | "body" | "caption" | "col" | "colgroup" | "html" | "tbody" | "td" | "tfoot" | "th" | "thead"
    | "tr" => .done b
    | "template" => .use b .inHead
    | _ => fosterUse b
  | .eof => .use b .inBody

/-- Characters directly in a table are kept back until it shows whether they are blank. -/
def inTableText (b : Builder) (t : Token) : Step :=
  match t with
  | .char c => if c = nul then .done b else .done { b with pending := c :: b.pending }
  | _ =>
    let kept := b.pending.reverse
    let b := { b with pending := [] }
    let b :=
      if kept.all isSpace then b.insertText (String.ofList kept)
      else { kept.foldl bodyChar { b with foster := true } with foster := false }
    .again b b.comesFrom

def closeCaption (b : Builder) : Builder :=
  { ((b.closeImplied "").popThroughName "caption").clearToMarker with mode := .inTable }

def inCaption (b : Builder) (t : Token) : Step :=
  match t with
  | .startTag tag =>
    if ["caption", "col", "colgroup", "tbody", "td", "tfoot", "th", "thead", "tr"].contains tag.name then
      if b.inTableScope "caption" then .again (closeCaption b) .inTable else .done b
    else .use b .inBody
  | .endTag tag => match tag.name with
    | "caption" => if b.inTableScope "caption" then .done (closeCaption b) else .done b
    | "table" => if b.inTableScope "caption" then .again (closeCaption b) .inTable else .done b
    | "body" | "col" | "colgroup" | "html" | "tbody" | "td" | "tfoot" | "th" | "thead" | "tr" => .done b
    | _ => .use b .inBody
  | _ => .use b .inBody

def inColumnGroup (b : Builder) (t : Token) : Step :=
  let anythingElse := fun (_ : Unit) =>
    if b.currentIs "colgroup" then Step.again b.pop .inTable else .done b
  match t with
  | .char c => if isSpace c then .done (b.insertChar c) else anythingElse ()
  | .comment s => .done (b.insertComment s)
  | .doctype .. => .done b
  | .startTag tag => match tag.name with
    | "html" => .use b .inBody
    | "col" => .done (b.insertVoid tag)
    | "template" => .use b .inHead
    | _ => anythingElse ()
  | .endTag tag => match tag.name with
    | "colgroup" => if b.currentIs "colgroup" then .done { b.pop with mode := .inTable } else .done b
    | "col" => .done b
    | "template" => .use b .inHead
    | _ => anythingElse ()
  | .eof => .use b .inBody

def inTableBody (b : Builder) (t : Token) : Step :=
  let closeGroup := fun (_ : Unit) =>
    if b.inTableScopeIn ["tbody", "thead", "tfoot"] then Step.again (clearToTableBody b).pop .inTable
    else .done b
  match t with
  | .startTag tag => match tag.name with
    | "tr" => .done { (clearToTableBody b).insert tag with mode := .inRow }
    | "td" | "th" => .again ((clearToTableBody b).insertNamed "tr") .inRow
    | "caption" | "col" | "colgroup" | "tbody" | "tfoot" | "thead" => closeGroup ()
    | _ => .use b .inTable
  | .endTag tag => match tag.name with
    | "tbody" | "tfoot" | "thead" =>
      if b.inTableScope tag.name then .done { (clearToTableBody b).pop with mode := .inTable }
      else .done b
    | "table" => closeGroup ()
    | "body" | "caption" | "col" | "colgroup" | "html" | "td" | "th" | "tr" => .done b
    | _ => .use b .inTable
  | _ => .use b .inTable

def inRow (b : Builder) (t : Token) : Step :=
  let closeRow := fun (_ : Unit) =>
    if b.inTableScope "tr" then Step.again (clearToRow b).pop .inTableBody else .done b
  match t with
  | .startTag tag => match tag.name with
    | "td" | "th" => .done { ((clearToRow b).insert tag).addMarker with mode := .inCell }
    | "caption" | "col" | "colgroup" | "tbody" | "tfoot" | "thead" | "tr" => closeRow ()
    | _ => .use b .inTable
  | .endTag tag => match tag.name with
    | "tr" =>
      if b.inTableScope "tr" then .done { (clearToRow b).pop with mode := .inTableBody } else .done b
    | "table" => closeRow ()
    | "tbody" | "tfoot" | "thead" => if b.inTableScope tag.name then closeRow () else .done b
    | "body" | "caption" | "col" | "colgroup" | "html" | "td" | "th" => .done b
    | _ => .use b .inTable
  | _ => .use b .inTable

def closeCell (b : Builder) : Builder :=
  { ((b.closeImplied "").popThrough (b.doc.isHtmlIn · ["td", "th"])).clearToMarker with mode := .inRow }

def inCell (b : Builder) (t : Token) : Step :=
  match t with
  | .startTag tag =>
    if ["caption", "col", "colgroup", "tbody", "td", "tfoot", "th", "thead", "tr"].contains tag.name then
      if b.inTableScopeIn ["td", "th"] then .again (closeCell b) .inRow else .done b
    else .use b .inBody
  | .endTag tag => match tag.name with
    | "td" | "th" =>
      if b.inTableScope tag.name then
        .done { ((b.closeImplied "").popThroughName tag.name).clearToMarker with mode := .inRow }
      else .done b
    | "body" | "caption" | "col" | "colgroup" | "html" => .done b
    | "table" | "tbody" | "tfoot" | "thead" | "tr" =>
      if b.inTableScope tag.name then .again (closeCell b) .inRow else .done b
    | _ => .use b .inBody
  | _ => .use b .inBody

def inSelect (b : Builder) (t : Token) : Step :=
  match t with
  | .char c => if c = nul then .done b else .done (b.insertChar c)
  | .comment s => .done (b.insertComment s)
  | .doctype .. => .done b
  | .startTag tag => match tag.name with
    | "html" => .use b .inBody
    | "option" => .done ((if b.currentIs "option" then b.pop else b).insert tag)
    | "optgroup" =>
      let b := if b.currentIs "option" then b.pop else b
      .done ((if b.currentIs "optgroup" then b.pop else b).insert tag)
    | "hr" =>
      let b := if b.currentIs "option" then b.pop else b
      .done ((if b.currentIs "optgroup" then b.pop else b).insertVoid tag)
    | "select" =>
      if b.inSelectScope "select" then .done (b.popThroughName "select").resetMode else .done b
    | "input" | "keygen" | "textarea" =>
      if b.inSelectScope "select" then
        let b := (b.popThroughName "select").resetMode
        .again b b.mode
      else .done b
    | "script" | "template" => .use b .inHead
    | _ => .done b
  | .endTag tag => match tag.name with
    | "optgroup" =>
      let second := b.stack[b.stack.size - 2]?.getD 0
      let b := if b.currentIs "option" && b.isHtml second "optgroup" then b.pop else b
      .done (if b.currentIs "optgroup" then b.pop else b)
    | "option" => .done (if b.currentIs "option" then b.pop else b)
    | "select" =>
      if b.inSelectScope "select" then .done (b.popThroughName "select").resetMode else .done b
    | "template" => .use b .inHead
    | _ => .done b
  | .eof => .use b .inBody

def inSelectInTable (b : Builder) (t : Token) : Step :=
  let isTableTag := fun (name : String) =>
    ["caption", "table", "tbody", "tfoot", "thead", "tr", "td", "th"].contains name
  let leave := fun (_ : Unit) =>
    let b := (b.popThroughName "select").resetMode
    Step.again b b.mode
  match t with
  | .startTag tag => if isTableTag tag.name then leave () else .use b .inSelect
  | .endTag tag =>
    if isTableTag tag.name then if b.inTableScope tag.name then leave () else .done b
    else .use b .inSelect
  | _ => .use b .inSelect

def inFrameset (b : Builder) (t : Token) : Step :=
  match t with
  | .char c => if isSpace c then .done (b.insertChar c) else .done b
  | .comment s => .done (b.insertComment s)
  | .doctype .. => .done b
  | .startTag tag => match tag.name with
    | "html" => .use b .inBody
    | "frameset" => .done (b.insert tag)
    | "frame" => .done (b.insertVoid tag)
    | "noframes" => .use b .inHead
    | _ => .done b
  | .endTag tag =>
    if tag.name == "frameset" then
      if b.stack.size ≤ 1 then .done b
      else
        let b := b.pop
        .done (if b.currentIs "frameset" then b else { b with mode := .afterFrameset })
    else .done b
  | .eof => .done { b with stopped := true }

def afterFrameset (b : Builder) (t : Token) : Step :=
  match t with
  | .char c => if isSpace c then .done (b.insertChar c) else .done b
  | .comment s => .done (b.insertComment s)
  | .doctype .. => .done b
  | .startTag tag => match tag.name with
    | "html" => .use b .inBody
    | "noframes" => .use b .inHead
    | _ => .done b
  | .endTag tag => if tag.name == "html" then .done { b with mode := .afterAfterFrameset } else .done b
  | .eof => .done { b with stopped := true }

def afterAfterFrameset (b : Builder) (t : Token) : Step :=
  match t with
  | .char c => if isSpace c then .use b .inBody else .done b
  | .comment s => .done (b.commentOn 0 s)
  | .doctype .. => .use b .inBody
  | .startTag tag => match tag.name with
    | "html" => .use b .inBody
    | "noframes" => .use b .inHead
    | _ => .done b
  | .endTag _ => .done b
  | .eof => .done { b with stopped := true }

end Storefront.Html.Rules

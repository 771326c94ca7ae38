import Storefront.Html.Misnested

/-! # Rules up to the body

The document type, the root element, and the head.
-/
namespace Storefront.Html.Rules
open Builder

def looseStarts : List String :=
  ["-//advasoft ltd//dtd html 3.0 aswedit + extensions//", "-//as//dtd html 3.0 aswedit + extensions//",
   "-//ietf//dtd html 2.0 level 1//", "-//ietf//dtd html 2.0 level 2//",
   "-//ietf//dtd html 2.0 strict level 1//", "-//ietf//dtd html 2.0 strict level 2//",
   "-//ietf//dtd html 2.0 strict//", "-//ietf//dtd html 2.0//", "-//ietf//dtd html 2.1e//",
   "-//ietf//dtd html 3.0//", "-//ietf//dtd html 3.2 final//", "-//ietf//dtd html 3.2//",
   "-//ietf//dtd html 3//", "-//ietf//dtd html level 0//", "-//ietf//dtd html level 1//",
   "-//ietf//dtd html level 2//", "-//ietf//dtd html level 3//", "-//ietf//dtd html strict level 0//",
   "-//ietf//dtd html strict level 1//", "-//ietf//dtd html strict level 2//",
   "-//ietf//dtd html strict level 3//", "-//ietf//dtd html strict//", "-//ietf//dtd html//",
   "-//metrius//dtd metrius presentational//", "-//microsoft//dtd internet explorer 2.0 html strict//",
   "-//microsoft//dtd internet explorer 2.0 html//", "-//microsoft//dtd internet explorer 2.0 tables//",
   "-//microsoft//dtd internet explorer 3.0 html strict//",
   "-//microsoft//dtd internet explorer 3.0 html//", "-//microsoft//dtd internet explorer 3.0 tables//",
   "-//netscape comm. corp.//dtd html//", "-//netscape comm. corp.//dtd strict html//",
   "-//o'reilly and associates//dtd html 2.0//", "-//o'reilly and associates//dtd html extended 1.0//",
   "-//o'reilly and associates//dtd html extended relaxed 1.0//",
   "-//softquad software//dtd hotmetal pro 6.0::19990601::extensions to html 4.0//",
   "-//softquad//dtd hotmetal pro 4.0::19971010::extensions to html 4.0//",
   "-//spyglass//dtd html 2.0 extended//", "-//sq//dtd html 2.0 hotmetal + extensions//",
   "-//sun microsystems corp.//dtd hotjava html//", "-//sun microsystems corp.//dtd hotjava strict html//",
   "-//w3c//dtd html 3 1995-03-24//", "-//w3c//dtd html 3.2 draft//", "-//w3c//dtd html 3.2 final//",
   "-//w3c//dtd html 3.2//", "-//w3c//dtd html 3.2s draft//", "-//w3c//dtd html 4.0 frameset//",
   "-//w3c//dtd html 4.0 transitional//", "-//w3c//dtd html experimental 19960712//",
   "-//w3c//dtd html experimental 970421//", "-//w3c//dtd w3 html//", "-//w3o//dtd w3 html 3.0//",
   "-//webtechs//dtd mozilla html 2.0//", "-//webtechs//dtd mozilla html//"]

def loosePublic : List String :=
  ["-//w3o//dtd w3 html strict 3.0//en//", "-/w3c/dtd html 4.0 transitional/en", "html"]

def looseSystem : String := "www.ibm.com/data/dtd/v11/ibmxhtml1-transitional.dtd"

/-- Beginnings that count only if the document type names no system identifier. -/
def halfLooseStarts : List String :=
  ["-//w3c//dtd html 4.01 frameset//", "-//w3c//dtd html 4.01 transitional//"]

/-- Whether a document of this type is read by the old rule, under which a table may stand in a paragraph. -/
def isLoose (name publicId systemId : Option String) (force : Bool) : Bool :=
  let lower := fun (s : Option String) => (s.map fun s => lowerString s.toList).getD ""
  let pub := lower publicId
  force || name != some "html" ||
    loosePublic.contains pub || lower systemId == "http://" ++ looseSystem ||
    looseStarts.any (pub.startsWith ·) ||
    (systemId.isNone && halfLooseStarts.any (pub.startsWith ·))

def initial (b : Builder) : Token → Step
  | .char c => if isSpace c then .done b else .again { b with loose := true } .beforeHtml
  | .comment s => .done (b.commentOn 0 s)
  | .doctype name pub sys force =>
    let (id, doc) := b.doc.create (.doctype (name.getD ""))
    .done { b with
      doc := doc.append 0 id
      loose := isLoose name pub sys force
      mode := .beforeHtml }
  | _ => .again { b with loose := true } .beforeHtml

def insertRoot (b : Builder) (t : Tag) : Builder :=
  let (id, b) := b.createElement .html t
  { b with doc := b.doc.append 0 id }.push id

def beforeHtml (b : Builder) (t : Token) : Step :=
  let anythingElse := fun (_ : Unit) => Step.again (insertRoot b ⟨"html", [], false⟩) .beforeHead
  match t with
  | .doctype .. => .done b
  | .comment s => .done (b.commentOn 0 s)
  | .char c => if isSpace c then .done b else anythingElse ()
  | .startTag tag =>
    if tag.name == "html" then .done { insertRoot b tag with mode := .beforeHead } else anythingElse ()
  | .endTag tag => if ["head", "body", "html", "br"].contains tag.name then anythingElse () else .done b
  | .eof => anythingElse ()

def beforeHead (b : Builder) (t : Token) : Step :=
  let anythingElse := fun (_ : Unit) =>
    let b := b.insertNamed "head"
    Step.again { b with head := some b.current } .inHead
  match t with
  | .doctype .. => .done b
  | .comment s => .done (b.insertComment s)
  | .char c => if isSpace c then .done b else anythingElse ()
  | .startTag tag =>
    if tag.name == "html" then .use b .inBody
    else if tag.name == "head" then
      let b := b.insert tag
      .done { b with head := some b.current, mode := .inHead }
    else anythingElse ()
  | .endTag tag => if ["head", "body", "html", "br"].contains tag.name then anythingElse () else .done b
  | .eof => anythingElse ()

def inHead (b : Builder) (t : Token) : Step :=
  let anythingElse := fun (_ : Unit) => Step.again b.pop .afterHead
  match t with
  | .doctype .. => .done b
  | .comment s => .done (b.insertComment s)
  | .char c => if isSpace c then .done (b.insertChar c) else anythingElse ()
  | .startTag tag => match tag.name with
    | "html" => .use b .inBody
    | "base" | "basefont" | "bgsound" | "link" | "meta" => .done (b.insertVoid tag)
    | "title" => .done (b.insertTextElement tag .references)
    | "noframes" | "style" | "noscript" => .done (b.insertTextElement tag .raw)
    | "script" => .done (b.insertTextElement tag .script)
    | "template" =>
      let b := (b.insert tag).addMarker
      .done { b with
        framesetOk := false, mode := .inTemplate, templates := .inTemplate :: b.templates }
    | "head" => .done b
    | _ => anythingElse ()
  | .endTag tag => match tag.name with
    | "head" => .done { b.pop with mode := .afterHead }
    | "body" | "html" | "br" => anythingElse ()
    | "template" =>
      if b.hasOpen "template" then
        let b := ((b.closeImpliedThoroughly).popThroughName "template").clearToMarker
        .done { b with templates := b.templates.drop 1 }.resetMode
      else .done b
    | _ => .done b
  | .eof => anythingElse ()

def afterHead (b : Builder) (t : Token) : Step :=
  let anythingElse := fun (_ : Unit) => Step.again (b.insertNamed "body") .inBody
  match t with
  | .doctype .. => .done b
  | .comment s => .done (b.insertComment s)
  | .char c => if isSpace c then .done (b.insertChar c) else anythingElse ()
  | .startTag tag => match tag.name with
    | "html" => .use b .inBody
    | "body" => .done { b.insert tag with framesetOk := false, mode := .inBody }
    | "frameset" => .done { b.insert tag with mode := .inFrameset }
    | "base" | "basefont" | "bgsound" | "link" | "meta" | "noframes" | "script" | "style"
    | "template" | "title" =>
      match b.head with
      | none => .done b
      | some head => match inHead (b.push head) t with
        | .done b => .done (b.removeFromStack head)
        | .again b m => .again (b.removeFromStack head) m
        | .use b m => .use (b.removeFromStack head) m
    | "head" => .done b
    | _ => anythingElse ()
  | .endTag tag => match tag.name with
    | "template" => .use b .inHead
    | "body" | "html" | "br" => anythingElse ()
    | _ => .done b
  | .eof => anythingElse ()

def text (b : Builder) (t : Token) : Step :=
  match t with
  | .char c => .done (b.insertChar c)
  | .eof => .again { b.pop with textMode := .markup } b.comesFrom
  | .endTag _ => .done { b.pop with mode := b.comesFrom, textMode := .markup }
  | _ => .done b

end Storefront.Html.Rules

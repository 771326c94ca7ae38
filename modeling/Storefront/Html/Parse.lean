import Storefront.Html.Rules.Table

/-! # Parsing documents

Tokens are taken up one at a time. Every text is a document: what is missing is added, and what does
not fit is moved or dropped.
-/
namespace Storefront.Html

def Mode.rules : Mode → Builder → Token → Step
  | initial => Rules.initial
  | beforeHtml => Rules.beforeHtml
  | beforeHead => Rules.beforeHead
  | inHead => Rules.inHead
  | afterHead => Rules.afterHead
  | inBody => Rules.inBody
  | text => Rules.text
  | inTable => Rules.inTable
  | inTableText => Rules.inTableText
  | inCaption => Rules.inCaption
  | inColumnGroup => Rules.inColumnGroup
  | inTableBody => Rules.inTableBody
  | inRow => Rules.inRow
  | inCell => Rules.inCell
  | inSelect => Rules.inSelect
  | inSelectInTable => Rules.inSelectInTable
  | inTemplate => Rules.inTemplate
  | afterBody => Rules.afterBody
  | inFrameset => Rules.inFrameset
  | afterFrameset => Rules.afterFrameset
  | afterAfterBody => Rules.afterAfterBody
  | afterAfterFrameset => Rules.afterAfterFrameset

namespace Builder

/-- Applies rules to a token until it is used up. `rules` holds the mode whose rules come next, if it
is not the builder's own. -/
def process (t : Token) : (fuel : Nat) → (rules : Option Mode) → Builder → Builder
  | 0, _, b => b
  | fuel + 1, rules, b =>
    let step := match rules with
      | some m => m.rules b t
      | none => if Rules.isForeign b t then Rules.foreign b t else b.mode.rules b t
    match step with
    | .done b => { b with foster := false }
    | .again b m => process t fuel none { b with mode := m, foster := false }
    | .use b m => process t fuel (some m) b

/-- Takes up one token. A line feed right after the start of preformatted text is dropped. -/
def take (b : Builder) (t : Token) : Builder :=
  let dropped := b.skipLineFeed && (match t with
    | .char c => c == '\n'
    | _ => false)
  let b := { b with skipLineFeed := false }
  if dropped then b else process t (2 * b.stack.size + 2 * b.templates.length + 40) none b

def allowsSections (b : Builder) : Bool :=
  match b.current?.bind b.element? with
  | some e => e.space != .html
  | none => false

def feed (b : Builder) : (fuel : Nat) → List Char → Builder
  | 0, _ => b
  | _, [] => b.take .eof
  | fuel + 1, s =>
    let (tokens, rest) := readTokens b.textMode b.lastStart b.allowsSections s
    feed (tokens.foldl take b) fuel rest

end Builder

namespace Document

def parse (s : List Char) : Document :=
  let s := preprocess s
  (Builder.feed {} (s.length + 1) s).doc

end Document
end Storefront.Html

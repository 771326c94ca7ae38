import Storefront.Html.Builder

/-! # Misnested formatting

When a formatting element ends while blocks opened in it are still open, the formatting is split: the
part before the block stays, and a copy of it is opened within the block.
-/
namespace Storefront.Html.Builder

/-- The state while the elements between a formatting element and a block are copied. `last` is the
node moved last, and `bookmark` the place for the copy among the active formatting. -/
structure Unnesting where
  builder : Builder
  last : Nat
  bookmark : Nat

def replaceEverywhere (b : Builder) (old new : Nat) : Builder :=
  { b with
    stack := b.stack.map fun id => if id == old then new else id
    active := b.active.map fun
      | .element id t => if id == old then .element new t else .element id t
      | .marker => .marker }

def unnest (block : Nat) (u : Unnesting) (counter : Nat) : List Nat → Unnesting
  | [] => u
  | node :: rest =>
    let b := u.builder
    match b.activeIndex? node with
    | none => unnest block { u with builder := b.removeFromStack node } (counter + 1) rest
    | some index =>
      if 3 < counter then
        unnest block
          { u with
            builder := (b.deactivate node).removeFromStack node
            bookmark := if index < u.bookmark then u.bookmark - 1 else u.bookmark }
          (counter + 1) rest
      else match b.active[index]? with
        | some (.element _ t) =>
          let (copy, b) := b.createElement .html t
          let b := b.replaceEverywhere node copy
          let bookmark := if u.last = block then index + 1 else u.bookmark
          unnest block ⟨{ b with doc := b.doc.append copy u.last }, copy, bookmark⟩ (counter + 1) rest
        | _ => u

/-- One round: whether another may follow, or none if the end tag is to be treated like any other. -/
def unnestOnce (b : Builder) (name : String) : Option (Builder × Bool) :=
  match b.activeNamed? name with
  | none => none
  | some (id, tag) =>
    if !b.stack.contains id then some (b.deactivate id, false)
    else if !(b.inScopeP (· == id)) then some (b, false)
    else
      let inner := (b.stack.toList.dropWhile (· != id)).drop 1
      match inner.find? b.isSpecial with
      | none => some ((b.popThrough (· == id)).deactivate id, false)
      | some block =>
        let outer := b.stack.toList.takeWhile (· != id)
        let ancestor := outer.getLast?.getD 0
        let between := (inner.takeWhile (· != block)).reverse
        let bookmark := (b.activeIndex? id).getD 0
        let u := unnest block ⟨b, block, bookmark⟩ 1 between
        let b := u.builder
        let b := { b with doc := b.doc.detach u.last }
        let b := b.putNode (b.placeFor ancestor) u.last
        let (copy, b) := b.createElement .html tag
        let b := { b with doc := (b.doc.moveChildren block copy).append block copy }
        let index := (b.activeIndex? id).getD 0
        let bookmark := if index < u.bookmark then u.bookmark - 1 else u.bookmark
        let active := (b.deactivate id).active.toList
        let active := active.take bookmark ++ .element copy tag :: active.drop bookmark
        let stack := (b.removeFromStack id).stack.toList
        let (upTo, after) := stack.span (· != block)
        let stack := upTo ++ block :: copy :: after.drop 1
        some ({ b with active := active.toArray, stack := stack.toArray }, true)

/-- Any other end tag: closes the innermost element of this name, unless a block is open in it. -/
def closeOther (b : Builder) (name : String) : Builder :=
  let rec go : List Nat → Builder
    | [] => b
    | id :: rest =>
      if b.isHtml id name then (b.closeImplied name).popThrough (· == id)
      else if b.isSpecial id then b
      else go rest
  go b.openList

def endFormattingRounds (b : Builder) (name : String) : Nat → Builder
  | 0 => b
  | n + 1 =>
    match b.unnestOnce name with
    | none => b.closeOther name
    | some (b, true) => endFormattingRounds b name n
    | some (b, false) => b

def endFormatting (b : Builder) (name : String) : Builder :=
  if b.currentIs name && !b.isActive b.current then b.pop
  else b.endFormattingRounds name 8

end Storefront.Html.Builder

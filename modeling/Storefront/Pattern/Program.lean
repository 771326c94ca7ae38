import Storefront.Pattern.Expr

/-! # Programs of patterns

A pattern is compiled to instructions that name the instruction to go on with. A split prefers its
first branch. Compilation goes from the end of the pattern to its start.
-/
namespace Storefront.Pattern

inductive Instruction
  | one (s : CharSet) (next : Nat)
  | split (first second : Nat)
  | save (slot next : Nat)
  | look (l : Look) (next : Nat)
  | accept
deriving Repr, Inhabited

abbrev Code := Array Instruction

def Code.emit (code : Code) (i : Instruction) : Nat × Code := (code.size, code.push i)

def Code.emitSplit (code : Code) (greedy : Bool) (body next : Nat) : Nat × Code :=
  code.emit (if greedy then .split body next else .split next body)

/-- Code for something, given the place to go on with. -/
abbrev Compiler := Nat → Code → Nat × Code

def Compiler.copies (c : Compiler) : (count : Nat) → Compiler
  | 0, next, code => (next, code)
  | count + 1, next, code =>
    let (entry, code) := c next code
    c.copies count entry code

/-- Up to `count` copies, each entered only after the one before it. Every way out leads to `exit`. -/
def Compiler.upTo (c : Compiler) (greedy : Bool) (exit : Nat) : (count : Nat) → Code → Nat × Code
  | 0, code => (exit, code)
  | count + 1, code =>
    let (later, code) := c.upTo greedy exit count code
    let (body, code) := c later code
    code.emitSplit greedy body exit

/-- One copy or more: the body's place, and the place of the split that repeats it. -/
def Compiler.loop (c : Compiler) (greedy : Bool) (next : Nat) (code : Code) : Nat × Nat × Code :=
  let (again, code) := code.emit .accept
  let (body, code) := c again code
  let split := if greedy then Instruction.split body next else .split next body
  (body, again, code.setIfInBounds again split)

/-- Any number of copies. A body that can be empty is entered anew from a split of its own, so that
an empty round does not cut off the branches it prefers. -/
def Compiler.many (c : Compiler) (nullable greedy : Bool) : Compiler := fun next code =>
  let (body, again, code) := c.loop greedy next code
  if nullable then code.emitSplit greedy body next else (again, code)

def Expr.compile : Expr → Compiler
  | .empty, next, code => (next, code)
  | .set s, next, code => code.emit (.one s next)
  | .look l, next, code => code.emit (.look l next)
  | .group i body, next, code =>
    let (close, code) := code.emit (.save (2 * i + 1) next)
    let (entry, code) := body.compile close code
    code.emit (.save (2 * i) entry)
  | .seq a b, next, code =>
    let (entry, code) := b.compile next code
    a.compile entry code
  | .alt a b, next, code =>
    let (first, code) := a.compile next code
    let (second, code) := b.compile next code
    code.emit (.split first second)
  | .rep body min max greedy, next, code =>
    match max with
    | some m =>
      let (entry, code) := Compiler.upTo body.compile greedy next (m - min) code
      Compiler.copies body.compile min entry code
    | none =>
      match min with
      | 0 => Compiler.many body.compile body.nullable greedy next code
      | k + 1 =>
        let (entry, _, code) := Compiler.loop body.compile greedy next code
        Compiler.copies body.compile k entry code

structure Program where
  code : Code
  start : Nat
  slots : Nat

end Storefront.Pattern

namespace Storefront

def Pattern.program (p : Pattern) : Pattern.Program :=
  let (start, code) := Pattern.Expr.compile (.group 0 p.expr) 0 #[.accept]
  ⟨code, start, 2 * (p.groups + 1)⟩

end Storefront

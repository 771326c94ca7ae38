import Storefront.Power
import Storefront.Pattern.CharSet

/-! # Patterns

The expressions that a pattern is made of.
-/
namespace Storefront.Pattern

inductive Look
  | start
  | finish
  | lineStart
  | lineFinish
  /-- Line bounds where a carriage return and a line feed end a line together. -/
  | crlfStart
  | crlfFinish
  | wordBoundary (ascii : Bool)
  | noBoundary (ascii : Bool)
  | wordStart (ascii : Bool)
  | wordFinish (ascii : Bool)
  | wordStartHalf (ascii : Bool)
  | wordFinishHalf (ascii : Bool)
deriving DecidableEq, Repr

inductive Expr
  | empty
  | set (s : CharSet)
  | look (l : Look)
  | group (index : Nat) (body : Expr)
  | seq (first second : Expr)
  /-- Prefers its first branch. -/
  | alt (first second : Expr)
  /-- At least `min` and at most `max` times, and as often as possible if greedy. -/
  | rep (body : Expr) (min : Nat) (max : Option Nat) (greedy : Bool)
deriving Repr

namespace Expr

def ofSeq : List Expr → Expr
  | [] => empty
  | [e] => e
  | e :: rest => seq e (ofSeq rest)

def ofAlt : List Expr → Expr
  | [] => empty
  | [e] => e
  | e :: rest => alt e (ofAlt rest)

def nullable : Expr → Bool
  | empty | look _ => true
  | set _ => false
  | group _ e => e.nullable
  | seq a b => a.nullable && b.nullable
  | alt a b => a.nullable || b.nullable
  | rep e min _ _ => min == 0 || e.nullable

/-- About how much room the compiled expression takes, in bytes. -/
def weight : Expr → Nat
  | empty => 32
  | set s => s.weight
  | look _ => 32
  | group _ e => e.weight + 64
  | seq a b => a.weight + b.weight
  | alt a b => a.weight + b.weight + 40
  | rep e min max _ => match max with
    | none => (Nat.max min 1) * e.weight + 48
    | some m => m * (e.weight + if min < m then 40 else 0) + 32

end Expr

/-- How deep a row of nodes nests, of which each nests so deep. Only two or more make a node of their own. -/
def nest : List Nat → Nat
  | [] => 0
  | [depth] => depth
  | depths => depths.foldl Nat.max 0 + 1

def nestLimit : Nat := 250

def weightLimit : Nat := 10 * pow2 20

end Storefront.Pattern

namespace Storefront

/-- A well-formed pattern. Group 0 is the whole match, and names stand for group numbers. -/
structure Pattern where
  expr : Pattern.Expr
  groups : Nat
  names : List (List Char × Nat)
deriving Repr

end Storefront

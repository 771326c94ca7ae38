import Storefront.Pattern.Bracket

/-! # Reading patterns

A pattern is read from left to right with a stack of open groups. Look-around and back-references are
no part of the language, and a pattern is refused that nests too deep or that would compile to too large a
program.
-/
namespace Storefront.Pattern
open Unicode

/-- What has been read, with how deep it nests. An item without an expression sets flags. -/
structure Item where
  expr : Option Expr
  depth : Nat

/-- Puts items together, given the last one first. -/
def Item.join (make : List Expr → Expr) (items : List Item) : Item :=
  ⟨make (items.reverse.filterMap Item.expr), nest (items.map Item.depth)⟩

/-- A group that is open, or the whole pattern: the flags that hold again after it, its number if it
captures, and its branches and items so far, last first. -/
structure Frame where
  flags : Flags
  index : Option Nat
  branches : List Item
  items : List Item

def Frame.branch (f : Frame) : Item := .join .ofSeq f.items

def Frame.body (f : Frame) : Item := .join .ofAlt (f.branch :: f.branches)

def Frame.push (f : Frame) (item : Item) : Frame := { f with items := item :: f.items }

structure Reader where
  flags : Flags
  groups : Nat
  names : List (List Char × Nat)
  frame : Frame
  outer : List Frame

def Reader.push (r : Reader) (e : Expr) (depth : Nat) : Reader := { r with frame := r.frame.push ⟨e, depth⟩ }

def Reader.enter (r : Reader) (index : Option Nat) : Reader :=
  { r with
    frame := ⟨r.flags, index, [], []⟩
    outer := r.frame :: r.outer
    groups := r.groups + (if index.isSome then 1 else 0) }

def Reader.leave (r : Reader) : Option Reader :=
  match r.outer with
  | [] => none
  | next :: outer =>
    let body := r.frame.body
    let expr := match r.frame.index with
      | some i => body.expr.map (Expr.group i)
      | none => body.expr
    some { r with flags := r.frame.flags, frame := next.push ⟨expr, body.depth + 1⟩, outer := outer }

def isNameStart (c : Char) : Bool := c == '_' || isAlphabetic c
def isNamePart (c : Char) : Bool := ['_', '.', '[', ']'].contains c || isAlphanumeric c

def Reader.readName (r : Reader) (s : List Char) : Option (Reader × List Char) :=
  let name := s.takeWhile (· != '>')
  match name, s.drop name.length with
  | first :: others, _ :: rest =>
    if isNameStart first ∧ others.all isNamePart ∧ (r.names.lookup name).isNone then
      let index := r.groups + 1
      some ({ r.enter (some index) with names := (name, index) :: r.names }, rest)
    else none
  | _, _ => none

def Reader.openGroup (r : Reader) (s : List Char) : Option (Reader × List Char) :=
  match r.flags.skip s with
  | '?' :: 'P' :: '<' :: rest => r.readName rest
  | '?' :: '<' :: '=' :: _ | '?' :: '<' :: '!' :: _ => none
  | '?' :: '<' :: rest => r.readName rest
  | '?' :: rest =>
    (r.flags.read [] rest).bind fun (flags, changed, opens, rest) =>
      if opens then
        let r' := r.enter none
        some ({ r' with flags := flags }, rest)
      else if changed then
        some ({ r with flags := flags, frame := { r.frame with items := ⟨none, 0⟩ :: r.frame.items } }, rest)
      else none
  | rest => some (r.enter (some (r.groups + 1)), rest)

def Reader.repeatLast (r : Reader) (min : Nat) (max : Option Nat) (lazy : Bool) : Option Reader :=
  match r.frame.items with
  | ⟨some e, depth⟩ :: items =>
    let greedy := (!lazy) != r.flags.swapGreed
    some { r with frame := { r.frame with items := ⟨Expr.rep e min max greedy, depth + 1⟩ :: items } }
  | _ => none

def splitLazy : List Char → Bool × List Char
  | '?' :: rest => (true, rest)
  | s => (false, s)

/-- Reads a number below `2 ^ 32`, with blanks around it. -/
def readCount (f : Flags) (s : List Char) : Option (Nat × List Char) :=
  let s := s.dropWhile isBlank
  let rec digits (value : Nat) (any : Bool) (fuel : Nat) (s : List Char) : Option (Nat × List Char) :=
    match fuel, s with
    | fuel + 1, c :: rest =>
      if isAsciiDigit c then digits (value * 10 + (c.toNat - 48)) true fuel (f.skip rest)
      else if any then some (value, s) else none
    | _, _ => if any then some (value, s) else none
  (digits 0 false (s.length + 1) s).bind fun (n, rest) =>
    if n < pow2 32 then some (n, f.skip (rest.dropWhile isBlank)) else none

def readRepetition (f : Flags) (s : List Char) : Option (Nat × Option Nat × List Char) :=
  let closed := fun (min : Nat) (max : Option Nat) (s : List Char) => match s with
    | c :: rest =>
      if c.toNat = 0x7d ∧ max.all (min ≤ ·) then some (min, max, f.skip rest) else none
    | [] => none
  (readCount f (f.skip s)).bind fun (min, rest) =>
    match rest with
    | ',' :: rest => match f.skip rest with
      | [] => none
      | c :: rest =>
        if c.toNat = 0x7d then closed min none (c :: rest)
        else (readCount f (c :: rest)).bind fun (max, rest) => closed min (some max) rest
    | rest => closed min (some min) rest

def literalExpr (f : Flags) (c : Char) : Option Expr :=
  if f.ignoreCase then
    if !f.unicode ∧ 128 ≤ c.toNat then none else some (.set (f.foldSet (.single c)))
  else some (.set (.single c))

/-- Without Unicode a set may hold ASCII only. -/
def setExpr (f : Flags) (s : CharSet) : Option Expr :=
  if f.unicode ∨ s.withinAscii then some (.set s) else none

def dotExpr (f : Flags) : Option Expr :=
  if !f.unicode then none
  else if f.dotAll then some (.set .any)
  else if f.crlf then some (.set (.compl (.union (.single '\n') (.single '\r'))))
  else some (.set (.compl (.single '\n')))

def Reader.step (r : Reader) (c : Char) (rest : List Char) : Option (Reader × List Char) :=
  let f := r.flags
  let repeated := fun (min : Nat) (max : Option Nat) (rest : List Char) =>
    let (lazy, rest) := splitLazy rest
    (r.repeatLast min max lazy).map (·, rest)
  match c with
  | '(' => r.openGroup rest
  | ')' => r.leave.map (·, rest)
  | '|' => some ({ r with frame := { r.frame with branches := r.frame.branch :: r.frame.branches, items := [] } }, rest)
  | '[' => (readBracket f rest).map fun (s, depth, rest) => (r.push (.set s) depth, rest)
  | '*' => repeated 0 none rest
  | '+' => repeated 1 none rest
  | '?' => repeated 0 (some 1) rest
  | '.' => (dotExpr f).map fun e => (r.push e 0, rest)
  | '^' =>
    some (r.push (.look (if f.multiLine then (if f.crlf then .crlfStart else .lineStart) else .start)) 0, rest)
  | '$' =>
    some (r.push (.look (if f.multiLine then (if f.crlf then .crlfFinish else .lineFinish) else .finish)) 0, rest)
  | '\\' => (readEscape f rest).bind fun (e, rest) => match e with
    | .literal c => (literalExpr f c).map fun e => (r.push e 0, rest)
    | .set s => (setExpr f s).map fun e => (r.push e 0, rest)
    | .look l => some (r.push (.look l) 0, rest)
  | _ =>
    if c.toNat = 0x7b then
      (readRepetition f rest).bind fun (min, max, rest) => repeated min max rest
    else (literalExpr f c).map fun e => (r.push e 0, rest)

def Reader.run (r : Reader) : (fuel : Nat) → List Char → Option Reader
  | 0, _ => none
  | fuel + 1, s =>
    match r.flags.skip s with
    | [] => some r
    | c :: rest => (r.step c rest).bind fun (r, rest) => r.run fuel rest

def ofText? (s : List Char) : Option Pattern :=
  (Reader.run ⟨{}, 0, [], ⟨{}, none, [], []⟩, []⟩ (s.length + 1) s).bind fun r =>
    match r.outer with
    | _ :: _ => none
    | [] =>
      let body := r.frame.body
      body.expr.bind fun e =>
        if body.depth ≤ nestLimit ∧ e.weight ≤ weightLimit then some ⟨e, r.groups, r.names⟩ else none

end Storefront.Pattern

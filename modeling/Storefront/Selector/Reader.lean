import Storefront.Selector.Basic
import Storefront.Selector.Token

/-! # Reading selectors -/
namespace Storefront.Selector
open Unicode

def lowerName (s : String) : String := String.ofList (s.toList.map asciiLower)

def readDigits (s : List Char) : Option (Int × List Char) :=
  let digits := s.takeWhile isAsciiDigit
  if digits.isEmpty then none
  else some ((digits.foldl (fun n c => n * 10 + (c.toNat - 48)) 0 : Nat), s.drop digits.length)

def dropBlank : (fuel : Nat) → List Char → List Char
  | 0, s => s
  | fuel + 1, s => match s with
    | '/' :: '*' :: rest => dropBlank fuel (dropComment rest)
    | c :: rest => if isSpace c then dropBlank fuel rest else s
    | [] => []

def readOffset (s : List Char) : Option Int :=
  let skip := fun s => dropBlank (s.length + 1) s
  let finish := fun (n : Int) rest => if (skip rest).isEmpty then some n else none
  match skip s with
  | [] => some 0
  | '+' :: rest => (readDigits (skip rest)).bind fun (n, rest) => finish n rest
  | '-' :: rest => (readDigits (skip rest)).bind fun (n, rest) => finish (-n) rest
  | _ => none

/-- Reads the formula of a position: `odd`, `even`, a number, or `an + b`. -/
def readNth (text : List Char) : Option (Int × Int) :=
  let skip := fun s => dropBlank (s.length + 1) s
  let s := (skip text).map asciiLower
  let word := s.takeWhile isAsciiLetter
  if word == "odd".toList ∧ (skip (s.drop 3)).isEmpty then some (2, 1)
  else if word == "even".toList ∧ (skip (s.drop 4)).isEmpty then some (2, 0)
  else
    let (sign, body) : Int × List Char := match s with
      | '+' :: rest => (1, rest)
      | '-' :: rest => (-1, rest)
      | _ => (1, s)
    match readDigits body with
    | some (n, 'n' :: rest) => (readOffset rest).map (sign * n, ·)
    | some (n, rest) => if (skip rest).isEmpty then some (0, sign * n) else none
    | none => match body with
      | 'n' :: rest => (readOffset rest).map (sign, ·)
      | _ => none

def argument (text : List Char) : List Char :=
  match text.reverse with
  | ')' :: rest => rest.reverse
  | _ => text

/-- Attributes whose values are compared without case in HTML. -/
def caselessAttrs : List String :=
  ["accept", "accept-charset", "align", "alink", "axis", "bgcolor", "charset", "checked", "clear",
   "codetype", "color", "compact", "declare", "defer", "dir", "direction", "disabled", "enctype",
   "face", "frame", "hreflang", "http-equiv", "lang", "language", "link", "media", "method",
   "multiple", "nohref", "noresize", "noshade", "nowrap", "readonly", "rel", "rev", "rules", "scope",
   "scrolling", "selected", "shape", "target", "text", "type", "valign", "valuetype", "vlink"]

def dropSpaces : List Token → List Token
  | .space :: rest => dropSpaces rest
  | ts => ts

def readAttrName : List Token → Option (Bool × String × List Token)
  | .ident _ :: .delim '|' :: _ => none
  | .ident name :: rest => some (false, name, rest)
  | .delim '*' :: .delim '|' :: .ident name :: rest => some (true, name, rest)
  | .delim '|' :: .ident name :: rest => some (false, name, rest)
  | _ => none

def readCompare : List Token → Option (Compare × List Token)
  | .delim '=' :: rest => some (.equals, rest)
  | .operator '~' :: rest => some (.includes, rest)
  | .operator '|' :: rest => some (.dash, rest)
  | .operator '^' :: rest => some (.startsWith, rest)
  | .operator '$' :: rest => some (.endsWith, rest)
  | .operator '*' :: rest => some (.contains, rest)
  | _ => none

def readAttr (ts : List Token) : Option Part :=
  (readAttrName (dropSpaces ts)).bind fun (anyNamespace, name, rest) =>
    match dropSpaces rest with
    | [] => some (.hasAttr anyNamespace name)
    | rest =>
      (readCompare rest).bind fun (op, rest) =>
        let value := match dropSpaces rest with
          | .ident v :: rest => some (v, rest)
          | .string v :: rest => some (v, rest)
          | _ => none
        value.bind fun (value, rest) =>
          let byName := if !anyNamespace && caselessAttrs.contains (lowerName name) then CaseRule.usual
            else .sensitive
          match dropSpaces rest with
          | [] => some (.attr anyNamespace name op value byName)
          | .ident flag :: rest =>
            if !(dropSpaces rest).isEmpty then none
            else if lowerName flag == "i" then some (.attr anyNamespace name op value .insensitive)
            else if lowerName flag == "s" then some (.attr anyNamespace name op value .sensitive)
            else none
          | _ => none

def simplePseudo (name : String) : Option Part :=
  match lowerName name with
  | "first-child" => some (.nth ⟨0, 1, false, false⟩)
  | "last-child" => some (.nth ⟨0, 1, true, false⟩)
  | "only-child" => some (.only false)
  | "first-of-type" => some (.nth ⟨0, 1, false, true⟩)
  | "last-of-type" => some (.nth ⟨0, 1, true, true⟩)
  | "only-of-type" => some (.only true)
  | "root" => some .root
  | "empty" => some .empty
  | "scope" => some .scope
  | _ => none

def splitCommas : List Token → List (List Token)
  | [] => [[]]
  | .comma :: rest => [] :: splitCommas rest
  | t :: rest => match splitCommas rest with
    | first :: others => (t :: first) :: others
    | [] => [[t]]

def isBad : Token → Bool
  | .bad => true
  | _ => false

def readType : List Token → Option (List Part × List Token)
  | .ident _ :: .delim '|' :: _ => none
  | .ident name :: rest => some ([.localName name], rest)
  | .delim '*' :: .delim '|' :: .ident name :: rest => some ([.localName name], rest)
  | .delim '*' :: .delim '|' :: .delim '*' :: rest => some ([.any], rest)
  | .delim '*' :: .delim '|' :: _ => none
  | .delim '*' :: rest => some ([.any], rest)
  | .delim '|' :: .ident name :: rest => some ([.noNamespace, .localName name], rest)
  | .delim '|' :: .delim '*' :: rest => some ([.noNamespace, .any], rest)
  | .delim '|' :: _ => none
  | ts => some ([], ts)

def readRelation (blank : Bool) : List Token → Option (Relation × List Token)
  | .space :: rest => readRelation true rest
  | .delim '>' :: rest => some (.child, rest)
  | .delim '+' :: rest => some (.nextSibling, rest)
  | .delim '~' :: rest => some (.laterSibling, rest)
  | [] => none
  | ts => if blank then some (.descendant, ts) else none

def allOf (pieces : List (Option Selector)) : Option (List Selector) := pieces.mapM id

mutual
/-- Reads the parts of a compound that follow its type. `inHas` forbids a relative selector. -/
def readParts (fuel : Nat) (inHas : Bool) (out : List Part) (ts : List Token) :
    Option (List Part × List Token) :=
  match fuel with
  | 0 => none
  | fuel + 1 =>
    match ts with
    | .hash name true :: rest => readParts fuel inHas (.id name :: out) rest
    | .delim '.' :: .ident name :: rest => readParts fuel inHas (.cls name :: out) rest
    | .delim '.' :: _ => none
    | .square body :: rest => match readAttr body with
      | some p => readParts fuel inHas (p :: out) rest
      | none => none
    | .colon :: .ident name :: rest => match simplePseudo name with
      | some p => readParts fuel inHas (p :: out) rest
      | none => none
    | .colon :: .function name text body :: rest =>
      match readFunction fuel inHas name text body with
      | some p => readParts fuel inHas (p :: out) rest
      | none => none
    | .colon :: _ => none
    | _ => some (out.reverse, ts)
/-- Reads a function's arguments. The list of `:is` forgives pieces that are no selectors. -/
def readFunction (fuel : Nat) (inHas : Bool) (name : String) (text : List Char)
    (body : List Token) : Option Part :=
  match fuel with
  | 0 => none
  | fuel + 1 =>
    let nth := fun (fromEnd ofType : Bool) =>
      (readNth (argument text)).map fun (a, b) => Part.nth ⟨a, b, fromEnd, ofType⟩
    match lowerName name with
    | "nth-child" => nth false false
    | "nth-last-child" => nth true false
    | "nth-of-type" => nth false true
    | "nth-last-of-type" => nth true true
    | "is" | "where" =>
      if body.any isBad then none
      else some (.is ((splitCommas body).filterMap (readOne fuel inHas none)))
    | "not" => (allOf ((splitCommas body).map (readOne fuel inHas none))).map .not
    | "has" =>
      if inHas then none
      else (allOf ((splitCommas body).map fun piece =>
        match readRelation true (dropSpaces piece) with
        | some (r, rest) => readOne fuel true (some r) rest
        | none => none)).map .has
    | _ => none
/-- Reads a selector that is all of the tokens. With a relation it starts from the anchor. -/
def readOne (fuel : Nat) (inHas : Bool) (relation : Option Relation) (ts : List Token) :
    Option Selector :=
  match fuel with
  | 0 => none
  | fuel + 1 => readChain fuel inHas (relation.map fun r => (.compound [.anchor], r)) ts
def readChain (fuel : Nat) (inHas : Bool) (left : Option (Selector × Relation)) (ts : List Token) :
    Option Selector :=
  match fuel with
  | 0 => none
  | fuel + 1 =>
    match readType (dropSpaces ts) with
    | none => none
    | some (typeParts, rest) =>
      match readParts fuel inHas typeParts.reverse rest with
      | none => none
      | some (parts, rest) =>
        if parts.isEmpty then none
        else
          let here := match left with
            | none => Selector.compound parts
            | some (l, r) => .related l r parts
          if (dropSpaces rest).isEmpty then some here
          else match readRelation false rest with
            | some (r, rest) => readChain fuel inHas (some (here, r)) rest
            | none => none
end

/-- How far the reading of a text may go: each step takes a character or goes one level down. -/
def readFuel (s : List Char) : Nat := 4 * s.length + 8

def ofText? (s : List Char) : Option (List Selector) :=
  allOf ((splitCommas (tokens s)).map (readOne (readFuel s) false none))

end Storefront.Selector

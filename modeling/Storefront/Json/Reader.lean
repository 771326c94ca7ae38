import Storefront.Html.Entity
import Storefront.Json.Basic

/-! # Reading JSON

The grammar of RFC 8259, with values nested at most 127 deep. Surrogates in strings must come in pairs.
-/
namespace Storefront.Json

def isSpace (c : Char) : Bool := c == ' ' || c == '\n' || c == '\t' || c == '\r'

def skipSpace (s : List Char) : List Char := s.dropWhile isSpace

def readUnit : List Char → Option (Nat × List Char)
  | a :: b :: c :: d :: rest =>
    match Html.Entity.hexDigit? a, Html.Entity.hexDigit? b, Html.Entity.hexDigit? c,
      Html.Entity.hexDigit? d with
    | some a, some b, some c, some d => some (((a * 16 + b) * 16 + c) * 16 + d, rest)
    | _, _, _, _ => none
  | _ => none

/-- Reads the digits of a `\u` escape, and those of the second half of a surrogate pair. -/
def readCodePoint (s : List Char) : Option (Char × List Char) :=
  (readUnit s).bind fun (n, rest) =>
    if 0xd800 ≤ n ∧ n < 0xdc00 then
      match rest with
      | '\\' :: 'u' :: rest => (readUnit rest).bind fun (m, rest) =>
        if 0xdc00 ≤ m ∧ m < 0xe000 then
          some (Char.ofNat (0x10000 + (n - 0xd800) * 0x400 + (m - 0xdc00)), rest)
        else none
      | _ => none
    else if n.isValidChar then some (Char.ofNat n, rest)
    else none

def readString (out : List Char) : (fuel : Nat) → List Char → Option (String × List Char)
  | 0, _ => none
  | _, [] => none
  | fuel + 1, c :: rest =>
    if c = '"' then some (String.ofList out.reverse, rest)
    else if c.toNat < 32 then none
    else if c = '\\' then
      match rest with
      | '"' :: rest => readString ('"' :: out) fuel rest
      | '\\' :: rest => readString ('\\' :: out) fuel rest
      | '/' :: rest => readString ('/' :: out) fuel rest
      | 'b' :: rest => readString (Char.ofNat 8 :: out) fuel rest
      | 'f' :: rest => readString (Char.ofNat 12 :: out) fuel rest
      | 'n' :: rest => readString ('\n' :: out) fuel rest
      | 'r' :: rest => readString ('\r' :: out) fuel rest
      | 't' :: rest => readString ('\t' :: out) fuel rest
      | 'u' :: rest => match readCodePoint rest with
        | some (d, rest) => readString (d :: out) fuel rest
        | none => none
      | _ => none
    else readString (c :: out) fuel rest

def isNumberChar (c : Char) : Bool :=
  c.isDigit || c == '-' || c == '+' || c == '.' || c == 'e' || c == 'E'

/-- Whether the text is a number: no leading zeros, and digits on both sides of a point. -/
def wellFormedNumber (s : List Char) : Bool :=
  let body := match s with
    | '-' :: rest => rest
    | _ => s
  let whole := body.takeWhile Char.isDigit
  let rest := body.drop whole.length
  let wholeOk := match whole with
    | [] => false
    | '0' :: others => others.isEmpty
    | _ => true
  let (fractionOk, rest) := match rest with
    | '.' :: rest =>
      let digits := rest.takeWhile Char.isDigit
      (!digits.isEmpty, rest.drop digits.length)
    | _ => (true, rest)
  let exponentOk := match rest with
    | [] => true
    | mark :: rest =>
      (mark == 'e' || mark == 'E') &&
        (let digits := (Decimal.splitSign rest).2
         !digits.isEmpty && digits.all Char.isDigit)
  wholeOk && fractionOk && exponentOk

/-- The value of a well-formed number. Integers beyond 64 bits and the negative zero are not exact. -/
def numberValue (s : List Char) : Option Json :=
  let (negative, body) := Decimal.splitSign s
  let real := (Binary64.ofText? s).map Json.real
  match Decimal.digitsValue? body with
  | some n =>
    if negative then if n = 0 ∨ pow2 63 < n then real else some (.integer (-(n : Int)))
    else if n < pow2 64 then some (.integer n)
    else real
  | none => real

def readNumber (s : List Char) : Option (Json × List Char) :=
  let text := s.takeWhile isNumberChar
  if wellFormedNumber text then (numberValue text).map (·, s.drop text.length) else none

def dropWord (word s : List Char) : Option (List Char) :=
  if word.isPrefixOf s then some (s.drop word.length) else none

mutual
/-- Reads a value. `depth` is how much deeper values may be nested. -/
def readValue (fuel depth : Nat) (s : List Char) : Option (Json × List Char) :=
  match fuel with
  | 0 => none
  | fuel + 1 =>
    match skipSpace s with
    | [] => none
    | c :: rest =>
      if c = '"' then (readString [] (rest.length + 1) rest).map fun (t, rest) => (.string t, rest)
      else if c = '[' then
        if depth = 0 then none
        else match skipSpace rest with
          | ']' :: rest => some (.array [], rest)
          | rest => readItems fuel (depth - 1) [] rest
      else if c.toNat = 0x7b then
        if depth = 0 then none
        else match skipSpace rest with
          | [] => none
          | d :: tail =>
            if d.toNat = 0x7d then some (.object [], tail)
            else readFields fuel (depth - 1) [] (d :: tail)
      else if c = 'n' then (dropWord "ull".toList rest).map (.null, ·)
      else if c = 't' then (dropWord "rue".toList rest).map (.bool true, ·)
      else if c = 'f' then (dropWord "alse".toList rest).map (.bool false, ·)
      else readNumber (c :: rest)
def readItems (fuel depth : Nat) (done : List Json) (s : List Char) : Option (Json × List Char) :=
  match fuel with
  | 0 => none
  | fuel + 1 =>
    match readValue fuel depth s with
    | none => none
    | some (v, rest) => match skipSpace rest with
      | ',' :: rest => readItems fuel depth (v :: done) rest
      | ']' :: rest => some (.array (v :: done).reverse, rest)
      | _ => none
def readFields (fuel depth : Nat) (done : List (String × Json)) (s : List Char) :
    Option (Json × List Char) :=
  match fuel with
  | 0 => none
  | fuel + 1 =>
    match skipSpace s with
    | '"' :: rest => match readString [] (rest.length + 1) rest with
      | none => none
      | some (key, rest) => match skipSpace rest with
        | ':' :: rest => match readValue fuel depth rest with
          | none => none
          | some (v, rest) => match skipSpace rest with
            | ',' :: rest => readFields fuel depth ((key, v) :: done) rest
            | c :: rest =>
              if c.toNat = 0x7d then some (.object ((key, v) :: done).reverse, rest) else none
            | [] => none
        | _ => none
    | _ => none
end

def depthLimit : Nat := 127

def ofText? (s : String) : Option Json :=
  let chars := s.toList
  match readValue (2 * chars.length + 2) depthLimit chars with
  | some (v, rest) => if (skipSpace rest).isEmpty then some v else none
  | none => none

end Storefront.Json

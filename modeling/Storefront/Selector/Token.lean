import Storefront.Html.Entity
import Storefront.Unicode.Case

/-! # Tokens of selectors

Text is cut as style sheets are. Brackets and functions hold the tokens up to their end, and what is
left open ends with the text.
-/
namespace Storefront.Selector
open Unicode

inductive Token
  | ident (name : String)
  /-- A name and an opening parenthesis, with the text and the tokens up to the closing one. -/
  | function (name : String) (text : List Char) (body : List Token)
  | square (body : List Token)
  | hash (name : String) (isIdent : Bool)
  | string (s : String)
  | delim (c : Char)
  /-- An operator of two characters that ends in an equals sign; the first is given. -/
  | operator (c : Char)
  | space
  | colon
  | comma
  /-- A token that selectors have no use for. -/
  | other
  | bad

def isSpace (c : Char) : Bool :=
  c == ' ' || c == '\n' || c == '\t' || c == '\r' || c == Char.ofNat 12

def isNameStart (c : Char) : Bool := isAsciiLetter c || c == '_' || 128 ≤ c.toNat || c.toNat == 0
def isNameChar (c : Char) : Bool := isNameStart c || isAsciiDigit c || c == '-'

def isNewline (c : Char) : Bool := c == '\n' || c == '\r' || c == Char.ofNat 12

def startsEscape : List Char → Bool
  | '\\' :: c :: _ => !isNewline c
  | ['\\'] => true
  | _ => false

def startsName : List Char → Bool
  | '-' :: '-' :: _ => true
  | '-' :: c :: rest => isNameStart c || startsEscape (c :: rest)
  | c :: rest => isNameStart c || startsEscape (c :: rest)
  | [] => false

def startsNumber (s : List Char) : Bool :=
  let body := match s with
    | '+' :: rest | '-' :: rest => rest
    | _ => s
  match body with
  | '.' :: c :: _ => isAsciiDigit c
  | c :: _ => isAsciiDigit c
  | [] => false

def escapedChar (n : Nat) : Char :=
  if n = 0 ∨ !n.isValidChar then Char.ofNat 0xfffd else Char.ofNat n

def readEscape (s : List Char) : Char × List Char :=
  let digits := (s.take 6).takeWhile fun c => (Html.Entity.hexDigit? c).isSome
  if digits.isEmpty then
    match s with
    | [] => (Char.ofNat 0xfffd, [])
    | c :: rest => (escapedChar c.toNat, rest)
  else
    let rest := s.drop digits.length
    let rest := match rest with
      | '\r' :: '\n' :: rest => rest
      | c :: tail => if isSpace c then tail else rest
      | [] => []
    (escapedChar (Html.Entity.readHex digits), rest)

def readName (out : List Char) : (fuel : Nat) → List Char → String × List Char
  | 0, s => (String.ofList out.reverse, s)
  | _, [] => (String.ofList out.reverse, [])
  | fuel + 1, c :: rest =>
    if isNameChar c then readName ((if c.toNat = 0 then Char.ofNat 0xfffd else c) :: out) fuel rest
    else if startsEscape (c :: rest) then
      let (d, rest) := readEscape rest
      readName (d :: out) fuel rest
    else (String.ofList out.reverse, c :: rest)

/-- Reads a string up to its quote. A line break ends it badly. -/
def readString (quote : Char) (out : List Char) : (fuel : Nat) → List Char → Option String × List Char
  | 0, s => (none, s)
  | _, [] => (some (String.ofList out.reverse), [])
  | fuel + 1, c :: rest =>
    if c = quote then (some (String.ofList out.reverse), rest)
    else if isNewline c then (none, c :: rest)
    else if c = '\\' then
      match rest with
      | [] => (some (String.ofList out.reverse), [])
      | '\r' :: '\n' :: rest => readString quote out fuel rest
      | d :: tail =>
        if isNewline d then readString quote out fuel tail
        else
          let (e, rest) := readEscape rest
          readString quote (e :: out) fuel rest
    else readString quote ((if c.toNat = 0 then Char.ofNat 0xfffd else c) :: out) fuel rest

def dropNumber (s : List Char) : List Char :=
  let s := match s with
    | '+' :: rest | '-' :: rest => rest
    | _ => s
  let s := s.dropWhile isAsciiDigit
  let s := match s with
    | '.' :: c :: rest => if isAsciiDigit c then rest.dropWhile isAsciiDigit else s
    | _ => s
  let s := match s with
    | e :: sign :: c :: rest =>
      if (e == 'e' || e == 'E') && (sign == '+' || sign == '-') && isAsciiDigit c then
        rest.dropWhile isAsciiDigit
      else if (e == 'e' || e == 'E') && isAsciiDigit sign then (c :: rest).dropWhile isAsciiDigit
      else s
    | _ => s
  if startsName s then (readName [] (s.length + 1) s).2
  else match s with
    | '%' :: rest => rest
    | _ => s

def dropComment : List Char → List Char
  | '*' :: '/' :: rest => rest
  | _ :: rest => dropComment rest
  | [] => []

def readPlain (c : Char) (rest : List Char) : Token × List Char :=
  if c = '"' ∨ c = '\'' then
    match readString c [] (rest.length + 1) rest with
    | (some s, rest) => (.string s, rest)
    | (none, rest) => (.bad, rest)
  else if isSpace c then (.space, rest.dropWhile isSpace)
  else if c = '#' then
    if (rest.head?.any isNameChar) || startsEscape rest then
      let (name, tail) := readName [] (rest.length + 1) rest
      (.hash name (startsName rest), tail)
    else (.delim c, rest)
  else if ['~', '|', '^', '$', '*'].contains c ∧ rest.head? = some '=' then (.operator c, rest.drop 1)
  else if c = ':' then (.colon, rest)
  else if c = ',' then (.comma, rest)
  else if c = ')' ∨ c = ']' ∨ c.toNat = 0x7d then (.bad, rest)
  else if c = ';' then (.other, rest)
  else if ['<', '!', '-', '-'].isPrefixOf (c :: rest) then (.other, rest.drop 3)
  else if ['-', '-', '>'].isPrefixOf (c :: rest) then (.other, rest.drop 2)
  else if c = '@' ∧ startsName rest then (.other, (readName [] (rest.length + 1) rest).2)
  else (.delim c, rest)

def readTokens (close : Option Char) (out : List Token) : (fuel : Nat) → List Char →
    List Token × List Char
  | 0, s => (out.reverse, s)
  | _, [] => (out.reverse, [])
  | fuel + 1, c :: rest =>
    if close = some c then (out.reverse, rest)
    else if c = '/' ∧ rest.head? = some '*' then readTokens close out fuel (dropComment (rest.drop 1))
    else if startsNumber (c :: rest) then readTokens close (.other :: out) fuel (dropNumber (c :: rest))
    else if startsName (c :: rest) ∧ ¬ ['-', '-', '>'].isPrefixOf (c :: rest) then
      let (name, tail) := readName [] (rest.length + 2) (c :: rest)
      match tail with
      | '(' :: inner =>
        let (body, tail) := readTokens (some ')') [] fuel inner
        let text := inner.take (inner.length - tail.length)
        readTokens close (.function name text body :: out) fuel tail
      | tail => readTokens close (.ident name :: out) fuel tail
    else if c = '[' then
      let (body, tail) := readTokens (some ']') [] fuel rest
      readTokens close (.square body :: out) fuel tail
    else if c = '(' then
      let (_, tail) := readTokens (some ')') [] fuel rest
      readTokens close (.other :: out) fuel tail
    else if c.toNat = 0x7b then
      let (_, tail) := readTokens (some (Char.ofNat 0x7d)) [] fuel rest
      readTokens close (.other :: out) fuel tail
    else
      let (t, tail) := readPlain c rest
      readTokens close (t :: out) fuel tail

def tokens (s : List Char) : List Token := (readTokens none [] (s.length + 1) s).1

end Storefront.Selector

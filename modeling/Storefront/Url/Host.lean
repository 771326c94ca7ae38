import Storefront.Text.Split
import Storefront.Unicode.Case
import Storefront.Url.Basic
import Storefront.Url.Encode
import Storefront.Url.Punycode

/-! # Reading hosts

A host is a name, or an address of version 4 or 6. Names are written in lower case and in ASCII.
-/
namespace Storefront.Url
open Unicode

def splitOn (c : Char) : List Char → List (List Char)
  | [] => [[]]
  | d :: rest =>
    if d = c then [] :: splitOn c rest
    else match splitOn c rest with
      | first :: others => (d :: first) :: others
      | [] => [[d]]

/-- The digits of a number in a base, most significant first. -/
def numberIn? (base : Nat) (s : List Char) : Option Nat :=
  s.foldlM (fun n c => (Html.Entity.hexDigit? c).bind fun d => if d < base then some (n * base + d) else none) 0

/-- A number in an address of version 4: hexadecimal after `0x`, octal after `0`, else decimal. -/
def v4Number? (s : List Char) : Option Nat :=
  match s with
  | [] => none
  | '0' :: 'x' :: digits => numberIn? 16 digits
  | '0' :: 'X' :: digits => numberIn? 16 digits
  | '0' :: digits => numberIn? 8 digits
  | _ => numberIn? 10 s

def endsInNumber (s : List Char) : Bool :=
  let last := match (splitOn '.' s).reverse with
    | [] :: l :: _ => some l
    | [[]] => none
    | l :: _ => some l
    | [] => none
  match last with
  | none => false
  | some l => (!l.isEmpty && l.all isAsciiDigit) || (v4Number? l).isSome

/-- All but the last number fill one byte each, and the last one fills what is left. -/
def readV4 (s : List Char) : Option Nat :=
  let parts := splitOn '.' s
  let parts := if parts.getLast? = some [] then parts.dropLast else parts
  if 4 < parts.length then none
  else (parts.mapM v4Number?).bind fun numbers =>
    let front := numbers.dropLast
    let last := numbers.getLast?.getD 0
    if front.all (· < 256) ∧ last < pow2 (8 * (4 - front.length)) then
      some (front.zipIdx.foldl (fun a (n, i) => a + n * pow2 (8 * (3 - i))) last)
    else none

def byte? (s : List Char) : Option Nat :=
  if s.isEmpty || !s.all isAsciiDigit || (s.head? == some '0' && 1 < s.length) then none
  else (numberIn? 10 s).filter (· < 256)

/-- The groups in one half of an address of version 6; the last may be an address of version 4. -/
def v6Groups? (s : List Char) : Option (List Nat) :=
  if s.isEmpty then some []
  else
    let pieces := splitOn ':' s
    let group := fun (p : List Char) =>
      if p.isEmpty || 4 < p.length then none else numberIn? 16 p
    match pieces.getLast? with
    | some last =>
      if last.contains '.' then
        match (splitOn '.' last).mapM byte?, pieces.dropLast.mapM group with
        | some [a, b, c, d], some gs => some (gs ++ [a * 256 + b, c * 256 + d])
        | _, _ => none
      else pieces.mapM group
    | none => none

/-- Two colons stand for as many groups of zeros as are missing, and for one at least. -/
def readV6 (s : List Char) : Option (List Nat) :=
  match Text.splitFirst [':', ':'] s with
  | some (front, back) =>
    match v6Groups? front, v6Groups? back with
    | some a, some b =>
      if front.contains '.' || 7 < a.length + b.length then none
      else some (a ++ List.replicate (8 - a.length - b.length) 0 ++ b)
    | _, _ => none
  | none => (v6Groups? s).filter (·.length = 8)

/-- What a character of a name becomes: full-width forms and other full stops turn into ASCII, soft
hyphens and joiners vanish, and letters become small. -/
def nameChar (c : Char) : List Char :=
  let n := c.toNat
  if n = 0x3002 ∨ n = 0xff0e ∨ n = 0xff61 then ['.']
  else if 0xff01 ≤ n ∧ n ≤ 0xff5e then [asciiLower (Char.ofNat (n - 0xfee0))]
  else if n = 0xad ∨ n = 0x200b ∨ n = 0x2060 ∨ n = 0xfeff then []
  else toLower c

def isForbidden (c : Char) : Bool :=
  c.toNat ≤ 0x20 || c.toNat == 0x7f || ('%' :: "#/:<>?@[\\]^`|".toList).contains c ||
    c.toNat == 0x7b || c.toNat == 0x7d

def label? (s : List Char) : Option (List Char) :=
  if s.all isAscii then
    if ['x', 'n', '-', '-'].isPrefixOf s ∧ (s.length = 4 ∨ s.getLast? = some '-') then none else some s
  else some (['x', 'n', '-', '-'] ++ Punycode.encode s)

def name? (s : List Char) : Option (List Char) :=
  let s := s.flatMap nameChar
  if s.any isForbidden then none
  else ((splitOn '.' s).mapM label?).map fun labels => (labels.intersperse ['.']).flatten

def readBracketed (s : List Char) : Except Fault Host :=
  match s.reverse with
  | ']' :: inner => match readV6 inner.reverse with
    | some groups => .ok (.v6 groups)
    | none => .error .invalidV6
  | _ => .error .invalidV6

def readHost (s : List Char) : Except Fault Host :=
  match s with
  | '[' :: rest => readBracketed rest
  | _ => match (decode? s).bind name? with
    | none => .error .invalidName
    | some name =>
      if name.isEmpty then .error .emptyHost
      else if endsInNumber name then
        match readV4 name with
        | some a => .ok (.v4 a)
        | none => .error .invalidV4
      else .ok (.name name)

def isForbiddenOpaque (c : Char) : Bool :=
  ['\t', '\n', '\r', ' ', '#', '/', ':', '<', '>', '?', '@', '[', '\\', ']', '^', '|'].contains c ||
    c.toNat == 0

/-- Reads the host of an address whose scheme is not known: the name is kept. -/
def readOpaqueHost (s : List Char) : Except Fault Host :=
  match s with
  | '[' :: rest => readBracketed rest
  | _ => if s.any isForbiddenOpaque then .error .invalidCharacter else .ok (.name (encode inControls s))

end Storefront.Url

import Storefront.Html.Entity
import Storefront.Unicode.Property

/-! # Decoding character references

A reference is an ampersand, a name or a number, and a semicolon. Names are case sensitive and stand
for the first of their characters. Numbers are decimal, or hexadecimal after an `x`. A reference that
names no character is left as it is written.
-/
namespace Storefront.Text
open Unicode

/-- The character with this number, unless it is zero or no character. -/
def scalar? (n : Nat) : Option Char :=
  if n ≠ 0 ∧ n.isValidChar then some (Char.ofNat n) else none

def digitsIn? (base : Nat) (s : List Char) : Option Nat :=
  if s.isEmpty then none
  else s.foldlM (fun n c => (Html.Entity.hexDigit? c).bind fun d => if d < base then some (n * base + d) else none) 0

def referenced? : List Char → Option Char
  | '#' :: 'x' :: digits => (digitsIn? 16 digits).bind scalar?
  | '#' :: 'X' :: digits => (digitsIn? 16 digits).bind scalar?
  | '#' :: digits => (digitsIn? 10 digits).bind scalar?
  | name =>
    if name.head?.any isAsciiLetter then (Html.Entity.find? (String.ofList name)).bind List.head?
    else none

def isReferenceChar (c : Char) : Bool := isAsciiLetter c || isAsciiDigit c || c == '#'

/-- Decodes from left to right; `skip` characters belong to a reference already decoded. -/
def decodeFrom (skip : Nat) : List Char → List Char
  | [] => []
  | c :: rest =>
    match skip with
    | skip + 1 => decodeFrom skip rest
    | 0 =>
      if c = '&' then
        let body := rest.takeWhile isReferenceChar
        match rest.drop body.length, referenced? body with
        | ';' :: _, some d => d :: decodeFrom (body.length + 1) rest
        | _, _ => c :: decodeFrom 0 rest
      else c :: decodeFrom 0 rest

def decodeReferences (s : List Char) : List Char := decodeFrom 0 s

end Storefront.Text

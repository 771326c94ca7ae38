/-! # Fingerprints of texts

The FNV-1a hash of 64 bits over a text's UTF-8 bytes, and its two printed forms: sixteen hexadecimal
digits, and the base 64 form of its decimal digits.
-/
namespace Storefront.Text

def fnvOffset : UInt64 := 14695981039346656037
def fnvPrime : UInt64 := 1099511628211

def fnvStep (hash : UInt64) (byte : UInt8) : UInt64 := (hash ^^^ byte.toUInt64) * fnvPrime

def fnvBytes (bytes : List UInt8) : UInt64 := bytes.foldl fnvStep fnvOffset

def utf8Bytes (s : List Char) : List UInt8 := s.flatMap String.utf8EncodeChar

def fnv64 (s : List Char) : UInt64 := fnvBytes (utf8Bytes s)

def hexDigit (n : Nat) : Char := if n < 10 then Char.ofNat (48 + n) else Char.ofNat (87 + n)

def hexDigits : (count : Nat) → Nat → List Char
  | 0, _ => []
  | count + 1, n => hexDigits count (n / 16) ++ [hexDigit (n % 16)]

def base64Digit (n : Nat) : Char :=
  if n < 26 then Char.ofNat (65 + n)
  else if n < 52 then Char.ofNat (97 + (n - 26))
  else if n < 62 then Char.ofNat (48 + (n - 52))
  else if n = 62 then '+'
  else '/'

/-- Three bytes become four digits; a last group that is short is filled up with `=`. -/
def base64 : List UInt8 → List Char
  | a :: b :: c :: rest =>
    let n := a.toNat * 65536 + b.toNat * 256 + c.toNat
    base64Digit (n / 262144) :: base64Digit (n / 4096 % 64) :: base64Digit (n / 64 % 64) ::
      base64Digit (n % 64) :: base64 rest
  | [a, b] =>
    let n := a.toNat * 65536 + b.toNat * 256
    [base64Digit (n / 262144), base64Digit (n / 4096 % 64), base64Digit (n / 64 % 64), '=']
  | [a] =>
    let n := a.toNat * 65536
    [base64Digit (n / 262144), base64Digit (n / 4096 % 64), '=', '=']
  | [] => []

def shortHash (s : List Char) (limit : Option Nat) : List Char :=
  let code := base64 (utf8Bytes (Nat.toDigits 10 (fnv64 s).toNat))
  match limit with
  | some n => code.take n
  | none => code

end Storefront.Text

import Storefront.Html.Entity
import Storefront.Text.Fingerprint

/-! # Percent encoding

Each part of an address has its own characters that are written as percent signs and the hexadecimal
digits of their bytes. Characters outside ASCII always are.
-/
namespace Storefront.Url

def upperHexDigit (n : Nat) : Char := if n < 10 then Char.ofNat (48 + n) else Char.ofNat (55 + n)

def encodeByte (b : UInt8) : List Char := ['%', upperHexDigit (b.toNat / 16), upperHexDigit (b.toNat % 16)]

def encode (set : Char → Bool) (s : List Char) : List Char :=
  s.flatMap fun c => if set c then (Text.utf8Bytes [c]).flatMap encodeByte else [c]

def inControls (c : Char) : Bool := c.toNat < 0x20 || 0x7f ≤ c.toNat
def inFragment (c : Char) : Bool := inControls c || [' ', '"', '<', '>', '`'].contains c
def inPath (c : Char) : Bool := inFragment c || c == '#' || c == '?' || c.toNat == 0x7b || c.toNat == 0x7d
def inUser (c : Char) : Bool := inPath c || ['/', ':', ';', '=', '@', '[', '\\', ']', '^', '|'].contains c
def inQuery (c : Char) : Bool := inControls c || [' ', '"', '#', '<', '>'].contains c
def inSpecialQuery (c : Char) : Bool := inQuery c || c == '\''

/-- The bytes that a text stands for. A percent sign without two digits stands for itself. -/
def decodeBytes : List Char → List UInt8
  | [] => []
  | '%' :: a :: b :: rest =>
    match Html.Entity.hexDigit? a, Html.Entity.hexDigit? b with
    | some a, some b => UInt8.ofNat (a * 16 + b) :: decodeBytes rest
    | _, _ => UInt8.ofNat 37 :: decodeBytes (a :: b :: rest)
  | c :: rest => Text.utf8Bytes [c] ++ decodeBytes rest

def ofUtf8? (bytes : List UInt8) : Option (List Char) :=
  (String.fromUTF8? (ByteArray.mk bytes.toArray)).map String.toList

def decode? (s : List Char) : Option (List Char) := ofUtf8? (decodeBytes s)

end Storefront.Url

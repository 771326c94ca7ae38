import Storefront.Text.Fingerprint
import Storefront.Unicode.Category
import Storefront.Unicode.Property

/-! # Quoted text and columns -/
namespace Storefront.Text
open Unicode

/-- Whether a character shows as itself: letters, numbers, signs and the plain blank do. -/
def isPrintable (c : Char) : Bool :=
  c == ' ' || !((Category.ofChar c).isOther || (Category.ofChar c).isSeparator || isExtending c)

def hexNumber (n : Nat) : List Char := Nat.toDigits 16 n

def quoteChar (c : Char) : List Char :=
  match c with
  | '"' => ['\\', '"']
  | '\\' => ['\\', '\\']
  | '\n' => ['\\', 'n']
  | '\r' => ['\\', 'r']
  | '\t' => ['\\', 't']
  | _ =>
    if c.toNat = 0 then ['\\', '0']
    else if isPrintable c then [c]
    else ['\\', 'u', Char.ofNat 0x7b] ++ hexNumber c.toNat ++ [Char.ofNat 0x7d]

/-- A text in quotes; characters that do not show as themselves are escaped. -/
def quoted (s : String) : String := "\"" ++ String.ofList (s.toList.flatMap quoteChar) ++ "\""

def padRight (width : Nat) (s : String) : String :=
  s ++ String.ofList (List.replicate (width - s.length) ' ')

def padLeft (width : Nat) (s : String) : String :=
  String.ofList (List.replicate (width - s.length) ' ') ++ s

end Storefront.Text

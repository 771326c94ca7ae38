import Storefront.Text.Fingerprint
import Storefront.Text.Split
import Storefront.Unicode.Property

/-! # Addresses as file names

Parts of an address are joined by one slash. An address becomes a file name in two halves: a readable
one of limited length that keeps safe characters only, and a hash of the whole address.
-/
namespace Storefront.Text
open Unicode

/-- Joins two parts by exactly one slash. -/
def joinSlash (a b : List Char) : List Char :=
  dropEndWhile (· == '/') a ++ '/' :: b.dropWhile (· == '/')

/-- The readable stand-in for a character that file names cannot hold. -/
def fileNameSwap : Char → Char
  | '/' => '{'
  | '?' => '7'
  | ':' => '$'
  | c => c

def isFileNameSafe (c : Char) : Bool :=
  isAsciiLetter c || isAsciiDigit c || ['{', '=', '-', '_', '+', '&', '.', '$'].contains c

def fileNameLimit : Nat := 100

def fileName (uri : List Char) : List Char :=
  (((uri.map fileNameSwap).filter isFileNameSafe ++ ['_']).take fileNameLimit) ++
    hexDigits 16 (fnv64 uri).toNat

end Storefront.Text

import Storefront.Currency
import Storefront.Decimal.Text
import Storefront.Text.Number
import Storefront.Time.Text

/-! # Files of rates

A rate may expire. A rate file has one line for each currency, such as `EUR to USD 1.0850 (2026-01-31 18:00:00)`. Lines
of another form and lines against another main currency are passed over.
-/
namespace Storefront

/-- A rate, and the moment from which it counts no longer. Without one it always counts. -/
structure DatedRate where
  value : Decimal
  expires : Option Timestamp := none
deriving DecidableEq

def DatedRate.isExpiredAt (r : DatedRate) (now : Timestamp) : Bool :=
  match r.expires with
  | some at' => at'.notAfter now
  | none => false

end Storefront

namespace Storefront.RateFile
open Unicode

/-- The line for a rate, cut to four decimals, if there is room for it. -/
def writeLine? (main : Currency) (c : Currency) (r : DatedRate) : Option String :=
  let expires := match r.expires with
    | some t => t.expiryText
    | none => "never"
  (r.value.toFixed? 4).map fun rate => s!"{c} to {main} {String.ofList rate} ({expires})\n"

def write? (main : Currency) (entries : List (Currency × DatedRate)) : Option String :=
  (entries.mapM fun (c, r) => writeLine? main c r).map String.join

/-- What a file to be filled in is written from: every rate is zero. -/
def blank (main : Currency) : List (Currency × DatedRate) :=
  (Currency.all.filter (· != main)).map fun c => (c, ⟨Decimal.zero, none⟩)

def readCode (s : List Char) : Option (List Char × List Char) :=
  let code := s.take 3
  if code.length = 3 ∧ code.all isAsciiLetter then some (code, s.drop 3) else none

def dropStart (start s : List Char) : Option (List Char) :=
  if start.isPrefixOf s then some (s.drop start.length) else none

def isRateChar (c : Char) : Bool := isAsciiDigit c || c == '.'

def isNote (s : List Char) : Bool :=
  match s with
  | '(' :: inner => match (Text.dropEndWhile isBlank inner).reverse with
    | ')' :: note => !note.isEmpty
    | _ => false
  | _ => false

/-- The parts of a line: two codes and the text of the rate. -/
def readParts (line : List Char) : Option (List Char × List Char × List Char) := do
  let (first, s) ← readCode (line.dropWhile isBlank)
  let s ← dropStart " to ".toList s
  let (second, s) ← readCode s
  let s ← dropStart [' '] s
  let rate := s.takeWhile isRateChar
  let s ← dropStart [' '] (s.drop rate.length)
  if rate.isEmpty || !isNote s then none else some (first, second, rate)

def readLine (main : Currency) (line : List Char) : Option (Currency × Decimal) := do
  let (first, second, rate) ← readParts line
  let currency ← Currency.ofText? first
  let against ← Currency.ofText? second
  if against = main then (Text.decimal? rate).map (currency, ·) else none

def read (main : Currency) (contents : List Char) : List (Currency × Decimal) :=
  (Text.lines contents).filterMap (readLine main)

/-- The rate that a file gives for a currency: the last one. -/
def rate? (entries : List (Currency × Decimal)) (c : Currency) : Option Decimal := entries.reverse.lookup c

end Storefront.RateFile

import Storefront.Decimal.Text
import Storefront.Text.Blank
import Storefront.Time.Timestamp
import Storefront.Unicode.Case

/-! # Moments as text

A moment is written with a `T` between date and time and with an offset, or, where it is an expiry,
with a blank and without fractions. Reading allows blanks around the parts and one digit for two.
-/
namespace Storefront.Timestamp
open Unicode

def twoDigits (n : Nat) : List Char := Decimal.padded 2 n

/-- Four digits; years beyond them have a sign. -/
def yearText (year : Int) : List Char :=
  if 0 ≤ year ∧ year ≤ 9999 then Decimal.padded 4 year.toNat
  else (if year < 0 then '-' else '+') :: Decimal.padded 4 year.natAbs

def dateText (t : Timestamp) : List Char :=
  let d := t.date
  yearText d.year ++ ['-'] ++ twoDigits d.month ++ ['-'] ++ twoDigits d.day

/-- Hours, minutes and seconds. A leap second is the second 60. -/
def timeText (t : Timestamp) : List Char :=
  let n := t.secondOfDay.toNat
  twoDigits (n / 3600) ++ [':'] ++ twoDigits (n / 60 % 60) ++ [':'] ++
    twoDigits (n % 60 + if t.isLeapSecond then 1 else 0)

def fractionText (t : Timestamp) : List Char :=
  let n := t.nanos % perSecond
  if n = 0 then []
  else if n % 1000000 = 0 then '.' :: Decimal.padded 3 (n / 1000000)
  else if n % 1000 = 0 then '.' :: Decimal.padded 6 (n / 1000)
  else '.' :: Decimal.padded 9 n

def toText (t : Timestamp) (offset : List Char) : List Char :=
  t.dateText ++ ['T'] ++ t.timeText ++ t.fractionText ++ offset

def zuluText (t : Timestamp) : String := String.ofList (t.toText ['Z'])
def offsetText (t : Timestamp) : String := String.ofList (t.toText "+00:00".toList)

def expiryText (t : Timestamp) : String := String.ofList (t.dateText ++ [' '] ++ t.timeText)

def number (width : Nat) (s : List Char) : Option (Nat × List Char) :=
  let s := s.dropWhile isBlank
  let digits := (s.takeWhile isAsciiDigit).take width
  (Decimal.digitsValue? digits).map fun n => (n, s.drop digits.length)

/-- Reads a year: four digits at most, or any number of them after a sign. -/
def readYear (s : List Char) : Option (Int × List Char) :=
  match s.dropWhile isBlank with
  | '-' :: rest => if rest.head?.any isAsciiDigit then
      (number rest.length rest).map fun (n, rest) => (-(n : Int), rest) else none
  | '+' :: rest => if rest.head?.any isAsciiDigit then
      (number rest.length rest).map fun (n, rest) => ((n : Int), rest) else none
  | s => (number 4 s).map fun (n, rest) => ((n : Int), rest)

def mark (c : Char) : List Char → Option (List Char)
  | d :: rest => if d = c then some rest else none
  | [] => none

def readDate (loose : Bool) (s : List Char) : Option (Date × List Char) := do
  let skip := fun (s : List Char) => if loose then s.dropWhile isBlank else s
  let (year, s) ← readYear s
  let s ← mark '-' (skip s)
  let (month, s) ← number 2 s
  let s ← mark '-' (skip s)
  let (day, s) ← number 2 s
  let date ← Date.ofParts? year month day
  return (date, s)

def readTime (loose : Bool) (s : List Char) : Option ((Nat × Nat × Nat) × List Char) := do
  let skip := fun (s : List Char) => if loose then s.dropWhile isBlank else s
  let (hour, s) ← number 2 s
  let s ← mark ':' (skip s)
  let (minute, s) ← number 2 s
  let s ← mark ':' (skip s)
  let (second, s) ← number 2 s
  if hour < 24 ∧ minute < 60 ∧ second ≤ 60 then some ((hour, minute, second), s) else none

def readFraction (s : List Char) : Option (Nat × List Char) :=
  match s with
  | '.' :: rest =>
    let digits := rest.takeWhile isAsciiDigit
    let kept := digits.take 9
    (Decimal.digitsValue? kept).map fun n => (n * pow10 (9 - kept.length), rest.drop digits.length)
  | _ => some (0, s)

def isColonOrBlank (c : Char) : Bool := c == ':' || isBlank c

def readOffset (s : List Char) : Option (Int × List Char) :=
  let twoDigits := fun (s : List Char) => match s with
    | a :: b :: rest => (Decimal.digitsValue? [a, b]).map (·, rest)
    | _ => none
  let signed := fun (negative : Bool) (s : List Char) => do
    let (hours, s) ← twoDigits s
    let (minutes, s) ← twoDigits (s.dropWhile isColonOrBlank)
    let offset : Int := hours * 3600 + minutes * 60
    if minutes < 60 ∧ hours < 24 then some (if negative then -offset else offset, s) else none
  if (s.take 3).map asciiLower == ['u', 't', 'c'] then some (0, s.drop 3)
  else match s with
    | [] => none
    | c :: rest =>
      if c = 'Z' ∨ c = 'z' then some (0, rest)
      else if c = '+' then signed false rest
      else if c = '-' ∨ c = Char.ofNat 0x2212 then signed true rest
      else none

def ofText? (s : List Char) : Option Timestamp := do
  let (date, s) ← readDate true s
  let s ← match s with
    | c :: rest => if c = 'T' ∨ c = 't' ∨ c = ' ' then some rest else none
    | [] => none
  let ((hour, minute, second), s) ← readTime true s
  let (nanos, s) ← readFraction s
  let (offset, s) ← readOffset (s.dropWhile isBlank)
  let t := ofDate date hour minute second
  if (s.dropWhile isBlank).isEmpty then some ⟨t.seconds - offset, t.nanos + nanos⟩ else none

def ofExpiry? (s : List Char) : Option Timestamp := do
  let (date, s) ← readDate false (Text.trim s)
  let ((hour, minute, second), s) ← readTime false (s.dropWhile isBlank)
  if s.isEmpty then some (ofDate date hour minute second) else none

end Storefront.Timestamp

import Storefront.Decimal.Arithmetic
import Storefront.Decimal.Text

/-! # Binary floating point numbers of 64 bits and their texts

A finite number is `m * 2 ^ q` with `m < 2 ^ 53` and `q ≥ -1074`. `encode` rounds a ratio of naturals
to the nearest such number, ties to an even `m`, and `parts` reads the two integers back.

Printing writes the fewest digits that read back as the same number, nearest to it among those, and
always positionally. Reading takes an optional sign, digits with an optional point and an optional
exponent, and rounds the written value to the nearest number.
-/
namespace Storefront.Binary64

def minExponent : Int := -1074

def infinityBits : Nat := 0x7ff * pow2 52

def signBit : Nat := pow2 63

/-- The largest `e` with `2 ^ e ≤ n / d`, for positive `n` and `d`. -/
def floorLog2 (n d : Nat) : Int :=
  let e : Int := (n.log2 : Int) - d.log2
  let reached := if 0 ≤ e then decide (d * pow2 e.toNat ≤ n) else decide (d ≤ n * pow2 (-e).toNat)
  if reached then e else e - 1

/-- The bits of the nonnegative number nearest to `n / d`; out of range, those of infinity. -/
def encode (n d : Nat) : Nat :=
  if n = 0 then 0
  else
    let q := max (floorLog2 n d - 52) minExponent
    let m :=
      if 0 ≤ q then Decimal.roundDiv n (d * pow2 q.toNat) else Decimal.roundDiv (n * pow2 (-q).toNat) d
    min ((q - minExponent).toNat * pow2 52 + m) infinityBits

/-- The magnitude of a bit pattern below infinity as `m * 2 ^ q`. -/
def parts (bits : Nat) : Nat × Int :=
  let field : Nat := bits / pow2 52
  let fraction : Nat := bits % pow2 52
  if field = 0 then (fraction, minExponent) else (pow2 52 + fraction, minExponent + (field : Int) - 1)

def ofBits (negative : Bool) (bits : Nat) : Float :=
  Float.ofBits (UInt64.ofNat (if negative then bits + signBit else bits))

/-- The digits of a positive value and the power of ten that the first of them stands for. -/
structure Digits where
  value : Nat
  count : Nat
  exponent : Int
deriving DecidableEq, Repr

def floorLog10 (n d : Nat) : Int :=
  let guess : Int := (Nat.toDigits 10 n).length - (Nat.toDigits 10 d).length
  let reached :=
    if 0 ≤ guess then decide (d * pow10 guess.toNat ≤ n) else decide (d ≤ n * pow10 (-guess).toNat)
  if reached then guess else guess - 1

/-- A positive number `n / d` with the bounds between which decimals read back as it. All three are
over the one denominator `d`. The bounds belong to the interval when `closed` holds. -/
structure Interval where
  low : Nat
  mid : Nat
  high : Nat
  denom : Nat
  closed : Bool

/-- The interval of the number `m * 2 ^ q`. Below a power of two the neighbour is twice as near. -/
def Interval.ofParts (m : Nat) (q : Int) : Interval :=
  let up := pow2 q.toNat
  let denom := 4 * pow2 (-q).toNat
  let narrow := decide (m = pow2 52) && decide (minExponent < q)
  ⟨(4 * m - (if narrow then 1 else 2)) * up, 4 * m * up, (4 * m + 2) * up, denom, m % 2 == 0⟩

def Interval.holds (i : Interval) (k : Nat) (g : Int) : Bool :=
  let value := k * i.denom * pow10 g.toNat
  let scale := pow10 (-g).toNat
  if i.closed then decide (i.low * scale ≤ value) && decide (value ≤ i.high * scale)
  else decide (i.low * scale < value) && decide (value < i.high * scale)

/-- Of the two multiples of `10 ^ g` around the number, the nearest that lies in the interval. -/
def Interval.onGrid (i : Interval) (g : Int) : Option Nat :=
  let n := i.mid * pow10 (-g).toNat
  let d := i.denom * pow10 g.toNat
  let below := n / d
  let nearest := if d < 2 * (n % d) then below + 1 else below
  let other := if d < 2 * (n % d) then below else below + 1
  if i.holds nearest g then some nearest else if i.holds other g then some other else none

def Interval.shortest (i : Interval) (exponent : Int) : (fuel : Nat) → (count : Nat) → Digits
  | 0, count => ⟨(i.mid * pow10 (count - 1 - exponent).toNat) / (i.denom * pow10 (exponent + 1 - count).toNat),
      count, exponent⟩
  | fuel + 1, count =>
    match i.onGrid (exponent + 1 - count) with
    | some k => ⟨k, count, exponent⟩
    | none => i.shortest exponent fuel (count + 1)

def shortestDigits (m : Nat) (q : Int) : Digits :=
  let i := Interval.ofParts m q
  i.shortest (floorLog10 i.mid i.denom) 17 1

def Digits.toText (d : Digits) : List Char :=
  let shift := d.exponent + 1 - d.count
  if 0 ≤ shift then Nat.toDigits 10 (d.value * pow10 shift.toNat)
  else
    let places := (-shift).toNat
    let fraction := (Decimal.padded places (d.value % pow10 places)).reverse.dropWhile (· == '0')
    Nat.toDigits 10 (d.value / pow10 places) ++
      (if fraction.isEmpty then [] else '.' :: fraction.reverse)

def toText (x : Float) : List Char :=
  let bits := x.toBits.toNat
  let magnitude := bits % signBit
  if infinityBits < magnitude then "NaN".toList
  else
    let sign := if signBit ≤ bits then ['-'] else []
    if magnitude = infinityBits then sign ++ "inf".toList
    else if magnitude = 0 then sign ++ ['0']
    else
      let (m, q) := parts magnitude
      sign ++ (shortestDigits m q).toText

def takeDigits (n count : Nat) : List Char → Nat × Nat × List Char
  | [] => (n, count, [])
  | c :: rest =>
    match Decimal.digit? c with
    | some d => takeDigits (n * 10 + d) (count + 1) rest
    | none => (n, count, c :: rest)

def readExponent (s : List Char) : Option Int :=
  let (negative, body) := Decimal.splitSign s
  match takeDigits 0 0 body with
  | (_, 0, _) => none
  | (n, _, []) => some (if negative then -n else n)
  | _ => none

/-- Beyond this power of ten every number is infinite, and below its inverse every number is zero. -/
def extreme : Int := 400

def scaledBits (n count : Nat) (e : Int) : Nat :=
  if n = 0 then 0
  else if extreme < e then infinityBits
  else if e + count < -extreme then 0
  else encode (n * pow10 e.toNat) (pow10 (-e).toNat)

def readBits (s : List Char) : Option Nat :=
  let (whole, wholeCount, rest) := takeDigits 0 0 s
  let (n, count, rest) := match rest with
    | '.' :: rest => takeDigits whole wholeCount rest
    | _ => (whole, wholeCount, rest)
  let places : Int := (count : Int) - wholeCount
  if count = 0 then none
  else match rest with
    | [] => some (scaledBits n count (-places))
    | c :: tail =>
      if c = 'e' ∨ c = 'E' then (readExponent tail).map fun e => scaledBits n count (e - places)
      else none

/-- Reads a finite number. Texts that name no number, or one out of range, have none. -/
def ofText? (s : List Char) : Option Float :=
  let (negative, body) := Decimal.splitSign s
  (readBits body).bind fun bits =>
    if infinityBits ≤ bits then none else some (ofBits negative bits)

end Storefront.Binary64

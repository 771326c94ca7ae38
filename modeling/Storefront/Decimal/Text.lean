import Storefront.Decimal.Arithmetic

/-! # Decimals as text

Printing writes the sign, the whole part and every decimal of the scale. Reading accepts an optional
sign, digits, one point and underscores between digits; it also reads numbers with an exponent.
Decimals beyond the range round the last one that fits, half away from zero.
-/
namespace Storefront.Decimal

inductive ReadError
  | empty
  | noDigits
  | leadingSeparator
  | secondPoint
  | unknownCharacter
  | tooManyDigits
  | roundingOverflow
deriving DecidableEq, Repr

def ReadError.message : ReadError → String
  | .empty => "Invalid decimal: empty"
  | .noDigits => "Invalid decimal: no digits found"
  | .leadingSeparator => "Invalid decimal: must start lead with a number"
  | .secondPoint => "Invalid decimal: two decimal points"
  | .unknownCharacter => "Invalid decimal: unknown character"
  | .tooManyDigits => "Invalid decimal: overflow from too many digits"
  | .roundingOverflow => "Invalid decimal: overflow from mantissa after rounding"

def digit? (c : Char) : Option Nat :=
  if '0' ≤ c ∧ c ≤ '9' then some (c.toNat - '0'.toNat) else none

def ReadError.ofChar : Char → ReadError
  | '.' => .secondPoint
  | '_' => .leadingSeparator
  | _ => .unknownCharacter

/-- Lets the first digit that has no room decide about the last one kept. -/
def roundAt (n scale next : Nat) : Except ReadError (Nat × Nat) :=
  if next < 5 then .ok (n, scale)
  else if n + 1 < limit then .ok (n + 1, scale)
  else if scale = 0 then .error .roundingOverflow
  else .ok ((n + 5) / 10, scale - 1)

/-- Reads digits from the left into a coefficient and its scale. `point` says whether the point has
been seen, `seen` whether a digit has. What follows the digit that decides a rounding is not read, nor
what follows a point or an underscore that stands in its place. -/
def readDigits (point seen : Bool) (n scale : Nat) : List Char → Except ReadError (Nat × Nat)
  | [] => if seen then .ok (n, scale) else .error .noDigits
  | c :: rest =>
    match digit? c with
    | some d =>
      if point ∧ maxScale ≤ scale then roundAt n scale d
      else if n * 10 + d < limit then
        readDigits point true (n * 10 + d) (if point then scale + 1 else scale) rest
      else if point then roundAt n scale d
      else .error .tooManyDigits
    | none =>
      if c = '.' ∧ !point then readDigits true seen n scale rest
      else if (c = '.' ∨ c = '_') ∧ maxScale ≤ scale then .ok (n, scale)
      else if c = '_' ∧ seen then readDigits point seen n scale rest
      else .error (ReadError.ofChar c)

def splitSign : List Char → Bool × List Char
  | '-' :: rest => (true, rest)
  | '+' :: rest => (false, rest)
  | s => (false, s)

def read (s : List Char) : Except ReadError Decimal :=
  if s.isEmpty then .error .empty
  else do
    let (negative, body) := splitSign s
    let (n, scale) ← readDigits false false 0 0 body
    match ofParts? (signed negative n) scale with
    | some d => .ok d
    | none => .error .tooManyDigits

def digitsValue? : List Char → Option Nat
  | [] => none
  | s => s.foldlM (fun n c => (digit? c).map (n * 10 + ·)) 0

def readExponent (s : List Char) : Option (Bool × Nat) :=
  let (negative, body) := match s with
    | '-' :: rest => (true, rest)
    | _ => (false, s)
  let body := match body with
    | '+' :: rest => rest
    | _ => body
  (digitsValue? body).bind fun e => if e ≤ maxScale then some (negative, e) else none

/-- The decimal times ten to the `e`. A scale that is large enough gives way, otherwise the
coefficient grows and final zeros go. -/
def shiftUp (d : Decimal) (e : Nat) : Option Decimal :=
  if e ≤ d.scale then ofParts? d.coeff (d.scale - e)
  else (ofParts? (pow10 e) 0).bind fun power => (d.mul power).map normalize

def readScientific (s : List Char) : Option Decimal :=
  let isMark := fun c : Char => c == 'e' || c == 'E'
  match s.span (fun c => !isMark c) with
  | (_, []) => none
  | (base, _ :: tail) =>
    match read base, readExponent tail with
    | .ok d, some (true, e) => ofParts? d.coeff (d.scale + e)
    | .ok d, some (false, e) => d.shiftUp e
    | _, _ => none

def ofText? (s : List Char) : Option Decimal :=
  match read s with
  | .ok d => some d
  | .error _ => readScientific s

def padded (width n : Nat) : List Char :=
  let ds := Nat.toDigits 10 n
  List.replicate (width - ds.length) '0' ++ ds

def wholeText (d : Decimal) : List Char := Nat.toDigits 10 (d.coeff.natAbs / pow10 d.scale)

def fractionText (d : Decimal) : List Char :=
  if d.scale = 0 then [] else padded d.scale (d.coeff.natAbs % pow10 d.scale)

def signText (d : Decimal) : List Char := if d.isNegative then ['-'] else []

def toText (d : Decimal) : List Char :=
  d.signText ++ d.wholeText ++ (if d.scale = 0 then [] else '.' :: d.fractionText)

/-- Exactly `places` decimals: further ones are cut, missing ones are zeros. -/
def toFixed (d : Decimal) (places : Nat) : List Char :=
  d.signText ++ d.wholeText ++
    (if places = 0 then []
     else '.' :: ((d.fractionText ++ List.replicate (places - d.scale) '0').take places))

/-- How many characters a decimal with a fixed number of decimals may have, the sign not counted. -/
def fixedRoom : Nat := 32

def HasRoom (d : Decimal) (places : Nat) : Prop :=
  d.wholeText.length + (if places = 0 then 0 else places + 1) ≤ fixedRoom

instance (d : Decimal) (places : Nat) : Decidable (d.HasRoom places) := inferInstanceAs (Decidable (_ ≤ _))

def toFixed? (d : Decimal) (places : Nat) : Option (List Char) :=
  if d.HasRoom places then some (d.toFixed places) else none

protected def toString (d : Decimal) : String := String.ofList d.toText

instance : ToString Decimal := ⟨Decimal.toString⟩

end Storefront.Decimal

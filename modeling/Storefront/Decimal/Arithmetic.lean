import Storefront.Decimal.Basic

/-! # Arithmetic on decimals

A result is exact as long as its coefficient and scale are in range. Where they are not, the fewest
decimals needed are dropped and the last digit kept is rounded to nearest, ties to even. A result
that is out of range even without decimals has no value, and the operation gives `none`.
-/
namespace Storefront.Decimal

def roundDiv (n d : Nat) : Nat :=
  let q := n / d
  let r := n % d
  if d < 2 * r ∨ (2 * r = d ∧ q % 2 = 1) then q + 1 else q

def signed (negative : Bool) (n : Nat) : Int := if negative then -(n : Int) else n

/-- Drops `k` decimals of `n`, and one more at a time while the coefficient is too large.
`kept` counts the decimals that are left. -/
def fitFrom (n k : Nat) : (kept : Nat) → Option (Nat × Nat)
  | 0 => let m := roundDiv n (pow10 k); if m < limit then some (m, 0) else none
  | kept + 1 =>
    let m := roundDiv n (pow10 k)
    if m < limit then some (m, kept + 1) else fitFrom n (k + 1) kept

/-- The magnitude `n` at scale `s`, with as few decimals dropped as the ranges demand. -/
def fit (negative : Bool) (n s : Nat) : Option Decimal :=
  (fitFrom n (s - maxScale) (min s maxScale)).bind fun (m, kept) => ofParts? (signed negative m) kept

/-- The sum, at the larger of the two scales. A zero gives back the other operand as it is. -/
def add (a b : Decimal) : Option Decimal :=
  if a.isZero then some b
  else if b.isZero then some a
  else
    let s := max a.scale b.scale
    let sum := a.coeff * pow10 (s - a.scale) + b.coeff * pow10 (s - b.scale)
    fit (decide (sum < 0)) sum.natAbs s

def sub (a b : Decimal) : Option Decimal := a.add b.neg

/-- Two coefficients of 32 bits over more than this many decimals multiply to a plain zero. -/
def vanishingScale : Nat := 47

def mul (a b : Decimal) : Option Decimal :=
  if a.isZero || b.isZero then some zero
  else
    let s := a.scale + b.scale
    if a.coeff.natAbs < pow2 32 ∧ b.coeff.natAbs < pow2 32 ∧ vanishingScale < s then some zero
    else fit (a.isNegative != b.isNegative) (a.coeff.natAbs * b.coeff.natAbs) s

/-- The most digits, up to nine, by which `q` can grow and stay in range at a scale of `s`. -/
def growth (q : Nat) (s : Int) : Nat :=
  go 9
where
  go : Nat → Nat
    | 0 => 0
    | p + 1 => if q * pow10 (p + 1) < limit ∧ s + (p + 1) ≤ maxScale then p + 1 else go p

/-- A quotient in the making: digits found so far, what is left of the dividend, and the scale. -/
structure Quotient where
  digits : Nat
  rest : Nat
  scale : Int
deriving DecidableEq

def Quotient.shrink (q : Quotient) (divisor : Nat) : Option Quotient :=
  if q.scale ≤ 0 then none
  else some ⟨roundDiv (q.digits * divisor + q.rest) (10 * divisor), q.rest, q.scale - 1⟩

def Quotient.round (q : Quotient) (divisor : Nat) : Option Quotient :=
  let m := roundDiv (q.digits * divisor + q.rest) divisor
  if m < limit then some { q with digits := m }
  else Quotient.shrink { q with digits := m, rest := 0 } divisor

/-- Appends digits to the quotient until the division ends or no further digit has room. -/
def divideFrom (divisor : Nat) : (fuel : Nat) → Quotient → Option Quotient
  | 0, _ => none
  | fuel + 1, q =>
    if q.rest = 0 then
      if 0 ≤ q.scale then some q
      else
        let p := min 9 (-q.scale).toNat
        let m := q.digits * pow10 p
        if limit ≤ m then none else divideFrom divisor fuel ⟨m, 0, q.scale + p⟩
    else
      let p := growth q.digits q.scale
      if p = 0 then
        if q.scale < 0 then none else q.round divisor
      else
        let r := q.rest * pow10 p
        let next : Quotient := ⟨q.digits * pow10 p + r / divisor, r % divisor, q.scale + p⟩
        if limit ≤ next.digits then next.shrink divisor else divideFrom divisor fuel next

def stripOnce (k : Nat) (p : Nat × Nat) : Nat × Nat :=
  if p.1 % pow10 k = 0 ∧ k ≤ p.2 then (p.1 / pow10 k, p.2 - k) else p

def stripEights : (fuel : Nat) → Nat × Nat → Nat × Nat
  | 0, p => p
  | fuel + 1, p =>
    if p.1 % pow2 32 = 0 ∧ 8 ≤ p.2 ∧ p.1 % pow10 8 = 0 then
      stripEights fuel (p.1 / pow10 8, p.2 - 8)
    else p

/-- A division that has left a remainder on its way drops final zeros in blocks of 8, 4, 2 and 1. -/
def stripBlocks (p : Nat × Nat) : Nat × Nat :=
  stripOnce 1 (stripOnce 2 (stripOnce 4 (stripEights 4 p)))

/-- The quotient, to as many digits as fit. Division by zero has none. -/
def div (a b : Decimal) : Option Decimal :=
  if b.isZero then none
  else if a.isZero then some zero
  else
    let n := a.coeff.natAbs
    let d := b.coeff.natAbs
    let start : Quotient := ⟨n / d, n % d, (a.scale : Int) - b.scale⟩
    (divideFrom d 64 start).bind fun q =>
      let parts := (q.digits, q.scale.toNat)
      let parts := if start.rest = 0 then parts else stripBlocks parts
      ofParts? (signed (a.isNegative != b.isNegative) parts.1) parts.2

/-- Rounds to `places` decimals, ties to even. A smaller scale is left alone. -/
def round (d : Decimal) (places : Nat) : Decimal :=
  if d.scale ≤ places then d
  else (ofParts? (signed d.isNegative (roundDiv d.coeff.natAbs (pow10 (d.scale - places)))) places).getD d

def stripZeros : (scale : Nat) → Nat → Nat × Nat
  | 0, n => (n, 0)
  | s + 1, n => if n % 10 = 0 then stripZeros s (n / 10) else (n, s + 1)

def normalize (d : Decimal) : Decimal :=
  let (n, s) := stripZeros d.scale d.coeff.natAbs
  (ofParts? (signed d.isNegative n) s).getD d

end Storefront.Decimal

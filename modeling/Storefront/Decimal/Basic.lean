import Storefront.Power

/-! # Decimals of 96 bits

An amount is an integer coefficient over a power of ten. The coefficient stays below `2 ^ 96` in
absolute value and the power is at most 28. Two decimals of one value may differ in scale, and the
scale is kept because it is printed: `1.50` and `1.5` are different decimals that compare equal.
-/
namespace Storefront

/-- A coefficient over `10 ^ scale`. The sign is that of the coefficient, so zero has none. -/
@[ext] structure Decimal where
  coeff : Int
  scale : Nat
  coeff_lt : coeff.natAbs < pow2 96 := by decide
  scale_le : scale ≤ 28 := by decide
deriving DecidableEq

namespace Decimal

def limit : Nat := pow2 96

def maxScale : Nat := 28

def ofParts? (coeff : Int) (scale : Nat) : Option Decimal :=
  if h : coeff.natAbs < pow2 96 ∧ scale ≤ 28 then some ⟨coeff, scale, h.1, h.2⟩ else none

def ofUInt64 (n : UInt64) : Decimal :=
  ⟨n.toNat, 0, Nat.lt_trans n.toNat_lt (by decide), by decide⟩

def zero : Decimal := ⟨0, 0, by decide, by decide⟩
def one : Decimal := ⟨1, 0, by decide, by decide⟩
def two : Decimal := ⟨2, 0, by decide, by decide⟩

instance : Inhabited Decimal := ⟨zero⟩

def isZero (d : Decimal) : Bool := d.coeff == 0
def isPositive (d : Decimal) : Bool := decide (0 < d.coeff)
def isNegative (d : Decimal) : Bool := decide (d.coeff < 0)

def neg (d : Decimal) : Decimal :=
  ⟨-d.coeff, d.scale, by simpa using d.coeff_lt, d.scale_le⟩

/-- Order by value: both coefficients are brought over the product of the two denominators. -/
def compare (a b : Decimal) : Ordering :=
  Ord.compare (a.coeff * pow10 b.scale) (b.coeff * pow10 a.scale)

theorem ofParts?_eq_some {c : Int} {s : Nat} {d : Decimal} (h : ofParts? c s = some d) :
    d.coeff = c ∧ d.scale = s := by
  unfold ofParts? at h
  split at h
  · cases h
    exact ⟨rfl, rfl⟩
  · cases h

theorem ofParts?_self (d : Decimal) : ofParts? d.coeff d.scale = some d :=
  dif_pos ⟨d.coeff_lt, d.scale_le⟩

end Decimal
end Storefront

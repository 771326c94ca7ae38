import Storefront.Decimal.Arithmetic
import Storefront.Failure

/-! # Exchange rates and conversion

Rates say what one unit of a currency is worth in units of one main currency, so the rate between two
currencies is a quotient of two of them.
-/
namespace Storefront

/-- What currencies are worth, and the problem to report for one that is worth nothing known. -/
structure Exchange where
  worth : Currency → Option Decimal
  problem : RateProblem

namespace Exchange

def positive (e : Exchange) (c : Currency) : Attempt Decimal :=
  Attempt.ofOption (.rateUnavailable c e.problem) ((e.worth c).filter Decimal.isPositive)

/-- How many units of `alpha` make one of `beta`. -/
def rate (e : Exchange) (alpha beta : Currency) : Attempt Decimal := do
  let b ← e.positive beta
  let a ← e.positive alpha
  Attempt.ofOption (.overflow (.dividingRates beta alpha)) (b.div a)

end Exchange

structure RateTable where
  main : Currency
  rates : List (Currency × Decimal)

namespace RateTable

def ofMain (main : Currency) : RateTable := ⟨main, [(main, Decimal.one)]⟩

def set (t : RateTable) (c : Currency) (rate : Decimal) : RateTable :=
  { t with rates := (c, rate) :: t.rates.filter (·.1 != c) }

def exchange (t : RateTable) : Exchange := ⟨fun c => t.rates.lookup c, .notInTable⟩

end RateTable

namespace Money

def convert (m : Money) (target : Currency) (e : Exchange) : Attempt Money :=
  if m.currency = target then .ok m
  else do
    let rate ← e.rate target m.currency
    let amount ← Attempt.ofOption (.overflow (.converting m target)) (m.amount.mul rate)
    return ⟨amount, target⟩

/-- The order of two values, in the currency of the first. -/
def compare (a b : Money) (e : Exchange) : Attempt Ordering := do
  let b ← b.convert a.currency e
  return a.amount.compare b.amount

def sumFrom (currency : Currency) (e : Exchange) (sum : Decimal) : List Money → Attempt Decimal
  | [] => .ok sum
  | m :: rest => do
    let m ← m.convert currency e
    let sum ← Attempt.ofOption (.overflow .summing) (sum.add m.amount)
    sumFrom currency e sum rest

def share (sum : Decimal) (n : Nat) : Attempt Decimal :=
  Attempt.ofOption .outOfRange ((Decimal.ofParts? n 0).bind sum.div)

def average (list : List Money) (currency : Currency) (e : Exchange) : Attempt (Option Money) :=
  if list.isEmpty then .ok none
  else do
    let sum ← sumFrom currency e Decimal.zero list
    let amount ← share sum list.length
    return some ⟨amount, currency⟩

end Money
end Storefront

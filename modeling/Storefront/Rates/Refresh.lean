import Storefront.Job.Basic
import Storefront.Rates.Book

/-! # Refreshing rates

A rate that the book does not have, or has no longer, is asked of a source. If that fails, it may be
taken from the rate file, when someone who is asked allows it. Of several jobs that need one currency
only one refreshes it at a time, and only one question is asked at a time.
-/
namespace Storefront

inductive RateLock
  | refresh (c : Currency)
  | question
deriving DecidableEq

/-- Where rates come from, who is asked, and the time at an instant. -/
structure RateDesk (ρ : Type) where
  /-- What a unit of the first currency is worth in the second, the main one. -/
  source : Currency → Currency → Job RateLock ρ (Attempt Decimal)
  allows : String → Job RateLock ρ Bool
  clock : Nat → Timestamp

namespace RateDesk
variable {ρ : Type}

def onBook {α : Type} (d : RateDesk ρ) (f : Timestamp → RateBook → α × RateBook) :
    Job RateLock (RateBook × ρ) α :=
  (Job.act fun now b => f (d.clock now) b).onFirst

def question (c : Currency) (cause path : String) : String :=
  s!"Rate for {c} could not be downloaded ({cause}). Use the rate from {path}?"

def fallBack (d : RateDesk ρ) (c : Currency) (cause : String) : Job RateLock (RateBook × ρ) (Attempt Decimal) := do
  let path ← Job.view fun _ s => s.1.path
  let allowed ← Job.holding .question do
    let allowed ← (d.allows (question c cause path)).onSecond
    Job.rest
    return allowed
  if allowed then d.onBook fun now b => b.acceptFromFile now c
  else return .error (.rateUnavailable c (.denied cause))

def fetch (d : RateDesk ρ) (c : Currency) : Job RateLock (RateBook × ρ) (Attempt Decimal) := do
  let main ← Job.view fun _ s => s.1.main
  match ← (d.source c main).onSecond with
  | .ok rate =>
    if rate.isPositive then d.onBook fun now b => b.record now c rate
    else d.fallBack c s!"source returned non-positive rate {rate}"
  | .error f => d.fallBack c f.message

/-- The rate anew, unless another job has just refreshed it. -/
def refresh (d : RateDesk ρ) (c : Currency) : Job RateLock (RateBook × ρ) (Attempt Decimal) := do
  match ← d.onBook fun now b => b.claim now c with
  | some rate => return .ok rate
  | none => d.fetch c

def ensure (d : RateDesk ρ) (c : Currency) : Job RateLock (RateBook × ρ) (Attempt Decimal) := do
  match ← Job.view fun now s => s.1.fresh? (d.clock now) c with
  | some rate => return .ok rate
  | none => Job.holding (.refresh c) (d.refresh c)

/-- Rates for all of the currencies, one after the other, up to the first failure. -/
def ensureAll (d : RateDesk ρ) : List Currency → Job RateLock (RateBook × ρ) (Attempt Unit)
  | [] => return .ok ()
  | c :: rest => do
    match ← d.ensure c with
    | .ok _ => ensureAll d rest
    | .error f => return .error f

/-- How many units of `alpha` make one of `beta`, with rates that count. -/
def rate (d : RateDesk ρ) (alpha beta : Currency) : Job RateLock (RateBook × ρ) (Attempt Decimal) := do
  match ← d.ensure alpha with
  | .error f => return .error f
  | .ok a => match ← d.ensure beta with
    | .error f => return .error f
    | .ok b => return Attempt.ofOption (.overflow (.dividingRates beta alpha)) (b.div a)

end RateDesk
end Storefront

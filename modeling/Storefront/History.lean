import Storefront.Money.Exchange
import Storefront.Page.Basic
import Storefront.Time.Text

/-! # Price history

A snapshot is the state of an option at a moment. Over a series of them there are a mean that weighs
prices by the time they held, the latest and the lowest price, and the shift of a price from the mean.
-/
namespace Storefront

structure Snapshot where
  timestamp : Timestamp
  stock : Option String
  price : Money
deriving DecidableEq

namespace Snapshot

def ofVariant (v : Variant) (timestamp : Timestamp) : Snapshot := ⟨timestamp, v.stock, v.price⟩

def toJson (s : Snapshot) : Json :=
  .object [("timestamp", .string s.timestamp.zuluText), ("stock_status", Json.ofOption Json.string s.stock),
    ("price", s.price.toJson)]

def ofJson? (j : Json) : Option Snapshot :=
  match j.record? ["timestamp", "stock_status", "price"] with
  | some [some timestamp, stock, some price] => do
    let timestamp ← timestamp.string?.bind fun s => Timestamp.ofText? s.toList
    return ⟨timestamp, ← Json.optionalField? Json.string? stock, ← Money.ofJson? price⟩
  | _ => none

end Snapshot

namespace History

/-- The series in the order of time; snapshots of one moment keep their order. -/
def sorted (series : List Snapshot) : List Snapshot :=
  series.mergeSort fun a b => a.timestamp.notAfter b.timestamp

def decimal (n : Int) : Attempt Decimal := Attempt.ofOption .outOfRange (Decimal.ofParts? n 0)

/-- Half the milliseconds between two moments; next to nothing there are none. -/
def halfGap (a b : Option Timestamp) : Attempt Decimal :=
  match a, b with
  | some a, some b => do Attempt.ofOption .outOfRange ((← decimal (b.millisSince a)).div Decimal.two)
  | _, _ => .ok Decimal.zero

/-- Adds up the prices after `sum`. Each weighs half the gap to its predecessor, which stands at
`last`, and half the gap to its successor. -/
def weigh (currency : Currency) (e : Exchange) (last : Option Timestamp) (sum : Decimal) :
    List Snapshot → Attempt Decimal
  | [] => .ok sum
  | s :: rest => do
    let before ← halfGap last (some s.timestamp)
    let after ← halfGap (some s.timestamp) (rest.head?.map Snapshot.timestamp)
    let price ← s.price.convert currency e
    let weight ← Attempt.ofOption .outOfRange (before.add after)
    let sum ← Attempt.ofOption (.overflow .weighting) ((weight.mul price.amount).bind sum.add)
    weigh currency e (some s.timestamp) sum rest

def span (series : List Snapshot) : Int :=
  match series.head?, series.getLast? with
  | some a, some b => b.timestamp.millisSince a.timestamp
  | _, _ => 0

/-- The mean price, weighted by time. A single snapshot keeps its own currency, and a series of one
moment has its arithmetic mean. -/
def mean (series : List Snapshot) (currency : Currency) (e : Exchange) : Attempt (Option Money) :=
  match series with
  | [] => .ok none
  | [s] => .ok (some s.price)
  | _ =>
    let series := sorted series
    let total := span series
    if total = 0 then Money.average (series.map Snapshot.price) currency e
    else do
      let sum ← weigh currency e none Decimal.zero series
      let amount ← Attempt.ofOption .outOfRange (sum.div (← decimal total))
      return some ⟨amount, currency⟩

def latest (series : List Snapshot) : Option Snapshot :=
  series.foldl (fun best s => match best with
    | some b => if s.timestamp.before b.timestamp then some b else some s
    | none => some s) none

def lowestFrom (e : Exchange) (best : Snapshot) : List Snapshot → Attempt Snapshot
  | [] => .ok best
  | s :: rest => do
    let order ← s.price.compare best.price e
    lowestFrom e (if order = .lt then s else best) rest

/-- The snapshot with the lowest price; of several the first. -/
def lowest (series : List Snapshot) (e : Exchange) : Attempt (Option Snapshot) :=
  match series with
  | [] => .ok none
  | s :: rest => (lowestFrom e s rest).map some

end History

/-- How far `current` lies above or below `general`, to two decimals. There is no shift where a price
is missing or zero. -/
def priceShift (general current : Option Money) (e : Exchange) : Attempt (Option Decimal) :=
  match general, current with
  | some general, some current => do
    let today := current.amount
    let average := (← general.convert current.currency e).amount
    if today.isZero || average.isZero then return none
    let ratio ← Attempt.ofOption (.overflow (.comparing today average)) (today.div average)
    let shift ← Attempt.ofOption .outOfRange
      (if ratio.compare Decimal.one = .lt then (Decimal.one.sub ratio).map Decimal.neg
       else ratio.sub Decimal.one)
    return some (shift.round 2)
  | _, _ => .ok none

def hundred : Decimal := .ofUInt64 100

def renderShift : Option Decimal → Attempt String
  | none => .ok "no shift: a price is missing or zero"
  | some shift => do
    let percent := (← Attempt.ofOption .outOfRange (shift.mul hundred)).normalize
    return (if percent.isPositive then "+" else "") ++ toString percent ++ "%"

end Storefront

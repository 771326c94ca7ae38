import Storefront.Time.Calendar

/-! # Moments in time

A moment is a count of seconds since 1970 in coordinated universal time and of nanoseconds. A leap
second has no count of its own: it is the second before it with a billion nanoseconds more.
-/
namespace Storefront

structure Timestamp where
  seconds : Int
  nanos : Nat
deriving DecidableEq, Repr

namespace Timestamp

def perSecond : Nat := 1000000000
def perDay : Nat := 86400

def before (a b : Timestamp) : Bool :=
  decide (a.seconds < b.seconds) || (decide (a.seconds = b.seconds) && decide (a.nanos < b.nanos))

def notAfter (a b : Timestamp) : Bool := !b.before a

def secondOfDay (t : Timestamp) : Int := t.seconds % perDay

def isLeapSecond (t : Timestamp) : Bool := perSecond ≤ t.nanos

/-- The nanoseconds from `b` to `a`. Of a leap second between the two, only that at the end which is
earlier in its day counts. -/
def since (a b : Timestamp) : Int :=
  let adjust : Int :=
    if b.secondOfDay < a.secondOfDay then (if b.isLeapSecond then 1 else 0)
    else if a.secondOfDay < b.secondOfDay then (if a.isLeapSecond then -1 else 0)
    else 0
  (a.seconds - b.seconds + adjust) * perSecond + ((a.nanos : Int) - b.nanos)

def millisSince (a b : Timestamp) : Int := (a.since b).tdiv 1000000

def addSeconds (t : Timestamp) (n : Int) : Timestamp := { t with seconds := t.seconds + n }

def firstSecond : Int := -8334601228800
def lastSecond : Int := 8210266876799

/-- The moment some seconds later, unless the calendar ends before. -/
def later? (t : Timestamp) (n : Int) : Option Timestamp :=
  if firstSecond ≤ t.seconds + n ∧ t.seconds + n ≤ lastSecond then some (t.addSeconds n) else none

def ofDate (d : Date) (hour minute second : Nat) : Timestamp :=
  let second' := min second 59
  ⟨d.toDays * perDay + hour * 3600 + minute * 60 + second', if second = 60 then perSecond else 0⟩

def date (t : Timestamp) : Date := Date.ofDays (t.seconds / perDay)

end Timestamp
end Storefront

import Storefront.Fetch.Cache
import Storefront.Fetch.Transport
import Storefront.Job.Basic
import Storefront.Url.Reader

/-! # Downloads

A page is asked for until an answer settles the matter, so often at most, and with a delay before every
request. The delay of a site grows by a step with every failure and shrinks by a step with every success.
A download can be cancelled at any instant, and it may have a deadline. Of what happens at one instant,
the cancellation counts first, then the deadline, then the answer.
-/
namespace Storefront

structure RetryPolicy where
  attempts : Nat := 10
  /-- The step of the delay, in milliseconds. -/
  step : Nat := 200
  /-- How many milliseconds a download may take. -/
  budget : Option Nat := none
deriving DecidableEq

/-- What is fixed about a site: its domain, and how its pages are fetched. The clock tells the time at an
instant. -/
structure Fetcher (ν : Type) where
  domain : Url
  policy : RetryPolicy
  transport : Transport ν
  clock : Nat → Timestamp

structure Site (ν : Type) where
  /-- The delay before the next request, in milliseconds. -/
  delay : Nat
  refuses : Bool := false
  cache : PageCache
  net : ν

namespace Site
variable {ν : Type}

/-- Delays are counted in 64 bits. -/
def grow (step : Nat) (s : Site ν) : Site ν := { s with delay := (s.delay + step) % pow2 64 }

def shrink (step : Nat) (s : Site ν) : Site ν := { s with delay := s.delay - step }

end Site

def isBy (instant : Option Nat) (now : Nat) : Bool := instant.any (· ≤ now)

namespace Fetcher
variable {κ ν : Type}

def waitUntil (cancel : Option Nat) (wake : Nat) : Job κ (Site ν) (Attempt Unit) :=
  if isBy cancel wake then do
    Job.sleepUntil (cancel.getD wake)
    return .error .cancelled
  else do
    Job.sleepUntil wake
    return .ok ()

/-- Waits for what comes at an instant unless the deadline comes by then. -/
def waitWithin (cancel deadline : Option Nat) (url : String) (wake : Nat) :
    Job κ (Site ν) (Attempt Unit) :=
  match deadline with
  | some limit =>
    if limit ≤ wake then do
      match ← waitUntil cancel limit with
      | .ok () => return .error (.outOfTime url)
      | .error f => return .error f
    else waitUntil cancel wake
  | none => waitUntil cancel wake

def request (f : Fetcher ν) (cancel deadline : Option Nat) (url : String) :
    Job κ (Site ν) (Attempt Answer) := do
  let now ← Job.instant
  if isBy deadline now then return .error (.outOfTime url)
  let reply ← Job.act fun now s =>
    let (reply, net) := f.transport.send url now s.net
    (reply, { s with net })
  match ← waitWithin cancel deadline url (now + reply.wait) with
  | .ok () => return .ok reply.answer
  | .error e => return .error e

/-- One attempt: the delay, then a request. A delay beyond the deadline is not begun. -/
def attempt (f : Fetcher ν) (cancel deadline : Option Nat) (url : String) :
    Job κ (Site ν) (Attempt Answer) := do
  let wake ← Job.view fun now s => now + s.delay
  if deadline.any (· < wake) then return .error (.outOfTime url)
  match ← waitUntil cancel wake with
  | .ok () => f.request cancel deadline url
  | .error e => return .error e

/-- How many attempts a download has: one at least. -/
def limit (f : Fetcher ν) : Nat := max 1 f.policy.attempts

def downloadWith (f : Fetcher ν) (cancel deadline : Option Nat) (url : String) (more : Nat) :
    Job κ (Site ν) (Attempt String) := do
  match ← f.attempt cancel deadline url with
  | .error e => return .error e
  | .ok answer => match answer.verdict with
    | .missing => return .error (.notFound url)
    | .found body =>
      Job.modify (Site.shrink f.policy.step)
      return .ok body
    | .failed problem => match more with
      | 0 => return .error (.exhausted url f.limit problem)
      | more + 1 =>
        Job.modify (Site.grow f.policy.step)
        downloadWith f cancel deadline url more

def download (f : Fetcher ν) (cancel : Option Nat) (url : String) : Job κ (Site ν) (Attempt String) := do
  let now ← Job.instant
  f.downloadWith cancel (f.policy.budget.map (now + ·)) url (f.limit - 1)

/-- The full address: of the domain, of a path on it, or of what is an address already. -/
def resolve (f : Fetcher ν) : Option String → String
  | none => toString f.domain
  | some uri => match Url.ofString uri with
    | .ok url => toString url
    | .error _ => String.ofList (Text.joinSlash (toString f.domain).toList uri.toList)

def get (f : Fetcher ν) (cancel : Option Nat) (uri : Option String) : Job κ (Site ν) (Attempt String) := do
  let url := f.resolve uri
  let cached ← Job.act fun now s =>
    let (content, cache) := s.cache.get (f.clock now) url
    (content, { s with cache })
  if let some content := cached then return .ok content
  if ← Job.view fun _ s => s.refuses then return .error (.refused url)
  match ← f.download cancel url with
  | .error e => return .error e
  | .ok content =>
    Job.act fun now s => ((), { s with cache := s.cache.put (f.clock now) url content })
    return .ok content

end Fetcher
end Storefront

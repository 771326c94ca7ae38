import Storefront.Failure
import Storefront.Job.Pool
import Storefront.Page.Basic
import Storefront.Scan.Page

/-! # Batches of scans

A scan of a target comes to a page, to nothing when the page is gone, or to a failure. Every distinct target of a batch
is scanned, only so many at once. No failure ends the batch. Once it is cancelled, targets that have not begun are
cancelled too.
-/
namespace Storefront

structure ScanOutcome where
  plan : String
  uri : Option String
  result : Attempt (Option Page)

namespace ScanOutcome

def render (o : ScanOutcome) : String :=
  let target := s!"[{o.plan}] " ++ o.uri.getD "/"
  match o.result with
  | .ok (some page) => s!"{target}\n{page.render}"
  | .ok none => s!"{target}: page not found, skipped\n"
  | .error f => s!"{target}: {f.message}\n"

def failed (o : ScanOutcome) : Bool :=
  match o.result with
  | .ok _ => false
  | .error _ => true

def toJson (o : ScanOutcome) : Json :=
  let (page, failure) := match o.result with
    | .ok page => (Json.ofOption Page.toJson page, Json.null)
    | .error f => (Json.null, Json.string f.message)
  .object [("error", failure), ("page", page), ("plan", .string o.plan),
    ("uri", Json.ofOption Json.string o.uri)]

def notAfter (a b : ScanOutcome) : Bool :=
  if a.plan = b.plan then match a.uri, b.uri with
    | none, _ => true
    | some _, none => false
    | some x, some y => !decide (y < x)
  else decide (a.plan < b.plan)

end ScanOutcome

def renderOutcomes (outcomes : List ScanOutcome) : String := String.join (outcomes.map ScanOutcome.render)

def outcomesJson (outcomes : List ScanOutcome) : Json := .array (outcomes.map ScanOutcome.toJson)

structure ScanTarget where
  plan : PagePlan
  uri : Option String

namespace ScanTarget

/-- Targets of one plan name and one address count as one. -/
def key (t : ScanTarget) : String × Option String := (t.plan.name, t.uri)

def distinct : List ScanTarget → List ScanTarget
  | [] => []
  | t :: rest => t :: (distinct rest).filter (·.key != t.key)

end ScanTarget

namespace Scanner
variable {ν ρ : Type}

def scanTarget (s : Scanner ν ρ) (t : ScanTarget) : Job RateLock (ScanState ν ρ) ScanOutcome := do
  let now ← Job.instant
  if isBy s.cancel now then return ⟨t.plan.name, t.uri, .error .cancelled⟩
  return ⟨t.plan.name, t.uri, ← s.scanPage t.plan t.uri⟩

def limit (s : Scanner ν ρ) : Nat := max 1 s.settings.concurrency

/-- The pool in which a batch has been scanned. -/
def scanBatch (s : Scanner ν ρ) (targets : List ScanTarget) (now : Nat) (t : ScanState ν ρ) :
    Pool RateLock (ScanState ν ρ) ScanOutcome :=
  (Pool.start s.limit ((ScanTarget.distinct targets).map s.scanTarget) now t).run

end Scanner

/-- What the jobs of a pool have come to, in the order in which they were done. -/
def Pool.outcomes {κ σ α : Type} (p : Pool κ σ α) : List α := p.results.map Prod.snd

end Storefront

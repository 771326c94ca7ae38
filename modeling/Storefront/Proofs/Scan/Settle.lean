import Storefront.Proofs.Job.Part
import Storefront.Proofs.Plan.Faults
import Storefront.Proofs.Rates.Entry
import Storefront.Scan.Page

/-! # How scans end

A scan is the fetch of a page and then the rest, which is for the rates and for the reading. A failed fetch settles the
scan. After another one only rates and the reading can fail.
-/
namespace Storefront
open Attempt

namespace Scanner
variable {ν ρ : Type} (s : Scanner ν ρ) (p : PagePlan)

/-- What comes after the fetch of a page: the rates, then the reading. -/
def digest : Attempt String → Job RateLock (ScanState ν ρ) (Attempt Page)
  | .error f => return .error f
  | .ok markup => do
    let main ← Job.view fun _ t => t.book.main
    match ← onRates (s.desk.ensureAll (p.currencies ++ [main])) with
    | .error f => return .error f
    | .ok () => Job.view fun _ t => p.parse markup.toList main t.book.exchange

/-- A page that is gone is nothing, which is no failure. -/
def conclude : Attempt Page → Attempt (Option Page)
  | .ok page => .ok (some page)
  | .error (.notFound _) => .ok none
  | .error f => .error f

def settle (fetched : Attempt String) : Job RateLock (ScanState ν ρ) (Attempt (Option Page)) := do
  let page ← s.digest p fetched
  return conclude page

theorem scanPage_eq (uri : Option String) :
    s.scanPage p uri = s.onSite p ((s.fetcher p).get s.cancel uri) >>= s.settle p := by
  have hread : s.readPage p uri = s.onSite p ((s.fetcher p).get s.cancel uri) >>= s.digest p := by
    refine congrArg (s.onSite p ((s.fetcher p).get s.cancel uri) >>= ·) ?_
    funext fetched
    cases fetched with
    | error f => rfl
    | ok markup => rfl
  have hscan : s.scanPage p uri = s.readPage p uri >>= fun page => pure (conclude page) := by
    refine congrArg (s.readPage p uri >>= ·) ?_
    funext page
    cases page with
    | ok page => rfl
    | error f => cases f <;> rfl
  rw [hscan, hread, Job.seq_assoc]
  rfl

/-- How a scan may fail whose page has been fetched. -/
def ScanFault (f : Failure) : Prop := RateDesk.CallFault f ∨ ReadFault (fun _ => True) f

theorem failsWith_digest (markup : String) : (s.digest p (.ok markup)).FailsWith ScanFault := by
  refine .bind fun main => .bind_of fun ensured hensured => ?_
  cases ensured with
  | error f =>
    have hfault : RateDesk.CallFault f := s.desk.failsWith_ensureAll _ _ hensured.of_within f rfl
    exact Job.failsWith_error (.inl hfault)
  | ok _ => exact Job.failsWith_view fun now t f hf => .inr (PagePlan.parse_fails (fun _ _ _ => trivial) f hf)

/-- What may come of the rest of a scan, whatever other jobs do meanwhile. -/
theorem settle_cases {fetched : Attempt String} {a : Attempt (Option Page)} (h : (s.settle p fetched).Yields a) :
    (∃ f, fetched = .error f ∧ a = conclude (.error f)) ∨
      ∃ markup page, fetched = .ok markup ∧ FailsWith ScanFault page ∧ a = conclude page := by
  obtain ⟨page, hpage, ha⟩ := h.exists_of_bind
  obtain rfl : conclude page = a := ha
  cases fetched with
  | error f =>
    obtain rfl : .error f = page := hpage
    exact .inl ⟨f, rfl, rfl⟩
  | ok markup => exact .inr ⟨markup, page, rfl, s.failsWith_digest p markup page hpage, rfl⟩

end Scanner
end Storefront

import Storefront.Proofs.Fetch.Gone
import Storefront.Proofs.Scan.Batch
import Storefront.Proofs.Scan.Settle
import Storefront.Proofs.Scan.Site

/-! # Scans of pages that are gone

A rate may be looked for on a page that is gone, and then it is asked for elsewhere. So a scan says that its page is
gone only when the shop has said so of this very page.
-/
namespace Storefront
open Attempt

namespace Scanner
variable {ν ρ : Type} (s : Scanner ν ρ) (p : PagePlan)

def recorded : Scanner (ν × List Request) ρ where
  settings := s.settings
  transport := s.transport.recorded
  desk := s.desk
  cancel := s.cancel

theorem conclude_eq_none_iff {a : Attempt Page} : conclude a = .ok none ↔ IsGone a := by
  cases a with
  | ok page => simp [conclude, IsGone]
  | error f => cases f <;> simp [conclude, IsGone]

theorem isOther_of_scanFault {f : Failure} (h : ScanFault f) : f.IsOther := by
  rintro url rfl
  rcases h with (hfault | hrange) | hfault
  · cases hfault
  · cases hrange
  · cases hfault

/-- After its fetch a scan comes to nothing only when the page is gone, whatever the others do meanwhile. -/
theorem yields_settle {fetched : Attempt String} {a : Attempt (Option Page)} (h : (s.settle p fetched).Yields a) :
    a = .ok none ↔ IsGone fetched := by
  rcases s.settle_cases p h with ⟨f, rfl, rfl⟩ | ⟨markup, page, rfl, hfails, rfl⟩
  · rw [conclude_eq_none_iff]
    simp only [IsGone, Except.error.injEq]
  · rw [conclude_eq_none_iff]
    refine iff_of_false ?_ (not_isGone_ok markup)
    cases page with
    | ok page => exact not_isGone_ok page
    | error f => exact not_isGone_error (isOther_of_scanFault (hfails f rfl))

theorem run_onRates_net {α : Type} (job : Job RateLock (RateBook × ρ) α) (now : Nat) (t : ScanState ν ρ) :
    ((onRates job).run now t).state.net = t.net := by
  refine Job.run_within_frame ScanState.net (fun b u => ?_) job now t
  rfl

theorem run_settle_net (fetched : Attempt String) (now : Nat) (t : ScanState ν ρ) :
    ((s.settle p fetched).run now t).state.net = t.net := by
  rw [settle, Job.run_seq, Job.run_pure]
  cases fetched with
  | error f => rfl
  | ok markup =>
    rw [digest, Job.run_seq, Job.run_view, Job.run_seq]
    have hnet := run_onRates_net (s.desk.ensureAll (p.currencies ++ [t.book.main])) now t
    dsimp only
    generalize (onRates (s.desk.ensureAll (p.currencies ++ [t.book.main]))).run now t = rates at hnet ⊢
    cases rates.value with
    | error f => exact hnet
    | ok _ => exact hnet

/-- A scan comes to nothing just when the last of its requests for the page has been answered, in time, that there is
none. No rate can bring that about: after the fetch, whatever the others do meanwhile, a scan comes to nothing only if
the fetch has found the page gone. -/
theorem scanPage_gone_iff (s : Scanner ν ρ) (p : PagePlan) (uri : Option String) :
    (∀ (now : Nat) (t : ScanState (ν × List Request) ρ), let o := (s.recorded.scanPage p uri).run now t
      ∃ sent, o.state.net.2 = t.net.2 ++ sent ∧ (o.value = .ok none ↔
        Request.EndGone s.cancel (s.settings.policy.budget.map (now + ·)) ((s.fetcher p).resolve uri) sent)) ∧
    s.scanPage p uri = s.onSite p ((s.fetcher p).get s.cancel uri) >>= s.settle p ∧
    ∀ fetched a, (s.settle p fetched).Yields a → (a = .ok none ↔ IsGone fetched) := by
  refine ⟨fun now t => ?_, s.scanPage_eq p uri, fun _ _ => s.yields_settle p⟩
  rw [scanPage_eq, Job.run_seq]
  obtain ⟨hvalue, -, hsite⟩ := s.recorded.run_onSite_get p uri now t
  obtain ⟨sent, hsent, hgone⟩ := (s.fetcher p).get_settles (κ := RateLock) s.cancel uri now (s.recorded.site p t)
  generalize (s.recorded.onSite p ((s.recorded.fetcher p).get s.recorded.cancel uri)).run now t = fetched
    at hvalue hsite ⊢
  refine ⟨sent, ?_, ?_⟩
  · rw [run_settle_net]
    change (s.recorded.site p fetched.state).net.2 = t.net.2 ++ sent
    rw [hsite]
    exact hsent
  · rw [s.recorded.yields_settle p (Job.yields_run _ _ _), hvalue]
    exact hgone

def lastLamp : Transport Unit where
  send url _ _ :=
    (⟨if url = "https://a.test/lamp" then .page 200 "<title>Lamp</title><i>10</i>" else .page 404 "", 0⟩, ())

def importedLamps : PagePlan :=
  { lamps "a.test" with defaultOption := some { price := Rule.css "i", currency := .eur } }

def lastLampScanner : Scanner Unit (Site Unit) where
  settings := { dataDir := "data" }
  transport := lastLamp
  desk :=
    let clock := fun _ => ⟨1767225600, 0⟩
    let search := ⟨(lamps "rates.test").domain, { attempts := 1, step := 0 }, lastLamp, clock⟩
    { source := webRate search none, allows := fun _ => pure false, clock }

def beforeLamps : ScanState (Unit × List Request) (Site Unit) where
  folder := .absent
  net := ((), [])
  book := .ofMain .usd 43200 "rates.txt" .missing
  outside := { delay := 0, cache := { ttl := 60, folder := .absent }, net := () }

/-- The page of the rate is gone, and the lamp is not. -/
theorem scanPage_gone_iff_lastLamp :
    let rate := (lastLampScanner.desk.source .eur .usd).run 0 beforeLamps.outside
    let scan (uri : String) := (lastLampScanner.recorded.scanPage importedLamps (some uri)).run 0 beforeLamps
    IsGone rate.value ∧ (scan "lamp").value ≠ .ok none ∧ (scan "shade").value = .ok none := by
  intro rate scan
  have hrate : ∃ url, rate.value = .error (.notFound url) :=
    ⟨"https://rates.test/search?hl=en&gl=en&q=EUR+to+USD", by decide +kernel⟩
  obtain ⟨sent, hsent, hlamp⟩ := (lastLampScanner.scanPage_gone_iff importedLamps (some "lamp")).1 0 beforeLamps
  obtain ⟨sent', hsent', hshade⟩ := (lastLampScanner.scanPage_gone_iff importedLamps (some "shade")).1 0 beforeLamps
  obtain rfl : [⟨"https://a.test/lamp", 200, ⟨.page 200 "<title>Lamp</title><i>10</i>", 0⟩⟩] = sent := by
    refine Eq.trans ?_ hsent
    decide +kernel
  obtain rfl : [⟨"https://a.test/shade", 200, ⟨.page 404 "", 0⟩⟩] = sent' := by
    refine Eq.trans ?_ hsent'
    decide +kernel
  refine ⟨hrate, fun hnone => ?_, hshade.mpr ?_⟩
  · obtain ⟨-, hmissing, -⟩ := Request.endGone_singleton_iff.mp (hlamp.mp hnone)
    exact absurd hmissing (by decide)
  · exact Request.endGone_singleton_iff.mpr ⟨by decide +kernel, by decide, rfl, rfl⟩

end Scanner
end Storefront

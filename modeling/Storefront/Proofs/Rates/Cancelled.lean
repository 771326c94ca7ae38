import Storefront.Proofs.Fetch.Cancel
import Storefront.Proofs.Rates.Query
import Storefront.Proofs.Rates.Window
import Storefront.Proofs.Scan.Settle

/-! # Rates that are cancelled

Cancelling the download of a rate is taken for a failure of the source like any other. The question is put whether the
rate file may be used, with the cancellation as the reason, and the answer settles the call. So no call for a rate ends
as cancelled, and neither does the scan of a page, once the page has been fetched.
-/
namespace Storefront
open Attempt

theorem Fetcher.cut_webRate {κ ν : Type} {f : Fetcher ν} {k now : Nat} {s : Site ν} {c main : Currency}
    (hmissed : (s.cache.get (f.clock now) (f.rateUrl main c)).1 = none) (hopen : s.refuses = false)
    (hbudget : ∀ budget, f.policy.budget = some budget → s.delay ≤ budget) :
    Cut k now ((webRate f none c main : Job κ (Site ν) _).run now s)
      ((webRate f (some k) c main : Job κ (Site ν) _).run now s) := by
  refine (cut_get hmissed hopen hbudget).andThen (fun e => rfl) fun a later s' hlt => ?_
  cases a with
  | ok markup => exact cut_pure _ hlt
  | error e => exact cut_pure _ hlt

namespace RateDesk

/-- A desk that reads rates off the search pages of a site, and has someone to ask. -/
def onWeb {ν γ : Type} (f : Fetcher ν) (cancel : Option Nat) (gate : String → Job RateLock γ Bool) :
    RateDesk (Site ν × γ) where
  source c main := (webRate f cancel c main).onFirst
  allows question := (gate question).onSecond
  clock := f.clock

section
variable {ρ : Type} (d : RateDesk ρ) (now : Nat)

theorem ensure_fails (c : Currency) (b : RateBook) (r : ρ) :
    FailsWith CallFault ((d.ensure c).run now (b, r)).value :=
  d.failsWith_ensure c _ (Job.yields_run _ now (b, r))

end
end RateDesk

namespace Scanner
variable {ν ρ : Type} (s : Scanner ν ρ) (p : PagePlan) (uri : Option String) (now : Nat) (t : ScanState ν ρ)

/-- A scan ends as cancelled just when the fetch of its page does. -/
theorem scanPage_cancelled_iff : ((s.scanPage p uri).run now t).value = .error .cancelled ↔
    ((s.onSite p ((s.fetcher p).get s.cancel uri)).run now t).value = .error .cancelled := by
  rw [scanPage_eq, Job.run_seq]
  generalize (s.onSite p ((s.fetcher p).get s.cancel uri)).run now t = fetched
  rcases s.settle_cases p (Job.yields_run (s.settle p fetched.value) fetched.instant fetched.state) with
    ⟨f, hfetched, hvalue⟩ | ⟨markup, page, hfetched, hfails, hvalue⟩
  · rw [hvalue, hfetched]
    cases f <;> simp [conclude]
  · rw [hvalue, hfetched]
    refine iff_of_false ?_ ?_
    · intro hcancelled
      cases page with
      | ok page => cases hcancelled
      | error f =>
        obtain rfl : f = .cancelled := by
          cases f <;> simp [conclude] at hcancelled ⊢
        rcases hfails .cancelled rfl with (hfault | hrange) | hfault
        · cases hfault
        · cases hrange
        · cases hfault
    · intro hfound
      cases hfound

end Scanner

namespace RateDesk
variable {ν γ : Type}

theorem run_fallBack_onWeb (f : Fetcher ν) (cancel : Option Nat) (gate : String → Job RateLock γ Bool) (c : Currency)
    (cause : String) (now : Nat) (b : RateBook) (s : Site ν) (g : γ) :
    ((onWeb f cancel gate).fallBack c cause).run now (b, s, g) =
      let asked := (gate (question c cause b.path)).run now g
      let settled := if asked.value then b.acceptFromFile (f.clock asked.instant) c
        else (.error (.rateUnavailable c (.denied cause)), b)
      ⟨settled.1, asked.instant, settled.2, s, asked.state⟩ := by
  rw [run_fallBack]
  simp only [onWeb, Job.run_onSecond]
  split <;> rfl

theorem run_ensure_of_cancelled {f : Fetcher ν} {gate : String → Job RateLock γ Bool} {k now : Nat} {c : Currency}
    {b : RateBook} {s s' : Site ν} {g : γ} (hstale : b.fresh? (f.clock now) c = none)
    (hsource : (webRate f (some k) c b.main : Job RateLock (Site ν) _).run now s =
      ⟨.error .cancelled, max now k, s'⟩) :
    ((onWeb f (some k) gate).ensure c).run now (b, s, g) =
      ((onWeb f (some k) gate).fallBack c "Operation cancelled").run (max now k)
        ({ b with rates := b.rates.erase c }, s', g) := by
  have hasked : ((onWeb f (some k) gate).source c b.main).run now (s, g) =
      ⟨.error .cancelled, max now k, s', g⟩ := by
    rw [show (onWeb f (some k) gate).source c b.main = (webRate f (some k) c b.main).onFirst from rfl,
      Job.run_onFirst, hsource]
  rw [run_ensure_of_stale (d := onWeb f (some k) gate) hstale, run_fetch, hasked]
  rfl

/-- A call whose download is cancelled before the rate would have been there asks one question, and the answer to it
settles the call. It does not end as cancelled, and no scan does so for a rate. -/
theorem ensure_of_cancelled (f : Fetcher ν) (gate : String → Job RateLock γ Bool) (k : Nat) (c : Currency) (now : Nat)
    (b : RateBook) (s : Site ν) (g : γ) (hstale : b.fresh? (f.clock now) c = none)
    (hmissed : (s.cache.get (f.clock now) (f.rateUrl b.main c)).1 = none) (hopen : s.refuses = false)
    (hbudget : ∀ budget, f.policy.budget = some budget → s.delay ≤ budget)
    (hpending : k ≤ ((webRate f none c b.main : Job RateLock (Site ν) _).run now s).instant) :
    let o := ((onWeb f (some k) gate).ensure c).run now (b, s, g)
    let asked := (gate (question c "Operation cancelled" b.path)).run (max now k) g
    let erased : RateBook := { b with rates := b.rates.erase c }
    let settled := if asked.value then erased.acceptFromFile (f.clock asked.instant) c
      else (.error (.rateUnavailable c (.denied "Operation cancelled")), erased)
    (o.value, o.state.1) = settled ∧ o.instant = asked.instant ∧ o.state.2.2 = asked.state ∧
      o.value ≠ .error .cancelled ∧
      ∀ (scanner : Scanner ν (Site ν × γ)) (p : PagePlan) (uri : Option String) (begin : Nat)
        (t : ScanState ν (Site ν × γ)), ((scanner.scanPage p uri).run begin t).value = .error .cancelled ↔
          ((scanner.onSite p ((scanner.fetcher p).get scanner.cancel uri)).run begin t).value = .error .cancelled := by
  intro o asked erased settled
  have hnot : o.value ≠ .error .cancelled := by
    intro hcancelled
    rcases (onWeb f (some k) gate).ensure_fails now c b (s, g) .cancelled hcancelled with hfault | hrange
    · cases hfault
    · cases hrange
  obtain ⟨s', hsource⟩ := (Fetcher.cut_webRate hmissed hopen hbudget).cancelled hpending
  have hsettled : o = ⟨settled.1, asked.instant, settled.2, s', asked.state⟩ :=
    (run_ensure_of_cancelled hstale hsource).trans (run_fallBack_onWeb f (some k) gate c _ _ erased s' g)
  refine ⟨?_, ?_, ?_, hnot, fun scanner p uri begin t => scanner.scanPage_cancelled_iff p uri begin t⟩
  · rw [hsettled]
  · rw [hsettled]
  · rw [hsettled]

def slowSite : Fetcher Unit where
  domain := { scheme := "https".toList, authority := some { host := .name "rates.test".toList }, path := ['/'] }
  policy := { attempts := 1, step := 0 }
  transport := ⟨fun _ _ _ => (⟨.page 200 "<b>1.10</b> United States Dollar", 500⟩, ())⟩
  clock _ := ⟨1767225600, 0⟩

def obliging (question : String) : Job RateLock (List String) Bool := Job.act fun _ asked => (true, asked ++ [question])

def unasked : RateBook × Site Unit × List String :=
  (.ofMain .usd 43200 "rates.txt" (.text "EUR to USD 2.0000 (never)\n"),
    { delay := 0, cache := { ttl := 60, folder := .absent }, net := () }, [])

theorem ensure_of_cancelled_slow :
    300 ≤ ((webRate slowSite none .eur .usd : Job RateLock (Site Unit) _).run 0 unasked.2.1).instant ∧
      let o := ((onWeb slowSite (some 300) obliging).ensure .eur).run 0 unasked
      o.instant = 300 ∧ o.value ≠ .error .cancelled ∧ o.state.2.2.length = 1 := by
  have hpending : 300 ≤ ((webRate slowSite none .eur .usd : Job RateLock (Site Unit) _).run 0 unasked.2.1).instant := by
    decide +kernel
  obtain ⟨-, hinstant, hasked, hnot, -⟩ := ensure_of_cancelled slowSite obliging 300 .eur 0 unasked.1 unasked.2.1 []
    (by decide +kernel) (by decide +kernel) rfl (fun budget h => nomatch h) hpending
  refine ⟨hpending, hinstant, hnot, ?_⟩
  exact (congrArg List.length hasked).trans rfl

/-- The download is cancelled, and the rate is taken from the rate file. -/
theorem cancelled_euro_comes_from_file :
    300 < ((webRate slowSite none .eur .usd : Job RateLock (Site Unit) _).run 0 unasked.2.1).instant ∧
      let o := ((onWeb slowSite (some 300) obliging).ensure .eur).run 0 unasked
      o.value = .ok ⟨20000, 4, by decide, by decide⟩ ∧ o.state.2.2 =
        ["Rate for EUR could not be downloaded (Operation cancelled). Use the rate from rates.txt?"] := by
  decide +kernel

end RateDesk
end Storefront

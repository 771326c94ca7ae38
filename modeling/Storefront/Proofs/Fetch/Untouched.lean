import Storefront.Proofs.Fetch.Record
import Storefront.Proofs.Fetch.Tiers

/-! # What a visit in vain leaves

A visit that fails has looked for its page and has put nothing into the cache. What is gone from there afterwards was of
that page and did not count any more. A site that must not be asked is not asked, and the pages that it has kept are still
to be had.
-/
namespace Storefront

namespace Fetcher
open PageCache (boots)
variable {κ ν : Type}

/-- A visit that fails leaves the cache as it was, but for what was spent of its own page. At a site that must not be asked
no visit makes a request, and each page that counts is had as at any other site. -/
theorem get_untouched (f : Fetcher ν) (cancel : Option Nat) (uri : Option String) (now : Nat)
    (s : Site (ν × List Request)) :
    let visit : Job κ (Site (ν × List Request)) (Attempt String) := f.recorded.get cancel uri
    let url := f.resolve uri
    let o := visit.run now s
    (∀ failure, o.value = .error failure → s.cache.Swept (f.clock now) url o.state.cache) ∧
      (s.refuses = true → o.state.record = s.record ∧ o.state.refuses = true ∧
        ∀ content, (s.cache.inMemory? (f.clock now) url).or (s.cache.inFolder? (f.clock now) url) = some content →
          ∃ cache, o = ⟨.ok content, now, { s with cache }⟩ ∧
            visit.run now { s with refuses := false } = ⟨.ok content, now, { s with refuses := false, cache }⟩) := by
  intro visit url o
  refine ⟨fun failure hfailure => ?_, fun hrefuses => ?_⟩
  · have hends := f.get_ends (κ := κ) cancel uri now s
    change f.VisitEnds url now s o at hends
    generalize o = o at hends hfailure
    cases hends with
    | kept cached cache record => cases hfailure
    | failed missed cache record le =>
      dsimp only
      rw [cache]
      exact PageCache.get_swept missed
    | brought missed cache record mem brings le => cases hfailure
  · rw [← PageCache.get_fst]
    cases hcached : (s.cache.get (f.clock now) url).1 with
    | some kept =>
      have ho : o = _ := run_get_of_cached (f := f.recorded) hcached
      rw [ho]
      refine ⟨rfl, hrefuses, fun content hcontent => ?_⟩
      obtain rfl := Option.some.inj hcontent
      exact ⟨_, rfl, run_get_of_cached (f := f.recorded) (s := { s with refuses := false }) hcached⟩
    | none =>
      have ho : o = _ := run_get_of_refused (f := f.recorded) hcached hrefuses
      rw [ho]
      exact ⟨rfl, hrefuses, nofun⟩

def distant : Fetcher Unit where
  domain := { scheme := "https".toList, authority := some { host := .name "shop.test".toList }, path := ['/'] }
  policy := { attempts := 2 }
  transport := .offline
  clock _ := ⟨100, 0⟩

/-- An old front page with an empty file, and boots that have not been kept for long. -/
def shelf : Site (Unit × List Request) where
  delay := 200
  cache :=
    { ttl := 60
      memory := ⟨[("https://shop.test/", ⟨⟨10, 0⟩, "welcome"⟩), (boots, ⟨⟨90, 0⟩, "boots"⟩)]⟩
      folder := .files ⟨[(PageCache.fileName "https://shop.test/", ⟨⟨95, 0⟩, "".toUTF8⟩)]⟩ }
  net := ((), [])

theorem get_untouched_shelf :
    let front : Job Unit (Site (Unit × List Request)) (Attempt String) := distant.recorded.get none none
    let visit : Job Unit (Site (Unit × List Request)) (Attempt String) := distant.recorded.get none (some boots)
    let closed : Site (Unit × List Request) := { shelf with refuses := true }
    (front.run 0 shelf).value = .error (.exhausted "https://shop.test/" 2 (.request "no network")) ∧
    (front.run 0 shelf).state.cache.memory.get? boots = some ⟨⟨90, 0⟩, "boots"⟩ ∧
      (visit.run 0 closed).value = .ok "boots" ∧ (visit.run 0 closed).state.record = [] := by
  intro front visit closed
  have hfailure : (front.run 0 shelf).value = .error (.exhausted "https://shop.test/" 2 (.request "no network")) := by
    decide +kernel
  have hknown : shelf.cache.memory.get? boots = some ⟨⟨90, 0⟩, "boots"⟩ := by decide +kernel
  have hurl : boots ≠ distant.resolve none := by decide +kernel
  have hcounts : (closed.cache.inMemory? (distant.clock 0) (distant.resolve (some boots))).or
      (closed.cache.inFolder? (distant.clock 0) (distant.resolve (some boots))) = some "boots" := by decide +kernel
  obtain ⟨hswept, -⟩ := distant.get_untouched (κ := Unit) none none 0 shelf
  obtain ⟨-, hrefuses⟩ := distant.get_untouched (κ := Unit) none (some boots) 0 closed
  obtain ⟨hrecord, -, hkept⟩ := hrefuses rfl
  obtain ⟨cache, hvisit, -⟩ := hkept "boots" hcounts
  exact ⟨hfailure, ((hswept _ hfailure).memory boots _).mpr ⟨hknown, fun hlost => hurl hlost.1⟩,
    congrArg Job.Outcome.value hvisit, hrecord⟩

end Fetcher
end Storefront

import Storefront.Proofs.Fetch.Cache
import Storefront.Proofs.Job.Part
import Storefront.Scan.Page

/-! # What scans do at a site

A visit of a page leaves the lifetime of the site's pages as it is. So it is made in the state of a scan as it would
be made at the site by itself.
-/
namespace Storefront
open Job

namespace Fetcher
variable {κ ν : Type} (f : Fetcher ν) (cancel deadline : Option Nat) (url : String) (lifetime : Nat)

def Lasts (lifetime : Nat) (s : Site ν) : Prop := s.cache.ttl = lifetime

theorem lasts_waitUntil (wake : Nat) : (waitUntil cancel wake : Job κ (Site ν) _).Preserves (Lasts lifetime) := by
  unfold waitUntil
  split
  · exact (preserves_sleepUntil _).bind fun _ => preserves_pure _
  · exact (preserves_sleepUntil _).bind fun _ => preserves_pure _

theorem lasts_waitWithin (wake : Nat) :
    (waitWithin cancel deadline url wake : Job κ (Site ν) _).Preserves (Lasts lifetime) := by
  unfold waitWithin
  split
  · split
    · refine (lasts_waitUntil cancel lifetime _).bind fun waited => ?_
      cases waited <;> exact preserves_pure _
    · exact lasts_waitUntil cancel lifetime wake
  · exact lasts_waitUntil cancel lifetime wake

theorem lasts_request : (f.request cancel deadline url : Job κ (Site ν) _).Preserves (Lasts lifetime) := by
  refine (preserves_view _).bind fun now => ?_
  dsimp only
  split
  · exact preserves_pure _
  · refine (preserves_act fun _ _ hs => hs).bind fun reply => ?_
    refine (lasts_waitWithin cancel deadline url lifetime _).bind fun waited => ?_
    cases waited <;> exact preserves_pure _

theorem lasts_attempt : (f.attempt cancel deadline url : Job κ (Site ν) _).Preserves (Lasts lifetime) := by
  refine (preserves_view _).bind fun wake => ?_
  split
  · exact preserves_pure _
  · refine (lasts_waitUntil cancel lifetime wake).bind fun waited => ?_
    cases waited with
    | error e => exact preserves_pure _
    | ok _ => exact f.lasts_request cancel deadline url lifetime

theorem lasts_downloadWith (more : Nat) :
    (f.downloadWith cancel deadline url more : Job κ (Site ν) _).Preserves (Lasts lifetime) := by
  induction more using Nat.strongRecOn with
  | ind more ih =>
    rw [downloadWith.eq_def]
    refine (f.lasts_attempt cancel deadline url lifetime).bind fun answered => ?_
    cases answered with
    | error e => exact preserves_pure _
    | ok answer =>
      dsimp only
      cases answer.verdict with
      | missing => exact preserves_pure _
      | found body => exact (preserves_act fun _ _ hs => hs).bind fun _ => preserves_pure _
      | failed problem =>
        cases more with
        | zero => exact preserves_pure _
        | succ more => exact (preserves_act fun _ _ hs => hs).bind fun _ => ih more (Nat.lt_succ_self more)

theorem lasts_get (uri : Option String) : (f.get cancel uri : Job κ (Site ν) _).Preserves (Lasts lifetime) := by
  refine (preserves_act fun now s hs => (s.cache.get_ttl _ _).trans hs).bind fun cached => ?_
  cases cached with
  | some content => exact preserves_pure _
  | none =>
    refine (preserves_view _).bind fun refuses => ?_
    split
    · exact preserves_pure _
    · refine Preserves.bind ?_ fun content => ?_
      · exact (preserves_view _).bind fun now => f.lasts_downloadWith cancel _ _ lifetime _
      · cases content with
        | error e => exact preserves_pure _
        | ok content => exact (preserves_act fun _ _ hs => hs).bind fun _ => preserves_pure _

end Fetcher

namespace Scanner
variable {ν ρ : Type} (s : Scanner ν ρ) (p : PagePlan)

theorem site_putSite {x : Site ν} (h : Fetcher.Lasts s.settings.cacheTtl x) (t : ScanState ν ρ) :
    s.site p (putSite p x t) = x := by
  obtain ⟨delay, refuses, ⟨ttl, pages, folder⟩, net⟩ := x
  obtain rfl : ttl = s.settings.cacheTtl := h
  have hmemory : s.memory p (putSite p ⟨delay, refuses, ⟨s.settings.cacheTtl, pages, folder⟩, net⟩ t) =
      ⟨delay, refuses, pages⟩ := by
    rw [memory, putSite, Table.get?_insert]
    simp
  rw [site, hmemory]
  rfl

/-- A visit of a page in a scan comes to what it comes to at the site. -/
theorem run_onSite_get (uri : Option String) (now : Nat) (t : ScanState ν ρ) :
    let o := ((s.fetcher p).get s.cancel uri : Job RateLock (Site ν) _).run now (s.site p t)
    let r := (s.onSite p ((s.fetcher p).get s.cancel uri)).run now t
    r.value = o.value ∧ r.instant = o.instant ∧ s.site p r.state = o.state :=
  run_within_of_preserves (fun _ t hx => s.site_putSite p hx t)
    ((s.fetcher p).lasts_get s.cancel s.settings.cacheTtl uri) now (t := t) rfl

end Scanner
end Storefront

import Storefront.Proofs.Job.Climbs
import Storefront.Rates.Source
import Storefront.Scan.Batch

/-! # Locks that scans take

A scan takes the lock of a currency to refresh its rate, and above it that of questions. Downloads take none, and the
sources of rates should not either.
-/
namespace Storefront

/-- Questions are asked while a rate is refreshed. -/
def RateLock.rank : RateLock → Nat
  | .refresh _ => 0
  | .question => 1

theorem RateLock.rank_le (key : RateLock) : key.rank ≤ 1 := by
  cases key <;> simp [rank]

namespace Fetcher
variable {κ ν : Type} (f : Fetcher ν) (cancel deadline : Option Nat) (url : String)
open Job

theorem lockless_waitUntil (wake : Nat) : (waitUntil cancel wake : Job κ (Site ν) (Attempt Unit)).Lockless := by
  unfold waitUntil
  split
  · exact (lockless_sleepUntil _).bind fun _ => lockless_pure _
  · exact (lockless_sleepUntil _).bind fun _ => lockless_pure _

theorem lockless_waitWithin (wake : Nat) :
    (waitWithin cancel deadline url wake : Job κ (Site ν) (Attempt Unit)).Lockless := by
  unfold waitWithin
  split
  · split
    · refine (lockless_waitUntil _ _).bind fun waited => ?_
      cases waited <;> exact lockless_pure _
    · exact lockless_waitUntil _ _
  · exact lockless_waitUntil _ _

theorem lockless_request : (f.request cancel deadline url : Job κ (Site ν) (Attempt Answer)).Lockless := by
  refine lockless_instant.bind fun now => ?_
  dsimp only
  split
  · exact lockless_pure _
  · refine (lockless_act _).bind fun reply => (lockless_waitWithin _ _ _ _).bind fun waited => ?_
    cases waited <;> exact lockless_pure _

theorem lockless_attempt : (f.attempt cancel deadline url : Job κ (Site ν) (Attempt Answer)).Lockless := by
  refine (lockless_view _).bind fun wake => ?_
  split
  · exact lockless_pure _
  · refine (lockless_waitUntil _ _).bind fun waited => ?_
    cases waited with
    | error e => exact lockless_pure _
    | ok _ => exact f.lockless_request cancel deadline url

theorem lockless_downloadWith (more : Nat) :
    (f.downloadWith cancel deadline url more : Job κ (Site ν) (Attempt String)).Lockless := by
  induction more with
  | zero =>
    rw [downloadWith]
    refine (f.lockless_attempt cancel deadline url).bind fun answered => ?_
    cases answered with
    | error e => exact lockless_pure _
    | ok answer =>
      dsimp only
      split
      · exact lockless_pure _
      · exact (lockless_act _).bind fun _ => lockless_pure _
      · exact lockless_pure _
  | succ more ih =>
    rw [downloadWith]
    refine (f.lockless_attempt cancel deadline url).bind fun answered => ?_
    cases answered with
    | error e => exact lockless_pure _
    | ok answer =>
      dsimp only
      split
      · exact lockless_pure _
      · exact (lockless_act _).bind fun _ => lockless_pure _
      · exact (lockless_act _).bind fun _ => ih

theorem lockless_download : (f.download cancel url : Job κ (Site ν) (Attempt String)).Lockless :=
  lockless_instant.bind fun _ => f.lockless_downloadWith _ _ _ _

theorem lockless_get (uri : Option String) : (f.get cancel uri : Job κ (Site ν) (Attempt String)).Lockless := by
  refine (lockless_act _).bind fun cached => ?_
  cases cached with
  | some content => exact lockless_pure _
  | none =>
    refine (lockless_view _).bind fun refuses => ?_
    split
    · exact lockless_pure _
    · refine (f.lockless_download _ _).bind fun content => ?_
      cases content with
      | error e => exact lockless_pure _
      | ok content => exact (lockless_act _).bind fun _ => lockless_pure _

end Fetcher

theorem lockless_webRate {κ ν : Type} (f : Fetcher ν) (cancel : Option Nat) (c main : Currency) :
    (webRate f cancel c main : Job κ (Site ν) (Attempt Decimal)).Lockless := by
  refine (f.lockless_get cancel _).bind fun answer => ?_
  cases answer with
  | error e => exact Job.lockless_pure _
  | ok markup => exact Job.lockless_pure _

namespace RateDesk
variable {ρ : Type} {d : RateDesk ρ} {held : Set RateLock}

theorem climbs_onBook {α : Type} (f : Timestamp → RateBook → α × RateBook) :
    (d.onBook f).Climbs RateLock.rank held held :=
  ((Job.lockless_act _).climbs _ _).within

theorem climbs_view {α : Type} (f : Nat → RateBook × ρ → α) :
    (Job.view f : Job RateLock (RateBook × ρ) α).Climbs RateLock.rank held held :=
  (Job.lockless_view f).climbs _ _

theorem climbs_pure {σ α : Type} (a : α) : (pure a : Job RateLock σ α).Climbs RateLock.rank held held := rfl

section
variable (hallows : ∀ question, (d.allows question).Lockless)
include hallows

theorem climbs_fallBack (hheld : ∀ k ∈ held, k.rank < 1) (c : Currency) (cause : String) :
    (d.fallBack c cause).Climbs RateLock.rank held held := by
  refine (climbs_view _).bind fun path => ?_
  refine (Job.climbs_holding hheld ?_).bind fun allowed => ?_
  · refine (((hallows _).climbs _ _).within).bind fun allowed => ?_
    exact (Job.lockless_rest.climbs _ _).bind fun _ => climbs_pure allowed
  · split
    · exact climbs_onBook _
    · exact climbs_pure _

variable (hsource : ∀ c main, (d.source c main).Lockless)
include hsource

theorem climbs_fetch (hheld : ∀ k ∈ held, k.rank < 1) (c : Currency) :
    (d.fetch c).Climbs RateLock.rank held held := by
  refine (climbs_view _).bind fun main => ?_
  refine (((hsource c main).climbs _ _).within).bind fun answer => ?_
  cases answer with
  | error f => exact climbs_fallBack hallows hheld c _
  | ok rate =>
    dsimp only
    split
    · exact climbs_onBook _
    · exact climbs_fallBack hallows hheld c _

theorem climbs_ensure (c : Currency) : (d.ensure c).Climbs RateLock.rank ∅ ∅ := by
  refine (climbs_view _).bind fun counts => ?_
  cases counts with
  | some rate => exact climbs_pure _
  | none =>
    refine Job.climbs_holding (by simp) ((climbs_onBook _).bind fun claimed => ?_)
    cases claimed with
    | some rate => exact climbs_pure _
    | none => exact climbs_fetch hallows hsource (by simp [RateLock.rank]) c

theorem climbs_ensureAll (list : List Currency) : (d.ensureAll list).Climbs RateLock.rank ∅ ∅ := by
  induction list with
  | nil => exact climbs_pure _
  | cons c rest ih =>
    refine (climbs_ensure hallows hsource c).bind fun answer => ?_
    cases answer with
    | error f => exact climbs_pure _
    | ok rate => exact ih

end
end RateDesk

namespace Scanner
variable {ν ρ : Type} {s : Scanner ν ρ} (hallows : ∀ question, (s.desk.allows question).Lockless)
  (hsource : ∀ c main, (s.desk.source c main).Lockless)
include hallows hsource

theorem climbs_readPage (p : PagePlan) (uri : Option String) : (s.readPage p uri).Climbs RateLock.rank ∅ ∅ := by
  refine ((((s.fetcher p).lockless_get s.cancel uri).climbs _ _).within).bind fun fetched => ?_
  cases fetched with
  | error f => exact RateDesk.climbs_pure _
  | ok markup =>
    refine ((Job.lockless_view _).climbs _ _).bind fun main => ?_
    refine ((RateDesk.climbs_ensureAll hallows hsource _).within).bind fun ensured => ?_
    cases ensured with
    | error f => exact RateDesk.climbs_pure _
    | ok _ => exact (Job.lockless_view _).climbs _ _

theorem climbs_scanTarget (t : ScanTarget) : (s.scanTarget t).Climbs RateLock.rank ∅ ∅ := by
  refine (Job.lockless_instant.climbs _ _).bind fun now => ?_
  split
  · exact RateDesk.climbs_pure _
  · refine Job.Climbs.bind ((climbs_readPage hallows hsource t.plan t.uri).bind fun read => ?_) fun result =>
      RateDesk.climbs_pure _
    split <;> exact RateDesk.climbs_pure _

end Scanner
end Storefront

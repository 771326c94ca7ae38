import Storefront.Plan.Extract
import Storefront.Rates.Refresh
import Storefront.Settings.Basic

/-! # Scans of pages

A page is fetched, rates for the currencies that its plan may quote are seen to, and then the page is
read. Plans of one domain share its delay, its pages in memory and its refusal; all domains share the
folder for pages and the book of rates.
-/
namespace Storefront

structure SiteMemory where
  delay : Nat
  refuses : Bool := false
  pages : Table String CachedPage := {}

structure ScanState (ν ρ : Type) where
  sites : Table String SiteMemory := {}
  folder : PageFolder
  net : ν
  book : RateBook
  outside : ρ

structure Scanner (ν ρ : Type) where
  settings : Settings
  transport : Transport ν
  desk : RateDesk ρ
  cancel : Option Nat := none

namespace Scanner
variable {ν ρ α : Type}

def fetcher (s : Scanner ν ρ) (p : PagePlan) : Fetcher ν :=
  ⟨p.domain, s.settings.policy, s.transport, s.desk.clock⟩

/-- What is remembered of a plan's domain; a domain that has not been visited yet starts with one step. -/
def memory (s : Scanner ν ρ) (p : PagePlan) (t : ScanState ν ρ) : SiteMemory :=
  (t.sites.get? (toString p.domain)).getD { delay := s.settings.delayStep }

def site (s : Scanner ν ρ) (p : PagePlan) (t : ScanState ν ρ) : Site ν :=
  let m := s.memory p t
  { delay := m.delay, refuses := m.refuses, net := t.net
    cache := { ttl := s.settings.cacheTtl, memory := m.pages, folder := t.folder } }

def putSite (p : PagePlan) (site : Site ν) (t : ScanState ν ρ) : ScanState ν ρ :=
  { t with
    sites := t.sites.insert (toString p.domain) ⟨site.delay, site.refuses, site.cache.memory⟩
    folder := site.cache.folder, net := site.net }

def refuse (s : Scanner ν ρ) (p : PagePlan) (refuses : Bool) (t : ScanState ν ρ) : ScanState ν ρ :=
  putSite p { s.site p t with refuses } t

def onSite (s : Scanner ν ρ) (p : PagePlan) (job : Job RateLock (Site ν) α) :
    Job RateLock (ScanState ν ρ) α :=
  job.within (s.site p) (putSite p)

def onRates (job : Job RateLock (RateBook × ρ) α) : Job RateLock (ScanState ν ρ) α :=
  job.within (fun t => (t.book, t.outside)) fun b t => { t with book := b.1, outside := b.2 }

def readPage (s : Scanner ν ρ) (p : PagePlan) (uri : Option String) :
    Job RateLock (ScanState ν ρ) (Attempt Page) := do
  match ← s.onSite p ((s.fetcher p).get s.cancel uri) with
  | .error f => return .error f
  | .ok markup =>
    let main ← Job.view fun _ t => t.book.main
    match ← onRates (s.desk.ensureAll (p.currencies ++ [main])) with
    | .error f => return .error f
    | .ok () => Job.view fun _ t => p.parse markup.toList main t.book.exchange

/-- The page at an address, or nothing when it is gone. -/
def scanPage (s : Scanner ν ρ) (p : PagePlan) (uri : Option String) :
    Job RateLock (ScanState ν ρ) (Attempt (Option Page)) := do
  match ← s.readPage p uri with
  | .ok page => return .ok (some page)
  | .error (.notFound _) => return .ok none
  | .error f => return .error f

end Scanner
end Storefront

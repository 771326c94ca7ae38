import Storefront.Proofs.Fetch.Cache
import Storefront.Proofs.Fetch.Record
import Storefront.Proofs.Rates.Ensure
import Storefront.Proofs.Rates.Query

/-! # How old a rate may be

A rate that counts has been read off a search page. It counts for a time from when it was read, but the page
may have lain in the cache by then for as long as pages are kept. So a rate may be as old as both times
together. Where pages are kept no longer than rates count, a page lends itself to one reading only, and no
rate is older than rates count.
-/
namespace Storefront

structure ClockRuns (clock : Nat → Timestamp) : Prop where
  forward : ∀ i j, i ≤ j → (clock i).notAfter (clock j) = true
  known : ∀ i, Timestamp.firstSecond ≤ (clock i).seconds

namespace RateDesk

/-- A desk that reads rates off the search pages of a site, and takes none from its file. -/
def ofWeb {ν : Type} (f : Fetcher ν) (cancel : Option Nat) : RateDesk (Site (ν × List Request)) where
  source := webRate f.recorded cancel
  allows _ := pure false
  clock := f.clock

section
variable {ν : Type} (f : Fetcher ν) (main : Currency) (ttl : Int) (pageTtl : Nat)

/-- Whether a request has brought the search page which gives this rate. -/
def Quotes (r : Request) (c : Currency) (rate : Decimal) : Prop :=
  ∃ body, r.Brings (f.rateUrl main c) body ∧ RatePage.read c main body = .ok rate

/-- Whether a rate has been read off a page downloaded less than so many seconds ago. -/
def Within (record : List Request) (c : Currency) (rate : Decimal) (now : Nat) (seconds : Int) : Prop :=
  ∃ r ∈ record, Quotes f main r c rate ∧ r.arrival ≤ now ∧
    (f.clock now).before ((f.clock r.arrival).addSeconds seconds) = true

/-- Whether an entry comes from a page in the record, and counts for no longer than it may. -/
def Traced (record : List Request) (now : Nat) (c : Currency) (e : DatedRate) : Prop :=
  ∃ r ∈ record, Quotes f main r c e.value ∧ r.arrival ≤ now ∧ ∃ expires, e.expires = some expires ∧
    expires.notAfter ((f.clock r.arrival).addSeconds (ttl + pageTtl)) = true ∧
    (pageTtl ≤ ttl → expires = (f.clock r.arrival).addSeconds ttl)

/-- Whether the rate on a page that is still kept has been entered when the page was new, if it could be. -/
def Booked (now : Nat) (b : RateBook) (cache : PageCache) (c : Currency) : Prop :=
  ∀ page rate, cache.memory.get? (f.rateUrl main c) = some page →
    PageCache.isFresh pageTtl page.written (f.clock now) = true → RatePage.read c main page.content = .ok rate →
      (∃ e, b.entry? c = some e ∧ e.expires = some (page.written.addSeconds ttl)) ∨ page.written.later? ttl = none

/-- What holds between the book, the cache and the record, while one currency perhaps is being refreshed. -/
structure Backed (awaited : Option Currency) (now : Nat) (b : RateBook) (s : Site (ν × List Request)) : Prop where
  main_eq : b.main = main
  ttl_eq : b.ttl = ttl
  pageTtl_eq : s.cache.ttl = pageTtl
  inMemory : s.cache.folder = .absent
  page : ∀ url page, s.cache.memory.get? url = some page →
    ∃ r ∈ s.record, r.Brings url page.content ∧ r.arrival ≤ now ∧ page.written = f.clock r.arrival
  rate : ∀ c ≠ main, ∀ e, b.entry? c = some e → Traced f main ttl pageTtl s.record now c e
  booked : pageTtl ≤ ttl → ∀ c ≠ main, awaited ≠ some c → Booked f main ttl pageTtl now b s.cache c

/-- Whether a rate that a visit of its search page has given comes from this request, as far as this can be told
from the cache afterwards. -/
structure Origin (c : Currency) (rate : Decimal) (o : Job.Outcome (Site (ν × List Request)) (Attempt String))
    (r : Request) : Prop where
  mem : r ∈ o.state.record
  quotes : Quotes f main r c rate
  le : r.arrival ≤ o.instant
  kept : (f.clock o.instant).notAfter ((f.clock r.arrival).addSeconds pageTtl) = true
  written : ∀ page, o.state.cache.memory.get? (f.rateUrl main c) = some page → page.written = f.clock r.arrival
  new : pageTtl ≤ ttl → r.arrival = o.instant ∨
    (f.clock r.arrival).later? ttl = none ∧ (f.clock o.instant).later? ttl = none

end

section
variable {ν : Type} {f : Fetcher ν} {main : Currency} {ttl : Int} {pageTtl : Nat} {awaited : Option Currency}
  {now now' : Nat} {b b' : RateBook} {s s' : Site (ν × List Request)} {c : Currency}

theorem Traced.mono {record record' : List Request} {e : DatedRate} (h : Traced f main ttl pageTtl record now c e)
    (hrecord : record <+: record') (hlater : now ≤ now') : Traced f main ttl pageTtl record' now' c e := by
  obtain ⟨r, hr, hquotes, harrival, hexpires⟩ := h
  exact ⟨r, hrecord.subset hr, hquotes, Nat.le_trans harrival hlater, hexpires⟩

theorem Booked.mono (hclock : ClockRuns f.clock) {cache cache' : PageCache}
    (h : Booked f main ttl pageTtl now b cache c) (hlater : now ≤ now')
    (hpages : ∀ page, cache'.memory.get? (f.rateUrl main c) = some page →
      cache.memory.get? (f.rateUrl main c) = some page)
    (hentry : b'.entry? c = b.entry? c) : Booked f main ttl pageTtl now' b' cache' c := by
  intro page rate hpage hfresh hread
  rw [hentry]
  exact h page rate (hpages page hpage) (Timestamp.before_of_notAfter (hclock.forward now now' hlater) hfresh) hread

theorem Backed.later (hclock : ClockRuns f.clock) (h : Backed f main ttl pageTtl awaited now b s)
    (hlater : now ≤ now') : Backed f main ttl pageTtl awaited now' b s :=
  { h with
    page := fun url page hpage => by
      obtain ⟨r, hr, hbrings, harrival, hwritten⟩ := h.page url page hpage
      exact ⟨r, hr, hbrings, Nat.le_trans harrival hlater, hwritten⟩
    rate := fun c hc e he => (h.rate c hc e he).mono (List.prefix_refl _) hlater
    booked := fun hle c hc hawaited => (h.booked hle c hc hawaited).mono hclock hlater (fun _ => id) rfl }

theorem Backed.within (h : Backed f main ttl pageTtl awaited now b s) (hc : c ≠ main) {rate : Decimal}
    (hfresh : b.fresh? (f.clock now) c = some rate) :
    Within f main s.record c rate now (ttl + pageTtl) ∧ (pageTtl ≤ ttl → Within f main s.record c rate now ttl) := by
  obtain ⟨e, hentry, rfl⟩ := Option.map_eq_some_iff.mp hfresh
  obtain ⟨hentry, hcounts⟩ := Option.filter_eq_some_iff.mp hentry
  obtain ⟨r, hr, hquotes, harrival, expires, hexpires, hbound, hexact⟩ := h.rate c hc e hentry
  have hbefore : (f.clock now).before expires = true := by
    simpa [DatedRate.isExpiredAt, hexpires, Timestamp.notAfter] using hcounts
  refine ⟨⟨r, hr, hquotes, harrival, ?_⟩, fun hle => ⟨r, hr, hquotes, harrival, hexact hle ▸ hbefore⟩⟩
  rw [Timestamp.before_iff] at hbefore ⊢
  rw [Timestamp.notAfter_iff] at hbound
  omega

theorem Backed.erase (hclock : ClockRuns f.clock) (h : Backed f main ttl pageTtl none now b s) (c : Currency) :
    Backed f main ttl pageTtl (some c) now { b with rates := b.rates.erase c } s := by
  have hentry (c' : Currency) : RateBook.entry? { b with rates := b.rates.erase c } c' =
      if c' = c then none else b.entry? c' := b.rates.get?_erase c c'
  refine { h with rate := fun c' hc' e he => ?_, booked := fun hle c' hc' hawaited => ?_ }
  · rw [hentry] at he
    split at he
    · cases he
    · exact h.rate c' hc' e he
  · have hne : c' ≠ c := fun heq => hawaited (congrArg some heq.symm)
    exact (h.booked hle c' hc' nofun).mono hclock (Nat.le_refl _) (fun _ => id) ((hentry c').trans (if_neg hne))

theorem Backed.onSite (hclock : ClockRuns f.clock) (h : Backed f main ttl pageTtl (some c) now b s)
    (hlater : now ≤ now') (httl : s'.cache.ttl = s.cache.ttl) (hfolder : s'.cache.folder = .absent)
    (hrecord : s.record <+: s'.record)
    (hpages : ∀ url page, s'.cache.memory.get? url = some page → s.cache.memory.get? url = some page ∨
      url = f.rateUrl main c ∧ ∃ r ∈ s'.record, r.Brings url page.content ∧ r.arrival ≤ now' ∧
        page.written = f.clock r.arrival) :
    Backed f main ttl pageTtl (some c) now' b s' := by
  refine ⟨h.main_eq, h.ttl_eq, httl.trans h.pageTtl_eq, hfolder, fun url page hpage => ?_,
    fun c' hc' e he => (h.rate c' hc' e he).mono hrecord hlater, fun hle c' hc' hawaited => ?_⟩
  · rcases hpages url page hpage with hold | ⟨-, hnew⟩
    · obtain ⟨r, hr, hbrings, harrival, hwritten⟩ := h.page url page hold
      exact ⟨r, hrecord.subset hr, hbrings, Nat.le_trans harrival hlater, hwritten⟩
    · exact hnew
  · refine (h.booked hle c' hc' hawaited).mono hclock hlater (fun page hpage => ?_) rfl
    rcases hpages _ page hpage with hold | ⟨hurl, -⟩
    · exact hold
    · exact absurd (congrArg some (f.rateUrl_injective main hurl).symm) hawaited

/-- A visit of the search page leaves the other currencies' pages in order. -/
theorem Backed.visit (hclock : ClockRuns f.clock) (h : Backed f main ttl pageTtl (some c) now b s)
    {o : Job.Outcome (Site (ν × List Request)) (Attempt String)} (ho : f.VisitEnds (f.rateUrl main c) now s o) :
    Backed f main ttl pageTtl (some c) o.instant b o.state := by
  cases ho with
  | kept cached cache record =>
    obtain ⟨hsame, -⟩ := PageCache.get_of_found h.inMemory cached
    rw [hsame] at cache
    refine h.onSite hclock (Nat.le_refl _) (by rw [cache]) (by rw [cache]; exact h.inMemory)
      (record ▸ List.prefix_refl _) fun url page hpage => .inl ?_
    rwa [cache] at hpage
  | failed missed cache record le =>
    obtain ⟨httl, hfolder, hmemory⟩ := PageCache.get_of_missed h.inMemory missed
    refine h.onSite hclock le (by rw [cache, httl]) (by rw [cache, hfolder]) record fun url page hpage => .inl ?_
    rw [cache, hmemory] at hpage
    split at hpage
    · cases hpage
    · exact hpage
  | brought missed cache record mem brings le =>
    obtain ⟨httl, hfolder, hmemory⟩ := PageCache.get_of_missed h.inMemory missed
    refine h.onSite hclock le (by rw [cache, PageCache.put, httl]) (by rw [cache, PageCache.put, hfolder]; rfl) record
      fun url page hpage => ?_
    rw [cache, PageCache.put, Table.get?_insert] at hpage
    split at hpage
    · rename_i heq
      cases hpage
      exact .inr ⟨heq, _, mem, heq ▸ brings, Nat.le_refl _, rfl⟩
    · rename_i hne
      rw [hmemory, if_neg hne] at hpage
      exact .inl hpage

theorem value_of_kept {o : Job.Outcome (Site (ν × List Request)) (Attempt String)} {url : String}
    (hfolder : s.cache.folder = .absent) (ho : f.VisitEnds url now s o) :
    ∀ page, o.state.cache.memory.get? url = some page → o.value = .ok page.content := by
  intro page hpage
  cases ho with
  | kept cached cache record =>
    obtain ⟨hsame, page', hpage', rfl, -⟩ := PageCache.get_of_found hfolder cached
    rw [cache, hsame, hpage', Option.some.injEq] at hpage
    rw [hpage]
  | failed missed cache record le =>
    rw [cache, (PageCache.get_of_missed hfolder missed).2.2, if_pos rfl] at hpage
    cases hpage
  | brought missed cache record mem brings le =>
    rw [cache, PageCache.put, Table.get?_insert, if_pos rfl] at hpage
    cases hpage
    rfl

/-- When pages are kept no longer than rates count, a page that is still kept gives no rate anew. -/
theorem Backed.not_later_of_kept (hclock : ClockRuns f.clock) (h : Backed f main ttl pageTtl none now b s)
    (hle : pageTtl ≤ ttl) (hc : c ≠ main) (hnone : b.fresh? (f.clock now) c = none) {page : CachedPage}
    (hpage : s.cache.memory.get? (f.rateUrl main c) = some page)
    (hkept : PageCache.isFresh pageTtl page.written (f.clock now) = true) {rate : Decimal}
    (hread : RatePage.read c main page.content = .ok rate) :
    page.written.later? ttl = none ∧ (f.clock now).later? ttl = none := by
  rcases h.booked hle c hc nofun page rate hpage hkept hread with ⟨e, hentry, hexpires⟩ | hnever
  · have hstale : (f.clock now).before (page.written.addSeconds ttl) = false := by
      simpa [RateBook.fresh?, hentry, Option.filter, DatedRate.isExpiredAt, hexpires, Timestamp.notAfter] using hnone
    rw [PageCache.isFresh, Timestamp.before_iff] at hkept
    rw [← Bool.not_eq_true, Timestamp.before_iff] at hstale
    simp only [Timestamp.addSeconds] at hkept hstale
    omega
  · refine ⟨hnever, ?_⟩
    obtain ⟨r, -, -, harrival, hwritten⟩ := h.page _ page hpage
    have hforward := hclock.forward _ _ harrival
    have hknown := hclock.known r.arrival
    rw [Timestamp.notAfter_iff] at hforward
    rw [hwritten] at hnever
    simp only [Timestamp.later?, ite_eq_right_iff, reduceCtorEq, imp_false] at hnever ⊢
    omega

theorem Backed.settle (h : Backed f main ttl pageTtl (some c) now b s)
    (hbooked : pageTtl ≤ ttl → c ≠ main → Booked f main ttl pageTtl now b s.cache c) :
    Backed f main ttl pageTtl none now b s := by
  refine { h with booked := fun hle c' hc' _ => ?_ }
  by_cases heq : c' = c
  · subst heq
    exact hbooked hle hc'
  · exact h.booked hle c' hc' fun hawaited => heq (Option.some.inj hawaited).symm

/-- The rate that has been refreshed enters the book. -/
theorem Backed.enter {e : DatedRate} (hclock : ClockRuns f.clock) (h : Backed f main ttl pageTtl (some c) now b s)
    (hmain : b'.main = b.main) (httl : b'.ttl = b.ttl)
    (hentry : ∀ c', b'.entry? c' = if c' = c then some e else b.entry? c')
    (htraced : c ≠ main → Traced f main ttl pageTtl s.record now c e)
    (hbooked : pageTtl ≤ ttl → c ≠ main → Booked f main ttl pageTtl now b' s.cache c) :
    Backed f main ttl pageTtl none now b' s := by
  refine Backed.settle (c := c) { h with
    main_eq := hmain.trans h.main_eq
    ttl_eq := httl.trans h.ttl_eq
    rate := fun c' hc' e' he => ?_
    booked := fun hle c' hc' hawaited => ?_ } hbooked
  · rw [hentry] at he
    split at he
    · rename_i heq
      cases he
      exact heq ▸ htraced (heq ▸ hc')
    · exact h.rate c' hc' e' he
  · have hne : c' ≠ c := fun heq => hawaited (congrArg some heq.symm)
    exact (h.booked hle c' hc' hawaited).mono hclock (Nat.le_refl _) (fun _ => id) ((hentry c').trans (if_neg hne))

section Visited
variable {o : Job.Outcome (Site (ν × List Request)) (Attempt String)} {rate : Decimal} {r : Request}
  {expires : Timestamp}

/-- The source gives a rate from a page which pages' time has not run out for. If pages are kept no longer than
rates count, the page has just come, or else no more rates can be dated. -/
theorem Backed.exists_origin (hclock : ClockRuns f.clock) (h : Backed f main ttl pageTtl none now b s) (hc : c ≠ main)
    (hnone : b.fresh? (f.clock now) c = none) (hends : f.VisitEnds (f.rateUrl main c) now s o) {content : String}
    (hcontent : o.value = .ok content) (hread : RatePage.read c main content = .ok rate) :
    ∃ r, Origin f main ttl pageTtl c rate o r := by
  cases hends with
  | kept cached cache record =>
    cases hcontent
    obtain ⟨hsame, page, hpage, rfl, hkept⟩ := PageCache.get_of_found h.inMemory cached
    rw [h.pageTtl_eq] at hkept
    obtain ⟨r, hr, hbrings, harrival, hwritten⟩ := h.page _ page hpage
    refine ⟨r, record ▸ hr, ⟨_, hbrings, hread⟩, harrival, ?_, fun page' hpage' => ?_, fun hle => .inr ?_⟩
    · rw [hwritten] at hkept
      exact Timestamp.notAfter_of_before hkept
    · rw [cache, hsame, hpage, Option.some.injEq] at hpage'
      rw [← hpage', hwritten]
    · rw [← hwritten]
      exact h.not_later_of_kept hclock hle hc hnone hpage hkept hread
  | failed missed cache record le => cases hcontent
  | brought missed cache record mem brings le =>
    cases hcontent
    refine ⟨_, mem, ⟨_, brings, hread⟩, Nat.le_refl _, ?_, fun page hpage => ?_, fun _ => .inl rfl⟩
    · rw [Timestamp.notAfter_iff]
      simp only [Timestamp.addSeconds]
      omega
    · rw [cache, PageCache.put, Table.get?_insert, if_pos rfl] at hpage
      cases hpage
      rfl

theorem Origin.arrival_eq (h : Origin f main ttl pageTtl c rate o r)
    (hlater : (f.clock o.instant).later? ttl = some expires) (hle : pageTtl ≤ ttl) : r.arrival = o.instant := by
  rcases h.new hle with hnew | ⟨-, hnever⟩
  · exact hnew
  · exact absurd (hlater.symm.trans hnever) (Option.some_ne_none expires)

theorem Origin.traced (h : Origin f main ttl pageTtl c rate o r)
    (hlater : (f.clock o.instant).later? ttl = some expires) :
    Traced f main ttl pageTtl o.state.record o.instant c ⟨rate, some expires⟩ := by
  have hexpires := Timestamp.eq_addSeconds_of_later hlater
  refine ⟨r, h.mem, h.quotes, h.le, expires, rfl, ?_, fun hle => ?_⟩
  · have hkept := h.kept
    rw [hexpires]
    rw [Timestamp.notAfter_iff] at hkept ⊢
    simp only [Timestamp.addSeconds] at hkept ⊢
    omega
  · rw [hexpires, h.arrival_eq hlater hle]

theorem Origin.booked_of_later (h : Origin f main ttl pageTtl c rate o r)
    (hlater : (f.clock o.instant).later? ttl = some expires) (hle : pageTtl ≤ ttl)
    (hentry : b.entry? c = some ⟨rate, some expires⟩) : Booked f main ttl pageTtl o.instant b o.state.cache c := by
  intro page rate' hpage _ _
  refine .inl ⟨_, hentry, congrArg some ?_⟩
  rw [Timestamp.eq_addSeconds_of_later hlater, h.written page hpage, h.arrival_eq hlater hle]

theorem Origin.booked_of_not_later (h : Origin f main ttl pageTtl c rate o r)
    (hnever : (f.clock o.instant).later? ttl = none) (hle : pageTtl ≤ ttl) :
    Booked f main ttl pageTtl o.instant b o.state.cache c := by
  intro page rate' hpage _ _
  refine .inr ?_
  rw [h.written page hpage]
  rcases h.new hle with hnew | ⟨hnever, -⟩
  · rw [hnew, hnever]
  · exact hnever

end Visited

theorem Backed.ensure (hclock : ClockRuns f.clock) (cancel : Option Nat) (h : Backed f main ttl pageTtl none now b s)
    (c : Currency) :
    let o := ((ofWeb f cancel).ensure c).run now (b, s)
    Backed f main ttl pageTtl none o.instant o.state.1 o.state.2 := by
  obtain rfl := h.main_eq
  obtain rfl := h.ttl_eq
  rw [run_ensure_of_denied (d := ofWeb f cancel) (fun _ => rfl) c now b s]
  cases hnone : b.fresh? ((ofWeb f cancel).clock now) c with
  | some rate => exact h
  | none =>
    change b.fresh? (f.clock now) c = none at hnone
    have hends : f.VisitEnds (f.rateUrl b.main c) now s _ :=
      f.get_ends (κ := RateLock) cancel (some (RatePage.query c b.main)) now s
    have hsource : ((ofWeb f cancel).source c b.main).run now s = _ := run_webRate f.recorded cancel c b.main now s
    generalize (f.recorded.get cancel (some (RatePage.query c b.main)) : Job RateLock (Site (ν × List Request)) _).run
      now s = o at hends hsource
    have hvisit := (h.erase hclock c).visit hclock hends
    have hvalue := value_of_kept h.inMemory hends
    generalize ({ b with rates := b.rates.erase c } : RateBook) = b₁ at hvisit ⊢
    simp only [hsource]
    cases hrate : o.value >>= RatePage.read c b.main with
    | error failure =>
      -- a page that gives no rate now gives none later, as long as it is kept
      refine hvisit.settle fun _ _ page rate hpage _ hread => ?_
      rw [hvalue page hpage] at hrate
      exact Attempt.of_error_eq_ok (hrate.symm.trans hread)
    | ok rate =>
      obtain ⟨content, hcontent, hread⟩ := Attempt.bind_eq_ok_iff.mp hrate
      have horigin (hc : c ≠ b.main) := h.exists_origin hclock hc hnone hends hcontent hread
      dsimp only
      rw [if_pos (RatePage.isPositive_of_read hread), show (ofWeb f cancel).clock = f.clock from rfl]
      cases hlater : (f.clock o.instant).later? b₁.ttl with
      | none =>
        rw [RateBook.record_of_not_later hlater]
        rw [hvisit.ttl_eq] at hlater
        refine hvisit.settle fun hle hc => ?_
        obtain ⟨r, hr⟩ := horigin hc
        exact hr.booked_of_not_later hlater hle
      | some expires =>
        obtain ⟨b₂, hrecord, hmain, httl, hentry⟩ := RateBook.record_of_later hlater c rate
        rw [hrecord]
        rw [hvisit.ttl_eq] at hlater
        refine hvisit.enter hclock hmain httl hentry (fun hc => ?_) fun hle hc => ?_
        · obtain ⟨r, hr⟩ := horigin hc
          exact hr.traced hlater
        · obtain ⟨r, hr⟩ := horigin hc
          exact hr.booked_of_later hlater hle ((hentry c).trans (if_pos rfl))

end

def ensureEach {ρ : Type} (d : RateDesk ρ) (calls : List (Nat × Currency)) :
    Job RateLock (RateBook × ρ) (List (Attempt Decimal)) :=
  Job.inTurn (calls.map fun call => (call.1, d.ensure call.2))

def atFirst {ν : Type} (main : Currency) (ttl : Int) (path : String) (file : RatePlace) (pageTtl delay : Nat)
    (net : ν) : RateBook × Site (ν × List Request) :=
  (.ofMain main ttl path file, { delay, cache := { ttl := pageTtl, folder := .absent }, net := (net, []) })

section
variable {ν : Type} {f : Fetcher ν} {main : Currency}

theorem backed_atFirst (ttl : Int) (path : String) (file : RatePlace) (pageTtl delay : Nat) (net : ν) (now : Nat) :
    let s := atFirst main ttl path file pageTtl delay net
    Backed f main ttl pageTtl none now s.1 s.2 where
  main_eq := rfl
  ttl_eq := rfl
  pageTtl_eq := rfl
  inMemory := rfl
  page _ _ h := nomatch h
  rate c hc e he := by
    rw [atFirst, RateBook.ofMain, RateBook.entry?, Table.get?_insert, if_neg hc] at he
    cases he
  booked _ _ _ _ _ _ h := nomatch h

theorem Backed.ensureEach (hclock : ClockRuns f.clock) (cancel : Option Nat) {ttl : Int} {pageTtl now : Nat}
    {s : RateBook × Site (ν × List Request)} (h : Backed f main ttl pageTtl none now s.1 s.2)
    (calls : List (Nat × Currency)) :
    let o := ((ofWeb f cancel).ensureEach calls).run now s
    Backed f main ttl pageTtl none o.instant o.state.1 o.state.2 := by
  refine Job.inTurn_induction
    (I := fun now (s : RateBook × Site (ν × List Request)) => Backed f main ttl pageTtl none now s.1 s.2)
    (fun _ _ _ hlater h => h.later hclock hlater) (fun call hcall now s h => ?_) h
  obtain ⟨⟨begin, c⟩, -, rfl⟩ := List.mem_map.mp hcall
  exact h.ensure hclock cancel c

/-- A rate that is given out has been read off a page downloaded less time ago than rates count and pages are
kept together. If pages are kept no longer than rates count, it is less than rates count. -/
theorem ensure_within (hclock : ClockRuns f.clock) (cancel : Option Nat) {ttl : Int} (hpositive : 0 < ttl)
    (path : String) (file : RatePlace) (pageTtl delay : Nat) (net : ν) (begin : Nat) (calls : List (Nat × Currency))
    {start : Nat} {c : Currency} (hc : c ≠ main) {rate : Decimal} :
    let d := ofWeb f cancel
    let o := (d.ensureEach calls).run begin (atFirst main ttl path file pageTtl delay net)
    let p := (d.ensure c).run start o.state
    o.instant ≤ start → p.value = .ok rate →
      Within f main p.state.2.record c rate p.instant (ttl + pageTtl) ∧
        (pageTtl ≤ ttl → Within f main p.state.2.record c rate p.instant ttl) := by
  intro d o p hstart hrate
  have hbacked : Backed f main ttl pageTtl none o.instant o.state.1 o.state.2 :=
    (backed_atFirst ttl path file pageTtl delay net begin).ensureEach hclock cancel calls
  have hstarted := hbacked.later hclock hstart
  refine (hstarted.ensure hclock cancel c).within hc (fresh?_of_ensure (fun _ => rfl) ?_ hrate)
  rw [hstarted.ttl_eq]
  exact hpositive

end

/-- Whether every rate that is given out has been read off a page downloaded less than so many seconds ago. -/
def AlwaysWithin (ttl : Int) (pageTtl : Nat) (seconds : Int) : Prop :=
  ∀ (ν : Type) (f : Fetcher ν) (cancel : Option Nat) (main : Currency) (path : String) (file : RatePlace) (delay : Nat)
    (net : ν) (begin : Nat) (calls : List (Nat × Currency)) (start : Nat) (c : Currency) (rate : Decimal),
    ClockRuns f.clock → c ≠ main →
      let d := ofWeb f cancel
      let o := (d.ensureEach calls).run begin (atFirst main ttl path file pageTtl delay net)
      let p := (d.ensure c).run start o.state
      o.instant ≤ start → p.value = .ok rate → Within f main p.state.2.record c rate p.instant seconds

def euroPage : String := "<b>1.10</b> United States Dollar"
def euroRate : Decimal := ⟨110, 2, by decide, by decide⟩

def euroSite : Fetcher Unit where
  domain := { scheme := "https".toList, authority := some { host := .name "rates.test".toList }, path := ['/'] }
  policy := { attempts := 1, step := 0 }
  transport := ⟨fun _ _ _ => (⟨.page 200 euroPage, 0⟩, ())⟩
  clock i := ⟨i, 0⟩

theorem read_euroPage : RatePage.read .eur .usd euroPage = .ok euroRate :=
  Attempt.eq_ok_of_toOption (by decide +kernel)

def euroUrl : String := euroSite.recorded.resolve (some (RatePage.query .eur .usd))

def unvisited (pageTtl : Nat) : Site (Unit × List Request) :=
  { delay := 0, cache := { ttl := pageTtl, folder := .absent }, net := ((), []) }

def visited (pageTtl : Nat) : Site (Unit × List Request) where
  delay := 0
  cache := (unvisited pageTtl).cache.put ⟨0, 0⟩ euroUrl euroPage
  net := ((), [⟨euroUrl, 0, ⟨.page 200 euroPage, 0⟩⟩])

theorem run_get_unvisited (pageTtl : Nat) :
    (euroSite.recorded.get none (some (RatePage.query .eur .usd)) : Job RateLock _ _).run 0 (unvisited pageTtl) =
      ⟨.ok euroPage, 0, visited pageTtl⟩ := by
  have hmissed : ((unvisited pageTtl).cache.get (euroSite.recorded.clock 0)
      (euroSite.recorded.resolve (some (RatePage.query .eur .usd)))).1 = none := rfl
  have hverdict : (Answer.page 200 euroPage).verdict = .found euroPage := by decide +kernel
  have hdownload : (euroSite.recorded.download none euroUrl : Job RateLock _ _).run 0
      (unvisited pageTtl) = ⟨.ok euroPage, 0, { visited pageTtl with cache := (unvisited pageTtl).cache }⟩ := by
    rw [Fetcher.run_download _ rfl, Fetcher.run_downloadWith]
    simp only [Fetcher.recorded, Transport.recorded, euroSite, unvisited, hverdict]
    rfl
  exact Fetcher.run_get_of_missed (s := unvisited pageTtl) hmissed rfl hdownload

theorem run_get_visited {ttl pageTtl : Nat} (hlt : ttl < pageTtl) :
    (euroSite.recorded.get none (some (RatePage.query .eur .usd)) : Job RateLock _ _).run ttl (visited pageTtl) =
      ⟨.ok euroPage, ttl, visited pageTtl⟩ := by
  have hpage : (visited pageTtl).cache.memory.get? euroUrl = some ⟨⟨0, 0⟩, euroPage⟩ := by
    rw [visited, PageCache.put, Table.get?_insert, if_pos rfl]
  have hkept : PageCache.isFresh (visited pageTtl).cache.ttl ⟨0, 0⟩ (euroSite.recorded.clock ttl) = true := by
    rw [PageCache.isFresh, Timestamp.before_iff]
    simp only [euroSite, Fetcher.recorded, visited, unvisited, PageCache.put, Timestamp.addSeconds]
    omega
  have hcached : (visited pageTtl).cache.get (euroSite.recorded.clock ttl)
      (euroSite.recorded.resolve (some (RatePage.query .eur .usd))) = _ := PageCache.get_of_fresh hpage hkept
  rw [Fetcher.run_get_of_cached (congrArg Prod.fst hcached), hcached]

theorem run_source_of_get {cancel : Option Nat} {now later : Nat} {s s' : Site (Unit × List Request)}
    (h : (euroSite.recorded.get cancel (some (RatePage.query .eur .usd)) : Job RateLock _ _).run now s =
      ⟨.ok euroPage, later, s'⟩) :
    ((ofWeb euroSite cancel).source .eur .usd).run now s = ⟨.ok euroRate, later, s'⟩ := by
  have hread : (.ok euroPage : Attempt String) >>= RatePage.read .eur .usd = .ok euroRate :=
    Attempt.bind_eq_ok_iff.mpr ⟨euroPage, rfl, read_euroPage⟩
  have hsource : ((ofWeb euroSite cancel).source .eur .usd).run now s = _ :=
    run_webRate euroSite.recorded cancel .eur .usd now s
  rw [hsource, h]
  dsimp only
  rw [hread]

theorem later?_euroSite {ttl : Int} {now : Nat} (hpositive : 0 ≤ ttl) (h : now + ttl ≤ Timestamp.lastSecond) :
    (euroSite.clock now).later? ttl = some ((euroSite.clock now).addSeconds ttl) := by
  have hseconds : (euroSite.clock now).seconds = now := rfl
  apply Timestamp.later?_of_le
  · rw [hseconds, Timestamp.firstSecond]
    omega
  · rwa [hseconds]

theorem exists_run_first {ttl : Int} (hpositive : 0 ≤ ttl) (pageTtl : Nat) (hcalendar : ttl ≤ Timestamp.lastSecond) :
    ∃ b : RateBook, ((ofWeb euroSite none).ensureEach [(0, .eur)]).run 0
        (atFirst .usd ttl "rates.txt" .missing pageTtl 0 ()) = ⟨[.ok euroRate], 0, (b, visited pageTtl)⟩ ∧
      b.main = .usd ∧ b.ttl = ttl ∧
        b.entry? .eur = some ⟨euroRate, some ((euroSite.clock 0).addSeconds ttl)⟩ ∧ b.Printable := by
  have hdated : (euroSite.clock 0).later? ttl = _ := later?_euroSite hpositive (by omega)
  obtain ⟨b, hfirst, hmain, httl, hentry, hprints⟩ := exists_run_ensure_of_source (d := ofWeb euroSite none)
    (fun _ => rfl) (c := .eur) (b := .ofMain .usd ttl "rates.txt" .missing) rfl
    (run_source_of_get (run_get_unvisited pageTtl)) (by decide) hdated (RateBook.printable_ofMain _ _ _ _) (by decide)
  refine ⟨b, ?_, hmain, httl, hentry, hprints⟩
  rw [show (ofWeb euroSite none).ensureEach [(0, .eur)] = Job.inTurn [(0, (ofWeb euroSite none).ensure .eur)] from rfl,
    show atFirst .usd ttl "rates.txt" .missing pageTtl 0 () =
      (.ofMain .usd ttl "rates.txt" .missing, unvisited pageTtl) from rfl]
  simp only [Job.inTurn, Job.run_seq, Job.run_sleepUntil, Job.run_pure, Nat.max_self, hfirst]

/-- When a page is kept for longer than rates count, the rate on it is taken anew. -/
theorem stale_of_lt {ttl pageTtl : Nat} (hlt : ttl < pageTtl)
    (hcalendar : (2 * ttl : Int) ≤ Timestamp.lastSecond) :
    let d := ofWeb euroSite none
    let o := (d.ensureEach [(0, .eur)]).run 0 (atFirst .usd ttl "rates.txt" .missing pageTtl 0 ())
    let p := (d.ensure .eur).run ttl o.state
    o.instant ≤ ttl ∧ p.value = .ok euroRate ∧ ¬ Within euroSite .usd p.state.2.record .eur euroRate p.instant ttl := by
  obtain ⟨b, hfirst, hmain, httl, hentry, hprints⟩ := exists_run_first (Int.natCast_nonneg ttl) pageTtl (by omega)
  have hnone : b.fresh? (euroSite.clock ttl) .eur = none := by
    have hexpired : ((euroSite.clock 0).addSeconds ttl).notAfter (euroSite.clock ttl) = true := by
      rw [Timestamp.notAfter_iff]
      simp [euroSite, Timestamp.addSeconds]
    simp [RateBook.fresh?, hentry, Option.filter, DatedRate.isExpiredAt, hexpired]
  obtain ⟨b', hsecond, -⟩ := exists_run_ensure_of_source (d := ofWeb euroSite none) (fun _ => rfl) (c := .eur) (b := b)
    hnone (hmain ▸ run_source_of_get (run_get_visited hlt)) (by decide)
    (httl ▸ later?_euroSite (Int.natCast_nonneg ttl) (by omega)) hprints (by decide)
  dsimp only
  rw [hfirst, hsecond]
  refine ⟨Nat.zero_le _, rfl, ?_⟩
  rintro ⟨r, hr, -, -, hbefore⟩
  obtain rfl := List.mem_singleton.mp hr
  rw [Timestamp.before_iff] at hbefore
  simp [euroSite, Request.arrival, Timestamp.addSeconds] at hbefore

theorem clockRuns_euroSite : ClockRuns euroSite.clock where
  forward i j hij := by
    rw [Timestamp.notAfter_iff]
    simp only [euroSite]
    omega
  known i := by
    simp [euroSite, Timestamp.firstSecond]

/-- No rate is older than rates count and pages are kept together. That it is younger than rates count is so
just when pages are kept no longer than that, as far as the calendar goes. -/
theorem alwaysWithin_iff {ttl : Int} (hpositive : 0 < ttl) (pageTtl : Nat) :
    AlwaysWithin ttl pageTtl (ttl + pageTtl) ∧ (pageTtl ≤ ttl → AlwaysWithin ttl pageTtl ttl) ∧
      (2 * ttl ≤ Timestamp.lastSecond → AlwaysWithin ttl pageTtl ttl → pageTtl ≤ ttl) := by
  refine ⟨fun ν f cancel main path file delay net begin calls start c rate hclock hc hstart hrate =>
      (ensure_within hclock cancel hpositive path file pageTtl delay net begin calls hc hstart hrate).1,
    fun hle ν f cancel main path file delay net begin calls start c rate hclock hc hstart hrate =>
      (ensure_within hclock cancel hpositive path file pageTtl delay net begin calls hc hstart hrate).2 hle,
    fun hcalendar halways => ?_⟩
  by_contra hlt
  obtain ⟨n, rfl⟩ := Int.eq_ofNat_of_zero_le (Int.le_of_lt hpositive)
  have hkept : n < pageTtl := by omega
  obtain ⟨hstart, hvalue, hstale⟩ := stale_of_lt hkept hcalendar
  exact hstale (halways Unit euroSite none .usd "rates.txt" .missing 0 () 0 [(0, .eur)] n .eur euroRate
    clockRuns_euroSite (by decide) hstart hvalue)

theorem alwaysWithin_halfDay :
    let d := ofWeb euroSite none
    let o := (d.ensureEach [(0, .eur)]).run 0 (atFirst .usd 43200 "rates.txt" .missing 43200 0 ())
    let p := (d.ensure .eur).run 43199 o.state
    p.value = .ok euroRate ∧ Within euroSite .usd p.state.2.record .eur euroRate p.instant 43200 := by
  obtain ⟨b, hfirst, -, -, hentry, -⟩ := exists_run_first (show (0 : Int) ≤ 43200 by decide) 43200 (by decide)
  have hfresh : b.fresh? (euroSite.clock 43199) .eur = some euroRate := by
    have hcounts : ((euroSite.clock 0).addSeconds 43200).notAfter (euroSite.clock 43199) = false := by decide
    simp only [RateBook.fresh?, hentry, Option.filter, DatedRate.isExpiredAt, hcounts, Bool.not_false, if_true,
      Option.map_some]
  have hsecond : ((ofWeb euroSite none).ensure .eur).run 43199 (b, visited 43200) =
      ⟨.ok euroRate, 43199, (b, visited 43200)⟩ := by
    rw [run_ensure_of_denied (fun _ => rfl), show b.fresh? ((ofWeb euroSite none).clock 43199) .eur = _ from hfresh]
  have hwithin := (alwaysWithin_iff (show (0 : Int) < 43200 by decide) 43200).2.1 (by decide) Unit euroSite none .usd
    "rates.txt" .missing 0 () 0 [(0, .eur)] 43199 .eur euroRate clockRuns_euroSite (by decide)
  dsimp only at hwithin ⊢
  rw [hfirst, hsecond] at hwithin ⊢
  exact ⟨rfl, hwithin (Nat.zero_le _) rfl⟩

/-- Half a day for rates and a day for pages: the rate that is taken anew after half a day is half a day old. -/
theorem stale_after_halfDay :
    let d := ofWeb euroSite none
    let o := (d.ensureEach [(0, .eur)]).run 0 (atFirst .usd 43200 "rates.txt" .missing 86400 0 ())
    let p := (d.ensure .eur).run 43200 o.state
    o.instant ≤ 43200 ∧ p.value = .ok euroRate ∧
      ¬ Within euroSite .usd p.state.2.record .eur euroRate p.instant 43200 :=
  stale_of_lt (by decide) (by decide)

end RateDesk
end Storefront

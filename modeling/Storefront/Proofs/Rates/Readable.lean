import Storefront.Proofs.Rates.Errands

/-! # Rates that have been resolved

A client calls for the rates of a list, one after the other, and then reads them from the book. Others go on with their
errands in the meantime. A rate that has been found once can be read for as long as it counts. Once its time has run
out, a refresh by someone else may take it from the book and fail to bring another one.
-/
namespace Storefront

/-- What a client finds in the book when all its calls have been answered. -/
structure Reading where
  /-- The entries as they stood when each call was answered. -/
  seen : List (Currency × Option DatedRate)
  instant : Nat
  book : RateBook

namespace RateDesk
variable {ρ : Type}

/-- Calls for rates up to the first failure, each with a look at the entry that it is answered from. -/
def resolve (d : RateDesk ρ) :
    List Currency → Job RateLock (RateBook × ρ) (Attempt (List (Currency × Option DatedRate)))
  | [] => return .ok []
  | c :: rest => do
    match ← d.ensure c with
    | .error f => return .error f
    | .ok _ =>
      let entry ← Job.view fun _ s => RateBook.entry? s.1 c
      return (← resolve d rest).map ((c, entry) :: ·)

def readAfter (d : RateDesk ρ) (list : List Currency) : Job RateLock (RateBook × ρ) (Attempt Reading) := do
  let seen ← d.resolve list
  Job.view fun now s => seen.map fun seen => ⟨seen, now, s.1⟩

structure Client where
  errands : List Errand := []
  list : List Currency := []

def serveClient (d : RateDesk ρ) (client : Client) : Job RateLock (RateBook × ρ) (Attempt Reading) := do
  let _ ← d.performAll client.errands
  d.readAfter client.list

/-- Whether a client that has resolved its list can read all rates of it but those whose time has run out by then. -/
def Reads (d : RateDesk ρ) (client : Client) (a : Attempt Reading) : Prop :=
  ∀ reading, a = .ok reading → reading.seen.map Prod.fst = client.list ∧
    ∀ alpha ∈ client.list, ∀ beta ∈ client.list, ∀ c problem,
      reading.book.exchange.rate alpha beta = .error (.rateUnavailable c problem) → reading.book.entry? c = none ∧
        ∃ r, (c, some r) ∈ reading.seen ∧ r.isExpiredAt (d.clock reading.instant) = true

section
variable {d : RateDesk ρ} {A : ρ → Prop} {main : Currency} {ttl : Int} {p q : Nat × RateBook × ρ} {c : Currency}
  {r : DatedRate}

/-- As long as a rate counts, the book has it or one that lasts longer. -/
def Holds (d : RateDesk ρ) (c : Currency) (r : DatedRate) (p : Nat × RateBook × ρ) : Prop :=
  r.isExpiredAt (d.clock p.1) = false → ∃ r', RateBook.entry? p.2.1 c = some r' ∧ r'.Outlasts r

theorem holds_of_entry (h : RateBook.entry? p.2.1 c = some r) : d.Holds c r p := fun _ => ⟨r, h, fun _ => id⟩

variable (hclock : ∀ i j, i ≤ j → (d.clock i).notAfter (d.clock j) = true)
include hclock

theorem Holds.advance (hp : d.InOrder A main ttl p) (hstep : d.Advances A main ttl p q) (h : d.Holds c r p) :
    d.Holds c r q := by
  intro hcounts
  obtain ⟨hgoes, -⟩ := hstep.2 hp
  obtain ⟨r', hr', houtlasts⟩ := h (DatedRate.isExpiredAt_mono (hclock _ _ hstep.1) hcounts)
  obtain ⟨r'', hr'', houtlasts'⟩ := hgoes.stays c r' hr' (houtlasts.counts hcounts)
  exact ⟨r'', hr'', houtlasts'.trans houtlasts⟩

variable (hsource : ∀ c ≠ main, (d.source c main).Preserves A) (hallows : ∀ question, (d.allows question).Preserves A)
include hsource hallows

/-- Each call finds an entry, and the book holds it through the calls that follow. -/
theorem keeps_resolve (list : List Currency) (hp : d.InOrder A main ttl p) :
    (d.resolve list).Keeps (d.Advances A main ttl) (fun a q => d.InOrder A main ttl q ∧ ∀ seen, a = .ok seen →
      seen.map Prod.fst = list ∧ ∀ c entry, (c, entry) ∈ seen → ∃ r, entry = some r ∧ d.Holds c r q) p := by
  induction list generalizing p with
  | nil =>
    refine ⟨hp, fun seen hseen => ?_⟩
    cases hseen
    exact ⟨rfl, by simp⟩
  | cons c rest ih =>
    refine Job.Keeps.bind ((keeps_ensure hclock hsource hallows c hp).mono fun answer q hq => ?_)
    cases answer with
    | error f => exact ⟨hq.1, by simp⟩
    | ok rate =>
      obtain ⟨hq, -, r, hentry, -⟩ := hq
      -- what has just been seen has to be held through the calls for the rest
      refine Job.Keeps.bind (Job.Keeps.bind ((ih hq).reaches.mono fun a q' hq' => ?_))
      obtain ⟨⟨hq', hrest⟩, hreach⟩ := hq'
      refine ⟨hq', fun seen hseen => ?_⟩
      cases a with
      | error f => cases hseen
      | ok found =>
        obtain ⟨hlist, hholds⟩ := hrest found rfl
        obtain rfl : (c, RateBook.entry? q.2.1 c) :: found = seen := Except.ok.inj hseen
        refine ⟨congrArg (c :: ·) hlist, fun c' entry hmem => ?_⟩
        rcases List.mem_cons.mp hmem with hfirst | hmem
        · obtain ⟨rfl, rfl⟩ := Prod.mk.inj hfirst
          exact ⟨r, hentry, (holds_of_entry hentry).advance hclock hq (advances_of_reflTransGen hclock hreach)⟩
        · exact hholds c' entry hmem

theorem keeps_serveClient (client : Client) (hp : d.InOrder A main ttl p) :
    (d.serveClient client).Keeps (d.Advances A main ttl) (fun a _ => d.Reads client a) p := by
  refine Job.Keeps.bind ((keeps_performAll hclock hsource hallows client.errands hp).mono fun _ q hq => ?_)
  refine Job.Keeps.bind ((keeps_resolve hclock hsource hallows client.list hq.1).mono fun found q' hq' => ?_)
  obtain ⟨hq', hresolved⟩ := hq'
  intro reading hreading
  cases found with
  | error f => cases hreading
  | ok seen =>
    cases hreading
    obtain ⟨hlist, hholds⟩ := hresolved seen rfl
    refine ⟨hlist, fun alpha halpha beta hbeta c problem hfails => ?_⟩
    cases hq'.stands.exchange_rate hfails with
    | unresolved hc hnone =>
      have hmem : c ∈ seen.map Prod.fst := by
        rw [hlist]
        rcases hc with rfl | rfl
        · exact halpha
        · exact hbeta
      obtain ⟨⟨c', entry⟩, hentry, rfl⟩ := List.mem_map.mp hmem
      obtain ⟨r, rfl, hholds⟩ := hholds c' entry hentry
      refine ⟨hnone, r, hentry, ?_⟩
      by_contra hcounts
      obtain ⟨r', hr', -⟩ := hholds (Bool.not_eq_true _ ▸ hcounts)
      rw [hnone] at hr'
      cases hr'

end

/-- However the errands of the others come in between, what a client has resolved it can read until its time has run
out. -/
theorem steps_read (d : RateDesk ρ) (hclock : ∀ i j, i ≤ j → (d.clock i).notAfter (d.clock j) = true)
    (main : Currency) (ttl : Int) (path : String) (file : RatePlace) (r : ρ) (clients : List Client)
    (limit now n : Nat) :
    let p := (Pool.start limit (clients.map d.serveClient) now (RateBook.ofMain main ttl path file, r)).steps n
    ∀ result ∈ p.results, ∃ client ∈ clients, d.Reads client result.2 := by
  intro p result hresult
  have hfirst : d.InOrder (fun _ => True) main ttl (now, RateBook.ofMain main ttl path file, r) :=
    ⟨rfl, rfl, RateBook.stands_ofMain main ttl path file _, trivial⟩
  have hjobs : ∀ job ∈ clients.map d.serveClient, ∀ q, d.InOrder (fun _ => True) main ttl q →
      job.Keeps (d.Advances (fun _ => True) main ttl) (fun a _ => ∃ client ∈ clients, d.Reads client a) q := by
    intro job hjob q hq
    obtain ⟨client, hclient, rfl⟩ := List.mem_map.mp hjob
    have hserved := keeps_serveClient hclock (fun c _ => Job.preserves_true (d.source c main))
      (fun question => Job.preserves_true (d.allows question)) client hq
    exact hserved.mono fun a _ ha => ⟨client, hclient, ha⟩
  obtain ⟨-, -, hreads⟩ := (steps_keep hclock hjobs limit hfirst n).2 result hresult
  exact hreads

def tardyDesk : RateDesk Bool where
  source c _ := match c with
    | .eur => Job.act fun _ told =>
      (if told then .error (.rateUnavailable .eur (.stated "offline")) else .ok Decimal.two, true)
    | .gbp => do
      Job.sleepUntil 50000
      return .ok (.ofUInt64 3)
    | _ => pure (.error .cancelled)
  allows _ := pure false
  clock now := ⟨1767225600 + now, 0⟩

def tardyClients : List Client :=
  [{ list := [.eur, .gbp] }, { errands := [.wait 43200, .ensure .eur] }]

def tardyPool : Pool RateLock (RateBook × Bool) (Attempt Reading) :=
  .start 2 (tardyClients.map tardyDesk.serveClient) 0 (RateBook.ofMain .usd 43200 "rates.txt" .missing, false)

theorem steps_read_tardy : ∃ reading, (tardyPool.steps 200).result? 0 = some (.ok reading) ∧
    reading.book.entry? .eur = none ∧
      ∃ r, (Currency.eur, some r) ∈ reading.seen ∧ r.isExpiredAt (tardyDesk.clock reading.instant) = true := by
  have hclock (i j : Nat) : i ≤ j → (tardyDesk.clock i).notAfter (tardyDesk.clock j) = true := Timestamp.notAfter_add _ _ i j
  have hlost : ((tardyPool.steps 200).result? 0).map (·.map fun reading =>
      (reading.seen.map Prod.fst, reading.book.exchange.rate .eur .gbp)) =
        some (.ok ([.eur, .gbp], .error (.rateUnavailable .eur .notResolved))) := by decide +kernel
  have hreads := tardyDesk.steps_read hclock .usd 43200 "rates.txt" .missing false tardyClients 2 0 200
  obtain ⟨a, ha, hlost⟩ := Option.map_eq_some_iff.mp hlost
  have hmem : (0, a) ∈ (tardyPool.steps 200).results := by
    obtain ⟨results, rest, hresults, -⟩ := List.lookup_eq_some_iff.mp ha
    rw [hresults]
    simp
  obtain ⟨client, -, hreads⟩ := hreads (0, a) hmem
  cases a with
  | error f => cases hlost
  | ok reading =>
    obtain ⟨hlist, hfails⟩ := Prod.mk.inj (Except.ok.inj hlost)
    obtain ⟨hseen, hexpired⟩ := hreads reading rfl
    rw [← hseen, hlist] at hexpired
    exact ⟨reading, ha, hexpired .eur (by decide) .gbp (by decide) .eur .notResolved hfails⟩

/-- All calls have been answered, and yet the euro cannot be read. -/
theorem resolved_euro_is_lost : (tardyPool.run.result? 0).map (·.map fun reading =>
      (reading.seen.map Prod.fst, reading.book.exchange.rate .eur .gbp)) =
    some (.ok ([.eur, .gbp], .error (.rateUnavailable .eur .notResolved))) := by
  rw [Pool.run_eq_steps (n := 200) (by decide +kernel)]
  decide +kernel

end RateDesk
end Storefront

import Storefront.Proofs.Job.Part
import Storefront.Proofs.Rates.Calls
import Storefront.Proofs.Rates.Log

/-! # What holds of every book

A desk is called for rates, for all rates of a list and for quotients, and its book is written, by any number of
people side by side. Its book began with the main currency only, and the rate file may be changed by others at any
time. Then at every moment the main currency is worth one for ever and has never been asked for, and all other rates
are above zero and expire. A quotient is one of rates above zero, so it fails only where it is too large. Calls fail for
want of a rate or of a quotient, and they break off when a rate is too large to be printed.
-/
namespace Storefront

inductive Errand
  | ensure (c : Currency)
  | ensureAll (list : List Currency)
  | rate (alpha beta : Currency)
  | persist
  /-- Someone else changes what stands at the place of the rate file. -/
  | edit (place : RatePlace)
  | wait (wake : Nat)
deriving DecidableEq

/-- What has come of an errand. -/
structure ErrandReport where
  errand : Errand
  outcome : Attempt Unit
  /-- The rates that were divided, the divisor first. -/
  divided : Option (Decimal × Decimal)
  instant : Nat
  /-- The book as it was then. -/
  book : RateBook

/-- How an errand may fail. -/
inductive ErrandReport.Fault (a : ErrandReport) : Failure → Prop
  | call {f : Failure} (fault : RateFault f) : a.Fault f
  | tooLarge {alpha beta : Currency} {x y : Decimal} (errand : a.errand = .rate alpha beta)
      (divided : a.divided = some (x, y)) (quotient : QuotientTooLarge x y) :
      a.Fault (.overflow (.dividingRates beta alpha))
  | unprintable (large : ¬ a.book.Printable) : a.Fault .outOfRange

theorem RateBook.persist_fault {b : RateBook} {f : Failure} (h : b.persist.1 = .error f) :
    f = .file ∨ f = .outOfRange ∧ ¬ b.persist.2.Printable := by
  by_cases hprints : b.Printable
  · rw [persist_of_printable hprints] at h
    exact .inl (b.writeFile_error h)
  · rw [persist_of_not_printable hprints] at h ⊢
    exact .inr ⟨(Except.error.inj h).symm, hprints⟩

namespace RateDesk
variable {ρ : Type}

/-- The rates of two currencies, one after the other. -/
def bothRates (d : RateDesk ρ) (alpha beta : Currency) :
    Job RateLock (RateBook × ρ) (Attempt (Decimal × Decimal)) := do
  match ← d.ensure alpha with
  | .error f => return .error f
  | .ok x => match ← d.ensure beta with
    | .error f => return .error f
    | .ok y => return .ok (x, y)

def quotient (alpha beta : Currency) (rates : Decimal × Decimal) : Attempt Decimal :=
  Attempt.ofOption (.overflow (.dividingRates beta alpha)) (rates.2.div rates.1)

theorem rate_eq (d : RateDesk ρ) (alpha beta : Currency) :
    d.rate alpha beta = do return (← d.bothRates alpha beta).bind (quotient alpha beta) := by
  rw [bothRates, Job.seq_assoc, rate]
  refine congrArg (d.ensure alpha >>= ·) (funext fun a => ?_)
  cases a with
  | error f => rfl
  | ok x =>
    dsimp only
    rw [Job.seq_assoc]
    refine congrArg (d.ensure beta >>= ·) (funext fun b => ?_)
    cases b <;> rfl

/-- An errand, with the rates that it divides. -/
def perform (d : RateDesk ρ) : Errand → Job RateLock (RateBook × ρ) (Attempt Unit × Option (Decimal × Decimal))
  | .ensure c => do return ((← d.ensure c).map fun _ => (), none)
  | .ensureAll list => do return (← d.ensureAll list, none)
  | .rate alpha beta => do
    let rates ← d.bothRates alpha beta
    return ((rates.bind (quotient alpha beta)).map fun _ => (), rates.toOption)
  | .persist => do return (← d.onBook fun _ b => b.persist, none)
  | .edit place => do return (← d.onBook fun _ b => (.ok (), { b with file := place }), none)
  | .wait wake => do
    Job.sleepUntil wake
    return (.ok (), none)

def report (d : RateDesk ρ) (errand : Errand) : Job RateLock (RateBook × ρ) ErrandReport := do
  let (outcome, divided) ← d.perform errand
  Job.view fun now s => ⟨errand, outcome, divided, now, s.1⟩

def performAll (d : RateDesk ρ) : List Errand → Job RateLock (RateBook × ρ) (List ErrandReport)
  | [] => return []
  | errand :: rest => do
    let report ← d.report errand
    let reports ← performAll d rest
    return report :: reports

section
variable {d : RateDesk ρ} {A : ρ → Prop} {main : Currency} {ttl : Int} {p q : Nat × RateBook × ρ}

/-- An errand divides rates above zero, and that it fails is excused, or a rate could not be dated. -/
structure Sound (d : RateDesk ρ) (ttl : Int) (a : ErrandReport) : Prop where
  divided : ∀ x y, a.divided = some (x, y) → 0 < x.value ∧ 0 < y.value
  outcome : ∀ f, a.outcome = .error f → a.Fault f ∨ f = .outOfRange ∧ (d.clock a.instant).later? ttl = none

theorem FaultAt.excuses {f : Failure} (h : d.FaultAt ttl q f) {errand : Errand} {outcome : Attempt Unit}
    {divided : Option (Decimal × Decimal)} :
    let a : ErrandReport := ⟨errand, outcome, divided, q.1, q.2.1⟩
    a.Fault f ∨ f = .outOfRange ∧ (d.clock a.instant).later? ttl = none := by
  rcases h with hfault | ⟨rfl, hnever | hlarge⟩
  · exact .inl (.call hfault)
  · exact .inr ⟨rfl, hnever⟩
  · exact .inl (.unprintable hlarge)

theorem sound_of_failsWith {outcome : Attempt Unit} (h : Attempt.FailsWith (d.FaultAt ttl q) outcome)
    (errand : Errand) : d.Sound ttl ⟨errand, outcome, none, q.1, q.2.1⟩ :=
  ⟨fun _ _ hxy => (nomatch hxy), fun f hf => (h f hf).excuses⟩

theorem Answers.failsWith {c : Currency} {a : Attempt Decimal} (h : d.Answers ttl c a q) :
    Attempt.FailsWith (d.FaultAt ttl q) (a.map fun _ => ()) := by
  cases a with
  | ok rate => exact Attempt.failsWith_ok ()
  | error f => exact Attempt.failsWith_error h

variable (hclock : ∀ i j, i ≤ j → (d.clock i).notAfter (d.clock j) = true)
  (hsource : ∀ c ≠ main, (d.source c main).Preserves A) (hallows : ∀ question, (d.allows question).Preserves A)
include hclock hsource hallows

theorem keeps_ensureAll (list : List Currency) (hp : d.InOrder A main ttl p) :
    (d.ensureAll list).Keeps (d.Advances A main ttl)
      (fun a q => d.InOrder A main ttl q ∧ Attempt.FailsWith (d.FaultAt ttl q) a) p := by
  induction list generalizing p with
  | nil => exact ⟨hp, Attempt.failsWith_ok ()⟩
  | cons c rest ih =>
    refine Job.Keeps.bind ((keeps_ensure hclock hsource hallows c hp).mono fun a q hq => ?_)
    cases a with
    | ok rate => exact ih hq.1
    | error f => exact ⟨hq.1, Attempt.failsWith_error hq.2⟩

theorem keeps_bothRates (alpha beta : Currency) (hp : d.InOrder A main ttl p) :
    (d.bothRates alpha beta).Keeps (d.Advances A main ttl) (fun a q => d.InOrder A main ttl q ∧
      match a with
      | .ok rates => 0 < rates.1.value ∧ 0 < rates.2.value
      | .error f => d.FaultAt ttl q f) p := by
  refine Job.Keeps.bind ((keeps_ensure hclock hsource hallows alpha hp).mono fun a q hq => ?_)
  cases a with
  | error f => exact hq
  | ok x =>
    refine Job.Keeps.bind ((keeps_ensure hclock hsource hallows beta hq.1).mono fun b q' hq' => ?_)
    cases b with
    | error f => exact hq'
    | ok y => exact ⟨hq'.1, Decimal.isPositive_iff.mp hq.2.1, Decimal.isPositive_iff.mp hq'.2.1⟩

theorem keeps_perform (errand : Errand) (hp : d.InOrder A main ttl p) :
    (d.perform errand).Keeps (d.Advances A main ttl)
      (fun a q => d.InOrder A main ttl q ∧ d.Sound ttl ⟨errand, a.1, a.2, q.1, q.2.1⟩) p := by
  have hnow : (d.clock p.1).notAfter (d.clock p.1) = true := Timestamp.notAfter_refl _
  cases errand with
  | ensure c =>
    refine Job.Keeps.bind ((keeps_ensure hclock hsource hallows c hp).mono fun a q hq => ?_)
    exact ⟨hq.1, sound_of_failsWith hq.2.failsWith _⟩
  | ensureAll list =>
    refine Job.Keeps.bind ((keeps_ensureAll hclock hsource hallows list hp).mono fun a q hq => ?_)
    exact ⟨hq.1, sound_of_failsWith hq.2 _⟩
  | rate alpha beta =>
    refine Job.Keeps.bind ((keeps_bothRates hclock hsource hallows alpha beta hp).mono fun a q hq => ⟨hq.1, ?_⟩)
    cases a with
    | error f => exact sound_of_failsWith (Attempt.failsWith_error hq.2) _
    | ok rates =>
      obtain ⟨x, y⟩ := rates
      obtain ⟨hx, hy⟩ := hq.2
      refine ⟨fun x' y' hxy => ?_, fun f hf => ?_⟩
      · cases hxy
        exact ⟨hx, hy⟩
      · cases hdiv : quotient alpha beta (x, y) with
        | ok rate =>
          simp only [Except.bind, hdiv] at hf
          cases hf
        | error f' =>
          simp only [Except.bind, hdiv] at hf
          cases hf
          obtain ⟨hnone, rfl⟩ := Attempt.ofOption_eq_error_iff.mp hdiv
          exact .inl (.tooLarge rfl rfl (quotientTooLarge_of_div hx hy hnone))
  | persist =>
    obtain ⟨hmain, httl, hrates⟩ := p.2.1.persist_keeps
    refine Job.Keeps.bind (keeps_onBook hp (hp.stands.goesOn hnow hmain httl hrates) fun hend => ⟨hend, ?_⟩)
    refine sound_of_failsWith (fun f hf => ?_) _
    rcases RateBook.persist_fault hf with rfl | ⟨rfl, hlarge⟩
    · exact .inl .file
    · exact .inr ⟨rfl, .inr hlarge⟩
  | edit place =>
    refine Job.Keeps.bind (keeps_onBook hp (hp.stands.goesOn hnow rfl rfl rfl) fun hend => ⟨hend, ?_⟩)
    exact sound_of_failsWith (Attempt.failsWith_ok ()) _
  | wait wake =>
    refine Job.Keeps.bind (Job.keeps_sleepUntil fun q hq => ⟨hp.wait hclock hq, ?_⟩)
    exact sound_of_failsWith (Attempt.failsWith_ok ()) _

theorem keeps_performAll (errands : List Errand) (hp : d.InOrder A main ttl p) :
    (d.performAll errands).Keeps (d.Advances A main ttl)
      (fun reports q => d.InOrder A main ttl q ∧ ∀ a ∈ reports, a.instant ≤ q.1 ∧ d.Sound ttl a) p := by
  induction errands generalizing p with
  | nil => exact ⟨hp, by simp⟩
  | cons errand rest ih =>
    refine Job.Keeps.bind (Job.Keeps.bind ((keeps_perform hclock hsource hallows errand hp).mono fun a q hq => ?_))
    refine Job.Keeps.bind ((ih hq.1).reaches.mono fun reports q' hq' => ⟨hq'.1.1, ?_⟩)
    have hle : q.1 ≤ q'.1 := (advances_of_reflTransGen hclock hq'.2).1
    exact List.forall_mem_cons.mpr ⟨⟨hle, hq.2⟩, hq'.1.2⟩

end

/-- At every moment the book stands. The rate between two currencies is the quotient of rates that have just been called
for, and whatever has been divided so far was above zero. What has failed so far has failed for want of a rate, by a
quotient that is too large, or because there was a rate in the book that is too large to be printed. -/
theorem steps_stand (d : RateDesk ρ) (hclock : ∀ i j, i ≤ j → (d.clock i).notAfter (d.clock j) = true) (ttl : Int)
    (main : Currency) (path : String) (file : RatePlace) (r : ρ) (clients : List (List Errand)) (limit now n : Nat) :
    let p := (Pool.start limit (clients.map d.logged.performAll) now (RateBook.ofMain main ttl path file, r, {})).steps n
    let book := p.state.1
    (∀ i ≤ p.now, (d.clock i).later? ttl ≠ none) →
      (∀ c e, book.entry? c = some e → 0 < e.value.value ∧ (c ≠ main → e.expires ≠ none)) ∧
      book.entry? main = some ⟨Decimal.one, none⟩ ∧ main ∉ p.state.2.2.requests ∧
      (∀ alpha beta f, book.exchange.rate alpha beta = .error f → book.LacksRate alpha beta f) ∧
      (∀ alpha beta, d.logged.rate alpha beta =
        do return (← d.logged.bothRates alpha beta).bind (quotient alpha beta)) ∧
      ∀ result ∈ p.results, ∀ a ∈ result.2,
        (∀ x y, a.divided = some (x, y) → 0 < x.value ∧ 0 < y.value) ∧ ∀ f, a.outcome = .error f → a.Fault f := by
  intro p book hdated
  let A := fun s : ρ × RateLog => main ∉ s.2.requests
  have hfirst : d.logged.InOrder A main ttl (now, RateBook.ofMain main ttl path file, r, {}) :=
    ⟨rfl, rfl, RateBook.stands_ofMain main ttl path file _, List.not_mem_nil⟩
  have hjobs : ∀ job ∈ clients.map d.logged.performAll, ∀ q, d.logged.InOrder A main ttl q →
      job.Keeps (d.logged.Advances A main ttl)
        (fun reports q => ∀ a ∈ reports, a.instant ≤ q.1 ∧ d.logged.Sound ttl a) q := by
    intro job hjob q hq
    obtain ⟨errands, -, rfl⟩ := List.mem_map.mp hjob
    have hkeeps := keeps_performAll (d := d.logged) hclock (fun c hc => d.logged_source_preserves hc)
      (fun question => d.logged_allows_preserves question main) errands hq
    exact hkeeps.mono fun _ _ h => h.2
  obtain ⟨horder, hsound⟩ := steps_keep (d := d.logged) hclock hjobs limit hfirst n
  have hstands : book.Stands (d.clock p.now) := horder.stands
  have hmain : book.main = main := horder.main_eq
  refine ⟨fun c e he => ⟨Decimal.isPositive_iff.mp (hstands.positive he), fun hc => ?_⟩, ?_, horder.outside,
    fun alpha beta f hf => hstands.exchange_rate hf, d.logged.rate_eq, fun result hresult a ha => ?_⟩
  · obtain ⟨-, expires, hexpires, -⟩ := hstands.other c (hmain ▸ hc) e he
    simp [hexpires]
  · exact hmain ▸ hstands.main
  · obtain ⟨q, hq, hreports⟩ := hsound result hresult
    obtain ⟨hinstant, hsound⟩ := hreports a ha
    refine ⟨hsound.divided, fun f hf => (hsound.outcome f hf).resolve_right fun hnever => ?_⟩
    exact hdated a.instant (Nat.le_trans hinstant hq) hnever.2

/-- A source with a rate below zero, a rate of zero, a good rate, and none. An instant of the clock is a second. -/
def moodyDesk : RateDesk Unit where
  source c _ := pure (match c with
    | .eur => .ok Decimal.two.neg
    | .gbp => .ok Decimal.zero
    | .pln => .ok (.ofUInt64 4)
    | _ => .error .cancelled)
  allows _ := pure true
  clock now := ⟨1767225600 + now, 0⟩

/-- Two clients, one of whom puts a folder in the place of the rate file. The other one comes back when the rates have
expired. -/
def moodyClients : List (List Errand) :=
  [[.ensureAll [.usd, .eur, .gbp], .persist, .rate .pln .eur, .wait 50000, .rate .pln .eur],
    [.wait 10, .edit .folder, .rate .usd .uah]]

theorem steps_stand_moody :
    let p := (Pool.start 2 (moodyClients.map moodyDesk.logged.performAll) 0
      (RateBook.ofMain .usd 43200 "rates.txt" (.text "EUR to USD 2.0000 (never)\n"), (), {})).steps 400
    p.now = 50000 ∧ (∀ i ≤ p.now, (moodyDesk.clock i).later? 43200 ≠ none) ∧
      (∃ e, RateBook.entry? p.state.1 .pln = some e ∧ 0 < e.value.value ∧ e.expires ≠ none) ∧
      p.state.2.2.requests = [.eur, .gbp, .pln, .uah, .pln, .eur] ∧ Currency.usd ∉ p.state.2.2.requests ∧
      p.results.length = 2 ∧ ∀ result ∈ p.results, ∀ a ∈ result.2, ∀ f, a.outcome = .error f → a.Fault f := by
  intro p
  have hclock (i j : Nat) : i ≤ j → (moodyDesk.clock i).notAfter (moodyDesk.clock j) = true := Timestamp.notAfter_add _ _ i j
  have hnow : p.now = 50000 := by decide +kernel
  have hdated : ∀ i ≤ p.now, (moodyDesk.clock i).later? 43200 ≠ none := by
    intro i hi
    have hseconds : (moodyDesk.clock i).seconds = 1767225600 + i := rfl
    have hlater : (moodyDesk.clock i).later? 43200 = _ := Timestamp.later?_of_le
      (by rw [hseconds, Timestamp.firstSecond]; omega) (by rw [hseconds, Timestamp.lastSecond]; omega)
    simp [hlater]
  obtain ⟨hentries, -, hmain, -, -, hreports⟩ := moodyDesk.steps_stand hclock 43200 .usd "rates.txt"
    (.text "EUR to USD 2.0000 (never)\n") () moodyClients 2 0 400 hdated
  have hzloty : (RateBook.entry? p.state.1 .pln).isSome = true := by decide +kernel
  obtain ⟨e, he⟩ := Option.isSome_iff_exists.mp hzloty
  obtain ⟨hpositive, hexpires⟩ := hentries .pln e he
  exact ⟨hnow, hdated, ⟨e, he, hpositive, hexpires (by decide)⟩, by decide +kernel, hmain, by decide +kernel,
    fun result hresult a ha => (hreports result hresult a ha).2⟩

def hugeDesk : RateDesk Unit where
  source _ _ := pure (.ok Decimal.huge)
  allows _ := pure false
  clock now := ⟨1767225600 + now, 0⟩

/-- The rate is above zero and can be dated, and the call breaks off when the book is written. -/
theorem huge_rate_breaks_off :
    let o := (hugeDesk.rate .eur .usd).run 0 (RateBook.ofMain .usd 43200 "rates.txt" .missing, ())
    (hugeDesk.clock o.instant).later? 43200 ≠ none ∧ o.value = .error .outOfRange := by
  decide +kernel

end RateDesk
end Storefront

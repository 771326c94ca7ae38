import Mathlib.Data.List.Induction
import Storefront.Proofs.Rates.Entry
import Storefront.Proofs.Rates.Freshness
import Storefront.Proofs.Rates.Log

/-! # One refresh for each window

A rate that has been refreshed counts for a time, its window. Until the window closes every call gives that rate out
and does nothing else, whatever other currencies are called for in between. The first call after that asks the source
once and puts one question at most. If it fails the others have their entries, and the currency has none; but a call that
breaks off when the book is written leaves the new rate in it.
-/
namespace Storefront.RateDesk
variable {ρ : Type} {d : RateDesk ρ} {c : Currency} {now : Nat} {b : RateBook} {r : ρ} {rate : Decimal}

theorem fallBack_takesIn (cause : String) :
    let o := (d.fallBack c cause).run now (b, r)
    b.TakesIn (d.clock o.instant) c (o.value, o.state.1) := by
  rw [run_fallBack]
  dsimp only
  split
  · exact b.acceptFromFile_takesIn _ c
  · exact .failed (.unavailable c _) rfl rfl rfl

theorem fetch_takesIn :
    let o := (d.fetch c).run now (b, r)
    b.TakesIn (d.clock o.instant) c (o.value, o.state.1) := by
  rw [run_fetch]
  dsimp only
  split
  · exact fallBack_takesIn _
  · split
    · rename_i hpositive
      exact b.record_takesIn _ c hpositive
    · exact fallBack_takesIn _

/-- The rate that does not count leaves the book before another one is taken in. -/
theorem ensure_takesIn (hstale : b.fresh? (d.clock now) c = none) :
    let o := (d.ensure c).run now (b, r)
    RateBook.TakesIn { b with rates := b.rates.erase c } (d.clock o.instant) c (o.value, o.state.1) := by
  rw [run_ensure_of_stale hstale]
  exact fetch_takesIn

theorem entry?_ensure_of_ne {c' : Currency} (hne : c' ≠ c) :
    RateBook.entry? ((d.ensure c).run now (b, r)).state.1 c' = b.entry? c' := by
  cases hfresh : b.fresh? (d.clock now) c with
  | some rate => rw [run_ensure_of_fresh hfresh]
  | none => rw [(ensure_takesIn hfresh).entry?_of_ne hne, b.entry?_erase, if_neg hne]

theorem entry?_ensure_of_error {f : Failure} (h : ((d.ensure c).run now (b, r)).value = .error f) :
    let b' := ((d.ensure c).run now (b, r)).state.1
    b'.entry? c = none ∨ f = .outOfRange ∧ ¬ b'.Printable ∧ (RateBook.entry? b' c).isSome = true := by
  cases hfresh : b.fresh? (d.clock now) c with
  | some rate =>
    rw [run_ensure_of_fresh hfresh] at h
    cases h
  | none =>
    have htakes := ensure_takesIn (r := r) hfresh
    dsimp only at htakes
    rw [h] at htakes
    refine htakes.entry?_of_error.imp_left fun hkept => ?_
    rw [hkept, b.entry?_erase, if_pos rfl]

theorem entry?_ensure_of_stale (hstale : b.fresh? (d.clock now) c = none)
    (h : ((d.ensure c).run now (b, r)).value = .ok rate) :
    let o := (d.ensure c).run now (b, r)
    RateBook.entry? o.state.1 c = some ⟨rate, some ((d.clock o.instant).addSeconds b.ttl)⟩ := by
  have htakes := ensure_takesIn (r := r) hstale
  generalize (d.ensure c).run now (b, r) = o at h htakes ⊢
  obtain ⟨value, later, b', r'⟩ := o
  obtain rfl : value = .ok rate := h
  cases htakes with
  | taken enters =>
    obtain ⟨expires, dated, entry⟩ := enters.dated
    refine (entry c).trans ?_
    rw [if_pos rfl, Timestamp.eq_addSeconds_of_later dated]

theorem log_ensure_of_stale (hstale : b.fresh? (d.clock now) c = none) (log : RateLog) :
    ∃ (questions : List String) (answer : RateAnswer), questions.length ≤ 1 ∧
      ((d.logged.ensure c).run now (b, r, log)).state.2.2 =
        ⟨log.requests ++ [c], log.questions ++ questions, log.answers ++ [answer]⟩ := by
  rw [run_ensure_of_stale (d := d.logged) hstale]
  obtain ⟨questions, answer, hquestions, hrun⟩ := d.run_logged_fetch c now { b with rates := b.rates.erase c } r log
  exact ⟨questions, answer, hquestions, by rw [hrun]⟩

section
variable {start : Nat} {windowEnd : Timestamp} {s : RateBook × ρ}

theorem run_ensureEach_concat (calls : List (Nat × Currency)) (begin : Nat) (c : Currency) :
    (d.ensureEach (calls ++ [(begin, c)])).run now s =
      let o := (d.ensureEach calls).run now s
      let p := (d.ensure c).run (max o.instant begin) o.state
      ⟨o.value ++ [p.value], p.instant, p.state⟩ := by
  rw [ensureEach, List.map_append]
  exact Job.run_inTurn_concat _ begin (d.ensure c) now s

/-- Each call for the currency is begun within the window. -/
def WithinWindow (d : RateDesk ρ) (windowEnd : Timestamp) (c : Currency) (calls : List (Nat × Currency)) (now : Nat)
    (s : RateBook × ρ) : Prop :=
  ∀ before begin after, calls = before ++ (begin, c) :: after →
    (d.clock (max ((d.ensureEach before).run now s).instant begin)).before windowEnd = true

theorem fresh?_of_before (hentry : b.entry? c = some ⟨rate, some windowEnd⟩)
    (hbefore : (d.clock now).before windowEnd = true) : b.fresh? (d.clock now) c = some rate := by
  refine RateBook.fresh?_of_entry hentry ?_
  simp [DatedRate.isExpiredAt, Timestamp.notAfter, hbefore]

/-- Calls for the currency within its window and calls for others keep its entry. -/
theorem entry?_ensureEach (hentry : RateBook.entry? s.1 c = some ⟨rate, some windowEnd⟩) {calls : List (Nat × Currency)}
    (hcalls : d.WithinWindow windowEnd c calls now s) :
    RateBook.entry? ((d.ensureEach calls).run now s).state.1 c = some ⟨rate, some windowEnd⟩ := by
  -- at the end of the list: of each call the window says that it begins in time after those before it
  induction calls using List.reverseRecOn with
  | nil => exact hentry
  | append_singleton calls call ih =>
    obtain ⟨begin, c'⟩ := call
    have hbefore : d.WithinWindow windowEnd c calls now s := by
      intro before begin' after heq
      exact hcalls before begin' (after ++ [(begin, c')]) (by simp [heq])
    have hkept := ih hbefore
    rw [run_ensureEach_concat]
    dsimp only
    by_cases hc : c' = c
    · subst hc
      have hwithin := hcalls calls begin [] rfl
      rw [run_ensure_of_fresh (fresh?_of_before hkept hwithin)]
      exact hkept
    · rw [entry?_ensure_of_ne (Ne.symm hc)]
      exact hkept

variable (hclock : ∀ i j, i ≤ j → (d.clock i).notAfter (d.clock j) = true)
include hclock

theorem withinWindow_of_before {calls : List (Nat × Currency)} {begin : Nat}
    (hbegin : ((d.ensureEach calls).run now s).instant ≤ begin) (hbefore : (d.clock begin).before windowEnd = true) :
    d.WithinWindow windowEnd c calls now s := by
  intro before begin' after heq
  refine Timestamp.before_of_notAfter (hclock _ _ ?_) hbefore
  refine Nat.le_trans ?_ hbegin
  have hrest : (d.ensureEach calls).run now s =
      let o := (d.ensureEach before).run now s
      let p := (d.ensureEach ((begin', c) :: after)).run o.instant o.state
      ⟨o.value ++ p.value, p.instant, p.state⟩ := by
    rw [heq, ensureEach, List.map_append]
    exact Job.run_inTurn_append _ _ now s
  rw [hrest]
  simp only [ensureEach, List.map_cons, Job.inTurn, Job.run_seq, Job.run_sleepUntil]
  refine Nat.le_trans ?_ (Job.le_instant _ _ _)
  refine Nat.le_trans ?_ (Job.le_instant _ _ _)
  exact Job.le_instant _ _ _

end

/-- Until the window closes a call gives the rate out that has been refreshed, whatever the rate file is, and changes
nothing. The first call from then on asks the source once and puts one question at most. If it fails, the others have
their entries, and the currency has none unless the call broke off when the new rate had been entered, because there is a
rate in the book that is too large to be printed. -/
theorem ensure_once_each_window (d : RateDesk ρ) (hclock : ∀ i j, i ≤ j → (d.clock i).notAfter (d.clock j) = true)
    (c : Currency) (b : RateBook) (hpositive : 0 < b.ttl) (r : ρ) (log : RateLog) (start : Nat)
    (hstale : b.fresh? (d.clock start) c = none) (rate : Decimal)
    (hrate : ((d.logged.ensure c).run start (b, r, log)).value = .ok rate) (calls : List (Nat × Currency)) (begin : Nat) :
    let o := (d.logged.ensure c).run start (b, r, log)
    let windowEnd := (d.clock o.instant).addSeconds b.ttl
    let p := (d.logged.ensureEach calls).run o.instant o.state
    (d.clock o.instant).before windowEnd = true ∧ (p.instant ≤ begin →
      ((d.clock begin).before windowEnd = true → ∀ file : RatePlace,
        let s := ({ p.state.1 with file := file }, p.state.2)
        (d.logged.ensure c).run begin s = ⟨.ok rate, begin, s⟩) ∧
      (windowEnd.notAfter (d.clock begin) = true → d.logged.WithinWindow windowEnd c calls o.instant o.state →
        let q := (d.logged.ensure c).run begin p.state
        q.state.2.2.requests = p.state.2.2.requests ++ [c] ∧
        (∃ questions : List String, questions.length ≤ 1 ∧
          q.state.2.2.questions = p.state.2.2.questions ++ questions) ∧
        ∀ f, q.value = .error f →
          (RateBook.entry? q.state.1 c = none ∨
            f = .outOfRange ∧ ¬ RateBook.Printable q.state.1 ∧ (RateBook.entry? q.state.1 c).isSome = true) ∧
          ∀ c' ≠ c, RateBook.entry? q.state.1 c' = RateBook.entry? p.state.1 c')) := by
  intro o windowEnd p
  have hopened : RateBook.entry? o.state.1 c = some ⟨rate, some windowEnd⟩ :=
    entry?_ensure_of_stale (d := d.logged) (r := (r, log)) hstale hrate
  refine ⟨?_, fun hbegin => ⟨fun hbefore file => ?_, fun hclosed hcalls => ?_⟩⟩
  · rw [Timestamp.before_iff]
    simp only [windowEnd, Timestamp.addSeconds]
    omega
  · have hcalls : d.logged.WithinWindow windowEnd c calls o.instant o.state :=
      withinWindow_of_before (d := d.logged) hclock hbegin hbefore
    have hentry : RateBook.entry? p.state.1 c = some ⟨rate, some windowEnd⟩ := entry?_ensureEach hopened hcalls
    exact run_ensure_of_fresh (fresh?_of_before (d := d.logged) hentry hbefore)
  · have hentry : RateBook.entry? p.state.1 c = some ⟨rate, some windowEnd⟩ := entry?_ensureEach hopened hcalls
    have hnone : p.state.1.fresh? (d.clock begin) c = none := by
      simp [RateBook.fresh?, hentry, Option.filter, DatedRate.isExpiredAt, hclosed]
    obtain ⟨questions, answer, hquestions, hlog⟩ :=
      log_ensure_of_stale (d := d) (b := p.state.1) (r := p.state.2.1) hnone p.state.2.2
    intro q
    have hlog : q.state.2.2 = ⟨p.state.2.2.requests ++ [c], p.state.2.2.questions ++ questions,
      p.state.2.2.answers ++ [answer]⟩ := hlog
    rw [hlog]
    refine ⟨rfl, ⟨questions, hquestions, rfl⟩, fun f hf => ⟨entry?_ensure_of_error hf, fun c' hc' => ?_⟩⟩
    exact entry?_ensure_of_ne hc'

def forgetfulDesk : RateDesk Bool where
  source c _ := Job.act fun _ told => (if c = .eur ∧ !told then .ok Decimal.two else .error .cancelled, c == .eur || told)
  allows _ := pure true
  clock now := ⟨1767225600 + now, 0⟩

theorem ensure_once_each_window_forgetful :
    let o := (forgetfulDesk.logged.ensure .eur).run 0 (RateBook.ofMain .usd 60 "rates.txt" .folder, false, {})
    let p := (forgetfulDesk.logged.ensureEach [(10, .gbp), (20, .eur)]).run o.instant o.state
    let s := ({ p.state.1 with file := .missing }, p.state.2)
    let q := (forgetfulDesk.logged.ensure .eur).run 60 p.state
    (forgetfulDesk.logged.ensure .eur).run 59 s = ⟨.ok Decimal.two, 59, s⟩ ∧
      q.state.2.2.requests = p.state.2.2.requests ++ [.eur] ∧ RateBook.entry? q.state.1 .eur = none := by
  have hclock (i j : Nat) : i ≤ j → (forgetfulDesk.clock i).notAfter (forgetfulDesk.clock j) = true := Timestamp.notAfter_add _ _ i j
  have honce := forgetfulDesk.ensure_once_each_window hclock .eur (RateBook.ofMain .usd 60 "rates.txt" .folder)
    (by decide) false {} 0 (by decide +kernel) Decimal.two (by decide +kernel) [(10, .gbp), (20, .eur)]
  dsimp only at honce ⊢
  generalize ho : (forgetfulDesk.logged.ensure .eur).run 0 (RateBook.ofMain .usd 60 "rates.txt" .folder, false, {}) = o
    at honce ⊢
  generalize hp : (forgetfulDesk.logged.ensureEach [(10, .gbp), (20, .eur)]).run o.instant o.state = p at honce ⊢
  have hopen : p.instant ≤ 59 := by
    rw [← hp, ← ho]
    decide +kernel
  have hanswered : o.instant = 0 := by
    rw [← ho]
    decide +kernel
  have hfails : ((forgetfulDesk.logged.ensure .eur).run 60 p.state).value = .error .file := by
    rw [← hp, ← ho]
    decide +kernel
  have hbefore : (forgetfulDesk.clock 59).before ((forgetfulDesk.clock o.instant).addSeconds 60) = true := by
    rw [hanswered]
    decide +kernel
  have hclosed : ((forgetfulDesk.clock o.instant).addSeconds 60).notAfter (forgetfulDesk.clock 60) = true := by
    rw [hanswered]
    decide +kernel
  have hcalls : forgetfulDesk.logged.WithinWindow ((forgetfulDesk.clock o.instant).addSeconds 60) .eur
      [(10, .gbp), (20, .eur)] o.instant o.state :=
    withinWindow_of_before (d := forgetfulDesk.logged) hclock (hp ▸ hopen) hbefore
  obtain ⟨hwithin, -⟩ := (honce 59).2 hopen
  obtain ⟨-, hafter⟩ := (honce 60).2 (Nat.le_succ_of_le hopen)
  obtain ⟨hrequests, -, hgone⟩ := hafter hclosed hcalls
  have hnone := (hgone .file hfails).1.resolve_right fun hlarge => nomatch hlarge.1
  exact ⟨hwithin hbefore .missing, hrequests, hnone⟩

def growingDesk : RateDesk Bool where
  source _ _ := Job.act fun _ grown => (.ok (if grown then Decimal.huge else Decimal.two), true)
  allows _ := pure true
  clock now := ⟨1767225600 + now, 0⟩

/-- The call after the window fails and leaves an entry. -/
theorem grown_rate_stays :
    let o := (growingDesk.ensure .eur).run 0 (RateBook.ofMain .usd 60 "rates.txt" .missing, false)
    let q := (growingDesk.ensure .eur).run 60 o.state
    o.value = .ok Decimal.two ∧ o.instant = 0 ∧ q.value = .error .outOfRange ∧
      (RateBook.entry? q.state.1 .eur).isSome = true := by
  decide +kernel

end Storefront.RateDesk

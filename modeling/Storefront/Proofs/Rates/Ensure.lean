import Storefront.Proofs.Job.Run
import Storefront.Proofs.Rates.File
import Storefront.Proofs.Time.Order
import Storefront.Rates.Refresh

/-! # What a call for a rate comes to

Where the file settles nothing, a call for a rate that does not count asks the source once. What the source
has is given out and entered in the book with the time that rates count for, as far as it can be dated. If a rate of the
book is too large to be printed, the call breaks off when the book is written.
-/
namespace Storefront
namespace RateBook
variable {b : RateBook} {now expires : Timestamp}

theorem entry?_insert (b : RateBook) (c c' : Currency) (r : DatedRate) :
    RateBook.entry? (b.insert c r) c' = if c' = c then some r else b.entry? c' := b.rates.get?_insert c c' r

theorem entry?_erase (b : RateBook) (c c' : Currency) :
    RateBook.entry? { b with rates := b.rates.erase c } c' = if c' = c then none else b.entry? c' :=
  b.rates.get?_erase c c'

theorem printable_ofMain (main : Currency) (ttl : Int) (path : String) (file : RatePlace) :
    (ofMain main ttl path file).Printable := by
  have hone : Decimal.one.HasRoom 4 := by decide
  intro c r hr
  rw [ofMain, entry?, Table.get?_insert] at hr
  split at hr
  · cases hr
    exact hone
  · cases hr

theorem Printable.insert (h : b.Printable) (c : Currency) {r : DatedRate} (hr : r.value.HasRoom 4) :
    (b.insert c r).Printable := by
  intro c' r' hr'
  rw [entry?_insert] at hr'
  split at hr'
  · cases hr'
    exact hr
  · exact h c' r' hr'

theorem Printable.erase (h : b.Printable) (c : Currency) :
    RateBook.Printable { b with rates := b.rates.erase c } := by
  intro c' r' hr'
  rw [entry?_erase] at hr'
  split at hr'
  · cases hr'
  · exact h c' r' hr'

/-- A rate that can be dated is entered, and then the book is written if it can be printed. -/
theorem record_of_later (h : now.later? b.ttl = some expires) (c : Currency) (rate : Decimal) :
    ∃ b' : RateBook, b.record now c rate =
        (if (b.insert c ⟨rate, some expires⟩).Printable then .ok rate else .error .outOfRange, b') ∧
      b'.main = b.main ∧ b'.ttl = b.ttl ∧
      ∀ c', b'.entry? c' = if c' = c then some ⟨rate, some expires⟩ else b.entry? c' := by
  simp only [record, accept, h]
  by_cases hprints : (b.insert c ⟨rate, some expires⟩).Printable
  · rw [persist_of_printable hprints, if_pos hprints]
    by_cases hfolder : b.file = .folder
    · rw [writeFile_of_folder (b := b.insert c _) hfolder]
      exact ⟨_, rfl, rfl, rfl, fun c' => b.entry?_insert c c' _⟩
    · rw [writeFile_of_ne_folder (b := b.insert c _) hfolder]
      exact ⟨_, rfl, rfl, rfl, fun c' => b.entry?_insert c c' _⟩
  · rw [persist_of_not_printable hprints, if_neg hprints]
    exact ⟨_, rfl, rfl, rfl, fun c' => b.entry?_insert c c' _⟩

theorem record_of_not_later (h : now.later? b.ttl = none) (c : Currency) (rate : Decimal) :
    b.record now c rate = (.error .outOfRange, b) := by
  simp only [record, accept, h]

theorem claim_of_some {c : Currency} {rate : Decimal} (h : b.fresh? now c = some rate) :
    b.claim now c = (some rate, b) := by
  rw [claim, h]

theorem claim_of_none {c : Currency} (h : b.fresh? now c = none) :
    b.claim now c = (none, { b with rates := b.rates.erase c }) := by
  rw [claim, h]

end RateBook

namespace RateDesk
variable {ρ : Type} {d : RateDesk ρ} {c : Currency} {now : Nat} {b : RateBook} {r : ρ} {rate : Decimal}

theorem run_onBook {α : Type} (g : Timestamp → RateBook → α × RateBook) (now : Nat) (b : RateBook) (r : ρ) :
    (d.onBook g).run now (b, r) = ⟨(g (d.clock now) b).1, now, ((g (d.clock now) b).2, r)⟩ := by
  rw [onBook, Job.run_onFirst, Job.run_act]

theorem run_fallBack (c : Currency) (cause : String) (now : Nat) (b : RateBook) (r : ρ) :
    (d.fallBack c cause).run now (b, r) =
      let o := (d.allows (question c cause b.path)).run now r
      if o.value then
        let accepted := b.acceptFromFile (d.clock o.instant) c
        ⟨accepted.1, o.instant, (accepted.2, o.state)⟩
      else ⟨.error (.rateUnavailable c (.denied cause)), o.instant, (b, o.state)⟩ := by
  simp only [fallBack, Job.run_seq, Job.run_view, Job.run_holding, Job.run_onSecond, Job.run_pure, Job.run_rest]
  split
  · rw [run_onBook]
  · rfl

theorem run_fetch (c : Currency) (now : Nat) (b : RateBook) (r : ρ) :
    (d.fetch c).run now (b, r) =
      let o := (d.source c b.main).run now r
      match o.value with
      | .error f => (d.fallBack c f.message).run o.instant (b, o.state)
      | .ok rate =>
        if rate.isPositive then
          let recorded := b.record (d.clock o.instant) c rate
          ⟨recorded.1, o.instant, (recorded.2, o.state)⟩
        else (d.fallBack c s!"source returned non-positive rate {rate}").run o.instant (b, o.state) := by
  simp only [fetch, Job.run_seq, Job.run_view, Job.run_onSecond]
  generalize (d.source c b.main).run now r = o
  cases o.value with
  | error f => rfl
  | ok rate =>
    dsimp only
    by_cases hpositive : rate.isPositive = true
    · rw [if_pos hpositive, if_pos hpositive, run_onBook]
    · rw [if_neg hpositive, if_neg hpositive]

/-- A rate that counts is given out; one that does not leaves the book and is fetched. -/
theorem run_ensure (c : Currency) (now : Nat) (b : RateBook) (r : ρ) :
    (d.ensure c).run now (b, r) = match b.fresh? (d.clock now) c with
      | some rate => ⟨.ok rate, now, (b, r)⟩
      | none => (d.fetch c).run now ({ b with rates := b.rates.erase c }, r) := by
  rw [ensure, Job.run_seq, Job.run_view]
  dsimp only
  cases hfresh : b.fresh? (d.clock now) c with
  | some rate => rfl
  | none =>
    simp only [Job.run_holding, refresh, Job.run_seq, run_onBook, RateBook.claim_of_none hfresh]

theorem run_ensure_of_fresh (h : b.fresh? (d.clock now) c = some rate) :
    (d.ensure c).run now (b, r) = ⟨.ok rate, now, (b, r)⟩ := by
  rw [run_ensure, h]

theorem run_ensure_of_stale (h : b.fresh? (d.clock now) c = none) :
    (d.ensure c).run now (b, r) = (d.fetch c).run now ({ b with rates := b.rates.erase c }, r) := by
  rw [run_ensure, h]

section Denied
variable (hdenies : ∀ question, d.allows question = pure false)
include hdenies

theorem run_fallBack_of_denied (c : Currency) (cause : String) (now : Nat) (b : RateBook) (r : ρ) :
    (d.fallBack c cause).run now (b, r) = ⟨.error (.rateUnavailable c (.denied cause)), now, (b, r)⟩ := by
  rw [run_fallBack, hdenies, Job.run_pure]
  rfl

theorem run_ensure_of_denied (c : Currency) (now : Nat) (b : RateBook) (r : ρ) :
    (d.ensure c).run now (b, r) = match b.fresh? (d.clock now) c with
      | some rate => ⟨.ok rate, now, (b, r)⟩
      | none =>
        let o := (d.source c b.main).run now r
        let b' : RateBook := { b with rates := b.rates.erase c }
        match o.value with
        | .error f => ⟨.error (.rateUnavailable c (.denied f.message)), o.instant, (b', o.state)⟩
        | .ok rate =>
          if rate.isPositive then
            let recorded := b'.record (d.clock o.instant) c rate
            ⟨recorded.1, o.instant, (recorded.2, o.state)⟩
          else
            ⟨.error (.rateUnavailable c (.denied s!"source returned non-positive rate {rate}")), o.instant,
              (b', o.state)⟩ := by
  simp only [run_ensure, run_fetch, run_fallBack_of_denied hdenies]

theorem fresh?_of_ensure (hpositive : 0 < b.ttl) (h : ((d.ensure c).run now (b, r)).value = .ok rate) :
    let o := (d.ensure c).run now (b, r)
    o.state.1.fresh? (d.clock o.instant) c = some rate := by
  revert h
  rw [run_ensure_of_denied hdenies]
  cases hfresh : b.fresh? (d.clock now) c with
  | some rate' =>
    intro h
    cases h
    exact hfresh
  | none =>
    generalize (d.source c b.main).run now r = o
    generalize hb' : ({ b with rates := b.rates.erase c } : RateBook) = b'
    rw [show b.ttl = b'.ttl by rw [← hb']] at hpositive
    cases hvalue : o.value with
    | error failure => simp [hvalue]
    | ok rate' =>
      by_cases hrate : rate'.isPositive = true
      · simp only [hvalue, if_pos hrate]
        cases hlater : (d.clock o.instant).later? b'.ttl with
        | none => simp [RateBook.record_of_not_later hlater]
        | some expires =>
          obtain ⟨b₂, hrecord, -, -, hentry⟩ := RateBook.record_of_later hlater c rate'
          have hcounts : expires.notAfter (d.clock o.instant) = false := by
            rw [Timestamp.eq_addSeconds_of_later hlater, ← Bool.not_eq_true, Timestamp.notAfter_iff]
            simp only [Timestamp.addSeconds]
            omega
          rw [hrecord]
          split
          · simp [RateBook.fresh?, hentry, Option.filter, DatedRate.isExpiredAt, hcounts]
          · rintro ⟨⟩
      · simp [hvalue, hrate]

theorem exists_run_ensure_of_source {later : Nat} {r' : ρ} {expires : Timestamp}
    (hnone : b.fresh? (d.clock now) c = none) (hsource : (d.source c b.main).run now r = ⟨.ok rate, later, r'⟩)
    (hpositive : rate.isPositive = true) (hlater : (d.clock later).later? b.ttl = some expires)
    (hprints : b.Printable) (hroom : rate.HasRoom 4) :
    ∃ b', (d.ensure c).run now (b, r) = ⟨.ok rate, later, (b', r')⟩ ∧ b'.main = b.main ∧ b'.ttl = b.ttl ∧
      b'.entry? c = some ⟨rate, some expires⟩ ∧ b'.Printable := by
  have hprints : (RateBook.insert { b with rates := b.rates.erase c } c ⟨rate, some expires⟩).Printable :=
    (hprints.erase c).insert c hroom
  obtain ⟨b', hrecord, hmain, httl, hentry⟩ :=
    RateBook.record_of_later (b := { b with rates := b.rates.erase c }) hlater c rate
  rw [if_pos hprints] at hrecord
  refine ⟨b', ?_, hmain, httl, (hentry c).trans (if_pos rfl), fun c' r' hr' => hprints c' r' ?_⟩
  · simp only [run_ensure_of_denied hdenies, hnone, hsource, if_pos hpositive, hrecord]
  · rwa [RateBook.entry?_insert, ← hentry]

end Denied
end RateDesk
end Storefront

import Storefront.Proofs.Job.Keeps
import Storefront.Proofs.Rates.Ensure

/-! # What a desk asks

A desk can keep a log of the currencies that its source is asked for, of the questions that are put, and of what the
source answers. It does nothing else than without one: to fetch a rate it asks the source once, and puts one question at
most.
-/
namespace Storefront

structure RateAnswer where
  time : Timestamp
  currency : Currency
  answer : Attempt Decimal

structure RateLog where
  requests : List Currency := []
  questions : List String := []
  answers : List RateAnswer := []

namespace RateDesk
variable {ρ : Type}

/-- The same desk with a log. -/
def logged (d : RateDesk ρ) : RateDesk (ρ × RateLog) where
  source c main := do
    Job.modify fun s => (s.1, { s.2 with requests := s.2.requests ++ [c] })
    let answer ← (d.source c main).onFirst
    Job.act fun now s => (answer, (s.1, { s.2 with answers := s.2.answers ++ [⟨d.clock now, c, answer⟩] }))
  allows question := do
    Job.modify fun s => (s.1, { s.2 with questions := s.2.questions ++ [question] })
    (d.allows question).onFirst
  clock := d.clock

theorem logged_source_preserves (d : RateDesk ρ) {c main : Currency} (hc : c ≠ main) :
    (d.logged.source c main).Preserves fun s => main ∉ s.2.requests := by
  intro p hp
  have hadded : main ∉ p.2.2.requests ++ [c] := by
    simp [hp, Ne.symm hc]
  refine Job.Keeps.bind ⟨fun _ => hadded, Job.Keeps.bind ?_⟩
  refine (Job.preserves_onFirst (d.source c main) (fun log : RateLog => main ∉ log.requests) _ hadded).mono fun _ q hq => ?_
  exact ⟨id, hq⟩

theorem logged_allows_preserves (d : RateDesk ρ) (question : String) (main : Currency) :
    (d.logged.allows question).Preserves fun s => main ∉ s.2.requests := by
  intro p hp
  refine Job.Keeps.bind ⟨id, ?_⟩
  exact Job.preserves_onFirst (d.allows question) (fun log : RateLog => main ∉ log.requests) _ hp

section
variable (d : RateDesk ρ) (c : Currency) (now : Nat) (b : RateBook) (r : ρ) (log : RateLog)

theorem run_logged_source (main : Currency) : (d.logged.source c main).run now (r, log) =
    let o := (d.source c main).run now r
    ⟨o.value, o.instant, (o.state, { log with
      requests := log.requests ++ [c], answers := log.answers ++ [⟨d.clock o.instant, c, o.value⟩] })⟩ := by
  simp only [logged, Job.run_seq, Job.modify, Job.run_act, Job.run_onFirst]

theorem run_logged_allows (question : String) : (d.logged.allows question).run now (r, log) =
    let o := (d.allows question).run now r
    ⟨o.value, o.instant, (o.state, { log with questions := log.questions ++ [question] })⟩ := by
  simp only [logged, Job.run_seq, Job.modify, Job.run_act, Job.run_onFirst]

theorem run_logged_fallBack (cause : String) : (d.logged.fallBack c cause).run now (b, r, log) =
    let o := (d.fallBack c cause).run now (b, r)
    ⟨o.value, o.instant, o.state.1, o.state.2,
      { log with questions := log.questions ++ [question c cause b.path] }⟩ := by
  simp only [run_fallBack, run_logged_allows, show d.logged.clock = d.clock from rfl]
  split <;> rfl

theorem run_logged_fetch : ∃ (questions : List String) (answer : RateAnswer), questions.length ≤ 1 ∧
    (d.logged.fetch c).run now (b, r, log) =
      let o := (d.fetch c).run now (b, r)
      ⟨o.value, o.instant, o.state.1, o.state.2,
        ⟨log.requests ++ [c], log.questions ++ questions, log.answers ++ [answer]⟩⟩ := by
  simp only [run_fetch, run_logged_source, run_logged_fallBack, show d.logged.clock = d.clock from rfl]
  generalize (d.source c b.main).run now r = o
  cases hvalue : o.value with
  | error f => exact ⟨[question c f.message b.path], _, Nat.le_refl 1, rfl⟩
  | ok rate =>
    by_cases hpositive : rate.isPositive = true
    · exact ⟨[], ⟨d.clock o.instant, c, .ok rate⟩, Nat.zero_le 1, by simp [hpositive]⟩
    · exact ⟨[question c s!"source returned non-positive rate {rate}" b.path], ⟨d.clock o.instant, c, .ok rate⟩,
        Nat.le_refl 1, by simp [hpositive]⟩

end
end RateDesk
end Storefront

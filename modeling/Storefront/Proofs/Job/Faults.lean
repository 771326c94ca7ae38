import Storefront.Proofs.Attempt
import Storefront.Proofs.Job.Keeps
import Storefront.Proofs.Job.Run

/-! # How jobs can fail

What a job may come to is what its parts may come to, whatever they read of a state that other jobs write too. So its
failures are those of its parts. A job by itself comes to one of the things that it may come to.
-/
namespace Storefront.Job
variable {κ σ τ α β : Type}

theorem Yields.exists_of_bind {job : Job κ σ α} {f : α → Job κ σ β} {b : β} (h : (job >>= f).Yields b) :
    ∃ a, job.Yields a ∧ (f a).Yields b := by
  change (job.bind f).Yields b at h
  induction job with
  | done a => exact ⟨a, rfl, h⟩
  | read next ih =>
    obtain ⟨now, s, h⟩ := h
    obtain ⟨a, ha, hb⟩ := ih now s h
    exact ⟨a, ⟨now, s, ha⟩, hb⟩
  | write s next ih => exact ih h
  | sleep wake next ih => exact ih h
  | pause next ih => exact ih h
  | lock key next ih => exact ih h
  | unlock key next ih => exact ih h

theorem Yields.of_within {get : τ → σ} {set : σ → τ → τ} {job : Job κ σ α} {a : α}
    (h : (job.within get set).Yields a) : job.Yields a := by
  induction job with
  | done b => exact h
  | read next ih =>
    obtain ⟨now, t, h⟩ := h
    exact ⟨now, get t, ih now (get t) h⟩
  | write s next ih =>
    obtain ⟨now, t, hnext⟩ := h
    exact ih hnext
  | sleep wake next ih => exact ih h
  | pause next ih => exact ih h
  | lock key next ih => exact ih h
  | unlock key next ih => exact ih h

theorem yields_run (job : Job κ σ α) (now : Nat) (s : σ) : job.Yields (job.run now s).value := by
  induction job generalizing now s with
  | done a => rfl
  | read next ih => exact ⟨now, s, ih now s now s⟩
  | write s' next ih => exact ih now s'
  | sleep wake next ih => exact ih (max now wake) s
  | pause next ih => exact ih now s
  | lock key next ih => exact ih now s
  | unlock key next ih => exact ih now s

/-- Whether a job succeeds or fails in one of these ways, whatever the others do meanwhile. -/
def FailsWith (P : Failure → Prop) (job : Job κ σ (Attempt α)) : Prop := ∀ a, job.Yields a → Attempt.FailsWith P a

section
variable {P : Failure → Prop}

theorem failsWith_pure {a : Attempt α} (h : Attempt.FailsWith P a) : (pure a : Job κ σ (Attempt α)).FailsWith P := by
  intro b hb
  obtain rfl : a = b := hb
  exact h

theorem failsWith_ok (x : α) : (pure (.ok x) : Job κ σ (Attempt α)).FailsWith P :=
  failsWith_pure (Attempt.failsWith_ok x)

theorem failsWith_error {f : Failure} (h : P f) : (pure (.error f) : Job κ σ (Attempt α)).FailsWith P :=
  failsWith_pure (Attempt.failsWith_error h)

theorem failsWith_view {f : Nat → σ → Attempt α} (h : ∀ now s, Attempt.FailsWith P (f now s)) :
    (view f : Job κ σ (Attempt α)).FailsWith P := by
  rintro a ⟨now, s, ha⟩
  obtain rfl : f now s = a := ha
  exact h now s

theorem failsWith_act {f : Nat → σ → Attempt α × σ} (h : ∀ now s, Attempt.FailsWith P (f now s).1) :
    (act f : Job κ σ (Attempt α)).FailsWith P := by
  rintro a ⟨now, s, ha⟩
  obtain rfl : (f now s).1 = a := ha
  exact h now s

theorem FailsWith.bind_of {job : Job κ σ β} {f : β → Job κ σ (Attempt α)}
    (h : ∀ b, job.Yields b → (f b).FailsWith P) : (job >>= f).FailsWith P := by
  intro a ha
  obtain ⟨b, hb, ha⟩ := ha.exists_of_bind
  exact h b hb a ha

theorem FailsWith.bind {job : Job κ σ β} {f : β → Job κ σ (Attempt α)} (h : ∀ b, (f b).FailsWith P) :
    (job >>= f).FailsWith P := .bind_of fun b _ => h b

theorem FailsWith.within {get : τ → σ} {set : σ → τ → τ} {job : Job κ σ (Attempt α)} (h : job.FailsWith P) :
    (job.within get set).FailsWith P := fun a ha => h a ha.of_within

theorem FailsWith.holding {key : κ} {job : Job κ σ (Attempt α)} (h : job.FailsWith P) :
    (holding key job).FailsWith P := by
  intro a ha
  obtain ⟨b, hb, ha⟩ := Yields.exists_of_bind (f := fun b => unlock key (done b)) ha
  obtain rfl : b = a := ha
  exact h b hb

end

end Storefront.Job

import Mathlib.Order.BooleanAlgebra.Set
import Storefront.Job.Basic

/-! # Jobs that take their locks in order

Every lock has a rank. A job climbs if it takes a lock only above all that it holds, and gives back only what it
holds. Jobs that climb are never in a circle in which each waits for the next.
-/
namespace Storefront.Job
variable {κ σ τ α β : Type} {rank : κ → Nat} {held mid after : Set κ}

/-- From the locks that it holds, a job climbs until it is done and holds those of `after`. -/
def Climbs (rank : κ → Nat) (after : Set κ) : Job κ σ α → Set κ → Prop
  | done _, held => held = after
  | read next, held => ∀ now s, Climbs rank after (next now s) held
  | write _ next, held => Climbs rank after next held
  | sleep _ next, held => Climbs rank after next held
  | pause next, held => Climbs rank after next held
  | lock key next, held => (∀ k ∈ held, rank k < rank key) ∧ Climbs rank after next (insert key held)
  | unlock key next, held => key ∈ held ∧ Climbs rank after next (held \ {key})

theorem Climbs.bind {job : Job κ σ α} {f : α → Job κ σ β} (h : job.Climbs rank mid held)
    (hf : ∀ a, (f a).Climbs rank after mid) : (job >>= f).Climbs rank after held := by
  change (job.bind f).Climbs rank after held
  induction job generalizing held with
  | done a =>
    cases h
    exact hf a
  | read next ih => exact fun now s => ih now s (h now s)
  | write s next ih => exact ih h
  | sleep wake next ih => exact ih h
  | pause next ih => exact ih h
  | lock key next ih => exact ⟨h.1, ih h.2⟩
  | unlock key next ih => exact ⟨h.1, ih h.2⟩

theorem Climbs.within {get : τ → σ} {set : σ → τ → τ} {job : Job κ σ α} (h : job.Climbs rank after held) :
    (job.within get set).Climbs rank after held := by
  induction job generalizing held with
  | done a => exact h
  | read next ih => exact fun now t => ih now (get t) (h now (get t))
  | write s next ih => exact fun _ _ => ih h
  | sleep wake next ih => exact ih h
  | pause next ih => exact ih h
  | lock key next ih => exact ⟨h.1, ih h.2⟩
  | unlock key next ih => exact ⟨h.1, ih h.2⟩

theorem climbs_holding {key : κ} {job : Job κ σ α} (hkey : ∀ k ∈ held, rank k < rank key)
    (hjob : job.Climbs rank (insert key held) (insert key held)) : (holding key job).Climbs rank held held := by
  have hfree : key ∉ held := fun hmem => absurd (hkey key hmem) (Nat.lt_irrefl _)
  exact ⟨hkey, hjob.bind fun a => ⟨Set.mem_insert key held, Set.insert_sdiff_self_of_notMem hfree⟩⟩

def Lockless : Job κ σ α → Prop
  | done _ => True
  | read next => ∀ now s, Lockless (next now s)
  | write _ next => Lockless next
  | sleep _ next => Lockless next
  | pause next => Lockless next
  | lock _ _ => False
  | unlock _ _ => False

theorem Lockless.climbs {job : Job κ σ α} (h : job.Lockless) (rank : κ → Nat) (held : Set κ) :
    job.Climbs rank held held := by
  induction job with
  | done a => rfl
  | read next ih => exact fun now s => ih now s (h now s)
  | write s next ih => exact ih h
  | sleep wake next ih => exact ih h
  | pause next ih => exact ih h
  | lock key next => exact h.elim
  | unlock key next => exact h.elim

theorem Lockless.bind {job : Job κ σ α} {f : α → Job κ σ β} (h : job.Lockless) (hf : ∀ a, (f a).Lockless) :
    (job >>= f).Lockless := by
  change (job.bind f).Lockless
  induction job with
  | done a => exact hf a
  | read next ih => exact fun now s => ih now s (h now s)
  | write s next ih => exact ih h
  | sleep wake next ih => exact ih h
  | pause next ih => exact ih h
  | lock key next => exact h.elim
  | unlock key next => exact h.elim

theorem lockless_pure (a : α) : (pure a : Job κ σ α).Lockless := trivial

theorem lockless_act (f : Nat → σ → α × σ) : (act f : Job κ σ α).Lockless := fun _ _ => trivial

theorem lockless_view (f : Nat → σ → α) : (view f : Job κ σ α).Lockless := fun _ _ => trivial

theorem lockless_instant : (instant : Job κ σ Nat).Lockless := fun _ _ => trivial

theorem lockless_sleepUntil (wake : Nat) : (sleepUntil wake : Job κ σ Unit).Lockless := trivial

theorem lockless_rest : (rest : Job κ σ Unit).Lockless := trivial

end Storefront.Job

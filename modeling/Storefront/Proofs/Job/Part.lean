import Storefront.Proofs.Job.Keeps
import Storefront.Proofs.Job.Run

/-! # Jobs on a part of the state

What is kept by the steps of a job is kept by the job. A part that can be put back as long as something is kept of it
is worked on as if it were all that there is.
-/
namespace Storefront.Job
open Relation (ReflTransGen)
variable {κ σ τ α β : Type} {A : σ → Prop}

theorem Preserves.bind {job : Job κ σ α} {f : α → Job κ σ β} (h : job.Preserves A) (hf : ∀ a, (f a).Preserves A) :
    (job >>= f).Preserves A :=
  fun p hp => ((h p hp).mono fun a q hq => hf a q hq).bind

theorem preserves_pure (a : α) : (pure a : Job κ σ α).Preserves A := fun _ hp => hp

theorem preserves_view (f : Nat → σ → α) : (view f : Job κ σ α).Preserves A := fun _ hp => hp

theorem preserves_act {f : Nat → σ → α × σ} (h : ∀ now s, A s → A (f now s).2) : (act f : Job κ σ α).Preserves A :=
  fun p hp => ⟨fun _ => h p.1 p.2 hp, h p.1 p.2 hp⟩

theorem preserves_sleepUntil (wake : Nat) : (sleepUntil wake : Job κ σ Unit).Preserves A := by
  intro p hp
  refine keeps_sleepUntil fun q hq => ?_
  exact holds_along (I := fun p : Nat × σ => A p.2) (fun _ _ => id) hq hp

theorem run_within_of_preserves {get : τ → σ} {set : σ → τ → τ} (hget : ∀ s t, A s → get (set s t) = s)
    {job : Job κ σ α} (hjob : job.Preserves A) (now : Nat) {t : τ} (ht : A (get t)) :
    let o := job.run now (get t)
    let p := (job.within get set).run now t
    p.value = o.value ∧ p.instant = o.instant ∧ get p.state = o.state := by
  have hkeeps := hjob (now, get t) ht
  clear hjob
  -- nothing else works on the state, so time alone goes on between the steps
  have hwait {now later : Nat} {s : σ} :
      ReflTransGen (fun p q : Nat × σ => A p.2 → A q.2) (now, s) (later, s) := .single id
  induction job generalizing now t with
  | done a => exact ⟨rfl, rfl, rfl⟩
  | read next ih => exact ih now (get t) now ht hkeeps
  | write s next ih =>
    obtain ⟨hstep, hnext⟩ := hkeeps
    have hs : get (set s t) = s := hget s t (hstep ht)
    have hrest := ih now (t := set s t) (hs.symm ▸ hstep ht) (hs.symm ▸ hnext)
    rw [hs] at hrest
    exact hrest
  | sleep wake next ih => exact ih (max now wake) ht (hkeeps (max now wake, get t) hwait)
  | pause next ih => exact ih now ht (hkeeps (now, get t) .refl)
  | lock key next ih => exact ih now ht (hkeeps (now, get t) .refl)
  | unlock key next ih => exact ih now ht hkeeps

theorem run_within_frame {ω : Type} (other : τ → ω) {get : τ → σ} {set : σ → τ → τ}
    (hset : ∀ s t, other (set s t) = other t) (job : Job κ σ α) (now : Nat) (t : τ) :
    other ((job.within get set).run now t).state = other t := by
  induction job generalizing now t with
  | done a => rfl
  | read next ih => exact ih now (get t) now t
  | write s next ih => exact (ih now (set s t)).trans (hset s t)
  | sleep wake next ih => exact ih (max now wake) t
  | pause next ih => exact ih now t
  | lock key next ih => exact ih now t
  | unlock key next ih => exact ih now t

theorem seq_assoc {γ : Type} (job : Job κ σ α) (f : α → Job κ σ β) (g : β → Job κ σ γ) :
    (job >>= f) >>= g = job >>= fun a => f a >>= g := by
  change (job.bind f).bind g = job.bind fun a => (f a).bind g
  induction job with
  | done a => rfl
  | read next ih => exact congrArg read (funext fun now => funext fun s => ih now s)
  | write s next ih => exact congrArg (write s) ih
  | sleep wake next ih => exact congrArg (sleep wake) ih
  | pause next ih => exact congrArg pause ih
  | lock key next ih => exact congrArg (lock key) ih
  | unlock key next ih => exact congrArg (unlock key) ih

theorem within_seq (get : τ → σ) (set : σ → τ → τ) (job : Job κ σ α) (f : α → Job κ σ β) :
    (job >>= f).within get set = job.within get set >>= fun a => (f a).within get set := by
  change (job.bind f).within get set = (job.within get set).bind fun a => (f a).within get set
  induction job with
  | done a => rfl
  | read next ih => exact congrArg read (funext fun now => funext fun t => ih now (get t))
  | write s next ih => exact congrArg read (funext fun _ => funext fun t => congrArg (write (set s t)) ih)
  | sleep wake next ih => exact congrArg (sleep wake) ih
  | pause next ih => exact congrArg pause ih
  | lock key next ih => exact congrArg (lock key) ih
  | unlock key next ih => exact congrArg (unlock key) ih

end Storefront.Job

/-! # Jobs

A job is work in pieces on a state that it may share with other jobs. It reads and writes the state,
waits for an instant, lets others go first, and holds locks. What it does between two waits is one
piece: no other job sees a part of it. Instants are milliseconds.
-/
namespace Storefront

inductive Job (κ σ α : Type) : Type where
  | done (value : α)
  | read (next : Nat → σ → Job κ σ α)
  | write (state : σ) (next : Job κ σ α)
  /-- Goes on at an instant, or at once when that has passed. -/
  | sleep (wake : Nat) (next : Job κ σ α)
  /-- Goes on after all others that can. -/
  | pause (next : Job κ σ α)
  | lock (key : κ) (next : Job κ σ α)
  | unlock (key : κ) (next : Job κ σ α)

namespace Job
variable {κ σ τ α β : Type}

def bind (job : Job κ σ α) (f : α → Job κ σ β) : Job κ σ β :=
  match job with
  | done a => f a
  | read next => read fun now s => bind (next now s) f
  | write s next => write s (bind next f)
  | sleep wake next => sleep wake (bind next f)
  | pause next => pause (bind next f)
  | lock key next => lock key (bind next f)
  | unlock key next => unlock key (bind next f)

instance : Monad (Job κ σ) where
  pure := done
  bind := bind

def instant : Job κ σ Nat := read fun now _ => done now

def act (f : Nat → σ → α × σ) : Job κ σ α :=
  read fun now s => let r := f now s; write r.2 (done r.1)

def view (f : Nat → σ → α) : Job κ σ α := read fun now s => done (f now s)

def modify (f : σ → σ) : Job κ σ Unit := act fun _ s => ((), f s)

def sleepUntil (wake : Nat) : Job κ σ Unit := sleep wake (done ())

def rest : Job κ σ Unit := pause (done ())

def holding (key : κ) (job : Job κ σ α) : Job κ σ α :=
  lock key (job.bind fun a => unlock key (done a))

def within (get : τ → σ) (set : σ → τ → τ) : Job κ σ α → Job κ τ α
  | done a => done a
  | read next => read fun now t => within get set (next now (get t))
  | write s next => read fun _ t => write (set s t) (within get set next)
  | sleep wake next => sleep wake (within get set next)
  | pause next => pause (within get set next)
  | lock key next => lock key (within get set next)
  | unlock key next => unlock key (within get set next)

def onFirst (job : Job κ σ α) : Job κ (σ × τ) α := job.within Prod.fst fun s p => (s, p.2)

def onSecond (job : Job κ τ α) : Job κ (σ × τ) α := job.within Prod.snd fun t p => (p.1, t)

structure Outcome (σ α : Type) where
  value : α
  instant : Nat
  state : σ

/-- The job by itself: no lock is ever taken by another one. -/
def run : Job κ σ α → Nat → σ → Outcome σ α
  | done a, now, s => ⟨a, now, s⟩
  | read next, now, s => run (next now s) now s
  | write s next, now, _ => run next now s
  | sleep wake next, now, s => run next (max now wake) s
  | pause next, now, s => run next now s
  | lock _ next, now, s => run next now s
  | unlock _ next, now, s => run next now s

theorem run_bind (job : Job κ σ α) (f : α → Job κ σ β) (now : Nat) (s : σ) :
    (job.bind f).run now s = (f (job.run now s).value).run (job.run now s).instant (job.run now s).state := by
  induction job generalizing now s with
  | done a => rfl
  | read next ih => simpa [bind, run] using ih now s now s
  | write s' next ih => simpa [bind, run] using ih now s'
  | sleep wake next ih => simpa [bind, run] using ih (max now wake) s
  | pause next ih => simpa [bind, run] using ih now s
  | lock key next ih => simpa [bind, run] using ih now s
  | unlock key next ih => simpa [bind, run] using ih now s

end Job
end Storefront

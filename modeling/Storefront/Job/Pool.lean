import Storefront.Job.Rest
import Storefront.Table

/-! # Jobs side by side

A pool works on several jobs by turns. A job keeps its turn until it has to wait. Those that can go on
do so first come, first served; when none can, time goes on to the next instant at which one wakes. A
lock goes to whoever has waited for it longest. Only so many jobs are begun at once, and each that is
done lets another one begin.

Every step takes a piece off a job or lets one wait, and so the work ends.
-/
namespace Storefront

structure Pool (κ σ α : Type) where
  now : Nat
  state : σ
  /-- The jobs by number; those that are done are gone. -/
  jobs : List (Option (Job κ σ α))
  /-- Those that can go on, in the order of their turns. -/
  ready : List Nat
  /-- Those that sleep, each with the instant at which it wakes. -/
  asleep : List (Nat × Nat) := []
  /-- Those that have not begun. -/
  waiting : List Nat
  /-- The locks that are taken, each with its holder and with those who wait for it. -/
  locks : Table κ (Nat × List Nat) := {}
  results : List (Nat × α) := []

namespace Pool
variable {κ σ α : Type}

def start (limit : Nat) (jobs : List (Job κ σ α)) (now : Nat) (state : σ) : Pool κ σ α :=
  let numbers := List.range jobs.length
  { now, state, jobs := jobs.map some, ready := numbers.take limit, waiting := numbers.drop limit }

def firstSleeper : List (Nat × Nat) → Option (Nat × Nat)
  | [] => none
  | a :: rest => match firstSleeper rest with
    | some b => some (if b.1 < a.1 then b else a)
    | none => some a

def putJob (p : Pool κ σ α) (i : Nat) (job : Job κ σ α) : Pool κ σ α :=
  { p with jobs := p.jobs.set i (some job) }

def wake (p : Pool κ σ α) (sleeper : Nat × Nat) : Pool κ σ α :=
  let asleep := p.asleep.erase sleeper
  match p.jobs[sleeper.2]? with
  | some (some (.sleep _ next)) =>
    { p.putJob sleeper.2 next with
      now := max p.now sleeper.1, asleep := asleep, ready := p.ready ++ [sleeper.2] }
  | _ => { p with asleep := asleep }

def load (p : Pool κ σ α) : Nat := 2 * p.ready.length + p.asleep.length

def Less (p q : Pool κ σ α) : Prop :=
  Prod.Lex Job.Shrinks (· < ·) (p.jobs, p.load) (q.jobs, q.load)

theorem wf_less : WellFounded (Less (κ := κ) (σ := σ) (α := α)) :=
  InvImage.wf (fun p : Pool κ σ α => (p.jobs, p.load))
    (Prod.lex ⟨_, ⟨Job.acc_shrinks⟩⟩ ⟨_, Nat.lt_wfRel.wf⟩).wf

instance : WellFoundedRelation (Pool κ σ α) := ⟨Less, wf_less⟩

theorem less_of_set {p q : Pool κ σ α} {i : Nat} {a b : Option (Job κ σ α)} (h : p.jobs[i]? = some b)
    (less : Job.Fewer a b) (eq : q.jobs = p.jobs.set i a) : Less q p :=
  .left _ _ (eq ▸ Job.shrinks_set h less)

theorem less_of_load {p q : Pool κ σ α} (eq : q.jobs = p.jobs) (h : q.load < p.load) : Less q p := by
  unfold Less
  rw [eq]
  exact .right _ h

theorem firstSleeper_mem {list : List (Nat × Nat)} {a : Nat × Nat} (h : firstSleeper list = some a) :
    a ∈ list := by
  induction list generalizing a with
  | nil => simp [firstSleeper] at h
  | cons b rest ih =>
    simp only [firstSleeper] at h
    split at h
    · next c hc =>
      simp only [Option.some.injEq] at h
      split at h
      · exact .tail _ (ih (h ▸ hc))
      · exact h ▸ .head _
    · simp only [Option.some.injEq] at h
      exact h ▸ .head _

theorem wake_less (p : Pool κ σ α) {sleeper : Nat × Nat} (h : sleeper ∈ p.asleep) :
    Less (p.wake sleeper) p := by
  unfold wake
  split
  · next wake next hp => exact less_of_set hp (.less (.sleep wake next)) rfl
  · refine less_of_load rfl ?_
    have := List.length_erase_of_mem h
    have := List.length_pos_of_mem h
    simp only [load]
    omega

variable [DecidableEq κ]

def takeLock (p : Pool κ σ α) (i : Nat) (others : List Nat) (key : κ) (next : Job κ σ α) : Pool κ σ α :=
  match p.locks.get? key with
  | none => { p.putJob i next with locks := p.locks.insert key (i, []) }
  | some (holder, queue) =>
    if holder = i then p.putJob i next
    else { p with ready := others, locks := p.locks.insert key (holder, queue ++ [i]) }

def giveLock (p : Pool κ σ α) (i : Nat) (key : κ) (next : Job κ σ α) : Pool κ σ α :=
  match p.locks.get? key with
  | some (_, heir :: queue) =>
    { p.putJob i next with ready := p.ready ++ [heir], locks := p.locks.insert key (heir, queue) }
  | _ => { p.putJob i next with locks := p.locks.erase key }

/-- The turn of job `i`, before the turns of the others. -/
def turn (p : Pool κ σ α) (i : Nat) (others : List Nat) : Pool κ σ α :=
  match p.jobs[i]? with
  | some (some job) => match job with
    | .done a =>
      { p with
        jobs := p.jobs.set i none, results := p.results ++ [(i, a)]
        ready := others ++ p.waiting.take 1, waiting := p.waiting.drop 1 }
    | .read next => p.putJob i (next p.now p.state)
    | .write s next => { p.putJob i next with state := s }
    | .sleep wake next =>
      if wake ≤ p.now then p.putJob i next
      else { p with ready := others, asleep := p.asleep ++ [(wake, i)] }
    | .pause next => { p.putJob i next with ready := others ++ [i] }
    | .lock key next => p.takeLock i others key next
    | .unlock key next => p.giveLock i key next
  | _ => { p with ready := others }

def step (p : Pool κ σ α) : Option (Pool κ σ α) :=
  match firstSleeper p.asleep, p.ready with
  | none, [] => none
  | none, i :: others => some (p.turn i others)
  | some sleeper, [] => some (p.wake sleeper)
  | some sleeper, i :: others =>
    if sleeper.1 ≤ p.now then some (p.wake sleeper) else some (p.turn i others)

theorem takeLock_less (p : Pool κ σ α) {i : Nat} {others : List Nat} {key : κ} {next : Job κ σ α}
    (hr : p.ready = i :: others) (hp : p.jobs[i]? = some (some (.lock key next))) :
    Less (p.takeLock i others key next) p := by
  unfold takeLock
  split
  · exact less_of_set hp (.less (.lock key next)) rfl
  · split
    · exact less_of_set hp (.less (.lock key next)) rfl
    · exact less_of_load rfl (by simp [load, hr])

theorem giveLock_less (p : Pool κ σ α) {i : Nat} {key : κ} {next : Job κ σ α}
    (hp : p.jobs[i]? = some (some (.unlock key next))) : Less (p.giveLock i key next) p := by
  unfold giveLock
  split <;> exact less_of_set hp (.less (.unlock key next)) rfl

theorem turn_less (p : Pool κ σ α) {i : Nat} {others : List Nat} (hr : p.ready = i :: others) :
    Less (p.turn i others) p := by
  unfold turn
  split
  · next job hp =>
    cases job with
    | done a => exact less_of_set hp (.done _) rfl
    | read next => exact less_of_set hp (.less (.read next p.now p.state)) rfl
    | write s next => exact less_of_set hp (.less (.write s next)) rfl
    | sleep wake next =>
      dsimp only
      split
      · exact less_of_set hp (.less (.sleep wake next)) rfl
      · exact less_of_load rfl (by simp [load, hr]; omega)
    | pause next => exact less_of_set hp (.less (.pause next)) rfl
    | lock key next => exact takeLock_less p hr hp
    | unlock key next => exact giveLock_less p hp
  · exact less_of_load rfl (by simp [load, hr])

/-- Every step leaves less to do. -/
theorem step_less {p q : Pool κ σ α} (h : p.step = some q) : Less q p := by
  unfold step at h
  split at h
  · cases h
  · next i others _ hr => cases h; exact turn_less p hr
  · next sleeper hs _ => cases h; exact wake_less p (firstSleeper_mem hs)
  · next sleeper i others hs hr =>
    split at h <;> cases h
    · exact wake_less p (firstSleeper_mem hs)
    · exact turn_less p hr

def run (p : Pool κ σ α) : Pool κ σ α :=
  match h : p.step with
  | none => p
  | some q => have := step_less h; run q
termination_by p
decreasing_by exact this

def result? (p : Pool κ σ α) (i : Nat) : Option α := p.results.lookup i

end Pool
end Storefront

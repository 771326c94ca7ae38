import Mathlib.Data.List.Perm.Basic
import Storefront.Proofs.Job.Complete

/-! # What comes of every job

A step takes a piece off one job, or a job that is done leaves its result, or nothing comes of it. So there is one
result for each job that is done, and it is one that this job may come to.
-/
namespace Storefront

theorem Job.Yields.of_rest {κ σ α : Type} {next job : Job κ σ α} {a : α} (h : Job.Rest next job)
    (ha : next.Yields a) : job.Yields a := by
  cases h with
  | read next now s => exact ⟨now, s, ha⟩
  | write => exact ha
  | sleep => exact ha
  | pause => exact ha
  | lock => exact ha
  | unlock => exact ha

namespace Pool
variable {κ σ α : Type} {p q : Pool κ σ α} {jobs : List (Job κ σ α)}

/-- What a step does to the jobs and their results. -/
inductive Proceeds (p q : Pool κ σ α) : Prop
  | finished {i : Nat} {a : α} (hjob : p.jobs[i]? = some (some (.done a))) (hjobs : q.jobs = p.jobs.set i none)
      (hresults : q.results = p.results ++ [(i, a)])
  | went {i : Nat} {job next : Job κ σ α} (hjob : p.jobs[i]? = some (some job)) (hrest : Job.Rest next job)
      (hjobs : q.jobs = p.jobs.set i (some next)) (hresults : q.results = p.results)
  | stayed (hjobs : q.jobs = p.jobs) (hresults : q.results = p.results)

theorem proceeds_wake (p : Pool κ σ α) (sleeper : Nat × Nat) : p.Proceeds (p.wake sleeper) := by
  unfold wake
  split
  · exact .went ‹_› (.sleep _ _) rfl rfl
  · exact .stayed rfl rfl

/-- The results of a pool are those of its jobs that are done, one for each. -/
structure Accounts (jobs : List (Job κ σ α)) (p : Pool κ σ α) : Prop where
  job : ∀ (i : Nat) (job : Job κ σ α), p.jobs[i]? = some (some job) →
    ∃ first, jobs[i]? = some first ∧ ∀ a, job.Yields a → first.Yields a
  result : ∀ r ∈ p.results, ∃ first, jobs[r.1]? = some first ∧ Job.Yields r.2 first
  once : ∀ i < jobs.length, (p.results.map Prod.fst).count i = if p.lives i then 0 else 1

theorem accounts_start (limit : Nat) (jobs : List (Job κ σ α)) (now : Nat) (state : σ) :
    Accounts jobs (start limit jobs now state) := by
  have hget : ∀ i : Nat, (start limit jobs now state).jobs[i]? = jobs[i]?.map some := fun i => List.getElem?_map
  refine ⟨fun i job hjob => ?_, by simp [start], fun i hi => ?_⟩
  · rw [hget, Option.map_eq_some_iff] at hjob
    obtain ⟨first, hfirst, heq⟩ := hjob
    cases heq
    exact ⟨job, hfirst, fun _ => id⟩
  · have hlives : (start limit jobs now state).lives i = true := by
      rw [lives, hget, List.getElem?_eq_getElem hi]
      rfl
    rw [hlives, if_pos rfl]
    simp [start]

theorem Accounts.proceed (h : Accounts jobs p) (hstep : p.Proceeds q) : Accounts jobs q := by
  cases hstep with
  | @finished i a hjob hjobs hresults =>
    have hlives := lives_of_job hjob
    obtain ⟨first, hfirst, hyields⟩ := h.job i _ hjob
    refine ⟨fun j job hj => ?_, ?_, fun j hj => ?_⟩
    · rw [hjobs, getElem?_set_of_lives hlives] at hj
      split at hj
      · cases hj
      · exact h.job j job hj
    · rw [hresults, List.forall_mem_append]
      exact ⟨h.result, by simpa using ⟨first, hfirst, hyields a rfl⟩⟩
    · have honce := h.once j hj
      rw [hresults, List.map_append, List.count_append, honce, lives_set_none hlives hjobs]
      by_cases hij : i = j
      · subst hij
        simp [hlives]
      · simp [hij]
  | @went i job next hjob hrest hjobs hresults =>
    have hlives := lives_of_job hjob
    refine ⟨fun j job' hj => ?_, hresults ▸ h.result, fun j hj => ?_⟩
    · rw [hjobs, getElem?_set_of_lives hlives] at hj
      split at hj
      · rename_i hij
        cases hj
        obtain ⟨first, hfirst, hyields⟩ := h.job i job hjob
        exact ⟨first, hij ▸ hfirst, fun a ha => hyields a (ha.of_rest hrest)⟩
      · exact h.job j job' hj
    · rw [hresults, lives_set hlives hjobs]
      exact h.once j hj
  | stayed hjobs hresults =>
    refine ⟨hjobs ▸ h.job, hresults ▸ h.result, fun j hj => ?_⟩
    rw [hresults, lives, hjobs]
    exact h.once j hj

variable [DecidableEq κ]

theorem proceeds_turn (p : Pool κ σ α) (i : Nat) (others : List Nat) : p.Proceeds (p.turn i others) := by
  unfold turn
  split
  · rename_i job hjob
    cases job with
    | done a => exact .finished hjob rfl rfl
    | read next => exact .went hjob (.read next p.now p.state) rfl rfl
    | write s next => exact .went hjob (.write s next) rfl rfl
    | sleep wake next =>
      dsimp only
      split
      · exact .went hjob (.sleep wake next) rfl rfl
      · exact .stayed rfl rfl
    | pause next => exact .went hjob (.pause next) rfl rfl
    | lock key next =>
      dsimp only [takeLock]
      split
      · exact .went hjob (.lock key next) rfl rfl
      · split
        · exact .went hjob (.lock key next) rfl rfl
        · exact .stayed rfl rfl
    | unlock key next =>
      dsimp only [giveLock]
      split <;> exact .went hjob (.unlock key next) rfl rfl
  · exact .stayed rfl rfl

theorem proceeds_step (hstep : p.step = some q) : p.Proceeds q := by
  unfold step at hstep
  split at hstep
  · cases hstep
  · cases hstep
    exact p.proceeds_turn _ _
  · cases hstep
    exact p.proceeds_wake _
  · split at hstep
    · cases hstep
      exact p.proceeds_wake _
    · cases hstep
      exact p.proceeds_turn _ _

theorem Accounts.steps (h : Accounts jobs p) (n : Nat) : Accounts jobs (p.steps n) := by
  induction n generalizing p with
  | zero => exact h
  | succ n ih =>
    unfold Pool.steps
    cases hstep : p.step with
    | none => exact h
    | some q => exact ih (h.proceed (proceeds_step hstep))

/-- In the end there is one result for each job, and it is one that the job may come to. -/
theorem results_run {rank : κ → Nat} (h : ∀ job ∈ jobs, job.Climbs rank ∅ ∅) {bound : Nat}
    (hbound : ∀ key, rank key ≤ bound) {limit : Nat} (hlimit : limit ≠ 0) (now : Nat) (state : σ) :
    let p := (start limit jobs now state).run
    (p.results.map Prod.fst).Perm (List.range jobs.length) ∧
      ∀ r ∈ p.results, ∃ job, jobs[r.1]? = some job ∧ job.Yields r.2 := by
  intro p
  obtain ⟨n, hn⟩ := exists_run_eq_steps (start limit jobs now state)
  have haccounts : Accounts jobs p := by
    rw [show p = _ from hn]
    exact (accounts_start limit jobs now state).steps n
  refine ⟨List.perm_iff_count.mpr fun i => ?_, haccounts.result⟩
  rw [List.count_range]
  split
  · rename_i hi
    rw [haccounts.once i hi, show p.lives i = false from lives_run h hbound hlimit now state i, if_neg (by decide)]
  · rename_i hi
    refine List.count_eq_zero.mpr fun hmem => hi ?_
    obtain ⟨r, hr, rfl⟩ := List.mem_map.mp hmem
    obtain ⟨job, hjob, -⟩ := haccounts.result r hr
    exact (List.getElem?_eq_some_iff.mp hjob).1

end Pool
end Storefront

import Storefront.Proofs.Job.Keeps

/-! # Runs of pools

A job that keeps its turn stands on the instant and the state of the pool, and all others wait. So a step of the
pool is a write of one job within its bounds, or time that goes on, or nothing at all.
-/
namespace Storefront.Pool
open Relation (ReflTransGen)
variable {κ σ α : Type} {R : Nat × σ → Nat × σ → Prop} {Q : α → Nat × σ → Prop}

/-- Every job keeps to the relation, and those whose turn it is not do so whatever the others write. -/
def Kept (R : Nat × σ → Nat × σ → Prop) (Q : α → Nat × σ → Prop) (p : Pool κ σ α) : Prop :=
  ∀ i job, p.jobs[i]? = some (some job) →
    job.Keeps R Q (p.now, p.state) ∧ (p.ready.head? ≠ some i → job.Stable R Q (p.now, p.state))

theorem kept_start {jobs : List (Job κ σ α)} {now : Nat} {state : σ}
    (h : ∀ job ∈ jobs, job.Stable R Q (now, state)) (limit : Nat) : (start limit jobs now state).Kept R Q := by
  intro i job hjob
  have hmem : job ∈ jobs := by
    simp only [start, List.getElem?_map, Option.map_eq_some_iff, Option.some.injEq, exists_eq_right] at hjob
    exact List.mem_of_getElem? hjob
  exact ⟨(h job hmem).keeps, fun _ => h job hmem⟩

/-- A pool in which job `i` has been replaced, by one that is stable unless it has the turn. -/
theorem Kept.replace {p q : Pool κ σ α} (h : p.Kept R Q) {i : Nat} {place : Option (Job κ σ α)}
    (hturn : p.ready.head? = some i) (hjobs : q.jobs = p.jobs.set i place)
    (hstate : ReflTransGen R (p.now, p.state) (q.now, q.state))
    (hplace : ∀ job, place = some job →
      job.Keeps R Q (q.now, q.state) ∧ (q.ready.head? ≠ some i → job.Stable R Q (q.now, q.state))) : q.Kept R Q := by
  intro j job hjob
  rw [hjobs, List.getElem?_set] at hjob
  split at hjob
  · rename_i hij
    subst hij
    split at hjob
    · exact hplace job (Option.some.inj hjob)
    · cases hjob
  · rename_i hij
    have hstable := (h j job hjob).2 (by simpa [hturn] using hij)
    exact ⟨(hstable.trans hstate).keeps, fun _ => hstable.trans hstate⟩

theorem Kept.same {p q : Pool κ σ α} (h : p.Kept R Q) (hjobs : q.jobs = p.jobs) (hnow : q.now = p.now)
    (hstate : q.state = p.state)
    (hturn : ∀ i job, p.jobs[i]? = some (some job) → p.ready.head? = some i → q.ready.head? ≠ some i →
      job.Stable R Q (p.now, p.state)) : q.Kept R Q := by
  intro i job hjob
  rw [hjobs] at hjob
  rw [hnow, hstate]
  refine ⟨(h i job hjob).1, fun hq => ?_⟩
  by_cases hp : p.ready.head? = some i
  · exact hturn i job hjob hp hq
  · exact (h i job hjob).2 hp

/-- Time may go on until a sleeper wakes only if no job has the turn. -/
theorem kept_wake (hlapse : ∀ now later s, now ≤ later → R (now, s) (later, s)) {p : Pool κ σ α} (h : p.Kept R Q)
    {sleeper : Nat × Nat} (hidle : p.ready = [] ∨ sleeper.1 ≤ p.now) :
    (p.wake sleeper).Kept R Q ∧
      ReflTransGen R (p.now, p.state) ((p.wake sleeper).now, (p.wake sleeper).state) := by
  unfold wake
  split
  · rename_i wake next hjob
    have hstep : ReflTransGen R (p.now, p.state) (max p.now sleeper.1, p.state) :=
      .single (hlapse _ _ _ (Nat.le_max_left _ _))
    refine ⟨?_, hstep⟩
    have hnext : next.Stable R Q (p.now, p.state) := (h _ _ hjob).1
    intro j job hj
    simp only [putJob] at hj ⊢
    rw [List.getElem?_set] at hj
    split at hj
    · split at hj
      · cases hj
        exact ⟨(hnext.trans hstep).keeps, fun _ => hnext.trans hstep⟩
      · cases hj
    · rcases hidle with hidle | hidle
      · have hstable := (h j job hj).2 (by simp [hidle])
        exact ⟨(hstable.trans hstep).keeps, fun _ => hstable.trans hstep⟩
      · rw [Nat.max_eq_left hidle]
        refine ⟨(h j job hj).1, fun hturn => (h j job hj).2 fun hp => hturn ?_⟩
        rw [List.head?_append, hp]
        rfl
  · exact ⟨h, .refl⟩

theorem Kept.goOn {p q : Pool κ σ α} (h : p.Kept R Q) {i : Nat} {next : Job κ σ α}
    (hturn : p.ready.head? = some i) (hjobs : q.jobs = p.jobs.set i (some next)) (hready : q.ready.head? = some i)
    (hstate : ReflTransGen R (p.now, p.state) (q.now, q.state)) (hnext : next.Keeps R Q (q.now, q.state)) :
    q.Kept R Q ∧ ReflTransGen R (p.now, p.state) (q.now, q.state) := by
  refine ⟨h.replace hturn hjobs hstate fun job hjob => ?_, hstate⟩
  cases hjob
  exact ⟨hnext, fun hne => absurd hready hne⟩

theorem Kept.wait {p q : Pool κ σ α} (h : p.Kept R Q) {i : Nat} {job : Job κ σ α}
    (hturn : p.ready.head? = some i) (hjob : p.jobs[i]? = some (some job)) (hjobs : q.jobs = p.jobs)
    (hnow : q.now = p.now) (hstate : q.state = p.state) (hstable : job.Stable R Q (p.now, p.state)) :
    q.Kept R Q ∧ ReflTransGen R (p.now, p.state) (q.now, q.state) := by
  refine ⟨h.same hjobs hnow hstate fun j job' hj hp _ => ?_, hnow ▸ hstate ▸ .refl⟩
  rw [hturn, Option.some.injEq] at hp
  rw [← hp, hjob, Option.some.injEq, Option.some.injEq] at hj
  exact hj ▸ hstable

variable [DecidableEq κ]

theorem kept_takeLock {p : Pool κ σ α} (h : p.Kept R Q) {i : Nat} {others : List Nat} {key : κ}
    {next : Job κ σ α} (hturn : p.ready.head? = some i)
    (hjob : p.jobs[i]? = some (some (.lock key next))) :
    (p.takeLock i others key next).Kept R Q ∧ ReflTransGen R (p.now, p.state)
      ((p.takeLock i others key next).now, (p.takeLock i others key next).state) := by
  have hstable : next.Stable R Q (p.now, p.state) := (h i _ hjob).1
  unfold takeLock
  split
  · exact h.goOn hturn rfl hturn .refl hstable.keeps
  · split
    · exact h.goOn hturn rfl hturn .refl hstable.keeps
    · exact h.wait hturn hjob rfl rfl rfl fun s hs => hstable.trans hs

theorem kept_giveLock {p : Pool κ σ α} (h : p.Kept R Q) {i : Nat} {key : κ} {next : Job κ σ α}
    (hturn : p.ready.head? = some i) (hjob : p.jobs[i]? = some (some (.unlock key next))) :
    (p.giveLock i key next).Kept R Q ∧ ReflTransGen R (p.now, p.state)
      ((p.giveLock i key next).now, (p.giveLock i key next).state) := by
  have hkeeps : next.Keeps R Q (p.now, p.state) := (h i _ hjob).1
  unfold giveLock
  split
  · exact h.goOn hturn rfl (by rw [List.head?_append, hturn]; rfl) .refl hkeeps
  · exact h.goOn hturn rfl hturn .refl hkeeps

theorem kept_turn {p : Pool κ σ α} (h : p.Kept R Q) {i : Nat} {others : List Nat} (hr : p.ready = i :: others) :
    (p.turn i others).Kept R Q ∧
      ReflTransGen R (p.now, p.state) ((p.turn i others).now, (p.turn i others).state) := by
  have hturn : p.ready.head? = some i := by rw [hr]; rfl
  unfold turn
  split
  · rename_i job hjob
    have hkeeps := (h i job hjob).1
    cases job with
    | done a => exact ⟨h.replace hturn rfl .refl (by simp), .refl⟩
    | read next => exact h.goOn hturn rfl hturn .refl hkeeps
    | write s next => exact h.goOn hturn rfl hturn (.single hkeeps.1) hkeeps.2
    | sleep wake next =>
      have hstable : next.Stable R Q (p.now, p.state) := hkeeps
      dsimp only
      split
      · exact h.goOn hturn rfl hturn .refl hstable.keeps
      · exact h.wait hturn hjob rfl rfl rfl fun s hs => hstable.trans hs
    | pause next =>
      refine ⟨h.replace hturn rfl .refl fun job hj => ?_, .refl⟩
      cases hj
      have hstable : next.Stable R Q (p.now, p.state) := hkeeps
      exact ⟨hstable.keeps, fun _ => hstable⟩
    | lock key next => exact kept_takeLock h hturn hjob
    | unlock key next => exact kept_giveLock h hturn hjob
  · rename_i hnone
    refine ⟨h.same rfl rfl rfl fun j job hj hp _ => ?_, .refl⟩
    rw [hturn, Option.some.injEq] at hp
    exact absurd (hp ▸ hj) (hnone job)

/-- A step of the pool stays within the bounds of its jobs. -/
theorem kept_step (hlapse : ∀ now later s, now ≤ later → R (now, s) (later, s)) {p q : Pool κ σ α} (h : p.Kept R Q)
    (hstep : p.step = some q) : q.Kept R Q ∧ ReflTransGen R (p.now, p.state) (q.now, q.state) := by
  unfold step at hstep
  split at hstep
  · cases hstep
  · rename_i i others hs hr
    cases hstep
    exact kept_turn h hr
  · rename_i sleeper hs hr
    cases hstep
    exact kept_wake hlapse h (.inl hr)
  · rename_i sleeper i others hs hr
    split at hstep
    · rename_i hdue
      cases hstep
      exact kept_wake hlapse h (.inr hdue)
    · cases hstep
      exact kept_turn h hr

theorem mem_results_step {p q : Pool κ σ α} (h : p.Kept R Q) (hstep : p.step = some q) {r : Nat × α}
    (hr : r ∈ q.results) : r ∈ p.results ∨ Q r.2 (p.now, p.state) := by
  have hwake (sleeper : Nat × Nat) : (p.wake sleeper).results = p.results := by
    unfold wake
    split <;> rfl
  have hturn (i : Nat) (others : List Nat) (hr : r ∈ (p.turn i others).results) :
      r ∈ p.results ∨ Q r.2 (p.now, p.state) := by
    unfold turn at hr
    split at hr
    · rename_i job hjob
      cases job with
      | done a =>
        refine (List.mem_append.mp hr).imp_right fun hr => ?_
        rw [List.mem_singleton.mp hr]
        exact (h i _ hjob).1
      | read next => exact .inl hr
      | write s next => exact .inl hr
      | sleep wake next =>
        dsimp only at hr
        split at hr <;> exact .inl hr
      | pause next => exact .inl hr
      | lock key next =>
        dsimp only [takeLock] at hr
        split at hr
        · exact .inl hr
        · split at hr <;> exact .inl hr
      | unlock key next =>
        dsimp only [giveLock] at hr
        split at hr <;> exact .inl hr
    · exact .inl hr
  unfold step at hstep
  split at hstep
  · cases hstep
  · cases hstep
    exact hturn _ _ hr
  · cases hstep
    exact .inl (hwake _ ▸ hr)
  · split at hstep
    · cases hstep
      exact .inl (hwake _ ▸ hr)
    · cases hstep
      exact hturn _ _ hr

/-- Whatever has come of a job satisfied the condition when the job was done, somewhere on the way to here. -/
def Answered (R : Nat × σ → Nat × σ → Prop) (Q : α → Nat × σ → Prop) (p : Pool κ σ α) : Prop :=
  ∀ r ∈ p.results, ∃ q, Q r.2 q ∧ ReflTransGen R q (p.now, p.state)

theorem run_of_step_eq_none {p : Pool κ σ α} (h : p.step = none) : p.run = p := by
  rw [run]
  split
  · rfl
  · rename_i hq
    cases h.symm.trans hq

theorem run_of_step_eq_some {p q : Pool κ σ α} (h : p.step = some q) : p.run = q.run := by
  rw [run]
  split
  · rename_i hq
    cases h.symm.trans hq
  · rename_i hq
    cases h.symm.trans hq
    rfl

/-- The pool after so many steps, or at the end of its work. -/
def steps (p : Pool κ σ α) : Nat → Pool κ σ α
  | 0 => p
  | n + 1 => match p.step with
    | none => p
    | some q => q.steps n

theorem run_eq_steps {p : Pool κ σ α} {n : Nat} (h : (p.steps n).step.isNone = true) : p.run = p.steps n := by
  induction n generalizing p with
  | zero => exact run_of_step_eq_none (Option.isNone_iff_eq_none.mp h)
  | succ n ih =>
    unfold steps at h ⊢
    cases hstep : p.step with
    | none => exact run_of_step_eq_none hstep
    | some q =>
      rw [hstep] at h
      rw [run_of_step_eq_some hstep]
      exact ih h

theorem kept_steps (hlapse : ∀ now later s, now ≤ later → R (now, s) (later, s)) {p : Pool κ σ α} (h : p.Kept R Q)
    (n : Nat) : (p.steps n).Kept R Q ∧ ReflTransGen R (p.now, p.state) ((p.steps n).now, (p.steps n).state) := by
  induction n generalizing p with
  | zero => exact ⟨h, .refl⟩
  | succ n ih =>
    unfold steps
    cases hstep : p.step with
    | none => exact ⟨h, .refl⟩
    | some q =>
      obtain ⟨hkept, hstate⟩ := kept_step hlapse h hstep
      obtain ⟨hkept', hstate'⟩ := ih hkept
      exact ⟨hkept', hstate.trans hstate'⟩

theorem answered_steps (hlapse : ∀ now later s, now ≤ later → R (now, s) (later, s)) {p : Pool κ σ α} (h : p.Kept R Q)
    (hanswered : p.Answered R Q) (n : Nat) : (p.steps n).Answered R Q := by
  induction n generalizing p with
  | zero => exact hanswered
  | succ n ih =>
    unfold steps
    cases hstep : p.step with
    | none => exact hanswered
    | some q =>
      obtain ⟨hkept, hreach⟩ := kept_step hlapse h hstep
      refine ih hkept fun r hr => ?_
      rcases mem_results_step h hstep hr with hr | hr
      · obtain ⟨s, hs, hto⟩ := hanswered r hr
        exact ⟨s, hs, hto.trans hreach⟩
      · exact ⟨_, hr, hreach⟩

theorem exists_run_eq_steps (p : Pool κ σ α) : ∃ n, p.run = p.steps n := by
  induction p using run.induct with
  | case1 p hstep => exact ⟨0, run_of_step_eq_none hstep⟩
  | case2 p q hstep _ ih =>
    obtain ⟨n, hn⟩ := ih
    refine ⟨n + 1, ?_⟩
    rw [run_of_step_eq_some hstep, hn, steps, hstep]

end Storefront.Pool

import Storefront.Job.Pool

/-! # Conditions between turns

A condition on the state may fail while a job has its turn, if the job makes it good before it waits or is done. All
others begin and go on where it holds. So it holds at the end of the work of a pool.
-/
namespace Storefront

namespace Job
variable {κ σ τ α β : Type} {I : σ → Prop} {Q : α → Nat × σ → Prop}

/-- From an instant and a state on, the condition holds whenever the job waits, and what the job comes to satisfies `Q`.
Where it goes on the condition holds again. -/
def Restores (I : σ → Prop) (Q : α → Nat × σ → Prop) : Job κ σ α → Nat × σ → Prop
  | done a, p => Q a p
  | read next, p => Restores I Q (next p.1 p.2) p
  | write s next, p => Restores I Q next (p.1, s)
  | sleep _ next, p => I p.2 ∧ ∀ q, I q.2 → Restores I Q next q
  | pause next, p => I p.2 ∧ ∀ q, I q.2 → Restores I Q next q
  | lock _ next, p => I p.2 ∧ ∀ q, I q.2 → Restores I Q next q
  | unlock _ next, p => Restores I Q next p

theorem Restores.mono {Q' : α → Nat × σ → Prop} (hQ : ∀ a p, Q a p → Q' a p) {job : Job κ σ α} {p : Nat × σ}
    (h : job.Restores I Q p) : job.Restores I Q' p := by
  induction job generalizing p with
  | done a => exact hQ a p h
  | read next ih => exact ih p.1 p.2 h
  | write s next ih => exact ih h
  | sleep wake next ih => exact ⟨h.1, fun q hq => ih (h.2 q hq)⟩
  | pause next ih => exact ⟨h.1, fun q hq => ih (h.2 q hq)⟩
  | lock key next ih => exact ⟨h.1, fun q hq => ih (h.2 q hq)⟩
  | unlock key next ih => exact ih h

theorem Restores.bind {Q : β → Nat × σ → Prop} {f : α → Job κ σ β} {job : Job κ σ α} {p : Nat × σ}
    (h : job.Restores I (fun a q => (f a).Restores I Q q) p) : (job >>= f).Restores I Q p := by
  change (job.bind f).Restores I Q p
  induction job generalizing p with
  | done a => exact h
  | read next ih => exact ih p.1 p.2 h
  | write s next ih => exact ih h
  | sleep wake next ih => exact ⟨h.1, fun q hq => ih (h.2 q hq)⟩
  | pause next ih => exact ⟨h.1, fun q hq => ih (h.2 q hq)⟩
  | lock key next ih => exact ⟨h.1, fun q hq => ih (h.2 q hq)⟩
  | unlock key next ih => exact ih h

/-- Wherever the condition holds, the job restores it by its end. -/
def Repairs (I : σ → Prop) (job : Job κ σ α) : Prop := ∀ p, I p.2 → job.Restores I (fun _ q => I q.2) p

theorem Repairs.bind {job : Job κ σ α} {f : α → Job κ σ β} (h : job.Repairs I) (hf : ∀ a, (f a).Repairs I) :
    (job >>= f).Repairs I :=
  fun p hp => ((h p hp).mono fun a q hq => hf a q hq).bind

theorem repairs_pure (a : α) : (pure a : Job κ σ α).Repairs I := fun _ hp => hp

theorem repairs_view (f : Nat → σ → α) : (view f : Job κ σ α).Repairs I := fun _ hp => hp

theorem repairs_rest : (rest : Job κ σ Unit).Repairs I := fun _ hp => ⟨hp, fun _ hq => hq⟩

theorem repairs_holding (key : κ) {job : Job κ σ α} (h : job.Repairs I) : (holding key job).Repairs I :=
  fun _ hp => ⟨hp, fun q hq => ((h q hq).mono fun _ _ hq' => hq').bind⟩

theorem repairs_onFirst_onSecond {υ : Type} {I : υ × σ × τ → Prop} (hI : ∀ u s s' t, I (u, s, t) → I (u, s', t))
    (job : Job κ σ α) : ((job.onFirst : Job κ (σ × τ) α).onSecond : Job κ (υ × σ × τ) α).Repairs I := by
  unfold onFirst onSecond
  intro p hp
  induction job generalizing p with
  | done a => exact hp
  | read next ih => exact ih p.1 p.2.2.1 p hp
  | write s next ih => exact ih (p.1, p.2.1, s, p.2.2.2) (hI _ _ s _ hp)
  | sleep wake next ih => exact ⟨hp, ih⟩
  | pause next ih => exact ⟨hp, ih⟩
  | lock key next ih => exact ⟨hp, ih⟩
  | unlock key next ih => exact ih p hp

end Job

namespace Pool
variable {κ σ α : Type} {I : σ → Prop}

/-- No job has begun a turn: the condition holds, and every job can go on from there. -/
def Settled (I : σ → Prop) (p : Pool κ σ α) : Prop :=
  I p.state ∧ ∀ (i : Nat) (job : Job κ σ α), p.jobs[i]? = some (some job) → job.Repairs I

/-- One job has its turn, and has yet to restore the condition. -/
def Underway (I : σ → Prop) (p : Pool κ σ α) : Prop :=
  ∃ i job, p.ready.head? = some i ∧ p.jobs[i]? = some (some job) ∧
    job.Restores I (fun _ q => I q.2) (p.now, p.state) ∧
      ∀ (j : Nat) (job : Job κ σ α), j ≠ i → p.jobs[j]? = some (some job) → job.Repairs I

theorem settled_start {jobs : List (Job κ σ α)} (h : ∀ job ∈ jobs, job.Repairs I) (limit now : Nat) {state : σ}
    (hstate : I state) : (start limit jobs now state).Settled I := by
  refine ⟨hstate, fun i job hjob => h job ?_⟩
  simp only [start, List.getElem?_map, Option.map_eq_some_iff, Option.some.injEq, exists_eq_right] at hjob
  exact List.mem_of_getElem? hjob

theorem Settled.underway {p : Pool κ σ α} (h : p.Settled I) {i : Nat} {job : Job κ σ α}
    (hturn : p.ready.head? = some i) (hjob : p.jobs[i]? = some (some job)) : p.Underway I :=
  ⟨i, job, hturn, hjob, h.2 i job hjob _ h.1, fun j job' _ => h.2 j job'⟩

/-- The condition holds again when the job that had its turn has been replaced by one that begins from there. -/
theorem settled_of_set {p q : Pool κ σ α} {i : Nat} {place : Option (Job κ σ α)} (hjobs : q.jobs = p.jobs.set i place)
    (hstate : I q.state) (hplace : ∀ job, place = some job → job.Repairs I)
    (hothers : ∀ j job, j ≠ i → p.jobs[j]? = some (some job) → job.Repairs I) : q.Settled I := by
  refine ⟨hstate, fun j job hjob => ?_⟩
  rw [hjobs, List.getElem?_set] at hjob
  split at hjob
  · split at hjob
    · exact hplace job (Option.some.inj hjob)
    · cases hjob
  · exact hothers j job (Ne.symm ‹_›) hjob

theorem underway_of_set {p q : Pool κ σ α} {i : Nat} {old next : Job κ σ α} (hold : p.jobs[i]? = some (some old))
    (hjobs : q.jobs = p.jobs.set i (some next)) (hturn : q.ready.head? = some i)
    (hnext : next.Restores I (fun _ q => I q.2) (q.now, q.state))
    (hothers : ∀ j job, j ≠ i → p.jobs[j]? = some (some job) → job.Repairs I) : q.Underway I := by
  have hlt := (List.getElem?_eq_some_iff.mp hold).1
  refine ⟨i, next, hturn, by rw [hjobs, List.getElem?_set_self hlt], hnext, fun j job hj hjob => ?_⟩
  rw [hjobs, List.getElem?_set_ne (Ne.symm hj)] at hjob
  exact hothers j job hj hjob

variable [DecidableEq κ]

theorem turn_of_underway {p : Pool κ σ α} {i : Nat} {others : List Nat} (hr : p.ready = i :: others)
    (h : p.Underway I) : (p.turn i others).Settled I ∨ (p.turn i others).Underway I := by
  obtain ⟨j, job, hturn, hjob, hrestores, hothers⟩ := h
  obtain rfl : i = j := by simpa [hr] using hturn
  have hkept {next : Job κ σ α} (hnext : next.Repairs I) : ∀ job, some next = some job → job.Repairs I := by
    rintro job ⟨⟩
    exact hnext
  have hsame (hrepairs : job.Repairs I) (hstate : I p.state) {q : Pool κ σ α} (hjobs : q.jobs = p.jobs)
      (hq : q.state = p.state) : q.Settled I := by
    refine ⟨hq ▸ hstate, fun k job' hk => ?_⟩
    rw [hjobs] at hk
    by_cases hki : k = i
    · subst hki
      rw [hjob] at hk
      cases hk
      exact hrepairs
    · exact hothers k job' hki hk
  simp only [turn, hjob]
  cases job with
  | done a => exact .inl (settled_of_set rfl hrestores (by simp) hothers)
  | read next => exact .inr (underway_of_set hjob rfl hturn hrestores hothers)
  | write s next => exact .inr (underway_of_set hjob rfl hturn hrestores hothers)
  | sleep wake next =>
    dsimp only
    split
    · exact .inl (settled_of_set rfl hrestores.1 (hkept hrestores.2) hothers)
    · exact .inl (hsame (fun q hq => ⟨hq, hrestores.2⟩) hrestores.1 rfl rfl)
  | pause next => exact .inl (settled_of_set rfl hrestores.1 (hkept hrestores.2) hothers)
  | lock key next =>
    dsimp only [takeLock]
    split
    · exact .inl (settled_of_set rfl hrestores.1 (hkept hrestores.2) hothers)
    · split
      · exact .inl (settled_of_set rfl hrestores.1 (hkept hrestores.2) hothers)
      · exact .inl (hsame (fun q hq => ⟨hq, hrestores.2⟩) hrestores.1 rfl rfl)
  | unlock key next =>
    dsimp only [giveLock]
    split
    · refine .inr (underway_of_set hjob rfl ?_ hrestores hothers)
      rw [List.head?_append, hturn]
      rfl
    · exact .inr (underway_of_set hjob rfl hturn hrestores hothers)

theorem turn_of_settled {p : Pool κ σ α} {i : Nat} {others : List Nat} (hr : p.ready = i :: others)
    (h : p.Settled I) : (p.turn i others).Settled I ∨ (p.turn i others).Underway I := by
  have hturn : p.ready.head? = some i := by rw [hr]; rfl
  by_cases hjob : ∃ job, p.jobs[i]? = some (some job)
  · obtain ⟨job, hjob⟩ := hjob
    exact turn_of_underway hr (h.underway hturn hjob)
  · left
    unfold turn
    split
    · exact absurd ⟨_, ‹_›⟩ hjob
    · exact ⟨h.1, h.2⟩

omit [DecidableEq κ] in
theorem wake_of_settled {p : Pool κ σ α} (h : p.Settled I) (sleeper : Nat × Nat) : (p.wake sleeper).Settled I := by
  unfold wake
  split
  · rename_i wake next hjob
    refine settled_of_set rfl h.1 (fun job hnext => ?_) fun j job _ => h.2 j job
    cases hnext
    exact fun q hq => (h.2 _ _ hjob q hq).2 q hq
  · exact ⟨h.1, h.2⟩

omit [DecidableEq κ] in
theorem wake_of_underway {p : Pool κ σ α} (h : p.Underway I) {sleeper : Nat × Nat} (hdue : sleeper.1 ≤ p.now) :
    (p.wake sleeper).Settled I ∨ (p.wake sleeper).Underway I := by
  obtain ⟨i, job, hturn, hjob, hrestores, hothers⟩ := h
  unfold wake
  split
  · rename_i wake next hsleeper
    by_cases hi : sleeper.2 = i
    · -- it is the one that has the turn itself
      left
      rw [← hi, hsleeper] at hjob
      cases hjob
      refine settled_of_set rfl hrestores.1 (fun job hnext => ?_) fun j job hj => hothers j job (hi ▸ hj)
      cases hnext
      exact hrestores.2
    · right
      refine ⟨i, job, ?_, ?_, ?_, fun j job' hj hjob' => ?_⟩
      · rw [List.head?_append, hturn]
        rfl
      · exact (List.getElem?_set_ne hi).trans hjob
      · simpa only [putJob, Nat.max_eq_left hdue] using hrestores
      · simp only [putJob] at hjob'
        rw [List.getElem?_set] at hjob'
        split at hjob'
        · split at hjob'
          · cases hjob'
            have hnext := hothers _ _ hi hsleeper
            exact fun q hq => (hnext q hq).2 q hq
          · cases hjob'
        · exact hothers j job' hj hjob'
  · exact .inr ⟨i, job, hturn, hjob, hrestores, hothers⟩

theorem step_settles {p q : Pool κ σ α} (h : p.Settled I ∨ p.Underway I) (hstep : p.step = some q) :
    q.Settled I ∨ q.Underway I := by
  unfold step at hstep
  split at hstep
  · cases hstep
  · rename_i i others hs hr
    cases hstep
    exact h.elim (turn_of_settled hr) (turn_of_underway hr)
  · rename_i sleeper hs hr
    cases hstep
    refine .inl (wake_of_settled (h.resolve_right ?_) sleeper)
    rintro ⟨i, job, hturn, -⟩
    simp [hr] at hturn
  · rename_i sleeper i others hs hr
    split at hstep
    · rename_i hdue
      cases hstep
      exact h.elim (fun h => .inl (wake_of_settled h sleeper)) fun h => wake_of_underway h hdue
    · cases hstep
      exact h.elim (turn_of_settled hr) (turn_of_underway hr)

theorem settled_of_step_eq_none {p : Pool κ σ α} (h : p.Settled I ∨ p.Underway I) (hstep : p.step = none) :
    p.Settled I := by
  refine h.resolve_right ?_
  rintro ⟨i, job, hturn, -⟩
  unfold step at hstep
  split at hstep
  · rename_i hr
    simp [hr] at hturn
  · cases hstep
  · cases hstep
  · split at hstep <;> cases hstep

theorem run_settles {p : Pool κ σ α} (h : p.Settled I ∨ p.Underway I) : p.run.Settled I := by
  induction p using run.induct with
  | case1 p hstep =>
    rw [run]
    split
    · exact settled_of_step_eq_none h hstep
    · rename_i hq
      cases hstep.symm.trans hq
  | case2 p q hstep hless ih =>
    rw [run]
    split
    · rename_i hq
      cases hstep.symm.trans hq
    · rename_i hq
      cases hstep.symm.trans hq
      exact ih (step_settles h hstep)

/-- What every job of a pool restores holds when the work is done. -/
theorem run_of_repairs {jobs : List (Job κ σ α)} (h : ∀ job ∈ jobs, job.Repairs I) (limit now : Nat) {state : σ}
    (hstate : I state) : I (start limit jobs now state).run.state :=
  (run_settles (.inl (settled_start h limit now hstate))).1

end Pool
end Storefront

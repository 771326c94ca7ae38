import Storefront.Job.Basic

/-! # Jobs that work alone

A job by itself is a function of the instant and the state. Time never goes back while it works, and work
on a part of the state leaves the other part alone.
-/
namespace Storefront.Job
variable {κ σ τ α β : Type}

theorem run_seq (job : Job κ σ α) (f : α → Job κ σ β) (now : Nat) (s : σ) :
    (job >>= f).run now s = (f (job.run now s).value).run (job.run now s).instant (job.run now s).state :=
  run_bind job f now s

@[simp] theorem run_pure (a : α) (now : Nat) (s : σ) : (pure a : Job κ σ α).run now s = ⟨a, now, s⟩ := rfl

@[simp] theorem run_act (f : Nat → σ → α × σ) (now : Nat) (s : σ) :
    (act f : Job κ σ α).run now s = ⟨(f now s).1, now, (f now s).2⟩ := rfl

@[simp] theorem run_view (f : Nat → σ → α) (now : Nat) (s : σ) :
    (view f : Job κ σ α).run now s = ⟨f now s, now, s⟩ := rfl

@[simp] theorem run_instant (now : Nat) (s : σ) : (instant : Job κ σ Nat).run now s = ⟨now, now, s⟩ := rfl

@[simp] theorem run_sleepUntil (wake now : Nat) (s : σ) :
    (sleepUntil wake : Job κ σ Unit).run now s = ⟨(), max now wake, s⟩ := rfl

@[simp] theorem run_rest (now : Nat) (s : σ) : (rest : Job κ σ Unit).run now s = ⟨(), now, s⟩ := rfl

@[simp] theorem run_holding (key : κ) (job : Job κ σ α) (now : Nat) (s : σ) :
    (holding key job).run now s = job.run now s := run_bind job _ now s

theorem le_instant (job : Job κ σ α) (now : Nat) (s : σ) : now ≤ (job.run now s).instant := by
  induction job generalizing now s with
  | done a => exact Nat.le_refl now
  | read next ih => exact ih now s now s
  | write s' next ih => exact ih now s'
  | sleep wake next ih => exact Nat.le_trans (Nat.le_max_left now wake) (ih (max now wake) s)
  | pause next ih => exact ih now s
  | lock key next ih => exact ih now s
  | unlock key next ih => exact ih now s

theorem run_onFirst (job : Job κ σ α) (now : Nat) (p : σ × τ) :
    job.onFirst.run now p =
      ⟨(job.run now p.1).value, (job.run now p.1).instant, ((job.run now p.1).state, p.2)⟩ := by
  unfold onFirst
  induction job generalizing now p with
  | done a => rfl
  | read next ih => exact ih now p.1 now p
  | write s next ih => exact ih now (s, p.2)
  | sleep wake next ih => exact ih (max now wake) p
  | pause next ih => exact ih now p
  | lock key next ih => exact ih now p
  | unlock key next ih => exact ih now p

theorem run_onSecond (job : Job κ τ α) (now : Nat) (p : σ × τ) :
    job.onSecond.run now p =
      ⟨(job.run now p.2).value, (job.run now p.2).instant, (p.1, (job.run now p.2).state)⟩ := by
  unfold onSecond
  induction job generalizing now p with
  | done a => rfl
  | read next ih => exact ih now p.2 now p
  | write s next ih => exact ih now (p.1, s)
  | sleep wake next ih => exact ih (max now wake) p
  | pause next ih => exact ih now p
  | lock key next ih => exact ih now p
  | unlock key next ih => exact ih now p

/-- Jobs one after the other, each begun no earlier than an instant of its own. -/
def inTurn : List (Nat × Job κ σ α) → Job κ σ (List α)
  | [] => return []
  | (start, job) :: rest => do
    sleepUntil start
    let a ← job
    let as ← inTurn rest
    return a :: as

theorem run_inTurn_append (jobs more : List (Nat × Job κ σ α)) (now : Nat) (s : σ) :
    (inTurn (jobs ++ more)).run now s =
      let o := (inTurn jobs).run now s
      let p := (inTurn more).run o.instant o.state
      ⟨o.value ++ p.value, p.instant, p.state⟩ := by
  induction jobs generalizing now s with
  | nil => rfl
  | cons a rest ih =>
    obtain ⟨start, job⟩ := a
    simp only [List.cons_append, inTurn, run_seq, run_sleepUntil, run_pure, ih]

theorem run_inTurn_concat (jobs : List (Nat × Job κ σ α)) (start : Nat) (job : Job κ σ α) (now : Nat) (s : σ) :
    (inTurn (jobs ++ [(start, job)])).run now s =
      let o := (inTurn jobs).run now s
      let p := job.run (max o.instant start) o.state
      ⟨o.value ++ [p.value], p.instant, p.state⟩ := by
  rw [run_inTurn_append]
  simp only [inTurn, run_seq, run_sleepUntil, run_pure]

/-- What every job keeps, at every instant from which it may begin, all of them in turn keep. -/
theorem inTurn_induction {I : Nat → σ → Prop} (hwait : ∀ now later s, now ≤ later → I now s → I later s)
    {jobs : List (Nat × Job κ σ α)}
    (hjob : ∀ a ∈ jobs, ∀ now s, I now s → I (a.2.run now s).instant (a.2.run now s).state)
    {now : Nat} {s : σ} (h : I now s) : I ((inTurn jobs).run now s).instant ((inTurn jobs).run now s).state := by
  induction jobs generalizing now s with
  | nil => exact h
  | cons a rest ih =>
    obtain ⟨start, job⟩ := a
    simp only [inTurn, run_seq, run_sleepUntil, run_pure]
    exact ih (fun a ha => hjob a (.tail _ ha))
      (hjob (start, job) (.head _) _ _ (hwait now _ s (Nat.le_max_left now start) h))

end Storefront.Job

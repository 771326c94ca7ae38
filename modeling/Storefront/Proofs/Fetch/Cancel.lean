import Storefront.Proofs.Fetch.Attempts

/-! # Downloads that are cancelled

A download that is cancelled at an instant goes on until then as if it were not. It ends as cancelled, unless it has
ended before. Only a download that its budget does not allow to begin ends otherwise.
-/
namespace Storefront.Fetcher
open Job (run_seq run_view run_act)
variable {κ ν α β : Type} {f : Fetcher ν} {k now wake : Nat} {s : Site ν} {deadline : Option Nat} {url : String}

/-- How something ends that is cancelled at instant `k` and would end in another way otherwise. -/
inductive Cut (k now : Nat) (u : Job.Outcome (Site ν) (Attempt α)) : Job.Outcome (Site ν) (Attempt α) → Prop
  | missed (earlier : u.instant < k) : Cut k now u u
  | reached (pending : k ≤ u.instant) (state : Site ν) : Cut k now u ⟨.error .cancelled, max now k, state⟩

theorem Cut.since {u o : Job.Outcome (Site ν) (Attempt α)} {later : Nat} (hle : now ≤ later) (hlt : later < k)
    (h : Cut k later u o) : Cut k now u o := by
  have hmax : max later k = max now k := by omega
  cases h with
  | missed earlier => exact .missed earlier
  | reached pending state => exact hmax ▸ .reached pending state

theorem Cut.cancelled {u o : Job.Outcome (Site ν) (Attempt α)} (h : Cut k now u o) (hpending : k ≤ u.instant) :
    ∃ state, o = ⟨.error .cancelled, max now k, state⟩ := by
  cases h with
  | missed earlier => omega
  | reached pending state => exact ⟨state, rfl⟩

theorem Cut.andThen {job job' : Job κ (Site ν) (Attempt α)} {g g' : Attempt α → Job κ (Site ν) (Attempt β)}
    (h : Cut k now (job.run now s) (job'.run now s)) (hfails : ∀ e, g' (.error e) = pure (.error e))
    (hnext : ∀ a later s', later < k → Cut k later ((g a).run later s') ((g' a).run later s')) :
    Cut k now ((job >>= g).run now s) ((job' >>= g').run now s) := by
  rw [run_seq, run_seq]
  have hle := Job.le_instant job now s
  generalize job.run now s = u at h hle ⊢
  generalize job'.run now s = o at h ⊢
  cases h with
  | missed earlier => exact (hnext _ _ _ earlier).since hle earlier
  | reached pending state =>
    have hend := Job.le_instant (g u.value) u.instant u.state
    rw [hfails, Job.run_pure]
    exact .reached (Nat.le_trans pending hend) state

theorem cut_pure (a : Attempt α) (hlt : now < k) :
    Cut k now ((pure a : Job κ (Site ν) _).run now s) ((pure a : Job κ (Site ν) _).run now s) := .missed hlt

theorem cut_waitUntil (hwake : now ≤ wake) :
    Cut k now ((waitUntil none wake : Job κ (Site ν) _).run now s)
      ((waitUntil (some k) wake : Job κ (Site ν) _).run now s) := by
  have hnone : (waitUntil none wake : Job κ (Site ν) _).run now s = ⟨.ok (), max now wake, s⟩ := rfl
  rw [hnone, run_waitUntil]
  by_cases hk : k ≤ wake
  · rw [if_pos (by simpa [isBy] using hk)]
    exact .reached (Nat.le_trans hk (Nat.le_max_right now wake)) s
  · rw [if_neg (by simpa [isBy] using hk)]
    refine .missed ?_
    change max now wake < k
    omega

theorem cut_waitWithin (hdue : isBy deadline now = false) (hwake : now ≤ wake) :
    Cut k now ((waitWithin none deadline url wake : Job κ (Site ν) _).run now s)
      ((waitWithin (some k) deadline url wake : Job κ (Site ν) _).run now s) := by
  unfold waitWithin
  cases deadline with
  | none => exact cut_waitUntil hwake
  | some limit =>
    have hlimit : now ≤ limit := by
      simp only [isBy, Option.any_some, decide_eq_false_iff_not] at hdue
      omega
    by_cases hle : limit ≤ wake
    · simp only [if_pos hle]
      refine (cut_waitUntil hlimit).andThen (fun e => rfl) fun a later s' hlt => ?_
      cases a with
      | ok _ => exact cut_pure _ hlt
      | error e => exact cut_pure _ hlt
    · simp only [if_neg hle]
      exact cut_waitUntil hwake

theorem cut_request (hlt : now < k) :
    Cut k now ((f.request none deadline url : Job κ (Site ν) _).run now s)
      ((f.request (some k) deadline url : Job κ (Site ν) _).run now s) := by
  rw [request, request, run_seq, run_seq, Job.run_instant]
  dsimp only
  by_cases hdue : isBy deadline now = true
  · rw [if_pos hdue, if_pos hdue]
    exact cut_pure _ hlt
  · rw [if_neg hdue, if_neg hdue, run_seq (Job.act _), run_seq (Job.act _), run_act]
    dsimp only
    refine (cut_waitWithin (Bool.not_eq_true _ ▸ hdue) (Nat.le_add_right _ _)).andThen (fun e => rfl)
      fun a later s' hlt => ?_
    cases a with
    | ok _ => exact cut_pure _ hlt
    | error e => exact cut_pure _ hlt

/-- The budget must allow the delay unless there has been time before. -/
theorem cut_attempt (hbegin : deadline.any (· < now + s.delay) = false ∨ now < k) :
    Cut k now ((f.attempt none deadline url : Job κ (Site ν) _).run now s)
      ((f.attempt (some k) deadline url : Job κ (Site ν) _).run now s) := by
  rw [attempt, attempt, run_seq, run_seq, run_view]
  dsimp only
  by_cases hlate : deadline.any (· < now + s.delay) = true
  · rw [if_pos hlate, if_pos hlate]
    rcases hbegin with hbegin | hlt
    · rw [hlate] at hbegin
      cases hbegin
    · exact cut_pure _ hlt
  · rw [if_neg hlate, if_neg hlate]
    refine (cut_waitUntil (Nat.le_add_right _ _)).andThen (fun e => rfl) fun a later s' hlt => ?_
    cases a with
    | ok _ => exact cut_request hlt
    | error e => exact cut_pure _ hlt

theorem cut_downloadWith (more : Nat) (hbegin : deadline.any (· < now + s.delay) = false ∨ now < k) :
    Cut k now ((f.downloadWith none deadline url more : Job κ (Site ν) _).run now s)
      ((f.downloadWith (some k) deadline url more : Job κ (Site ν) _).run now s) := by
  induction more using Nat.strongRecOn generalizing now s with
  | ind more ih =>
    rw [downloadWith.eq_def, downloadWith.eq_def]
    refine (cut_attempt hbegin).andThen (fun e => rfl) fun a later s' hlt => ?_
    cases a with
    | error e => exact cut_pure _ hlt
    | ok answer =>
      dsimp only
      cases answer.verdict with
      | missing => exact cut_pure _ hlt
      | found body => exact .missed hlt
      | failed problem =>
        cases more with
        | zero => exact cut_pure _ hlt
        -- only the first delay has to be within the budget: the next one begins before the cancellation
        | succ more => exact ih more (Nat.lt_succ_self more) (.inr hlt)

theorem cut_download (hbudget : ∀ budget, f.policy.budget = some budget → s.delay ≤ budget) :
    Cut k now ((f.download none url : Job κ (Site ν) _).run now s)
      ((f.download (some k) url : Job κ (Site ν) _).run now s) := by
  have hbegin : (f.policy.budget.map (now + ·)).any (· < now + s.delay) = false := by
    cases hpolicy : f.policy.budget with
    | none => rfl
    | some budget =>
      have hle := hbudget budget hpolicy
      simp only [Option.map_some, Option.any_some, decide_eq_false_iff_not]
      omega
  rw [download, download, run_seq, run_seq, Job.run_instant]
  exact cut_downloadWith _ (.inl hbegin)

section
variable {uri : Option String} (hmissed : (s.cache.get (f.clock now) (f.resolve uri)).1 = none)
  (hopen : s.refuses = false) (hbudget : ∀ budget, f.policy.budget = some budget → s.delay ≤ budget)
include hmissed hopen hbudget

theorem cut_get : Cut k now ((f.get none uri : Job κ (Site ν) _).run now s)
    ((f.get (some k) uri : Job κ (Site ν) _).run now s) := by
  have hdownload (s : Site ν) (hbudget : ∀ budget, f.policy.budget = some budget → s.delay ≤ budget) :
      Cut k now ((f.download none (f.resolve uri) : Job κ (Site ν) _).run now s)
        ((f.download (some k) (f.resolve uri) : Job κ (Site ν) _).run now s) := cut_download hbudget
  specialize hdownload { s with cache := (s.cache.get (f.clock now) (f.resolve uri)).2 } hbudget
  rw [run_get_of_missed hmissed hopen rfl]
  generalize (f.download none (f.resolve uri) : Job κ (Site ν) _).run now
    { s with cache := (s.cache.get (f.clock now) (f.resolve uri)).2 } = u at hdownload ⊢
  generalize ho : (f.download (some k) (f.resolve uri) : Job κ (Site ν) _).run now
    { s with cache := (s.cache.get (f.clock now) (f.resolve uri)).2 } = o at hdownload
  rw [run_get_of_missed hmissed hopen ho]
  cases hdownload with
  | missed earlier => exact .missed earlier
  | reached pending state =>
    refine .reached ?_ state
    exact pending

end

end Storefront.Fetcher

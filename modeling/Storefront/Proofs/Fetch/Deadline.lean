import Storefront.Proofs.Fetch.Record

/-! # Downloads with a budget

A download with a budget goes on until its deadline as if it had none. When it has not ended by then, it is out of
time: at the deadline at the latest, and it has not asked for anything since.
-/
namespace Storefront

/-- Whether a site has asked for more only before an instant. -/
def Site.AsksBefore {ν : Type} (limit : Nat) (s s' : Site (ν × List Request)) : Prop :=
  ∃ sent, s'.record = s.record ++ sent ∧ ∀ r ∈ sent, r.sent < limit

namespace Site
variable {ν : Type} {limit : Nat} {s s' s'' : Site (ν × List Request)}

theorem asksBefore_refl (limit : Nat) (s : Site (ν × List Request)) : s.AsksBefore limit s := by
  refine ⟨[], (List.append_nil _).symm, ?_⟩
  intro r hr
  cases hr

theorem AsksBefore.trans (h : s.AsksBefore limit s') (h' : s'.AsksBefore limit s'') : s.AsksBefore limit s'' := by
  obtain ⟨sent, hsent, hbefore⟩ := h
  obtain ⟨sent', hsent', hbefore'⟩ := h'
  refine ⟨sent ++ sent', by rw [hsent', hsent, List.append_assoc], ?_⟩
  intro r hr
  rcases List.mem_append.mp hr with hr | hr
  · exact hbefore r hr
  · exact hbefore' r hr

end Site

namespace Fetcher
open Job (run_seq run_act run_view)
variable {κ ν α : Type}

def withBudget (f : Fetcher ν) (budget : Option Nat) : Fetcher ν := { f with policy := { f.policy with budget } }

theorem downloadWith_withBudget (f : Fetcher ν) (budget : Option Nat) (cancel deadline : Option Nat) (url : String)
    (more : Nat) : ((f.withBudget budget).downloadWith cancel deadline url more : Job κ (Site ν) _) =
      f.downloadWith cancel deadline url more := by
  induction more with
  | zero =>
    rw [downloadWith, downloadWith]
    rfl
  | succ more ih =>
    rw [downloadWith, downloadWith]
    dsimp only
    rw [ih]
    rfl

theorem run_download_withBudget (f : Fetcher ν) (budget : Option Nat) (url : String) (now : Nat) (s : Site ν) :
    ((f.withBudget budget).download none url : Job κ (Site ν) _).run now s =
      (f.downloadWith none (budget.map (now + ·)) url (f.limit - 1) : Job κ (Site ν) _).run now s := by
  rw [download, run_seq, Job.run_instant, downloadWith_withBudget]
  rfl

/-- How something ends that has a deadline and would end in another way otherwise. -/
inductive Expires (limit : Nat) (url : String) (u : Job.Outcome (Site ν) (Attempt α)) :
    Job.Outcome (Site ν) (Attempt α) → Prop
  | early (earlier : u.instant < limit) : Expires limit url u u
  | late {later : Nat} (pending : limit ≤ u.instant) (intime : later ≤ limit) (state : Site ν) :
      Expires limit url u ⟨.error (.outOfTime url), later, state⟩

theorem run_waitUntil_none (wake now : Nat) (s : Site ν) :
    (waitUntil none wake : Job κ (Site ν) _).run now s = ⟨.ok (), max now wake, s⟩ := rfl

section
variable (f : Fetcher ν) (url : String) {limit now : Nat} (s : Site ν)

/-- An attempt with a deadline: the delay if there is time for it, then a request if there is still time, then the
answer if it comes in time. -/
theorem run_attempt_until :
    (f.attempt none (some limit) url : Job κ (Site ν) _).run now s =
      let wake := now + s.delay
      let sent := f.transport.send url wake s.net
      if limit < wake then ⟨.error (.outOfTime url), now, s⟩
      else if limit = wake then ⟨.error (.outOfTime url), limit, s⟩
      else if limit ≤ wake + sent.1.wait then ⟨.error (.outOfTime url), limit, { s with net := sent.2 }⟩
      else ⟨.ok sent.1.answer, wake + sent.1.wait, { s with net := sent.2 }⟩ := by
  have hwake : max now (now + s.delay) = now + s.delay := Nat.max_eq_right (Nat.le_add_right _ _)
  rw [attempt, run_seq, run_view]
  dsimp only
  by_cases hpast : limit < now + s.delay
  · rw [if_pos hpast, if_pos (by simpa using hpast)]
    rfl
  rw [if_neg hpast, if_neg (by simpa using hpast), run_seq, run_waitUntil_none, hwake]
  dsimp only
  rw [request, run_seq, Job.run_instant]
  dsimp only
  by_cases hend : limit = now + s.delay
  · rw [if_pos hend, if_pos (by simp [isBy, hend]), ← hend]
    rfl
  rw [if_neg hend, if_neg (by simp [isBy]; omega), run_seq, run_act, run_seq, waitWithin]
  dsimp only
  generalize (f.transport.send url (now + s.delay) s.net).1 = reply
  generalize (f.transport.send url (now + s.delay) s.net).2 = net
  by_cases hslow : limit ≤ now + s.delay + reply.wait
  · rw [if_pos hslow, if_pos hslow, run_seq, run_waitUntil_none]
    have hmax : max (now + s.delay) limit = limit := by omega
    rw [hmax]
    rfl
  · rw [if_neg hslow, if_neg hslow, run_waitUntil_none]
    rw [Nat.max_eq_right (Nat.le_add_right _ _)]
    rfl

theorem attempt_expires (hnow : now ≤ limit) :
    Expires limit url ((f.attempt none none url : Job κ (Site ν) _).run now s)
      ((f.attempt none (some limit) url : Job κ (Site ν) _).run now s) := by
  rw [run_attempt_until, run_attempt]
  dsimp only
  generalize f.transport.send url (now + s.delay) s.net = sent
  by_cases hpast : limit < now + s.delay
  · rw [if_pos hpast]
    refine .late ?_ hnow s
    change limit ≤ now + s.delay + sent.1.wait
    omega
  rw [if_neg hpast]
  by_cases hend : limit = now + s.delay
  · rw [if_pos hend]
    refine .late ?_ (Nat.le_refl limit) s
    exact hend ▸ Nat.le_add_right _ _
  rw [if_neg hend]
  by_cases hslow : limit ≤ now + s.delay + sent.1.wait
  · rw [if_pos hslow]
    exact .late hslow (Nat.le_refl limit) _
  · rw [if_neg hslow]
    exact .early (Nat.lt_of_not_le hslow)

/-- A download with a deadline asks as it would without until its time is over. -/
theorem downloadWith_expires (more : Nat) (hnow : now ≤ limit) :
    Expires limit url ((f.downloadWith none none url more : Job κ (Site ν) _).run now s)
      ((f.downloadWith none (some limit) url more : Job κ (Site ν) _).run now s) := by
  induction more using Nat.strongRecOn generalizing now s with
  | ind more ih =>
    rw [downloadWith.eq_def, downloadWith.eq_def, run_seq, run_seq]
    have hattempt := attempt_expires (κ := κ) f url s hnow
    generalize (f.attempt none none url : Job κ (Site ν) _).run now s = u at hattempt ⊢
    generalize (f.attempt none (some limit) url : Job κ (Site ν) _).run now s = o at hattempt ⊢
    cases hattempt with
    | late pending intime state =>
      -- whatever comes after the attempt comes after the deadline
      exact .late (Nat.le_trans pending (Job.le_instant _ _ _)) intime state
    | early earlier =>
      cases u.value with
      | error e => exact .early earlier
      | ok answer =>
        dsimp only
        cases answer.verdict with
        | missing => exact .early earlier
        | found body => exact .early earlier
        | failed problem =>
          cases more with
          | zero => exact .early earlier
          | succ more => exact ih more (Nat.lt_succ_self more) _ (Nat.le_of_lt earlier)

end

section
variable (f : Fetcher ν) (url : String) {limit now : Nat} (s : Site (ν × List Request))

theorem attempt_asksBefore (limit now : Nat) :
    let o := (f.recorded.attempt none (some limit) url : Job κ (Site (ν × List Request)) _).run now s
    s.AsksBefore limit o.state := by
  have hsent (hbefore : now + s.delay < limit) :
      s.AsksBefore limit { s with net := (f.recorded.transport.send url (now + s.delay) s.net).2 } := by
    refine ⟨[⟨url, now + s.delay, (f.transport.send url (now + s.delay) s.net.1).1⟩], rfl, ?_⟩
    intro r hr
    obtain rfl := List.mem_singleton.mp hr
    exact hbefore
  rw [run_attempt_until]
  dsimp only
  by_cases hpast : limit < now + s.delay
  · rw [if_pos hpast]
    exact s.asksBefore_refl limit
  rw [if_neg hpast]
  by_cases hend : limit = now + s.delay
  · rw [if_pos hend]
    exact s.asksBefore_refl limit
  rw [if_neg hend]
  have hbefore : now + s.delay < limit := by omega
  split
  · exact hsent hbefore
  · exact hsent hbefore

theorem downloadWith_asksBefore (more : Nat) (hnow : now ≤ limit) :
    let o := (f.recorded.downloadWith none (some limit) url more : Job κ (Site (ν × List Request)) _).run now s
    s.AsksBefore limit o.state := by
  induction more using Nat.strongRecOn generalizing now s with
  | ind more ih =>
    rw [downloadWith.eq_def, run_seq]
    have hasked := attempt_asksBefore (κ := κ) f url s limit now
    have hends := attempt_expires (κ := κ) f.recorded url s hnow
    generalize (f.recorded.attempt none none url : Job κ (Site (ν × List Request)) _).run now s = u at hends
    generalize (f.recorded.attempt none (some limit) url : Job κ (Site (ν × List Request)) _).run now s = o
      at hasked hends ⊢
    cases hends with
    | late pending intime state => exact hasked
    | early earlier =>
      cases u.value with
      | error e => exact hasked
      | ok answer =>
        dsimp only
        cases answer.verdict with
        | missing => exact hasked
        | found body => exact hasked
        | failed problem =>
          cases more with
          | zero => exact hasked
          | succ more => exact hasked.trans (ih more (Nat.lt_succ_self more) _ (Nat.le_of_lt earlier))

end

/-- A download with a budget ends within its budget and asks for nothing afterwards. If it would have ended before
without one, then it ends in the same way, having asked for the same; and it is out of time if not. -/
theorem download_within_budget (f : Fetcher ν) (budget : Nat) (url : String) (now : Nat)
    (s : Site (ν × List Request)) :
    let free := ((f.withBudget none).recorded.download none url : Job κ (Site (ν × List Request)) _).run now s
    let o := ((f.withBudget (some budget)).recorded.download none url : Job κ (Site (ν × List Request)) _).run now s
    o.instant ≤ now + budget ∧ s.AsksBefore (now + budget) o.state ∧
      (free.instant < now + budget → o = free) ∧
      (now + budget ≤ free.instant → o.value = .error (.outOfTime url)) := by
  intro free o
  have hnow : now ≤ now + budget := Nat.le_add_right now budget
  have hfree : free = (f.recorded.downloadWith none none url (f.limit - 1) : Job κ _ _).run now s :=
    run_download_withBudget f.recorded none url now s
  have hlimited : o = (f.recorded.downloadWith none (some (now + budget)) url (f.limit - 1) : Job κ _ _).run now s :=
    run_download_withBudget f.recorded (some budget) url now s
  have hasked := downloadWith_asksBefore (κ := κ) f url s (f.limit - 1) hnow
  have hends := downloadWith_expires (κ := κ) f.recorded url s (f.limit - 1) hnow
  rw [← hlimited] at hasked hends
  rw [← hfree] at hends
  clear_value free o
  cases hends with
  | early earlier =>
    refine ⟨Nat.le_of_lt earlier, hasked, fun _ => rfl, ?_⟩
    intro hlate
    omega
  | late pending intime state =>
    refine ⟨intime, hasked, ?_, fun _ => rfl⟩
    intro hearly
    omega

def sluggish : Fetcher Nat where
  domain := { scheme := "https".toList, authority := some { host := .name "shop.test".toList }, path := ['/'] }
  policy := {}
  transport := .stream fun _ => ⟨.page 200 "shoes", 300⟩
  clock _ := ⟨0, 0⟩

def unasked : Site (Nat × List Request) := { delay := 200, cache := { ttl := 60, folder := .absent }, net := (0, []) }

/-- An answer at the deadline is too late. -/
theorem download_within_budget_sluggish :
    let o (budget : Option Nat) :=
      ((sluggish.withBudget budget).recorded.download none "shoes" : Job Unit _ _).run 0 unasked
    (o none).value = .ok "shoes" ∧ (o none).instant = 500 ∧ o (some 501) = o none ∧
      (o (some 500)).value = .error (.outOfTime "shoes") := by
  intro o
  have hinstant : (o none).instant = 500 := by decide +kernel
  obtain ⟨-, -, hsame, -⟩ := download_within_budget (κ := Unit) sluggish 501 "shoes" 0 unasked
  obtain ⟨-, -, -, hlate⟩ := download_within_budget (κ := Unit) sluggish 500 "shoes" 0 unasked
  refine ⟨by decide +kernel, hinstant, hsame ?_, hlate ?_⟩
  · exact Nat.lt_of_le_of_lt (Nat.le_of_eq hinstant) (by decide)
  · exact Nat.le_of_eq hinstant.symm

end Fetcher
end Storefront

import Storefront.Proofs.Job.Part
import Storefront.Proofs.Job.Turns
import Storefront.Proofs.Rates.Entry
import Storefront.Proofs.Rates.Log

/-! # What a desk does to its book

Whatever is asked of a desk, side by side or one after the other, and whatever its source and the people it asks answer,
its book goes through three kinds of actions only. What is recorded are the rates above zero that the source has
answered, each at the time of the answer and in the order of the answers.
-/
namespace Storefront

inductive BookAction
  | claim (now : Timestamp) (c : Currency)
  | record (now : Timestamp) (c : Currency) (rate : Decimal)
  | acceptFromFile (now : Timestamp) (c : Currency)

def BookAction.isRecord : BookAction → Bool
  | .record .. => true
  | _ => false

def RateAnswer.action? (a : RateAnswer) : Option BookAction :=
  match a.answer with
  | .ok rate => if rate.isPositive then some (.record a.time a.currency rate) else none
  | .error _ => none

namespace RateBook

def act (b : RateBook) : BookAction → RateBook
  | .claim now c => (b.claim now c).2
  | .record now c rate => (b.record now c rate).2
  | .acceptFromFile now c => (b.acceptFromFile now c).2

def acts (b : RateBook) (actions : List BookAction) : RateBook := actions.foldl act b

theorem record_snd (b : RateBook) (now : Timestamp) (c : Currency) (rate : Decimal) : (b.record now c rate).2 =
    match now.later? b.ttl with
    | some expires => (b.insert c ⟨rate, some expires⟩).persist.2
    | none => b := by
  unfold record accept
  cases now.later? b.ttl with
  | none => rfl
  | some expires =>
    dsimp only
    split
    · rename_i h
      rw [h]
    · rename_i h
      rw [h]

theorem record_main (b : RateBook) (now : Timestamp) (c : Currency) (rate : Decimal) :
    (b.record now c rate).2.main = b.main := by
  rw [record_snd]
  split
  · exact (persist_keeps _).1
  · rfl

/-- No action changes the main currency. -/
theorem act_main (b : RateBook) (a : BookAction) : (b.act a).main = b.main := by
  cases a with
  | claim now c =>
    simp only [act, claim]
    split <;> rfl
  | record now c rate => exact b.record_main now c rate
  | acceptFromFile now c => exact (b.acceptFromFile_takesIn now c).main_eq

theorem acts_main (b : RateBook) (actions : List BookAction) : (b.acts actions).main = b.main := by
  induction actions generalizing b with
  | nil => rfl
  | cons a rest ih => exact (ih (b.act a)).trans (b.act_main a)

/-- A book that has come from another one by actions, among them the recording of what has been answered. -/
def Follows (start : RateBook) (answers : List RateAnswer) (b : RateBook) : Prop :=
  ∃ actions : List BookAction, b = start.acts actions ∧
    actions.filter BookAction.isRecord = answers.filterMap RateAnswer.action?

section
variable {start b : RateBook} {answers : List RateAnswer}

theorem follows_refl (start : RateBook) : start.Follows [] start := ⟨[], rfl, rfl⟩

theorem acts_concat (start : RateBook) (actions : List BookAction) (a : BookAction) :
    start.acts (actions ++ [a]) = (start.acts actions).act a := List.foldl_append

theorem Follows.act (h : start.Follows answers b) {a : BookAction} (ha : a.isRecord = false) :
    start.Follows answers (b.act a) := by
  obtain ⟨actions, rfl, hrecords⟩ := h
  refine ⟨actions ++ [a], (start.acts_concat actions a).symm, ?_⟩
  rw [List.filter_append, hrecords, List.filter_cons_of_neg (by simp [ha]), List.filter_nil, List.append_nil]

theorem Follows.record (h : start.Follows answers b) {answer : RateAnswer} {a : BookAction}
    (ha : answer.action? = some a) (hrecord : a.isRecord = true) : start.Follows (answers ++ [answer]) (b.act a) := by
  obtain ⟨actions, rfl, hrecords⟩ := h
  refine ⟨actions ++ [a], (start.acts_concat actions a).symm, ?_⟩
  rw [List.filter_append, hrecords, List.filter_cons_of_pos hrecord, List.filter_nil, List.filterMap_append,
    List.filterMap_cons_some ha, List.filterMap_nil]

theorem Follows.pass (h : start.Follows answers b) {answer : RateAnswer} (ha : answer.action? = none) :
    start.Follows (answers ++ [answer]) b := by
  obtain ⟨actions, hb, hrecords⟩ := h
  refine ⟨actions, hb, ?_⟩
  rw [hrecords, List.filterMap_append, List.filterMap_cons_none ha, List.filterMap_nil, List.append_nil]

end
end RateBook

inductive RateCall
  | ensure (c : Currency)
  | ensureAll (list : List Currency)
  | rate (alpha beta : Currency)

namespace RateDesk
variable {ρ : Type}

def serve (d : RateDesk ρ) : RateCall → Job RateLock (RateBook × ρ) Unit
  | .ensure c => do let _ ← d.ensure c
  | .ensureAll list => do let _ ← d.ensureAll list
  | .rate alpha beta => do let _ ← d.rate alpha beta

def serveAll (d : RateDesk ρ) : List RateCall → Job RateLock (RateBook × ρ) Unit
  | [] => return
  | call :: rest => do
    d.serve call
    serveAll d rest

/-- The book follows from the one at the start, by what the log says has been answered. -/
def Accounted (start : RateBook) (s : RateBook × ρ × RateLog) : Prop := start.Follows s.2.2.answers s.1

section
variable (d : RateDesk ρ) (start : RateBook)

theorem repairs_onBook {α : Type} {f : Timestamp → RateBook → α × RateBook}
    (h : ∀ now b, ∃ a : BookAction, a.isRecord = false ∧ (f now b).2 = b.act a) :
    (d.logged.onBook f).Repairs (Accounted start) := by
  intro p hp
  obtain ⟨a, ha, hact⟩ := h (d.clock p.1) p.2.1
  change start.Follows p.2.2.2.answers (f (d.clock p.1) p.2.1).2
  rw [hact]
  exact hp.act ha

theorem repairs_allows (question : String) :
    ((d.logged.allows question).onSecond : Job RateLock (RateBook × ρ × RateLog) Bool).Repairs (Accounted start) := by
  simp only [logged, Job.onSecond, Job.within_seq]
  refine Job.Repairs.bind (fun p hp => hp) fun _ => ?_
  exact Job.repairs_onFirst_onSecond (fun _ _ _ _ h => h) (d.allows question)

/-- When the source has just answered, its answer is in the log and has yet to be recorded. -/
theorem restores_source (c main : Currency) {p : Nat × RateBook × ρ × RateLog} (hp : Accounted start p.2) :
    ((d.logged.source c main).onSecond : Job RateLock (RateBook × ρ × RateLog) _).Restores (Accounted start)
      (fun answer q => ∃ answers, start.Follows answers q.2.1 ∧
        q.2.2.2.answers = answers ++ [⟨d.clock q.1, c, answer⟩]) p := by
  simp only [logged, Job.onSecond, Job.within_seq]
  refine Job.Restores.bind (Job.Restores.bind ?_)
  have hasked := Job.repairs_onFirst_onSecond (I := Accounted start) (fun _ _ _ _ h => h) (d.source c main)
    (p.1, p.2.1, p.2.2.1, { p.2.2.2 with requests := p.2.2.2.requests ++ [c] }) hp
  exact hasked.mono fun answer q hq => ⟨_, hq, rfl⟩

theorem repairs_fallBack (c : Currency) (cause : String) : (d.logged.fallBack c cause).Repairs (Accounted start) := by
  refine (Job.repairs_view _).bind fun path => ?_
  refine Job.Repairs.bind (Job.repairs_holding _ ?_) fun allowed => ?_
  · exact (d.repairs_allows start _).bind fun allowed => Job.repairs_rest.bind fun _ => Job.repairs_pure allowed
  · split
    · exact d.repairs_onBook start fun now b => ⟨.acceptFromFile now c, rfl, rfl⟩
    · exact Job.repairs_pure _

theorem repairs_fetch (c : Currency) : (d.logged.fetch c).Repairs (Accounted start) := by
  intro p hp
  refine Job.Restores.bind (Job.Restores.bind ?_)
  refine (d.restores_source start c p.2.1.main hp).mono fun answer q hq => ?_
  obtain ⟨answers, hfollows, hanswers⟩ := hq
  have hpass (hnone : RateAnswer.action? ⟨d.clock q.1, c, answer⟩ = none) : Accounted start q.2 := by
    rw [Accounted, hanswers]
    exact hfollows.pass hnone
  cases answer with
  | error f => exact d.repairs_fallBack start c _ q (hpass rfl)
  | ok rate =>
    dsimp only
    split
    · -- no one else has worked on the book since the answer
      rename_i hpositive
      change start.Follows q.2.2.2.answers (q.2.1.act (.record (d.clock q.1) c rate))
      rw [hanswers]
      exact hfollows.record (if_pos hpositive) rfl
    · rename_i hpositive
      exact d.repairs_fallBack start c _ q (hpass (if_neg hpositive))

theorem repairs_ensure (c : Currency) : (d.logged.ensure c).Repairs (Accounted start) := by
  refine (Job.repairs_view _).bind fun fresh => ?_
  cases fresh with
  | some rate => exact Job.repairs_pure _
  | none =>
    refine Job.repairs_holding _ (Job.Repairs.bind ?_ fun claimed => ?_)
    · exact d.repairs_onBook start fun now _ => ⟨.claim now c, rfl, rfl⟩
    · cases claimed with
      | some rate => exact Job.repairs_pure _
      | none => exact d.repairs_fetch start c

theorem repairs_ensureAll (list : List Currency) : (d.logged.ensureAll list).Repairs (Accounted start) := by
  induction list with
  | nil => exact Job.repairs_pure _
  | cons c rest ih =>
    refine (d.repairs_ensure start c).bind fun answer => ?_
    cases answer with
    | ok _ => exact ih
    | error f => exact Job.repairs_pure _

theorem repairs_rate (alpha beta : Currency) : (d.logged.rate alpha beta).Repairs (Accounted start) := by
  refine (d.repairs_ensure start alpha).bind fun a => ?_
  cases a with
  | error f => exact Job.repairs_pure _
  | ok a =>
    refine (d.repairs_ensure start beta).bind fun b => ?_
    cases b with
    | error f => exact Job.repairs_pure _
    | ok b => exact Job.repairs_pure _

theorem repairs_serveAll (calls : List RateCall) : (d.logged.serveAll calls).Repairs (Accounted start) := by
  induction calls with
  | nil => exact Job.repairs_pure _
  | cons call rest ih =>
    refine Job.Repairs.bind ?_ fun _ => ih
    cases call with
    | ensure c => exact (d.repairs_ensure start c).bind fun _ => Job.repairs_pure _
    | ensureAll list => exact (d.repairs_ensureAll start list).bind fun _ => Job.repairs_pure _
    | rate alpha beta => exact (d.repairs_rate start alpha beta).bind fun _ => Job.repairs_pure _

/-- The book of a desk that has served any number of people side by side follows from what its source has answered. -/
theorem follows_of_run (clients : List (List RateCall)) (limit now : Nat) (r : ρ) :
    let final := (Pool.start limit (clients.map d.logged.serveAll) now (start, r, {})).run.state
    start.Follows final.2.2.answers final.1 := by
  refine Pool.run_of_repairs (I := Accounted start) (fun job hjob => ?_) limit now (RateBook.follows_refl start)
  obtain ⟨calls, -, rfl⟩ := List.mem_map.mp hjob
  exact d.repairs_serveAll start calls

end
end RateDesk
end Storefront

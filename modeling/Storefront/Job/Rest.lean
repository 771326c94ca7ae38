import Storefront.Job.Basic

/-! # What is left of jobs

A job that has done its first piece is a part of what it was, so no job goes on for ever. The same holds
of a list of jobs of which one at a time does a piece.
-/
namespace Storefront
namespace Job
variable {κ σ α : Type}

/-- The job that is left when another one has done its first piece. -/
inductive Rest : Job κ σ α → Job κ σ α → Prop
  | read (next : Nat → σ → Job κ σ α) (now : Nat) (s : σ) : Rest (next now s) (read next)
  | write (s : σ) (next : Job κ σ α) : Rest next (write s next)
  | sleep (wake : Nat) (next : Job κ σ α) : Rest next (sleep wake next)
  | pause (next : Job κ σ α) : Rest next (pause next)
  | lock (key : κ) (next : Job κ σ α) : Rest next (lock key next)
  | unlock (key : κ) (next : Job κ σ α) : Rest next (unlock key next)

theorem acc_rest (job : Job κ σ α) : Acc Rest job := by
  induction job with
  | done a => exact ⟨_, fun _ h => nomatch h⟩
  | read next ih => exact ⟨_, fun _ h => by cases h; exact ih _ _⟩
  | write s next ih => exact ⟨_, fun _ h => by cases h; exact ih⟩
  | sleep wake next ih => exact ⟨_, fun _ h => by cases h; exact ih⟩
  | pause next ih => exact ⟨_, fun _ h => by cases h; exact ih⟩
  | lock key next ih => exact ⟨_, fun _ h => by cases h; exact ih⟩
  | unlock key next ih => exact ⟨_, fun _ h => by cases h; exact ih⟩

inductive Fewer : Option (Job κ σ α) → Option (Job κ σ α) → Prop
  | less {a b : Job κ σ α} (h : Rest a b) : Fewer (some a) (some b)
  | done (a : Job κ σ α) : Fewer none (some a)

theorem acc_fewer_none : Acc Fewer (none : Option (Job κ σ α)) := ⟨_, fun _ h => nomatch h⟩

theorem acc_fewer (place : Option (Job κ σ α)) : Acc Fewer place := by
  cases place with
  | none => exact acc_fewer_none
  | some job =>
    induction acc_rest job with
    | intro job _ ih =>
      refine ⟨_, fun place h => ?_⟩
      cases h with
      | less h => exact ih _ h
      | done => exact acc_fewer_none

inductive Shrinks : List (Option (Job κ σ α)) → List (Option (Job κ σ α)) → Prop
  | head {a b : Option (Job κ σ α)} (h : Fewer a b) (rest : List (Option (Job κ σ α))) :
    Shrinks (a :: rest) (b :: rest)
  | tail (a : Option (Job κ σ α)) {fewer rest : List (Option (Job κ σ α))} (h : Shrinks fewer rest) :
    Shrinks (a :: fewer) (a :: rest)

theorem acc_shrinks (places : List (Option (Job κ σ α))) : Acc Shrinks places := by
  induction places with
  | nil => exact ⟨_, fun _ h => nomatch h⟩
  | cons place rest ih =>
    induction acc_fewer place generalizing rest with
    | intro place _ ihPlace =>
      induction ih with
      | intro rest hrest ihRest =>
        refine ⟨_, fun _ h => ?_⟩
        cases h with
        | head h => exact ihPlace _ h _ ⟨_, hrest⟩
        | tail _ h => exact ihRest _ h

theorem shrinks_set {places : List (Option (Job κ σ α))} {i : Nat} {a b : Option (Job κ σ α)}
    (h : places[i]? = some b) (less : Fewer a b) : Shrinks (places.set i a) places := by
  induction places generalizing i with
  | nil => simp at h
  | cons place rest ih =>
    cases i with
    | zero =>
      simp only [List.getElem?_cons_zero, Option.some.injEq] at h
      exact h ▸ .head (h ▸ less) rest
    | succ i => exact .tail _ (ih (by simpa using h))

end Job
end Storefront

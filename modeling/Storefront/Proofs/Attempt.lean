import Mathlib.Data.List.Forall2
import Storefront.Failure

/-! # Attempts in sequence

An attempt made of several succeeds exactly when each of them does, and fails with the first of their
failures. So it fails in no other way than they do. It is the same with values that may be missing.
-/
namespace Storefront
variable {α β : Type} {f : α → Option β} {xs : List α} {ys : List β}

theorem mapM_eq_some_iff : xs.mapM f = some ys ↔ List.Forall₂ (fun x y => f x = some y) xs ys := by
  induction xs generalizing ys with
  | nil => simp [eq_comm]
  | cons x xs ih =>
    simp only [List.mapM_cons, Option.bind_eq_bind, Option.bind_eq_some_iff, ih, List.forall₂_cons_left_iff, pure,
      Option.some.injEq]
    constructor
    · rintro ⟨y, hy, ys, hys, rfl⟩
      exact ⟨y, ys, hy, hys, rfl⟩
    · rintro ⟨y, ys, hy, hys, rfl⟩
      exact ⟨y, hy, ys, hys, rfl⟩

theorem exists_of_mem_mapM {y : β} (h : xs.mapM f = some ys) (hy : y ∈ ys) : ∃ x ∈ xs, f x = some y := by
  have hall := mapM_eq_some_iff.mp h
  clear h
  induction hall with
  | nil => cases hy
  | cons hx _ ih =>
    rcases List.mem_cons.mp hy with rfl | hy
    · exact ⟨_, List.mem_cons_self, hx⟩
    · obtain ⟨x, hmem, hx⟩ := ih hy
      exact ⟨x, List.mem_cons_of_mem _ hmem, hx⟩

theorem mapM_eq_some_self {f : α → Option α} (h : ∀ x ∈ xs, f x = some x) : xs.mapM f = some xs := by
  rw [mapM_eq_some_iff, List.forall₂_same]
  exact h

end Storefront

namespace Storefront.Attempt
variable {α β : Type}

theorem ok_bind (x : α) (f : α → Attempt β) : (Except.ok x >>= f) = f x := rfl

theorem bind_eq_ok_iff {a : Attempt α} {f : α → Attempt β} {b : β} :
    (a >>= f) = .ok b ↔ ∃ x, a = .ok x ∧ f x = .ok b := by
  cases a with
  | error e => simp [bind, Except.bind]
  | ok x => simp [bind, Except.bind]

theorem bind_eq_error_iff {a : Attempt α} {f : α → Attempt β} {e : Failure} :
    (a >>= f) = .error e ↔ a = .error e ∨ ∃ x, a = .ok x ∧ f x = .error e := by
  cases a with
  | error e' => simp [bind, Except.bind]
  | ok x => simp [bind, Except.bind]

theorem ofOption_eq_ok_iff {e : Failure} {o : Option α} {a : α} :
    ofOption e o = .ok a ↔ o = some a := by
  cases o <;> simp [ofOption]

theorem ofOption_eq_error_iff {e f : Failure} {o : Option α} :
    ofOption e o = .error f ↔ o = none ∧ f = e := by
  cases o <;> simp [ofOption, eq_comm]

theorem exists_error_iff {a : Attempt α} : (∃ e, a = .error e) ↔ ¬ ∃ x, a = .ok x := by
  cases a <;> simp

theorem eq_ok_of_toOption {a : Attempt α} {x : α} (h : a.toOption = some x) : a = .ok x := by
  cases a with
  | error e => cases h
  | ok y => exact congrArg Except.ok (Option.some.inj h)

theorem of_error_eq_ok {e : Failure} {a : α} {p : Prop} (h : (.error e : Attempt α) = .ok a) : p := by
  cases h

theorem mapM_eq_ok_iff {f : α → Attempt β} {xs : List α} {ys : List β} :
    xs.mapM f = .ok ys ↔ List.Forall₂ (fun x y => f x = .ok y) xs ys := by
  induction xs generalizing ys with
  | nil => cases ys <;> simp [pure, Except.pure]
  | cons x xs ih =>
    simp only [List.mapM_cons, bind_eq_ok_iff, ih, List.forall₂_cons_left_iff, pure, Except.pure,
      Except.ok.injEq]
    constructor
    · rintro ⟨y, hy, ys', hys, rfl⟩
      exact ⟨y, ys', hy, hys, rfl⟩
    · rintro ⟨y, ys', hy, hys, rfl⟩
      exact ⟨y, hy, ys', hys, rfl⟩

theorem exists_mapM_eq_ok_iff {f : α → Attempt β} {xs : List α} :
    (∃ ys, xs.mapM f = .ok ys) ↔ ∀ x ∈ xs, ∃ y, f x = .ok y := by
  simp only [mapM_eq_ok_iff]
  induction xs with
  | nil => simp
  | cons x xs ih =>
    simp only [List.forall₂_cons_left_iff, List.forall_mem_cons, ← ih]
    constructor
    · rintro ⟨_, y, ys, hy, hys, rfl⟩
      exact ⟨⟨y, hy⟩, ys, hys⟩
    · rintro ⟨⟨y, hy⟩, ys, hys⟩
      exact ⟨_, y, ys, hy, hys, rfl⟩

/-- Whether an attempt succeeds or fails in one of these ways. -/
def FailsWith (P : Failure → Prop) (a : Attempt α) : Prop := ∀ f, a = .error f → P f

section
variable {P : Failure → Prop}

theorem failsWith_ok (x : α) : FailsWith P (.ok x) := by
  intro f hf
  cases hf

theorem failsWith_error {f : Failure} (h : P f) : FailsWith P (.error f : Attempt α) := by
  intro f' hf
  cases hf
  exact h

theorem failsWith_ofOption {f : Failure} (h : P f) (o : Option α) : FailsWith P (ofOption f o) := by
  intro f' hf
  obtain ⟨-, rfl⟩ := ofOption_eq_error_iff.mp hf
  exact h

theorem FailsWith.mono {Q : Failure → Prop} {a : Attempt α} (ha : FailsWith P a) (h : ∀ f, P f → Q f) :
    FailsWith Q a := fun f hf => h f (ha f hf)

theorem FailsWith.bind_of {a : Attempt α} {g : α → Attempt β} (ha : FailsWith P a)
    (hg : ∀ x, a = .ok x → FailsWith P (g x)) : FailsWith P (a >>= g) := by
  intro f hf
  rcases bind_eq_error_iff.mp hf with hf | ⟨x, hx, hf⟩
  · exact ha f hf
  · exact hg x hx f hf

theorem FailsWith.bind {a : Attempt α} {g : α → Attempt β} (ha : FailsWith P a) (hg : ∀ x, FailsWith P (g x)) :
    FailsWith P (a >>= g) := ha.bind_of fun x _ => hg x

theorem failsWith_mapM {g : α → Attempt β} {xs : List α} (hg : ∀ x ∈ xs, FailsWith P (g x)) :
    FailsWith P (xs.mapM g) := by
  induction xs with
  | nil => exact failsWith_ok []
  | cons x xs ih =>
    rw [List.forall_mem_cons] at hg
    rw [List.mapM_cons]
    exact hg.1.bind fun y => (ih hg.2).bind fun ys => failsWith_ok (y :: ys)

end

end Storefront.Attempt

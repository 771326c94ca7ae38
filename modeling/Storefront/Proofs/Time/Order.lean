import Storefront.Time.Timestamp

/-! # The order of moments

Moments are ordered by their seconds and then by their nanoseconds. Whole seconds can be added on both
sides.
-/
namespace Storefront.Timestamp
variable {a b c : Timestamp}

theorem before_iff :
    a.before b = true ↔ a.seconds < b.seconds ∨ a.seconds = b.seconds ∧ a.nanos < b.nanos := by
  simp [before]

theorem notAfter_iff :
    a.notAfter b = true ↔ a.seconds < b.seconds ∨ a.seconds = b.seconds ∧ a.nanos ≤ b.nanos := by
  rw [notAfter, Bool.not_eq_true', ← Bool.not_eq_true, before_iff]
  omega

theorem notAfter_refl (a : Timestamp) : a.notAfter a = true := notAfter_iff.mpr (.inr ⟨rfl, Nat.le_refl _⟩)

theorem notAfter_trans (hab : a.notAfter b = true) (hbc : b.notAfter c = true) : a.notAfter c = true := by
  rw [notAfter_iff] at *
  omega

theorem notAfter_antisymm (hab : a.notAfter b = true) (hba : b.notAfter a = true) : a = b := by
  cases a
  cases b
  rw [notAfter_iff] at hab hba
  simp only [mk.injEq]
  dsimp only at hab hba
  omega

theorem notAfter_total (a b : Timestamp) : (a.notAfter b || b.notAfter a) = true := by
  rw [Bool.or_eq_true, notAfter_iff, notAfter_iff]
  omega

theorem notAfter_of_before (h : a.before b = true) : a.notAfter b = true := by
  rw [before_iff] at h
  rw [notAfter_iff]
  omega

theorem not_before_self (a : Timestamp) : a.before a = false := by
  rw [← Bool.not_eq_true, before_iff]
  omega

theorem before_of_notAfter_of_ne (hab : a.notAfter b = true) (hne : a ≠ b) : a.before b = true := by
  cases hbefore : a.before b with
  | true => rfl
  | false => exact absurd (notAfter_antisymm hab (by rw [notAfter, hbefore]; rfl)) hne

theorem before_of_notAfter (hab : a.notAfter b = true) (hbc : b.before c = true) : a.before c = true := by
  rw [notAfter_iff] at hab
  rw [before_iff] at *
  omega

theorem not_before_of_notAfter (h : a.notAfter b = true) : b.before a = false := by
  rwa [notAfter, Bool.not_eq_true'] at h

theorem before_of_before_of_notAfter (hab : a.before b = true) (hbc : b.notAfter c = true) : a.before c = true := by
  rw [notAfter_iff] at hbc
  rw [before_iff] at *
  omega

/-- A clock of which each instant is a second does not go back. -/
theorem notAfter_add (start : Int) (nanos : Nat) (i j : Nat) (h : i ≤ j) :
    notAfter ⟨start + i, nanos⟩ ⟨start + j, nanos⟩ = true := by
  rw [notAfter_iff]
  dsimp only
  omega

theorem later?_of_le {n : Int} (hfirst : firstSecond ≤ a.seconds + n) (hlast : a.seconds + n ≤ lastSecond) :
    a.later? n = some (a.addSeconds n) := if_pos ⟨hfirst, hlast⟩

theorem eq_addSeconds_of_later {n : Int} (h : a.later? n = some b) : b = a.addSeconds n := by
  rw [later?] at h
  split at h
  · exact (Option.some.inj h).symm
  · cases h

end Storefront.Timestamp

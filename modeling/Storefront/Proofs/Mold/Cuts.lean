import Storefront.Proofs.Mold.Edit
import Storefront.Proofs.Text.Slice

/-! # Texts cut to a length

A text that is too long is cut at one of its ends, and an ellipsis stands there for what is missing. Cutting the start
is cutting the end of the text read backwards, except to no characters at all: the last none of a text are taken for all
of it.
-/
namespace Storefront.Mold
variable {n : Nat} {s : List Char}

/-- Whether an edit shortens a text to `n` characters: a longer one becomes `short`, and another is left alone. -/
structure Shortens (e : Edit) (n : Nat) (s short : List Char) : Prop where
  apply_eq : e.apply s = if s.length ≤ n then s else short
  length_le : (e.apply s).length ≤ n + 1
  idempotent : e.apply (e.apply s) = e.apply s

theorem apply_cutEnd (n : Nat) (s : List Char) :
    (Edit.cutEnd n).apply s = if s.length ≤ n then s else s.take n ++ [ellipsis] := by
  simp only [Edit.apply, Text.slice_first, ← Nat.not_le, ite_not]

theorem shortens_cutEnd (n : Nat) (s : List Char) : Shortens (.cutEnd n) n s (s.take n ++ [ellipsis]) := by
  have heq := apply_cutEnd n s
  refine ⟨heq, ?_, ?_⟩
  · rw [heq]
    split
    · omega
    · rw [List.length_append, List.length_take, List.length_singleton]
      exact Nat.succ_le_succ (Nat.min_le_left _ _)
  · by_cases hfits : s.length ≤ n
    · rw [if_pos hfits] at heq
      rw [heq, heq]
    · -- what is left has one character too many, which is the ellipsis
      rw [if_neg hfits] at heq
      have htake : (s.take n).length = n := List.length_take_of_le (Nat.le_of_not_le hfits)
      have hlong : ¬ (s.take n ++ [ellipsis]).length ≤ n := by simp [htake]
      rw [heq, apply_cutEnd, if_neg hlong, List.take_left' htake]

theorem apply_cutStart (hn : 0 < n) (s : List Char) :
    (Edit.cutStart n).apply s = ((Edit.cutEnd n).apply s.reverse).reverse := by
  rw [apply_cutEnd, List.length_reverse]
  simp only [Edit.apply, Text.slice_last hn, ← Nat.not_le, ite_not]
  split
  · exact (List.reverse_reverse s).symm
  · rw [List.reverse_append, List.reverse_take, List.reverse_reverse, List.length_reverse]
    rfl

theorem apply_cutStart_zero (hs : s ≠ []) : (Edit.cutStart 0).apply s = ellipsis :: s := by
  have hlong : 0 < s.length := List.length_pos_iff.mpr hs
  simp only [Edit.apply, if_pos hlong, Int.natCast_zero, Int.neg_zero, Text.slice_all]

theorem shortens_cutStart (hn : 0 < n) (s : List Char) :
    Shortens (.cutStart n) n s (ellipsis :: s.drop (s.length - n)) := by
  have heq := apply_cutStart hn s
  have hend := shortens_cutEnd n s.reverse
  refine ⟨?_, ?_, ?_⟩
  · rw [heq, hend.apply_eq, List.length_reverse, apply_ite List.reverse, List.reverse_reverse, List.reverse_append,
      List.reverse_take, List.reverse_reverse, List.length_reverse]
    rfl
  · rw [heq, List.length_reverse]
    exact hend.length_le
  · rw [heq, apply_cutStart hn, List.reverse_reverse, hend.idempotent]

/-- A mold whose attribute reads as a count cuts a text to so many characters. -/
theorem apply_of_count {m : Mold} (hcount : m.countAttribute 0 = .ok n) (s : List Char) :
    (m.kind = .cutEnd → m.apply s = .ok ((Edit.cutEnd n).apply s)) ∧
      (m.kind = .cutStart → m.apply s = .ok ((Edit.cutStart n).apply s)) := by
  constructor
  · intro hkind
    refine apply_of_edit ?_ s
    simp only [edit, hkind, hcount]
    rfl
  · intro hkind
    refine apply_of_edit ?_ s
    simp only [edit, hkind, hcount]
    rfl

/-- Cutting the end keeps the first `n` characters of a longer text. Cutting the start keeps the last `n` in the same
way, read backwards, just when `n` is not zero or there is nothing to cut. -/
theorem cuts_iff (n : Nat) (s : List Char) :
    Shortens (.cutEnd n) n s (s.take n ++ [ellipsis]) ∧
    (Shortens (.cutStart n) n s (ellipsis :: s.drop (s.length - n)) ∧
      (Edit.cutStart n).apply s = ((Edit.cutEnd n).apply s.reverse).reverse ↔ 0 < n ∨ s = []) ∧
    (s ≠ [] → (Edit.cutStart 0).apply s = ellipsis :: s) ∧
    ∀ m : Mold, m.countAttribute 0 = .ok n →
      (m.kind = .cutEnd → m.apply s = .ok ((Edit.cutEnd n).apply s)) ∧
      (m.kind = .cutStart → m.apply s = .ok ((Edit.cutStart n).apply s)) := by
  refine ⟨shortens_cutEnd n s, ⟨fun ⟨hshortens, _⟩ => ?_, fun h => ?_⟩, apply_cutStart_zero,
    fun m hcount => apply_of_count hcount s⟩
  · rcases Nat.eq_zero_or_pos n with rfl | hn
    · by_cases hs : s = []
      · exact .inr hs
      · have hlong := List.length_pos_iff.mpr hs
        have hle := hshortens.length_le
        rw [apply_cutStart_zero hs, List.length_cons] at hle
        omega
    · exact .inl hn
  · rcases h with hn | rfl
    · exact ⟨shortens_cutStart hn s, apply_cutStart hn s⟩
    · exact ⟨⟨by simp [Edit.apply], by simp [Edit.apply], by simp [Edit.apply]⟩, by simp [Edit.apply]⟩

/-- To cut the start to no characters changes nothing but that an ellipsis is added, each time anew. -/
theorem cutStart_zero_grows :
    applyString [⟨.cutStart, ["0"]⟩] "abc" = .ok "…abc" ∧
    applyString [⟨.cutStart, ["0"]⟩, ⟨.cutStart, ["0"]⟩] "abc" = .ok "……abc" ∧
      ¬ ∀ (n : Nat) (s : List Char), Shortens (.cutStart n) n s (ellipsis :: s.drop (s.length - n)) := by
  refine ⟨rfl, rfl, fun h => ?_⟩
  have hlength := (h 0 ['a', 'b', 'c']).length_le
  exact absurd hlength (by decide)

end Storefront.Mold

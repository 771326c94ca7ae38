import Mathlib.Data.List.TakeDrop
import Storefront.Proofs.Text.Strip
import Storefront.Url.Host

/-! # Texts cut into pieces

A text is cut at every character of a class, or where the first such character stands.
-/
namespace Storefront.Url
variable {f : Char → Bool} {c d : Char} {s t piece : List Char} {pieces : List (List Char)}

theorem ne_of_class {b : Bool} (hc : f c = b) (hd : f d = !b) : c ≠ d := by
  rintro rfl
  simp [hc] at hd

theorem mem_of_mem_splitOnP (h : piece ∈ s.splitOnP f) (hc : c ∈ piece) : c ∈ s ∧ f c = false := by
  induction s generalizing piece with
  | nil =>
    obtain rfl : piece = [] := List.mem_singleton.mp h
    cases hc
  | cons d s ih =>
    rw [List.splitOnP_cons_eq_if_modifyHead] at h
    split at h
    · rcases List.mem_cons.mp h with rfl | h
      · cases hc
      · exact (ih h hc).imp_left (List.mem_cons_of_mem d)
    · next hd =>
      obtain ⟨first, others, hs⟩ := List.exists_cons_of_ne_nil (List.splitOnP_ne_nil f s)
      rw [hs] at ih h
      rcases List.mem_cons.mp h with rfl | h
      · rcases List.mem_cons.mp hc with rfl | hc
        · exact ⟨List.mem_cons_self, by simpa using hd⟩
        · exact (ih List.mem_cons_self hc).imp_left (List.mem_cons_of_mem d)
      · exact (ih (List.mem_cons_of_mem _ h) hc).imp_left (List.mem_cons_of_mem d)

theorem splitOn_eq (c : Char) (s : List Char) : splitOn c s = s.splitOn c := by
  induction s with
  | nil => rfl
  | cons d s ih =>
    rw [splitOn, List.splitOn_cons_eq_if_modifyHead, ih]
    by_cases h : d = c
    · simp [h]
    · obtain ⟨first, others, hs⟩ := List.exists_cons_of_ne_nil (List.splitOn_ne_nil c s)
      simp [h, hs]

theorem mem_of_mem_splitOn (h : piece ∈ splitOn c s) (hd : d ∈ piece) : d ∈ s ∧ d ≠ c := by
  rw [splitOn_eq, List.splitOn_eq_splitOnP] at h
  exact (mem_of_mem_splitOnP h hd).imp_right (by simp)

theorem mem_intersperse (h : d ∈ (pieces.intersperse [c]).flatten) : d = c ∨ ∃ piece ∈ pieces, d ∈ piece := by
  induction pieces with
  | nil => cases h
  | cons piece pieces ih =>
    cases pieces with
    | nil => exact .inr ⟨piece, List.mem_cons_self, by simpa using h⟩
    | cons next pieces =>
      simp only [List.intersperse_cons_cons, List.flatten_cons, List.mem_append, List.mem_singleton] at h
      rcases h with h | h | h
      · exact .inr ⟨piece, List.mem_cons_self, h⟩
      · exact .inl h
      · exact (ih h).imp_right fun ⟨p, hp, hd⟩ => ⟨p, List.mem_cons_of_mem _ hp, hd⟩

/-- A text is cut again where pieces have been put together. -/
theorem splitOn_intersperse (h : ∀ piece ∈ pieces, c ∉ piece) (hne : pieces ≠ []) :
    splitOn c (pieces.intersperse [c]).flatten = pieces := by
  rw [splitOn_eq]
  exact List.splitOn_intercalate c h hne

theorem splitOn_ne_nil (c : Char) (s : List Char) : splitOn c s ≠ [] := by
  rw [splitOn_eq]
  exact List.splitOn_ne_nil c s

theorem span_append (hs : ∀ c ∈ s, f c = true) (ht : ∀ c ∈ t.head?, f c = false) :
    (s ++ t).takeWhile f = s ∧ (s ++ t).dropWhile f = t := by
  rw [List.takeWhile_append_of_pos hs, List.dropWhile_append_of_pos hs, Text.dropWhile_eq_self ht]
  refine ⟨?_, rfl⟩
  cases t with
  | nil => simp
  | cons c t => simp [ht c rfl]

end Storefront.Url

import Mathlib.Data.List.TakeWhile
import Storefront.Text.Split

/-! # Characters stripped off the ends

A text that is stripped begins and ends with a character that stays. What is stripped may be put around a text before,
and the text is what is left of it with what was stripped around it.
-/
namespace Storefront.Text
variable {p : Char → Bool} {s lead trail : List Char}

theorem dropWhile_eq_self (h : ∀ c ∈ s.head?, p c = false) : s.dropWhile p = s := by
  cases s with
  | nil => rfl
  | cons c s => rw [List.dropWhile_cons_of_neg (by simp [h c rfl])]

theorem dropEndWhile_eq_self (h : ∀ c ∈ s.getLast?, p c = false) : dropEndWhile p s = s := by
  rw [dropEndWhile, dropWhile_eq_self (by rwa [List.head?_reverse]), List.reverse_reverse]

theorem strip_eq_self (hhead : ∀ c ∈ s.head?, p c = false) (hlast : ∀ c ∈ s.getLast?, p c = false) :
    strip p s = s := by
  rw [strip, dropWhile_eq_self hhead, dropEndWhile_eq_self hlast]

theorem strip_of_forall (h : ∀ c ∈ s, p c = false) : strip p s = s :=
  strip_eq_self (fun c hc => h c (List.mem_of_head? hc)) fun c hc => h c (List.mem_of_getLast? hc)

theorem dropEndWhile_append (h : ∀ c ∈ trail, p c = true) (s : List Char) :
    dropEndWhile p (s ++ trail) = dropEndWhile p s := by
  rw [dropEndWhile, dropEndWhile, List.reverse_append, List.dropWhile_append_of_pos]
  simpa using h

theorem strip_append (hlead : ∀ c ∈ lead, p c = true) (htrail : ∀ c ∈ trail, p c = true) (s : List Char) :
    strip p (lead ++ s ++ trail) = strip p s := by
  rw [strip, List.append_assoc, List.dropWhile_append_of_pos hlead, List.dropWhile_append, strip]
  split
  · -- nothing is left of the text, nor of what is behind it
    rename_i hnone
    have htrail : trail.dropWhile p = [] := List.dropWhile_eq_nil_iff.mpr htrail
    rw [htrail, List.isEmpty_iff.mp hnone]
  · exact dropEndWhile_append htrail _

theorem strip_append_trail (h : ∀ c ∈ trail, p c = true) (s : List Char) : strip p (s ++ trail) = strip p s :=
  strip_append (List.forall_mem_nil _) h s

theorem exists_dropEndWhile (p : Char → Bool) (s : List Char) :
    ∃ trail, dropEndWhile p s ++ trail = s ∧ ∀ c ∈ trail, p c = true := by
  refine ⟨(s.reverse.takeWhile p).reverse, ?_, ?_⟩
  · rw [dropEndWhile, ← List.reverse_append, List.takeWhile_append_dropWhile, List.reverse_reverse]
  · intro c hc
    exact List.all_eq_true.mp List.all_takeWhile c (List.mem_reverse.mp hc)

theorem exists_strip (p : Char → Bool) (s : List Char) :
    ∃ lead trail, lead ++ strip p s ++ trail = s ∧ (∀ c ∈ lead, p c = true) ∧ ∀ c ∈ trail, p c = true := by
  obtain ⟨trail, htrail, hall⟩ := exists_dropEndWhile p (s.dropWhile p)
  refine ⟨s.takeWhile p, trail, ?_, List.all_eq_true.mp List.all_takeWhile, hall⟩
  rw [strip, List.append_assoc, htrail, List.takeWhile_append_dropWhile]

theorem head?_dropWhile (p : Char → Bool) (s : List Char) : ∀ c ∈ (s.dropWhile p).head?, p c = false := by
  intro c hc
  have hnot := List.head?_dropWhile_not p s
  rwa [Option.mem_def.mp hc] at hnot

theorem getLast?_dropEndWhile (p : Char → Bool) (s : List Char) : ∀ c ∈ (dropEndWhile p s).getLast?, p c = false := by
  rw [dropEndWhile, List.getLast?_reverse]
  exact head?_dropWhile p s.reverse

theorem dropEndWhile_append_cons {c : Char} (hc : p c = false) (s t : List Char) :
    dropEndWhile p (s ++ c :: t) = s ++ c :: dropEndWhile p t := by
  obtain ⟨trail, htrail, hall⟩ := exists_dropEndWhile p t
  have hwhole : s ++ c :: t = s ++ c :: dropEndWhile p t ++ trail := by rw [List.append_assoc, List.cons_append, htrail]
  rw [hwhole, dropEndWhile_append hall]
  refine dropEndWhile_eq_self fun d hd => ?_
  rw [List.getLast?_append, List.getLast?_cons, Option.some_or, Option.mem_some_iff] at hd
  cases hlast : (dropEndWhile p t).getLast? with
  | none => simpa [← hd, hlast] using hc
  | some e => simpa [← hd, hlast] using getLast?_dropEndWhile p t e hlast

theorem head?_strip (p : Char → Bool) (s : List Char) : ∀ c ∈ (strip p s).head?, p c = false := by
  intro c hc
  obtain ⟨trail, htrail, -⟩ := exists_dropEndWhile p (s.dropWhile p)
  have hhead : (strip p s ++ trail).head? = some c := by rw [List.head?_append, Option.mem_def.mp hc, Option.some_or]
  exact head?_dropWhile p s c (htrail ▸ hhead)

theorem getLast?_strip (p : Char → Bool) (s : List Char) : ∀ c ∈ (strip p s).getLast?, p c = false :=
  getLast?_dropEndWhile p (s.dropWhile p)

theorem strip_idem (p : Char → Bool) (s : List Char) : strip p (strip p s) = strip p s :=
  strip_eq_self (head?_strip p s) (getLast?_strip p s)

end Storefront.Text

import Mathlib.Data.List.Basic
import Storefront.Proofs.Text.Strip
import Storefront.Text.Address

/-! # Parts joined by a slash

Two parts are joined by one slash, whatever slashes there were between them. So it makes no difference in which order
several parts are joined, not even if some are empty or made of slashes only.
-/
namespace Storefront.Text
variable {a b front back core lead trail : List Char}

/-- A text of slashes only. -/
def Slashes (s : List Char) : Prop := ∀ c ∈ s, (c == '/') = true

theorem slashes_replicate (n : Nat) : Slashes (List.replicate n '/') := by
  intro c hc
  rw [List.eq_of_mem_replicate hc]
  rfl

theorem Slashes.exists_replicate (h : Slashes trail) : ∃ n, trail = List.replicate n '/' :=
  ⟨trail.length, List.eq_replicate_iff.mpr ⟨rfl, fun c hc => beq_iff_eq.mp (h c hc)⟩⟩

theorem exists_front (a : List Char) :
    ∃ front trail, a = front ++ trail ∧ Slashes trail ∧ front.getLast? ≠ some '/' := by
  obtain ⟨trail, ha, htrail⟩ := exists_dropEndWhile (· == '/') a
  refine ⟨_, trail, ha.symm, htrail, fun h => ?_⟩
  exact absurd (getLast?_dropEndWhile (· == '/') a '/' h) (by decide)

theorem exists_back (b : List Char) : ∃ lead back, b = lead ++ back ∧ Slashes lead ∧ back.head? ≠ some '/' := by
  refine ⟨b.takeWhile (· == '/'), b.dropWhile (· == '/'), List.takeWhile_append_dropWhile.symm,
    List.all_eq_true.mp List.all_takeWhile, fun h => ?_⟩
  exact absurd (head?_dropWhile (· == '/') b '/' h) (by decide)

/-- A text is made of slashes only, or has a core with slashes around it and none at its ends. -/
theorem slashes_or_core (s : List Char) :
    Slashes s ∨ ∃ lead core trail, s = lead ++ core ++ trail ∧ Slashes lead ∧ Slashes trail ∧ core ≠ [] ∧
      core.head? ≠ some '/' ∧ core.getLast? ≠ some '/' := by
  obtain ⟨lead, front, rfl, hlead, hhead⟩ := exists_back s
  obtain ⟨core, trail, rfl, htrail, hlast⟩ := exists_front front
  by_cases hcore : core = []
  · subst hcore
    exact .inl (List.forall_mem_append.mpr ⟨hlead, htrail⟩)
  · refine .inr ⟨lead, core, trail, (List.append_assoc ..).symm, hlead, htrail, hcore, ?_, hlast⟩
    rwa [List.head?_append_of_ne_nil _ hcore] at hhead

theorem joinSlash_append_left (h : Slashes trail) (a b : List Char) : joinSlash (a ++ trail) b = joinSlash a b := by
  rw [joinSlash, dropEndWhile_append h, joinSlash]

theorem joinSlash_append_right (h : Slashes lead) (a b : List Char) : joinSlash a (lead ++ b) = joinSlash a b := by
  rw [joinSlash, List.dropWhile_append_of_pos h, joinSlash]

theorem joinSlash_eq (ha : a.getLast? ≠ some '/') (hb : b.head? ≠ some '/') : joinSlash a b = a ++ '/' :: b := by
  have hlast : ∀ c ∈ a.getLast?, (c == '/') = false := by
    intro c hc
    exact beq_eq_false_iff_ne.mpr fun h => ha (h ▸ hc)
  have hhead : ∀ c ∈ b.head?, (c == '/') = false := by
    intro c hc
    exact beq_eq_false_iff_ne.mpr fun h => hb (h ▸ hc)
  rw [joinSlash, dropEndWhile_eq_self hlast, dropWhile_eq_self hhead]

theorem joinSlash_slashes_right (hfront : front.getLast? ≠ some '/') (h : Slashes b) :
    joinSlash front b = front ++ ['/'] := by
  rw [← List.append_nil b, joinSlash_append_right h, joinSlash_eq hfront (b := []) nofun]

theorem joinSlash_slashes_left (hback : back.head? ≠ some '/') (h : Slashes a) : joinSlash a back = '/' :: back := by
  rw [← List.nil_append a, joinSlash_append_left h, joinSlash_eq (a := []) nofun hback, List.nil_append]

theorem joinSlash_assoc (a b c : List Char) : joinSlash (joinSlash a b) c = joinSlash a (joinSlash b c) := by
  obtain ⟨front, trailA, rfl, htrailA, hfront⟩ := exists_front a
  obtain ⟨leadC, back, rfl, hleadC, hback⟩ := exists_back c
  rw [joinSlash_append_left htrailA, joinSlash_append_left htrailA, joinSlash_append_right hleadC,
    joinSlash_append_right hleadC]
  rcases slashes_or_core b with hb | ⟨lead, core, trail, rfl, hlead, htrail, hcore, hhead, hlast⟩
  · -- the slash that the first join puts in is the one that the second takes away
    have hslash : Slashes ['/'] := slashes_replicate 1
    calc joinSlash (joinSlash front b) back
      _ = joinSlash front back := by rw [joinSlash_slashes_right hfront hb, joinSlash_append_left hslash]
      _ = joinSlash front (joinSlash b back) := by
        rw [joinSlash_slashes_left hback hb, ← List.singleton_append, joinSlash_append_right hslash]
  · have hfirst (x : List Char) : (core ++ x).head? ≠ some '/' := by rwa [List.head?_append_of_ne_nil _ hcore]
    have hend (x : List Char) : (x ++ core).getLast? ≠ some '/' := by rwa [List.getLast?_append_of_ne_nil _ hcore]
    calc joinSlash (joinSlash front (lead ++ core ++ trail)) back
      _ = joinSlash (front ++ ['/'] ++ core ++ trail) back := by
        rw [List.append_assoc, joinSlash_append_right hlead, joinSlash_eq hfront (hfirst trail)]
        simp
      _ = front ++ ['/'] ++ core ++ '/' :: back := by rw [joinSlash_append_left htrail, joinSlash_eq (hend _) hback]
      _ = joinSlash front (lead ++ core ++ '/' :: back) := by
        rw [List.append_assoc lead, joinSlash_append_right hlead, joinSlash_eq hfront (hfirst _)]
        simp
      _ = joinSlash front (joinSlash (lead ++ core ++ trail) back) := by
        rw [joinSlash_append_left htrail, joinSlash_eq (hend lead) hback]

/-- Parts are joined by exactly one slash in place of those between them, and in any order. -/
theorem joinSlash_laws (a b c : List Char) :
    joinSlash (joinSlash a b) c = joinSlash a (joinSlash b c) ∧
    (∀ n m, joinSlash (a ++ List.replicate n '/') (List.replicate m '/' ++ b) = joinSlash a b) ∧
    ∃ front n m back, a = front ++ List.replicate n '/' ∧ b = List.replicate m '/' ++ back ∧
      front.getLast? ≠ some '/' ∧ back.head? ≠ some '/' ∧ joinSlash a b = front ++ '/' :: back := by
  refine ⟨joinSlash_assoc a b c, fun n m => ?_, ?_⟩
  · rw [joinSlash_append_left (slashes_replicate n), joinSlash_append_right (slashes_replicate m)]
  · obtain ⟨front, trail, rfl, htrail, hfront⟩ := exists_front a
    obtain ⟨lead, back, rfl, hlead, hback⟩ := exists_back b
    obtain ⟨n, hn⟩ := htrail.exists_replicate
    obtain ⟨m, hm⟩ := hlead.exists_replicate
    refine ⟨front, n, m, back, by rw [hn], by rw [hm], hfront, hback, ?_⟩
    rw [joinSlash_append_left htrail, joinSlash_append_right hlead, joinSlash_eq hfront hback]

example : joinSlash "https://a.test//".toList "//p".toList = "https://a.test/p".toList := by decide

end Storefront.Text

import Storefront.Proofs.Mold.Edit
import Storefront.Proofs.Text.Delimiters
import Storefront.Proofs.Text.Spans

/-! # Comments taken out

Comments are taken out in one pass from the left, each up to the first closer behind its opener, and the pieces of text
around them are put together. None is left that stood in one piece. An opener can come about where pieces meet, though,
and then a comment is left that a second pass takes out.
-/
namespace Storefront.Mold
open Text
variable {s piece tail inside rest front back : List Char} {pieces : List (List Char)}

/-- An opener stands in a text, and a closer somewhere behind it. -/
def HasComment (s : List Char) : Prop :=
  ∃ front inside back, front ++ commentOpen ++ inside ++ commentClose ++ back = s

/-- The pieces of a text around its comments. The first opener that has a closer behind it ends a piece, and the next
piece begins behind the first such closer. -/
inductive Pieces : List Char → List (List Char) → Prop
  | plain {s : List Char} (none : ¬ HasComment s) : Pieces s [s]
  | comment {s piece tail inside rest : List Char} {pieces : List (List Char)}
      (opens : FirstCut commentOpen s piece tail) (closes : FirstCut commentClose tail inside rest)
      (further : Pieces rest pieces) : Pieces s (piece :: pieces)

theorem HasComment.cons (h : HasComment s) (c : Char) : HasComment (c :: s) := by
  obtain ⟨front, inside, back, rfl⟩ := h
  exact ⟨c :: front, inside, back, rfl⟩

theorem HasComment.exists_cuts (h : HasComment s) : ∃ piece tail inside rest,
    FirstCut commentOpen s piece tail ∧ FirstCut commentClose tail inside rest := by
  obtain ⟨front, inside, back, hs⟩ := h
  obtain ⟨piece, tail, hopens⟩ := exists_firstCut (d := commentOpen) (s := s) ⟨front, inside ++ commentClose ++ back,
    by simp [← hs]⟩
  have hle := hopens.first front (inside ++ commentClose ++ back) (by simp [← hs])
  have hcloser : commentClose <:+: tail := by
    have hsame : piece ++ commentOpen ++ tail = front ++ commentOpen ++ (inside ++ commentClose ++ back) := by
      rw [hopens.whole, ← hs]
      simp
    have hprefix : piece ++ commentOpen <+: front ++ commentOpen :=
      List.prefix_of_prefix_length_le ⟨tail, hsame⟩ (List.prefix_append _ _) (by simpa using hle)
    obtain ⟨between, hbetween⟩ := hprefix
    rw [← hbetween, List.append_assoc _ between, List.append_cancel_left_eq] at hsame
    exact ⟨between ++ inside, back, by simp [hsame]⟩
  obtain ⟨inside, rest, hcloses⟩ := exists_firstCut hcloser
  exact ⟨piece, tail, inside, rest, hopens, hcloses⟩

theorem commentSpan_of_cut (h : FirstCut commentClose tail inside rest) :
    commentSpan (commentOpen ++ tail) = (commentOpen ++ inside ++ commentClose).length := by
  have hprefix : commentOpen.isPrefixOf (commentOpen ++ tail) = true :=
    List.isPrefixOf_iff_prefix.mpr (List.prefix_append _ _)
  rw [commentSpan, if_pos hprefix, List.drop_left, splitFirst_eq_some_iff.mpr h]
  simp [Nat.add_assoc]

theorem commentSpan_of_unopened (h : ¬ commentOpen <+: s) : commentSpan s = 0 :=
  if_neg (mt List.isPrefixOf_iff_prefix.mp h)

theorem commentSpan_of_not (h : ¬ HasComment s) : commentSpan s = 0 := by
  by_cases hprefix : commentOpen <+: s
  · obtain ⟨tail, rfl⟩ := hprefix
    have hcloser : splitFirst commentClose tail = none := by
      rw [splitFirst_eq_none_iff]
      rintro ⟨inside, back, rfl⟩
      exact h ⟨[], inside, back, by simp⟩
    have hopener : commentOpen.isPrefixOf (commentOpen ++ tail) = true :=
      List.isPrefixOf_iff_prefix.mpr (List.prefix_append _ _)
    rw [commentSpan, if_pos hopener, List.drop_left, hcloser]
  · exact commentSpan_of_unopened hprefix

theorem stripComments_of_not (h : ¬ HasComment s) : Edit.stripComments.apply s = s := by
  induction s with
  | nil => rfl
  | cons c s ih =>
    have hs : Edit.stripComments.apply s = s := ih (mt (HasComment.cons · c) h)
    rw [Edit.apply, replaceSpans_of_zero (commentSpan_of_not h)]
    exact congrArg (c :: ·) hs

theorem stripComments_of_cuts (hopens : FirstCut commentOpen s piece tail)
    (hcloses : FirstCut commentClose tail inside rest) :
    Edit.stripComments.apply s = piece ++ Edit.stripComments.apply rest := by
  induction piece generalizing s with
  | nil =>
    have hwhole : commentOpen ++ tail = s := hopens.whole
    have hsplit : commentOpen ++ inside ++ commentClose ++ rest = s := by simp [← hwhole, ← hcloses.whole]
    have hspan : commentSpan s = (commentOpen ++ inside ++ commentClose).length := by
      rw [← hwhole, commentSpan_of_cut hcloses]
    have hne : s ≠ [] := by simp [← hwhole, commentOpen]
    have hpos : commentSpan s ≠ 0 := by simp [hspan, commentOpen]
    rw [Edit.apply, replaceSpans_of_pos hne hpos, hspan, ← hsplit, List.drop_left]
    rfl
  | cons c piece ih =>
    obtain ⟨s, rfl, hprefix, hopens⟩ := hopens.of_cons
    rw [Edit.apply, replaceSpans_of_zero (commentSpan_of_unopened hprefix)]
    exact congrArg (c :: ·) (ih hopens)

theorem exists_pieces (s : List Char) : ∃ pieces, Pieces s pieces := by
  induction hlength : s.length using Nat.strong_induction_on generalizing s with
  | h n ih =>
    by_cases hcomment : HasComment s
    · obtain ⟨piece, tail, inside, rest, hopens, hcloses⟩ := hcomment.exists_cuts
      have hshorter : rest.length < n := by
        rw [← hlength, ← hopens.whole, ← hcloses.whole]
        simp [commentOpen]
        omega
      obtain ⟨pieces, hpieces⟩ := ih rest.length hshorter rest rfl
      exact ⟨piece :: pieces, .comment hopens hcloses hpieces⟩
    · exact ⟨[s], .plain hcomment⟩

namespace Pieces

theorem ne_nil (h : Pieces s pieces) : pieces ≠ [] := by
  cases h <;> simp

theorem stripComments_eq (h : Pieces s pieces) : Edit.stripComments.apply s = pieces.flatten := by
  induction h with
  | plain hnone => rw [stripComments_of_not hnone, List.flatten_singleton]
  | comment hopens hcloses _ ih => rw [stripComments_of_cuts hopens hcloses, ih, List.flatten_cons]

theorem length_le (h : Pieces s pieces) : pieces.flatten.length ≤ s.length := by
  induction h with
  | plain _ => simp
  | comment hopens hcloses _ ih =>
    rw [← hopens.whole, ← hcloses.whole]
    simp only [List.flatten_cons, List.length_append]
    omega

end Pieces

/-- A text is changed just when it has a comment: something of it is taken out. -/
theorem stripComments_eq_self_iff : Edit.stripComments.apply s = s ↔ ¬ HasComment s := by
  refine ⟨?_, stripComments_of_not⟩
  intro hsame hcomment
  obtain ⟨piece, tail, inside, rest, hopens, hcloses⟩ := hcomment.exists_cuts
  obtain ⟨pieces, hpieces⟩ := exists_pieces rest
  have hle := hpieces.length_le
  rw [stripComments_of_cuts hopens hcloses, hpieces.stripComments_eq, ← hopens.whole, ← hcloses.whole] at hsame
  have hlength := congrArg List.length hsame
  simp only [List.length_append, commentOpen, List.length_cons, List.length_nil] at hlength
  omega

def EndsInOpener (piece : List Char) : Prop :=
  ∃ start k, 0 < k ∧ k < commentOpen.length ∧ piece = start ++ commentOpen.take k

/-- Whether an opener behind `front` is put together from pieces: it begins at the end of one that others follow. -/
def PutTogether (pieces : List (List Char)) (front : List Char) : Prop :=
  ∃ earlier start k later, 0 < k ∧ k < commentOpen.length ∧ later ≠ [] ∧
    pieces = earlier ++ (start ++ commentOpen.take k) :: later ∧ front = earlier.flatten ++ start

theorem PutTogether.cons (h : PutTogether pieces front) (piece : List Char) :
    PutTogether (piece :: pieces) (piece ++ front) := by
  obtain ⟨earlier, start, k, later, hpos, hlt, hlater, rfl, rfl⟩ := h
  exact ⟨piece :: earlier, start, k, later, hpos, hlt, hlater, rfl, by simp⟩

theorem Pieces.putTogether (h : Pieces s pieces)
    (hcomment : front ++ commentOpen ++ inside ++ commentClose ++ back = pieces.flatten) :
    PutTogether pieces front := by
  induction h generalizing front with
  | plain hnone => exact absurd ⟨front, inside, back, by simpa using hcomment⟩ hnone
  | @comment s piece tail _ rest pieces hopens hcloses hpieces ih =>
    have hwhole : front ++ commentOpen ++ (inside ++ commentClose ++ back) = piece ++ pieces.flatten := by
      rw [← List.flatten_cons, ← hcomment]
      simp
    have hpiece : piece <+: piece ++ pieces.flatten := List.prefix_append _ _
    have hopener : front ++ commentOpen <+: piece ++ pieces.flatten := ⟨_, hwhole⟩
    have hfront : front <+: piece ++ pieces.flatten := (List.prefix_append _ _).trans hopener
    rcases Nat.lt_or_ge front.length piece.length with hbegins | hbehind
    · obtain ⟨start, rfl⟩ := List.prefix_of_prefix_length_le hfront hpiece hbegins.le
      rcases Nat.lt_or_ge (front ++ start).length (front ++ commentOpen).length with hreaches | hfits
      · -- the opener begins in this piece and reaches over its end
        obtain ⟨more, hmore⟩ := List.prefix_of_prefix_length_le hpiece hopener hreaches.le
        rw [List.append_assoc, List.append_cancel_left_eq] at hmore
        have hstart : commentOpen.take start.length = start := by rw [← hmore, List.take_left]
        simp only [List.length_append] at hbegins hreaches
        exact ⟨[], front, start.length, pieces, by omega, by omega, hpieces.ne_nil, by simp [hstart], rfl⟩
      · -- an opener within the piece would have been found before the one that ends it
        obtain ⟨more, hmore⟩ := List.prefix_of_prefix_length_le hopener hpiece hfits
        have hfirst := hopens.first front (more ++ commentOpen ++ tail) (by simp [← hopens.whole, ← hmore])
        omega
    · obtain ⟨front, rfl⟩ := List.prefix_of_prefix_length_le hpiece hfront hbehind
      refine (ih ?_).cons piece
      simpa using hwhole

/-- Where no piece but the last one ends in the start of an opener, no comment is left. -/
theorem Pieces.not_hasComment (h : Pieces s pieces) (hends : ∀ piece ∈ pieces.dropLast, ¬ EndsInOpener piece) :
    ¬ HasComment pieces.flatten := by
  rintro ⟨front, inside, back, hcomment⟩
  obtain ⟨earlier, start, k, later, hpos, hlt, hlater, rfl, -⟩ := h.putTogether hcomment
  refine hends (start ++ commentOpen.take k) ?_ ⟨start, k, hpos, hlt, rfl⟩
  rw [List.dropLast_append_cons, List.dropLast_cons_of_ne_nil hlater]
  simp

/-- What is left of a text is its pieces put together. A comment that is left has an opener that was put together from
the end of a piece and what follows it, and just then another pass would take something out. -/
theorem stripComments_leaves (s : List Char) :
    ∃ pieces, Pieces s pieces ∧ (∀ m : Mold, m.kind = .stripHtmlComments → m.apply s = .ok pieces.flatten) ∧
      (∀ front inside back, front ++ commentOpen ++ inside ++ commentClose ++ back = pieces.flatten →
        PutTogether pieces front) ∧
      ((∀ piece ∈ pieces.dropLast, ¬ EndsInOpener piece) → ¬ HasComment pieces.flatten) ∧
      ∀ m : Mold, m.kind = .stripHtmlComments →
        (m.apply pieces.flatten = .ok pieces.flatten ↔ ¬ HasComment pieces.flatten) := by
  obtain ⟨pieces, hpieces⟩ := exists_pieces s
  have happly {m : Mold} (hkind : m.kind = .stripHtmlComments) (t : List Char) :
      m.apply t = .ok (Edit.stripComments.apply t) :=
    apply_of_edit (by simp only [edit, hkind]) t
  refine ⟨pieces, hpieces, ?_, fun front inside back => hpieces.putTogether, hpieces.not_hasComment, ?_⟩
  · intro m hkind
    rw [happly hkind, hpieces.stripComments_eq]
  · intro m hkind
    rw [happly hkind, Except.ok.injEq, stripComments_eq_self_iff]

theorem comment_around_comment_is_left :
    applyString [⟨.stripHtmlComments, []⟩] "<!-<!-- a -->- b -->" = .ok "<!-- b -->" ∧
    applyString [⟨.stripHtmlComments, []⟩, ⟨.stripHtmlComments, []⟩] "<!-<!-- a -->- b -->" = .ok "" ∧
    HasComment "<!-- b -->".toList ∧
    ¬ ∀ (m : Mold) (s t : List Char), m.kind = .stripHtmlComments → m.apply s = .ok t → ¬ HasComment t := by
  have hstripped : (⟨.stripHtmlComments, []⟩ : Mold).apply "<!-<!-- a -->- b -->".toList = .ok "<!-- b -->".toList := by
    decide
  have hcomment : HasComment "<!-- b -->".toList := ⟨[], " b ".toList, [], by decide⟩
  exact ⟨by decide, by decide, hcomment, fun h => h _ _ _ rfl hstripped hcomment⟩

end Storefront.Mold

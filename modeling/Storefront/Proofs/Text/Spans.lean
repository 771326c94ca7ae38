import Mathlib.Data.List.TakeWhile
import Storefront.Proofs.Text.Strip
import Storefront.Text.Blank
import Storefront.Text.Split

/-! # Replaced stretches and collapsed blanks

Stretches of a text are replaced from the left. Where each stretch is as long a run as there is of characters of one
class, the replacement can be told character by character.

Where runs of blanks are collapsed, a text is left whose only blanks are spaces that stand alone, and it is left alone
from then on. Blanks at the ends are trimmed before or after that with the same result, and neither makes a difference
to a text without its blanks.
-/
namespace Storefront.Text
variable {spanAt : List Char → Nat} {new s : List Char}

theorem replaceSpans_skip (spanAt : List Char → Nat) (new : List Char) (skip : Nat) (s : List Char) :
    replaceSpans spanAt new skip s = replaceSpans spanAt new 0 (s.drop skip) := by
  induction s generalizing skip with
  | nil => simp [replaceSpans]
  | cons c s ih =>
    cases skip with
    | zero => rfl
    | succ skip => simpa [replaceSpans] using ih skip

theorem replaceSpans_of_zero {c : Char} (h : spanAt (c :: s) = 0) :
    replaceSpans spanAt new 0 (c :: s) = c :: replaceSpans spanAt new 0 s := by
  simp [replaceSpans, h]

theorem replaceSpans_of_pos (hs : s ≠ []) (h : spanAt s ≠ 0) :
    replaceSpans spanAt new 0 s = new ++ replaceSpans spanAt new 0 (s.drop (spanAt s)) := by
  obtain ⟨c, rest, rfl⟩ := List.exists_cons_of_ne_nil hs
  obtain ⟨n, hn⟩ := Nat.exists_eq_succ_of_ne_zero h
  simp only [replaceSpans, hn, List.drop_succ_cons, replaceSpans_skip spanAt new n rest]

section Runs
variable {p : Char → Bool} {c : Char}

theorem filter_dropWhile (p : Char → Bool) (s : List Char) : (s.dropWhile p).filter (!p ·) = s.filter (!p ·) := by
  induction s with
  | nil => rfl
  | cons c s ih => cases h : p c <;> simp [h, ih]

/-- How many characters of a class a text begins with. -/
def runLength (p : Char → Bool) (s : List Char) : Nat := (s.takeWhile p).length

theorem runLength_of_pos (h : p c = true) (s : List Char) : runLength p (c :: s) = runLength p s + 1 := by
  simp [runLength, h]

theorem runLength_of_neg (h : p c = false) (s : List Char) : runLength p (c :: s) = 0 := by
  simp [runLength, h]

theorem take_runLength (p : Char → Bool) (s : List Char) : s.take (runLength p s) = s.takeWhile p := by
  induction s with
  | nil => rfl
  | cons c s ih => cases h : p c <;> simp_all [runLength]

theorem drop_runLength (p : Char → Bool) (s : List Char) : s.drop (runLength p s) = s.dropWhile p := by
  induction s with
  | nil => rfl
  | cons c s ih => cases h : p c <;> simp_all [runLength]

def replaceRuns (p : Char → Bool) (new s : List Char) : List Char := replaceSpans (runLength p) new 0 s

@[simp] theorem replaceRuns_nil (p : Char → Bool) (new : List Char) : replaceRuns p new [] = [] := rfl

theorem replaceRuns_of_neg (h : p c = false) (new s : List Char) :
    replaceRuns p new (c :: s) = c :: replaceRuns p new s :=
  replaceSpans_of_zero (runLength_of_neg h s)

theorem replaceRuns_of_pos (h : p c = true) (new s : List Char) :
    replaceRuns p new (c :: s) = new ++ replaceRuns p new (s.dropWhile p) := by
  have hpos : runLength p (c :: s) ≠ 0 := by simp [runLength_of_pos h]
  rw [replaceRuns, replaceSpans_of_pos (List.cons_ne_nil c s) hpos, drop_runLength, List.dropWhile_cons_of_pos h]
  rfl

theorem replaceRuns_eq (p : Char → Bool) (new s : List Char) :
    replaceRuns p new s = s.takeWhile (!p ·) ++ replaceRuns p new (s.dropWhile (!p ·)) := by
  induction s with
  | nil => rfl
  | cons c s ih =>
    cases h : p c with
    | true => simp [h]
    | false => simp [replaceRuns_of_neg, h, ← ih]

/-- A text begins with a character outside of a class or with a run of the class. -/
theorem runs_induction {P : List Char → Prop} (p : Char → Bool) (hnil : P [])
    (hother : ∀ c s, p c = false → P s → P (c :: s)) (hrun : ∀ c s, p c = true → P (s.dropWhile p) → P (c :: s))
    (s : List Char) : P s := by
  induction hlength : s.length using Nat.strong_induction_on generalizing s with
  | h n ih =>
    cases s with
    | nil => exact hnil
    | cons c s =>
      rw [List.length_cons] at hlength
      cases hc : p c with
      | false => exact hother c s hc (ih s.length (by omega) s rfl)
      | true =>
        have hle : (s.dropWhile p).length ≤ s.length := List.length_dropWhile_le p s
        exact hrun c s hc (ih (s.dropWhile p).length (by omega) _ rfl)

theorem replaceRuns_empty (p : Char → Bool) (s : List Char) : replaceRuns p [] s = s.filter (!p ·) := by
  induction s using runs_induction p with
  | hnil => rfl
  | hother c s hc ih => rw [replaceRuns_of_neg hc, ih, List.filter_cons_of_pos (by simp [hc])]
  | hrun c s hc ih =>
    rw [replaceRuns_of_pos hc, List.nil_append, ih, List.filter_cons_of_neg (by simp [hc])]
    exact filter_dropWhile p s

end Runs

section Blanks
open Unicode
variable {after : Bool} {c : Char} {s t : List Char}

theorem isBlank_space : isBlank ' ' = true := rfl

/-- Whether the only blanks of a text are spaces that stand alone. -/
structure Spaced (s : List Char) : Prop where
  only : ∀ c ∈ s, isBlank c = true → c = ' '
  single : ¬ [' ', ' '] <:+: s

theorem spaced_cons_iff :
    Spaced (c :: s) ↔ (isBlank c = true → c = ' ' ∧ s.head? ≠ some ' ') ∧ Spaced s := by
  have hpair : [' ', ' '] <:+: c :: s ↔ (c = ' ' ∧ s.head? = some ' ') ∨ [' ', ' '] <:+: s := by
    have hnext : [' '] <+: s ↔ s.head? = some ' ' := by
      cases s with
      | nil => simp
      | cons d s => simpa [List.cons_prefix_cons] using eq_comm
    rw [List.infix_cons_iff, List.cons_prefix_cons, hnext, @eq_comm _ ' ' c]
  constructor
  · intro h
    refine ⟨?_, fun a ha => h.only a (List.mem_cons_of_mem c ha), fun hs => h.single (hpair.mpr (.inr hs))⟩
    intro hc
    have hspace := h.only c List.mem_cons_self hc
    exact ⟨hspace, fun hhead => h.single (hpair.mpr (.inl ⟨hspace, hhead⟩))⟩
  · rintro ⟨hhead, hs⟩
    refine ⟨List.forall_mem_cons.mpr ⟨fun hc => (hhead hc).1, hs.only⟩, ?_⟩
    rw [hpair]
    rintro (⟨rfl, hnext⟩ | hinside)
    · exact (hhead isBlank_space).2 hnext
    · exact hs.single hinside

section Collapse

theorem collapseFrom_of_head (h : ∀ c ∈ s.head?, isBlank c = false) (after : Bool) :
    collapseFrom after s = collapseBlanks s := by
  cases s with
  | nil => rfl
  | cons c s => simp [collapseBlanks, collapseFrom, h c rfl]

theorem collapseFrom_true (s : List Char) : collapseFrom true s = collapseBlanks (s.dropWhile isBlank) := by
  induction s with
  | nil => rfl
  | cons c s ih =>
    cases h : isBlank c with
    | false => simp [collapseBlanks, collapseFrom, h]
    | true => simp [collapseFrom, h, ih]

/-- Collapsing blanks is putting a space in place of every run of them. -/
theorem collapseBlanks_eq (s : List Char) : collapseBlanks s = replaceRuns isBlank [' '] s := by
  induction s using runs_induction isBlank with
  | hnil => rfl
  | hother c s h ih =>
    rw [replaceRuns_of_neg h, ← ih]
    simp [collapseBlanks, collapseFrom, h]
  | hrun c s h ih =>
    rw [replaceRuns_of_pos h, ← ih, ← collapseFrom_true]
    simp [collapseBlanks, collapseFrom, h]

theorem head?_collapseFrom_true (s : List Char) : (collapseFrom true s).head? ≠ some ' ' := by
  induction s with
  | nil => simp [collapseFrom]
  | cons c s ih =>
    cases h : isBlank c with
    | false =>
      have hne : c ≠ ' ' := by
        rintro rfl
        cases h
      simp [collapseFrom, h, hne]
    | true => simpa [collapseFrom, h] using ih

theorem spaced_collapseFrom (after : Bool) (s : List Char) : Spaced (collapseFrom after s) := by
  induction s generalizing after with
  | nil => exact ⟨by simp [collapseFrom], by simp [collapseFrom]⟩
  | cons c s ih =>
    cases h : isBlank c with
    | false =>
      rw [collapseFrom, h, if_neg (by decide), spaced_cons_iff]
      exact ⟨by simp [h], ih false⟩
    | true =>
      cases after with
      | true => simpa [collapseFrom, h] using ih true
      | false =>
        rw [collapseFrom, h, if_pos rfl, if_neg (by decide), spaced_cons_iff]
        exact ⟨fun _ => ⟨rfl, head?_collapseFrom_true s⟩, ih true⟩

theorem spaced_collapseBlanks (s : List Char) : Spaced (collapseBlanks s) := spaced_collapseFrom false s

theorem Spaced.collapseFrom_eq (h : Spaced s) (after : Bool) (hafter : after = true → s.head? ≠ some ' ') :
    collapseFrom after s = s := by
  induction s generalizing after with
  | nil => rfl
  | cons c s ih =>
    obtain ⟨hhead, hs⟩ := spaced_cons_iff.mp h
    cases hc : isBlank c with
    | false => simp [collapseFrom, hc, ih hs false]
    | true =>
      obtain ⟨rfl, hnext⟩ := hhead hc
      cases after with
      | true => exact absurd rfl (hafter rfl)
      | false => simp [collapseFrom, hc, ih hs true (fun _ => hnext)]

theorem collapseBlanks_idem (s : List Char) : collapseBlanks (collapseBlanks s) = collapseBlanks s :=
  (spaced_collapseBlanks s).collapseFrom_eq false (by simp)

theorem exists_collapseFrom_append (after : Bool) (s t : List Char) :
    ∃ between, collapseFrom after (s ++ t) = collapseFrom after s ++ collapseFrom between t := by
  induction s generalizing after with
  | nil => exact ⟨after, rfl⟩
  | cons c s ih =>
    cases h : isBlank c with
    | false =>
      obtain ⟨between, hs⟩ := ih false
      exact ⟨between, by simp [collapseFrom, h, hs]⟩
    | true =>
      obtain ⟨between, hs⟩ := ih true
      exact ⟨between, by cases after <;> simp [collapseFrom, h, hs]⟩

theorem isBlank_of_mem_collapseFrom (h : ∀ c ∈ s, isBlank c = true) (after : Bool) :
    ∀ c ∈ collapseFrom after s, isBlank c = true := by
  induction s generalizing after with
  | nil => simp [collapseFrom]
  | cons c s ih =>
    obtain ⟨hc, hs⟩ := List.forall_mem_cons.mp h
    cases after with
    | true => simpa [collapseFrom, hc] using ih hs true
    | false => simpa [collapseFrom, hc, isBlank_space] using ih hs true

end Collapse

theorem removeBlanks_collapseFrom (after : Bool) (s : List Char) :
    removeBlanks (collapseFrom after s) = removeBlanks s := by
  induction s generalizing after with
  | nil => rfl
  | cons c s ih =>
    simp only [removeBlanks] at ih
    cases h : isBlank c with
    | false => simp [removeBlanks, collapseFrom, h, ih]
    | true => cases after <;> simp [removeBlanks, collapseFrom, h, ih, isBlank_space]

theorem removeBlanks_append (s t : List Char) : removeBlanks (s ++ t) = removeBlanks s ++ removeBlanks t :=
  List.filter_append ..

theorem removeBlanks_of_forall (h : ∀ c ∈ s, isBlank c = true) : removeBlanks s = [] := by
  rw [removeBlanks, List.filter_eq_nil_iff]
  intro c hc
  simp [h c hc]

theorem removeBlanks_trim (s : List Char) : removeBlanks (trim s) = removeBlanks s := by
  obtain ⟨lead, trail, hs, hlead, htrail⟩ := exists_strip isBlank s
  calc removeBlanks (trim s)
    _ = removeBlanks lead ++ removeBlanks (trim s) ++ removeBlanks trail := by
      rw [removeBlanks_of_forall hlead, removeBlanks_of_forall htrail, List.nil_append, List.append_nil]
    _ = removeBlanks s := by rw [← removeBlanks_append, ← removeBlanks_append, trim, hs]

theorem trim_collapseBlanks_of_trimmed (hhead : ∀ c ∈ s.head?, isBlank c = false)
    (hlast : ∀ c ∈ s.getLast?, isBlank c = false) : trim (collapseBlanks s) = collapseBlanks s := by
  refine strip_eq_self ?_ ?_
  · cases s with
    | nil => simp [collapseBlanks, collapseFrom]
    | cons c s =>
      have hc := hhead c rfl
      simp [collapseBlanks, collapseFrom, hc]
  · rcases List.eq_nil_or_concat s with rfl | ⟨s, c, rfl⟩
    · simp [collapseBlanks, collapseFrom]
    · have hc := hlast c (by simp)
      obtain ⟨between, happend⟩ := exists_collapseFrom_append false s [c]
      rw [List.concat_eq_append, collapseBlanks, happend]
      simp [collapseFrom, hc]

/-- Blanks are trimmed and collapsed in either order. -/
theorem trim_collapseBlanks (s : List Char) : trim (collapseBlanks s) = collapseBlanks (trim s) := by
  obtain ⟨lead, trail, hs, hlead, htrail⟩ := exists_strip isBlank s
  obtain ⟨between, hfront⟩ := exists_collapseFrom_append false lead (trim s)
  obtain ⟨behind, hback⟩ := exists_collapseFrom_append false (lead ++ trim s) trail
  -- what is trimmed begins with no blank, so that it does not matter whether one has come before it
  have hsplit : collapseBlanks s = collapseFrom false lead ++ collapseBlanks (trim s) ++ collapseFrom behind trail := by
    have hmiddle := collapseFrom_of_head (head?_strip isBlank s) between
    rw [trim, ← hmiddle, ← trim, ← hfront, ← hback, trim, hs, collapseBlanks]
  rw [hsplit, trim, strip_append (isBlank_of_mem_collapseFrom hlead _) (isBlank_of_mem_collapseFrom htrail _)]
  exact trim_collapseBlanks_of_trimmed (head?_strip isBlank s) (getLast?_strip isBlank s)

end Blanks

end Storefront.Text

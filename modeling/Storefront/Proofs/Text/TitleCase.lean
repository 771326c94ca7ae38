import Mathlib.Data.List.Basic
import Storefront.Proofs.Text.Letter
import Storefront.Proofs.Text.Strip
import Storefront.Text.TitleCase

/-! # Title case of ASCII texts

A text is cut into words by the characters that belong to none, and each word gets its title case on its own. In ASCII
this changes the case of letters only, and a second time it changes nothing.
-/
namespace Storefront.Text
open Unicode
variable {c : Char} {s word before after : List Char}

theorem titleCaseFrom_append (hword : ∀ c ∈ word, isTitleWordChar c = true) (earlier rest : List Char) :
    titleCaseFrom earlier (word ++ rest) = titleCaseFrom (word.reverse ++ earlier) rest := by
  induction word generalizing earlier with
  | nil => rfl
  | cons c word ih =>
    obtain ⟨hc, hword⟩ := List.forall_mem_cons.mp hword
    rw [List.cons_append, titleCaseFrom, if_pos hc, ih hword, List.reverse_cons, List.append_assoc]
    rfl

theorem titleCase_word (hword : ∀ c ∈ word, isTitleWordChar c = true) : titleCase word = capitalize word := by
  have happend := titleCaseFrom_append hword [] []
  rwa [List.append_nil, List.append_nil, titleCaseFrom, List.reverse_reverse] at happend

theorem titleCaseFrom_cut (hc : isTitleWordChar c = false) (earlier s rest : List Char) :
    titleCaseFrom earlier (s ++ c :: rest) = titleCaseFrom earlier s ++ c :: titleCase rest := by
  induction s generalizing earlier with
  | nil => simp [titleCaseFrom, hc, titleCase]
  | cons d s ih => cases h : isTitleWordChar d <;> simp [titleCaseFrom, h, ih]

/-- What stands on both sides of a character that belongs to no word is dealt with on its own. -/
theorem titleCase_cut (hc : isTitleWordChar c = false) (s rest : List Char) :
    titleCase (s ++ c :: rest) = titleCase s ++ c :: titleCase rest := titleCaseFrom_cut hc [] s rest

theorem titleCase_append_of_head (h : ∀ c ∈ after.head?, isTitleWordChar c = false) (s : List Char) :
    titleCase (s ++ after) = titleCase s ++ titleCase after := by
  cases after with
  | nil => exact (congrArg titleCase (List.append_nil s)).trans (List.append_nil _).symm
  | cons c after =>
    have hfirst := titleCase_cut (h c rfl) [] after
    rw [titleCase_cut (h c rfl), ← List.nil_append (c :: after), hfirst]
    rfl

theorem titleCase_append_of_getLast (h : ∀ c ∈ before.getLast?, isTitleWordChar c = false) (s : List Char) :
    titleCase (before ++ s) = titleCase before ++ titleCase s := by
  rcases List.eq_nil_or_concat before with rfl | ⟨front, c, rfl⟩
  · rfl
  · have hc := h c (by simp)
    rw [List.concat_eq_append, List.append_assoc, List.singleton_append, titleCase_cut hc, titleCase_cut hc,
      List.append_assoc]
    rfl

/-- A text is one word, or a word in front of a character that belongs to none and of a further text. -/
theorem title_induction {P : List Char → Prop} (hword : ∀ word, (∀ c ∈ word, isTitleWordChar c = true) → P word)
    (hcut : ∀ word c rest, (∀ c ∈ word, isTitleWordChar c = true) → isTitleWordChar c = false → P rest →
      P (word ++ c :: rest)) (s : List Char) : P s := by
  induction hlength : s.length using Nat.strong_induction_on generalizing s with
  | h n ih =>
    have hs := List.takeWhile_append_dropWhile (p := isTitleWordChar) (l := s)
    have hfront : ∀ c ∈ s.takeWhile isTitleWordChar, isTitleWordChar c = true := fun c => List.mem_takeWhile_imp
    cases hback : s.dropWhile isTitleWordChar with
    | nil =>
      rw [hback, List.append_nil] at hs
      exact hs ▸ hword _ hfront
    | cons c rest =>
      have hc : isTitleWordChar c = false := head?_dropWhile isTitleWordChar s c (by rw [hback]; rfl)
      rw [hback] at hs
      have hshorter : rest.length < n := by
        rw [← hlength, ← hs, List.length_append, List.length_cons]
        omega
      exact hs ▸ hcut _ c rest hfront hc (ih rest.length hshorter rest rfl)

/-- A word of a text: letters, digits and apostrophes beside which no other such character stands. -/
structure WordOf (s before word after : List Char) : Prop where
  whole : before ++ word ++ after = s
  word : ∀ c ∈ word, isTitleWordChar c = true
  before : ∀ c ∈ before.getLast?, isTitleWordChar c = false
  after : ∀ c ∈ after.head?, isTitleWordChar c = false

theorem WordOf.titleCase_eq (h : WordOf s before word after) :
    titleCase s = titleCase before ++ capitalize word ++ titleCase after := by
  rw [← h.whole, titleCase_append_of_head h.after, titleCase_append_of_getLast h.before, titleCase_word h.word]

section Ascii

def isAsciiWordChar (c : Char) : Bool := isAsciiLetter c || isAsciiDigit c || c == '\''

theorem isTitleWordChar_of_isAscii (h : isAscii c = true) : isTitleWordChar c = isAsciiWordChar c := by
  simp [isTitleWordChar, isAsciiWordChar, isAlphanumeric, isAlphabetic, isNumeric, h]

theorem isTitleWordChar_asciiLower (c : Char) : isTitleWordChar (asciiLower c) = isTitleWordChar c := by
  cases hupper : isAsciiUpper c with
  | false => rw [asciiLower, hupper, if_neg Bool.false_ne_true]
  | true =>
    have hletter : isAsciiLetter c = true := by rw [isAsciiLetter, hupper, Bool.true_or]
    have hascii : isAscii c = true := by
      have hle := isAsciiUpper_iff.mp hupper
      exact isAscii_iff.mpr (by omega)
    rw [isTitleWordChar_of_isAscii hascii, isTitleWordChar_of_isAscii (by rwa [isAscii_asciiLower]), isAsciiWordChar,
      isAsciiWordChar, isAsciiLetter_asciiLower, hletter, Bool.true_or, Bool.true_or, Bool.true_or, Bool.true_or]

/-- Whether a word has letters, all of them in upper case. -/
def IsUpperWord (word : List Char) : Prop :=
  (∃ c ∈ word, isAsciiLetter c = true) ∧ ∀ c ∈ word, isAsciiLetter c = true → isAsciiUpper c = true

def capitalized : List Char → List Char
  | [] => []
  | c :: rest => asciiUpper c :: rest.map asciiLower

theorem isAcronym_iff (h : ∀ c ∈ word, isAscii c = true) : isAcronym word = true ↔ IsUpperWord word := by
  have halphabetic : ∀ c ∈ word, isAlphabetic c = isAsciiLetter c := fun c hc => by simp [isAlphabetic, h c hc]
  have huppercase : ∀ c ∈ word, isUppercase c = isAsciiUpper c := fun c hc => by simp [isUppercase, h c hc]
  rw [isAcronym, Bool.and_eq_true, List.any_eq_true, List.all_eq_true, IsUpperWord]
  refine and_congr (exists_congr fun c => and_congr_right fun hc => by rw [halphabetic c hc]) (forall_congr' fun c => ?_)
  rw [List.mem_filter, and_imp]
  refine forall_congr' fun hc => ?_
  rw [halphabetic c hc, huppercase c hc]

theorem capitalize_of_upper (h : ∀ c ∈ word, isAscii c = true) (hupper : IsUpperWord word) :
    capitalize word = word := by
  unfold capitalize
  rw [if_pos ((isAcronym_iff h).mpr hupper)]

theorem capitalize_of_not_upper (h : ∀ c ∈ word, isAscii c = true) (hupper : ¬ IsUpperWord word) :
    capitalize word = capitalized word := by
  unfold capitalize
  rw [if_neg (mt (isAcronym_iff h).mp hupper)]
  cases word with
  | nil => rfl
  | cons c rest =>
    obtain ⟨hc, hrest⟩ := List.forall_mem_cons.mp h
    have hlower : rest.flatMap toLower = rest.map asciiLower := by
      rw [← List.flatMap_singleton' (rest.map asciiLower), List.flatMap_map]
      exact List.flatMap_congr fun c hc => toLower_of_isAscii (hrest c hc)
    simp only [toUpper_of_isAscii hc, hlower, capitalized, List.singleton_append]

theorem map_asciiLower_capitalized (word : List Char) : (capitalized word).map asciiLower = word.map asciiLower := by
  cases word with
  | nil => rfl
  | cons c rest => simp [capitalized, asciiLower_asciiUpper, asciiLower_idem]

theorem capitalized_idem (word : List Char) : capitalized (capitalized word) = capitalized word := by
  cases word with
  | nil => rfl
  | cons c rest => simp [capitalized, asciiUpper_idem, asciiLower_idem]

theorem map_asciiLower_capitalize (h : ∀ c ∈ word, isAscii c = true) :
    (capitalize word).map asciiLower = word.map asciiLower := by
  by_cases hupper : IsUpperWord word
  · rw [capitalize_of_upper h hupper]
  · rw [capitalize_of_not_upper h hupper, map_asciiLower_capitalized]

/-- The texts that differ from `s` in the case of ASCII letters only have its other characters at the same places. -/
theorem forall_of_map_asciiLower {t : List Char} {P : Char → Prop} (hcase : ∀ c, P (asciiLower c) ↔ P c)
    (ht : t.map asciiLower = s.map asciiLower) (h : ∀ c ∈ s, P c) : ∀ c ∈ t, P c := by
  intro c hc
  have hmem : asciiLower c ∈ s.map asciiLower := ht ▸ List.mem_map_of_mem hc
  obtain ⟨d, hd, hdc⟩ := List.mem_map.mp hmem
  rw [← hcase, ← hdc, hcase]
  exact h d hd

theorem map_asciiLower_titleCase (h : ∀ c ∈ s, isAscii c = true) :
    (titleCase s).map asciiLower = s.map asciiLower := by
  induction s using title_induction with
  | hword word hword => rw [titleCase_word hword, map_asciiLower_capitalize h]
  | hcut word c rest hword hc ih =>
    obtain ⟨hfront, hback⟩ := List.forall_mem_append.mp h
    rw [titleCase_cut hc, titleCase_word hword, List.map_append, List.map_append, map_asciiLower_capitalize hfront,
      List.map_cons, List.map_cons, ih (List.forall_mem_cons.mp hback).2]

theorem capitalize_idem (h : ∀ c ∈ word, isAscii c = true) : capitalize (capitalize word) = capitalize word := by
  have hsame := forall_of_map_asciiLower (P := (isAscii · = true)) (fun c => by rw [isAscii_asciiLower])
    (map_asciiLower_capitalize h) h
  -- a capitalized word that is not in upper case comes from one that is not either
  by_cases hupper : IsUpperWord (capitalize word)
  · rw [capitalize_of_upper hsame hupper]
  · have hnot : ¬ IsUpperWord word := fun hword => hupper (by rwa [capitalize_of_upper h hword])
    rw [capitalize_of_not_upper hsame hupper, capitalize_of_not_upper h hnot, capitalized_idem]

theorem isTitleWordChar_of_mem_capitalize (h : ∀ c ∈ word, isAscii c = true)
    (hword : ∀ c ∈ word, isTitleWordChar c = true) : ∀ c ∈ capitalize word, isTitleWordChar c = true :=
  forall_of_map_asciiLower (fun c => by rw [isTitleWordChar_asciiLower]) (map_asciiLower_capitalize h) hword

theorem titleCase_idem (h : ∀ c ∈ s, isAscii c = true) : titleCase (titleCase s) = titleCase s := by
  induction s using title_induction with
  | hword word hword => rw [titleCase_word hword, titleCase_word (isTitleWordChar_of_mem_capitalize h hword), capitalize_idem h]
  | hcut word c rest hword hc ih =>
    obtain ⟨hfront, hback⟩ := List.forall_mem_append.mp h
    rw [titleCase_cut hc, titleCase_cut hc, titleCase_word hword,
      titleCase_word (isTitleWordChar_of_mem_capitalize hfront hword), capitalize_idem hfront, ih (List.forall_mem_cons.mp hback).2]

theorem length_titleCase (h : ∀ c ∈ s, isAscii c = true) : (titleCase s).length = s.length := by
  have hlength := congrArg List.length (map_asciiLower_titleCase h)
  rwa [List.length_map, List.length_map] at hlength

theorem asciiLower_of_not_letter (h : isAsciiLetter c = false) : asciiLower c = c := by
  rw [isAsciiLetter, Bool.or_eq_false_iff] at h
  rw [asciiLower, h.1, if_neg Bool.false_ne_true]

theorem getElem?_titleCase {i : Nat} (h : ∀ c ∈ s, isAscii c = true) (hc : s[i]? = some c)
    (hplain : isTitleWordChar c = false) : (titleCase s)[i]? = some c := by
  have hascii : isAscii c = true := h c (List.mem_of_getElem? hc)
  have hletter : isAsciiLetter c = false := by
    rw [isTitleWordChar_of_isAscii hascii, isAsciiWordChar, Bool.or_eq_false_iff, Bool.or_eq_false_iff] at hplain
    exact hplain.1.1
  have hsame : ((titleCase s).map asciiLower)[i]? = some c := by
    rw [map_asciiLower_titleCase h, List.getElem?_map, hc, Option.map_some, asciiLower_of_not_letter hletter]
  rw [List.getElem?_map] at hsame
  obtain ⟨d, hd, rfl⟩ := Option.map_eq_some_iff.mp hsame
  rw [isAsciiLetter_asciiLower] at hletter
  rw [hd, asciiLower_of_not_letter hletter]

theorem WordOf.titled (h : WordOf s before word after) (hs : ∀ c ∈ s, isAscii c = true) :
    ((titleCase s).drop before.length).take word.length = capitalize word := by
  rw [← h.whole, List.forall_mem_append, List.forall_mem_append] at hs
  obtain ⟨⟨hbefore, hword⟩, -⟩ := hs
  have hlength := congrArg List.length (map_asciiLower_capitalize hword)
  rw [List.length_map, List.length_map] at hlength
  rw [h.titleCase_eq, List.append_assoc, List.drop_left' (length_titleCase hbefore), List.take_left' hlength]

/-- In an ASCII text title case changes the case of letters only. It leaves every character outside of words alone, and
every word with letters that are all in upper case. In any other word the first character gets upper case and the
others get lower case. A second time nothing is changed. -/
theorem titleCase_ascii (s : List Char) (h : ∀ c ∈ s, isAscii c = true) :
    (titleCase s).length = s.length ∧ (titleCase s).map asciiLower = s.map asciiLower ∧
    (∀ c ∈ s, isTitleWordChar c = (isAsciiLetter c || isAsciiDigit c || c == '\'')) ∧
    (∀ (i : Nat) (c : Char), s[i]? = some c → isTitleWordChar c = false → (titleCase s)[i]? = some c) ∧
    (∀ before word after, WordOf s before word after →
      let titled := ((titleCase s).drop before.length).take word.length
      (IsUpperWord word → titled = word) ∧ (¬ IsUpperWord word → titled = capitalized word)) ∧
    titleCase (titleCase s) = titleCase s := by
  refine ⟨length_titleCase h, map_asciiLower_titleCase h, fun c hc => isTitleWordChar_of_isAscii (h c hc),
    fun i c => getElem?_titleCase h, ?_, titleCase_idem h⟩
  intro before word after hof titled
  have hword : ∀ c ∈ word, isAscii c = true := by
    intro c hc
    exact h c (by simp [← hof.whole, hc])
  have htitled : titled = capitalize word := hof.titled h
  exact ⟨fun hupper => htitled.trans (capitalize_of_upper hword hupper),
    fun hupper => htitled.trans (capitalize_of_not_upper hword hupper)⟩

theorem titleCase_ascii_sizes :
    let s := "o'neil's 3xl NASA-coat, 40%".toList
    (∀ c ∈ s, isAscii c = true) ∧ titleCase s = "O'neil's 3xl NASA-Coat, 40%".toList ∧
      (titleCase s).length = s.length ∧ titleCase (titleCase s) = titleCase s := by
  intro s
  have hascii : ∀ c ∈ s, isAscii c = true := List.forall_iff_forall_mem.mp (by decide)
  obtain ⟨hlength, -, -, -, -, hidem⟩ := titleCase_ascii s hascii
  exact ⟨hascii, by decide, hlength, hidem⟩

end Ascii

end Storefront.Text

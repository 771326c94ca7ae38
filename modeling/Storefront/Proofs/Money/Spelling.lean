import Storefront.Mold.Work
import Storefront.Money.Reader
import Storefront.Proofs.Text.Letter
import Storefront.Proofs.Text.Number

/-! # Sums of money spelled out

A sum can be spelled with a comma for its point, with blanks and colons before its code, and with the code in letters of
either case. Every spelling is read as the sum itself, with all its decimals.
-/
namespace Storefront
open Unicode Text

namespace Currency
variable {c : Currency} {code : List Char}

theorem isAsciiLetter_of_code (h : code.map asciiLower = c.code.toList.map asciiLower) :
    ∀ a ∈ code, isAsciiLetter a = true := by
  have hcode : ∀ a ∈ c.code.toList.map asciiLower, isAsciiLetter a = true :=
    List.all_eq_true.mp (by cases c <;> decide)
  intro a ha
  rw [← isAsciiLetter_asciiLower]
  exact hcode _ (h ▸ List.mem_map_of_mem ha)

theorem ne_nil_of_code (h : code.map asciiLower = c.code.toList.map asciiLower) : code ≠ [] := by
  rintro rfl
  cases c <;> exact absurd h (by decide)

theorem ofText?_of_code (h : code.map asciiLower = c.code.toList.map asciiLower) : ofText? code = some c := by
  have htrim : trim code = code :=
    strip_of_forall fun a ha => isBlank_of_isAsciiLetter (isAsciiLetter_of_code h a ha)
  rw [ofText?, htrim, h]
  cases c <;> decide

end Currency

namespace Money
open Mold (commaToPoint)

def pointToComma (c : Char) : Char := if c = '.' then ',' else c

/-- A way to spell a sum of money: its number as it is printed, with a point or a comma, and its code in letters of
either case. Blanks, colons and blanks may stand between the two, and blanks around them. -/
structure Spelling (m : Money) where
  lead : List Char
  number : List Char
  gap : List Char
  colons : List Char
  space : List Char
  code : List Char
  trail : List Char
  lead_blank : ∀ c ∈ lead, isBlank c = true
  number_eq : number = m.amount.toText ∨ number = m.amount.toText.map pointToComma
  gap_blank : ∀ c ∈ gap, isBlank c = true
  colons_eq : ∀ c ∈ colons, c = ':'
  space_blank : ∀ c ∈ space, isBlank c = true
  code_eq : code.map asciiLower = m.currency.code.toList.map asciiLower
  trail_blank : ∀ c ∈ trail, isBlank c = true

def IsAmountChar (c : Char) : Prop := c.isDigit = true ∨ c = '-' ∨ c = '.' ∨ c = ','

namespace IsAmountChar
variable {c : Char} (h : IsAmountChar c)
include h

theorem isBlank_eq : isBlank c = false := by
  rcases h with hdigit | rfl | rfl | rfl
  · exact Decimal.isBlank_of_isDigit hdigit
  · decide
  · decide
  · decide

theorem ne_colon : c ≠ ':' := by
  rcases h with hdigit | rfl | rfl | rfl
  · exact Decimal.ne_of_isDigit hdigit (by decide)
  · decide
  · decide
  · decide

theorem isAsciiLetter_eq : isAsciiLetter c = false := by
  rcases h with hdigit | rfl | rfl | rfl
  · simp only [Char.isDigit, Bool.and_eq_true, decide_eq_true_eq] at hdigit
    have hle : c.toNat ≤ 57 := hdigit.2
    refine Bool.eq_false_iff.mpr fun hletter => ?_
    have := isAsciiLetter_iff.mp hletter
    omega
  · decide
  · decide
  · decide

end IsAmountChar

section
variable {number gap colons space : List Char}

/-- Without the colons behind it a number ends in blanks at most. -/
theorem exists_blank_end (hne : number ≠ []) (hnumber : ∀ c ∈ number, IsAmountChar c)
    (hgap : ∀ c ∈ gap, isBlank c = true) (hcolons : ∀ c ∈ colons, c = ':') :
    ∃ rest, (∀ c ∈ rest, isBlank c = true) ∧
      dropEndWhile (· == ':') (trim (number ++ gap ++ colons)) = number ++ rest := by
  rcases List.eq_nil_or_concat' colons with rfl | ⟨front, last, rfl⟩
  · -- no colon keeps the blanks from being trimmed
    have htrim : trim (number ++ gap ++ []) = number := by
      rw [List.append_nil, trim, strip_append_trail hgap]
      exact strip_of_forall fun c hc => (hnumber c hc).isBlank_eq
    refine ⟨[], List.forall_mem_nil _, ?_⟩
    rw [htrim, List.append_nil]
    exact dropEndWhile_eq_self fun c hc => beq_eq_false_iff_ne.mpr (hnumber c (List.mem_of_getLast? hc)).ne_colon
  · have hlast : last = ':' := hcolons last (by simp)
    have htrim : trim (number ++ gap ++ (front ++ [last])) = number ++ gap ++ (front ++ [last]) := by
      apply strip_eq_self
      · intro c hc
        rw [List.append_assoc, List.head?_append_of_ne_nil _ hne] at hc
        exact (hnumber c (List.mem_of_head? hc)).isBlank_eq
      · intro c hc
        rw [← List.append_assoc, List.getLast?_concat, hlast] at hc
        cases hc
        decide
    refine ⟨gap, hgap, ?_⟩
    rw [htrim, dropEndWhile_append fun c hc => beq_iff_eq.mpr (hcolons c hc)]
    apply dropEndWhile_eq_self
    intro c hc
    rcases List.mem_append.mp (List.mem_of_getLast? hc) with hc | hc
    · exact beq_eq_false_iff_ne.mpr (hnumber c hc).ne_colon
    · exact beq_eq_false_iff_ne.mpr (ne_of_isBlank (hgap c hc) (by decide))

theorem isBlank_commaToPoint (c : Char) : isBlank (commaToPoint c) = isBlank c := by
  unfold commaToPoint
  split
  · subst c
    decide
  · rfl

theorem numberText_append (hne : number ≠ []) (hnumber : ∀ c ∈ number, IsAmountChar c)
    (hgap : ∀ c ∈ gap, isBlank c = true) (hcolons : ∀ c ∈ colons, c = ':') (hspace : ∀ c ∈ space, isBlank c = true) :
    numberText (number ++ gap ++ colons ++ space) = number.map commaToPoint := by
  obtain ⟨rest, hrest, hdrop⟩ := exists_blank_end hne hnumber hgap hcolons
  have htrim : trim (number ++ gap ++ colons ++ space) = trim (number ++ gap ++ colons) := strip_append_trail hspace _
  have hblank : ∀ c ∈ rest.map commaToPoint, isBlank c = true := by
    rw [List.forall_mem_map]
    exact fun c hc => (isBlank_commaToPoint c).trans (hrest c hc)
  have hnumber : ∀ c ∈ number.map commaToPoint, isBlank c = false := by
    rw [List.forall_mem_map]
    exact fun c hc => (isBlank_commaToPoint c).trans (hnumber c hc).isBlank_eq
  calc numberText (number ++ gap ++ colons ++ space)
    _ = trim ((number ++ rest).map commaToPoint) := by rw [← hdrop, ← htrim]; rfl
    _ = trim (number.map commaToPoint) := by rw [List.map_append, trim, strip_append_trail hblank, trim]
    _ = number.map commaToPoint := strip_of_forall hnumber

theorem readBare_append {before code : List Char} {m : Money} (hbefore : ∀ c ∈ before, isAsciiLetter c = false)
    (hcode : code.map asciiLower = m.currency.code.toList.map asciiLower)
    (hamount : Decimal.read (numberText before) = .ok m.amount) : readBare (before ++ code) = .ok m := by
  have htake : (before ++ code).takeWhile (!isAsciiLetter ·) = before := by
    obtain ⟨c, rest, rfl⟩ := List.exists_cons_of_ne_nil (Currency.ne_nil_of_code hcode)
    have hletter : isAsciiLetter c = true := Currency.isAsciiLetter_of_code hcode c List.mem_cons_self
    rw [List.takeWhile_append_of_pos (by simpa using hbefore), List.takeWhile_cons_of_neg (by simp [hletter]),
      List.append_nil]
  have hne : code.isEmpty = false :=
    Bool.eq_false_iff.mpr fun h => Currency.ne_nil_of_code hcode (List.isEmpty_iff.mp h)
  simp only [readBare, htake, List.drop_left, hne, hamount, Currency.ofText?_of_code hcode, Bool.false_eq_true,
    if_false]

end

namespace Spelling
variable {m : Money} (t : Spelling m)

def before : List Char := t.number ++ t.gap ++ t.colons ++ t.space

def text : List Char := t.lead ++ (t.before ++ t.code) ++ t.trail

theorem isAmountChar : ∀ c ∈ t.number, IsAmountChar c := by
  have htext : ∀ c ∈ m.amount.toText, IsAmountChar c := by
    intro c hc
    rcases m.amount.mem_toText hc with hdigit | rfl | rfl
    · exact .inl hdigit
    · exact .inr (.inl rfl)
    · exact .inr (.inr (.inl rfl))
  rcases t.number_eq with hnumber | hnumber
  · rwa [hnumber]
  · rw [hnumber, List.forall_mem_map]
    intro c hc
    unfold pointToComma
    split
    · exact .inr (.inr (.inr rfl))
    · exact htext c hc

theorem number_ne_nil : t.number ≠ [] := by
  rcases t.number_eq with hnumber | hnumber
  · rw [hnumber]
    exact m.amount.toText_ne_nil
  · rw [hnumber, Ne, List.map_eq_nil_iff]
    exact m.amount.toText_ne_nil

theorem map_commaToPoint : t.number.map commaToPoint = m.amount.toText := by
  have hcomma : ∀ c ∈ m.amount.toText, c ≠ ',' := by
    rintro c hc rfl
    rcases m.amount.mem_toText hc with h | h | h <;> exact absurd h (by decide)
  rcases t.number_eq with hnumber | hnumber
  · rw [hnumber]
    refine (List.map_congr_left fun c hc => ?_).trans (List.map_id _)
    exact if_neg (hcomma c hc)
  · rw [hnumber, List.map_map]
    refine (List.map_congr_left fun c hc => ?_).trans (List.map_id _)
    rw [Function.comp_apply, pointToComma]
    split
    · rename_i hpoint
      rw [hpoint]
      decide
    · exact if_neg (hcomma c hc)

theorem numberText_before : numberText t.before = m.amount.toText :=
  (numberText_append t.number_ne_nil t.isAmountChar t.gap_blank t.colons_eq t.space_blank).trans t.map_commaToPoint

theorem isAsciiLetter_of_mem_before : ∀ c ∈ t.before, isAsciiLetter c = false := by
  intro c hc
  simp only [before, List.mem_append] at hc
  rcases hc with ((hc | hc) | hc) | hc
  · exact (t.isAmountChar c hc).isAsciiLetter_eq
  · exact isAsciiLetter_of_isBlank (t.gap_blank c hc)
  · rw [t.colons_eq c hc]
    decide
  · exact isAsciiLetter_of_isBlank (t.space_blank c hc)

theorem trim_text : trim t.text = t.before ++ t.code := by
  rw [text, trim, strip_append t.lead_blank t.trail_blank]
  apply strip_eq_self
  · intro c hc
    simp only [before, List.append_assoc, List.head?_append_of_ne_nil _ t.number_ne_nil] at hc
    exact (t.isAmountChar c (List.mem_of_head? hc)).isBlank_eq
  · intro c hc
    rw [List.getLast?_append_of_ne_nil _ (Currency.ne_nil_of_code t.code_eq)] at hc
    exact isBlank_of_isAsciiLetter (Currency.isAsciiLetter_of_code t.code_eq c (List.mem_of_getLast? hc))

end Spelling

/-- Every spelling of a sum of money is read as that sum, with all its decimals. -/
theorem read_spelling {m : Money} (t : Spelling m) : read t.text = .ok m := by
  have hamount : Decimal.read (numberText t.before) = .ok m.amount := by
    rw [t.numberText_before]
    exact m.amount.read_toText
  have hbare : readBare (t.before ++ t.code) = .ok m := readBare_append t.isAsciiLetter_of_mem_before t.code_eq hamount
  simp only [read, t.trim_text, hbare]

theorem read_spelling_deepest :
    read "\u00a0\t-7,9228162514264337593543950335 \t:: \npLn ".toList = .ok ⟨deepest, .pln⟩ := by
  let t : Spelling ⟨deepest, .pln⟩ :=
    { lead := "\u00a0\t".toList
      number := "-7,9228162514264337593543950335".toList
      gap := " \t".toList
      colons := "::".toList
      space := " \n".toList
      code := "pLn".toList
      trail := " ".toList
      lead_blank := List.all_eq_true.mp (by decide)
      number_eq := .inr (by decide +kernel)
      gap_blank := List.all_eq_true.mp (by decide)
      colons_eq := by simp
      space_blank := List.all_eq_true.mp (by decide)
      code_eq := by decide
      trail_blank := List.all_eq_true.mp (by decide) }
  have htext : "\u00a0\t-7,9228162514264337593543950335 \t:: \npLn ".toList = t.text := by decide +kernel
  rw [htext]
  exact read_spelling t

end Money
end Storefront

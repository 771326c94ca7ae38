import Storefront.Unicode.Case

/-! # Letters of ASCII

A letter stays one in the other case, and no letter is blank. To change the case of a character twice is to change it to
the latter case.
-/
namespace Storefront.Unicode
variable {c : Char}

theorem isAsciiUpper_iff : isAsciiUpper c = true ↔ 65 ≤ c.toNat ∧ c.toNat ≤ 90 := by
  simp only [isAsciiUpper, Bool.and_eq_true, decide_eq_true_eq]
  exact Iff.rfl

theorem isAsciiLower_iff : isAsciiLower c = true ↔ 97 ≤ c.toNat ∧ c.toNat ≤ 122 := by
  simp only [isAsciiLower, Bool.and_eq_true, decide_eq_true_eq]
  exact Iff.rfl

theorem isAsciiLetter_iff :
    isAsciiLetter c = true ↔ (65 ≤ c.toNat ∧ c.toNat ≤ 90) ∨ (97 ≤ c.toNat ∧ c.toNat ≤ 122) := by
  rw [isAsciiLetter, Bool.or_eq_true, isAsciiUpper_iff, isAsciiLower_iff]

theorem toNat_asciiLower (h : isAsciiUpper c = true) : (asciiLower c).toNat = c.toNat + 32 := by
  have hvalid : (c.toNat + 32).isValidChar := by
    have := isAsciiUpper_iff.mp h
    left
    omega
  rw [asciiLower, if_pos h, Char.ofNat, dif_pos hvalid]
  rfl

theorem isAsciiLetter_asciiLower (c : Char) : isAsciiLetter (asciiLower c) = isAsciiLetter c := by
  cases hupper : isAsciiUpper c with
  | false => rw [asciiLower, hupper, if_neg (by decide)]
  | true =>
    have hletter : isAsciiLetter (asciiLower c) = true := by
      rw [isAsciiLetter_iff, toNat_asciiLower hupper]
      have := isAsciiUpper_iff.mp hupper
      omega
    rw [hletter, isAsciiLetter, hupper, Bool.true_or]

theorem isBlank_of_isAsciiLetter (h : isAsciiLetter c = true) : isBlank c = false := by
  have := isAsciiLetter_iff.mp h
  simp [isBlank]
  omega

theorem isAsciiLetter_of_isBlank (h : isBlank c = true) : isAsciiLetter c = false := by
  refine Bool.eq_false_iff.mpr fun hletter => ?_
  rw [isBlank_of_isAsciiLetter hletter] at h
  cases h

theorem ne_of_isBlank (h : isBlank c = true) {a : Char} (ha : isBlank a = false) : c ≠ a := by
  rintro rfl
  rw [ha] at h
  cases h

def asciiUpper (c : Char) : Char := if isAsciiLower c then Char.ofNat (c.toNat - 32) else c

theorem isAscii_iff : isAscii c = true ↔ c.toNat < 128 := by
  rw [isAscii, decide_eq_true_eq]

theorem toNat_asciiUpper (h : isAsciiLower c = true) : (asciiUpper c).toNat = c.toNat - 32 := by
  have hvalid : (c.toNat - 32).isValidChar := by
    have := isAsciiLower_iff.mp h
    left
    omega
  rw [asciiUpper, if_pos h, Char.ofNat, dif_pos hvalid]
  rfl

theorem toNat_asciiLower_eq (c : Char) :
    (asciiLower c).toNat = if 65 ≤ c.toNat ∧ c.toNat ≤ 90 then c.toNat + 32 else c.toNat := by
  split
  · next h => exact toNat_asciiLower (isAsciiUpper_iff.mpr h)
  · next h => rw [asciiLower, if_neg (mt isAsciiUpper_iff.mp h)]

theorem toNat_asciiUpper_eq (c : Char) :
    (asciiUpper c).toNat = if 97 ≤ c.toNat ∧ c.toNat ≤ 122 then c.toNat - 32 else c.toNat := by
  split
  · next h => exact toNat_asciiUpper (isAsciiLower_iff.mpr h)
  · next h => rw [asciiUpper, if_neg (mt isAsciiLower_iff.mp h)]

theorem asciiLower_asciiUpper (c : Char) : asciiLower (asciiUpper c) = asciiLower c := by
  apply Char.toNat_inj.mp
  rw [toNat_asciiLower_eq, toNat_asciiLower_eq, toNat_asciiUpper_eq]
  grind

theorem asciiLower_idem (c : Char) : asciiLower (asciiLower c) = asciiLower c := by
  apply Char.toNat_inj.mp
  rw [toNat_asciiLower_eq, toNat_asciiLower_eq]
  grind

theorem asciiUpper_idem (c : Char) : asciiUpper (asciiUpper c) = asciiUpper c := by
  apply Char.toNat_inj.mp
  rw [toNat_asciiUpper_eq, toNat_asciiUpper_eq]
  grind

theorem isAscii_asciiLower (c : Char) : isAscii (asciiLower c) = isAscii c := by
  rw [Bool.eq_iff_iff, isAscii_iff, isAscii_iff, toNat_asciiLower_eq]
  grind

theorem toUpper_of_isAscii (h : isAscii c = true) : toUpper c = [asciiUpper c] := by
  rw [toUpper, if_pos h, asciiUpper]

theorem toLower_of_isAscii (h : isAscii c = true) : toLower c = [asciiLower c] := by
  rw [toLower, if_pos h]

end Storefront.Unicode

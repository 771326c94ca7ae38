import Storefront.Proofs.Decimal.Digits
import Storefront.Proofs.Time.Calendar
import Storefront.Time.Text

/-! # Expiries written and read back

An expiry is written without the fraction of its second. What is read back is the moment at which that second
began.
-/
namespace Storefront
open Unicode

namespace Timestamp
variable {width n : Nat} {rest : List Char}

theorem exists_padded (width n : Nat) :
    ∃ c s, Decimal.padded width n = c :: s ∧ c.isDigit = true ∧ ∀ d ∈ c :: s, d.isDigit = true := by
  obtain ⟨c, s, hs⟩ := List.exists_cons_of_ne_nil (Decimal.padded_ne_nil width n)
  have hdigits : ∀ d ∈ c :: s, d.isDigit = true := fun d hd => Decimal.isDigit_of_mem_padded (hs ▸ hd)
  exact ⟨c, s, hs, hdigits c List.mem_cons_self, hdigits⟩

theorem dropWhile_isBlank_padded (width n : Nat) (rest : List Char) :
    (Decimal.padded width n ++ rest).dropWhile isBlank = Decimal.padded width n ++ rest := by
  obtain ⟨c, s, hs, hc, -⟩ := exists_padded width n
  exact Text.dropWhile_eq_self (by simp [hs, Decimal.isBlank_of_isDigit hc])

theorem number_padded (hwidth : width ≠ 0) (h : n < 10 ^ width) (hrest : ∀ c ∈ rest.head?, isAsciiDigit c = false) :
    number width (Decimal.padded width n ++ rest) = some (n, rest) := by
  have hdigits : ∀ c ∈ Decimal.padded width n, c.isDigit = true := fun c => Decimal.isDigit_of_mem_padded
  have htaken : (Decimal.padded width n ++ rest).takeWhile isAsciiDigit = Decimal.padded width n := by
    have hascii : ∀ c ∈ Decimal.padded width n, isAsciiDigit c = true := hdigits
    rw [List.takeWhile_append_of_pos hascii]
    cases rest with
    | nil => simp
    | cons c rest => rw [List.takeWhile_cons_of_neg (by simp [hrest c rfl]), List.append_nil]
  simp only [number, dropWhile_isBlank_padded, htaken, List.take_of_length_le (Decimal.length_padded hwidth h).le,
    Decimal.digitsValue?_of_isDigit (Decimal.padded_ne_nil width n) hdigits, Decimal.ofDigitChars_padded,
    Option.map_some, List.drop_left]

theorem readYear_padded (h : n ≤ 9999) (hrest : ∀ c ∈ rest.head?, isAsciiDigit c = false) :
    readYear (Decimal.padded 4 n ++ rest) = some ((n : Int), rest) := by
  have hnumber := number_padded (show 4 ≠ 0 by decide) (show n < 10 ^ 4 by omega) hrest
  have hunsigned {sign : Char} (hsign : sign.isDigit = false) (t : List Char) :
      Decimal.padded 4 n ++ rest ≠ sign :: t := by
    obtain ⟨c, s, hs, hc, -⟩ := exists_padded 4 n
    intro heq
    rw [hs, List.cons_append, List.cons.injEq] at heq
    exact Decimal.ne_of_isDigit hc hsign heq.1
  unfold readYear
  rw [dropWhile_isBlank_padded]
  split
  · rename_i hplus
    exact absurd hplus (hunsigned (by decide) _)
  · rename_i hminus
    exact absurd hminus (hunsigned (by decide) _)
  · rw [hnumber, Option.map_some]

section
variable {t : Timestamp}

theorem readDate_dateText (hlow : 0 ≤ t.date.year) (hhigh : t.date.year ≤ 9999)
    (hrest : ∀ c ∈ rest.head?, isAsciiDigit c = false) : readDate false (t.dateText ++ rest) = some (t.date, rest) := by
  obtain ⟨year, hyear⟩ := Int.eq_ofNat_of_zero_le hlow
  have hexists : Date.ofParts? t.date.year t.date.month t.date.day = some t.date := by
    refine Date.ofParts?_ofDays ?_
    change Date.yearInRange t.date.year = true
    simp only [Date.yearInRange, Bool.and_eq_true, decide_eq_true_eq]
    omega
  obtain ⟨hmonth, hday⟩ := Date.bounds_of_ofParts? hexists
  have hdash (s : List Char) : ∀ c ∈ ('-' :: s).head?, isAsciiDigit c = false := by simp; decide
  have htext : t.dateText ++ rest = Decimal.padded 4 year ++
      '-' :: (twoDigits t.date.month ++ '-' :: (twoDigits t.date.day ++ rest)) := by
    simp [dateText, yearText, hyear, show year ≤ 9999 by omega]
  rw [htext]
  simp only [readDate, readYear_padded (show year ≤ 9999 by omega) (hdash _), Option.bind_eq_bind, Option.bind_some,
    Bool.false_eq_true, if_false, mark, if_true, twoDigits, number_padded (show 2 ≠ 0 by decide)
      (show t.date.month < 10 ^ 2 by omega) (hdash _), number_padded (show 2 ≠ 0 by decide)
      (show t.date.day < 10 ^ 2 by omega) hrest, ← hyear, hexists]
  rfl

theorem readTime_timeText (hnanos : t.nanos < perSecond) (hrest : ∀ c ∈ rest.head?, isAsciiDigit c = false) :
    let n := t.secondOfDay.toNat
    readTime false (t.timeText ++ rest) = some ((n / 3600, n / 60 % 60, n % 60), rest) := by
  intro n
  have hn : n < 86400 := by
    simp only [n, secondOfDay, perDay]
    omega
  have hcolon (s : List Char) : ∀ c ∈ (':' :: s).head?, isAsciiDigit c = false := by simp; decide
  have htext : t.timeText ++ rest = twoDigits (n / 3600) ++
      ':' :: (twoDigits (n / 60 % 60) ++ ':' :: (twoDigits (n % 60) ++ rest)) := by
    simp [timeText, isLeapSecond, Nat.not_le.mpr hnanos, n]
  rw [htext]
  simp only [readTime, Option.bind_eq_bind, Option.bind_some, Bool.false_eq_true, if_false, mark, if_true, twoDigits,
    number_padded (show 2 ≠ 0 by decide) (show n / 3600 < 10 ^ 2 by omega) (hcolon _),
    number_padded (show 2 ≠ 0 by decide) (show n / 60 % 60 < 10 ^ 2 by omega) (hcolon _),
    number_padded (show 2 ≠ 0 by decide) (show n % 60 < 10 ^ 2 by omega) hrest]
  rw [if_pos (by omega)]

end

/-- The moment at which the second of a moment began. -/
def wholeSecond (t : Timestamp) : Timestamp := ⟨t.seconds, 0⟩

/-- In the years of four digits an expiry is read back to the second. A leap second is not meant. -/
theorem ofExpiry?_expiryText {t : Timestamp} (hlow : 0 ≤ t.date.year) (hhigh : t.date.year ≤ 9999)
    (hnanos : t.nanos < perSecond) : ofExpiry? t.expiryText.toList = some t.wholeSecond := by
  have htrim : Text.trim t.expiryText.toList = t.dateText ++ (' ' :: t.timeText) := by
    have htext : t.expiryText.toList = t.dateText ++ (' ' :: t.timeText) := by simp [expiryText]
    rw [htext]
    refine Text.strip_eq_self ?_ ?_
    · obtain ⟨c, s, hs, hc, -⟩ := exists_padded 4 t.date.year.toNat
      simp [dateText, yearText, hlow, hhigh, hs, Decimal.isBlank_of_isDigit hc]
    · obtain ⟨c, s, hs, -, hdigits⟩ := exists_padded 2 (t.secondOfDay.toNat % 60 + if t.isLeapSecond then 1 else 0)
      have hlast (u : List Char) : ∀ d ∈ (u ++ c :: s).getLast?, isBlank d = false := by
        intro d hd
        rw [List.getLast?_append, Option.or_of_isSome (by simp)] at hd
        exact Decimal.isBlank_of_isDigit (hdigits d (List.mem_of_getLast? hd))
      rw [timeText, show twoDigits _ = c :: s from hs, ← List.cons_append, ← List.append_assoc]
      exact hlast _
  have hblank : (' ' :: t.timeText).dropWhile isBlank = t.timeText := by
    rw [List.dropWhile_cons_of_pos (by decide)]
    simp only [timeText, twoDigits, List.append_assoc, dropWhile_isBlank_padded]
  have hspace : ∀ c ∈ (' ' :: t.timeText).head?, isAsciiDigit c = false := by
    simp only [List.head?_cons, Option.mem_some_iff, forall_eq']
    decide
  have hend : ∀ c ∈ ([] : List Char).head?, isAsciiDigit c = false := by simp
  have htime := readTime_timeText hnanos hend
  rw [List.append_nil] at htime
  simp only [ofExpiry?, htrim, readDate_dateText hlow hhigh hspace, Option.bind_eq_bind, Option.bind_some, hblank, htime,
    List.isEmpty_nil, if_true]
  have hdays : t.date.toDays = t.seconds / perDay := Date.toDays_ofDays _
  have hsecond : t.secondOfDay.toNat % 60 ≠ 60 := by omega
  simp only [ofDate, hdays, if_neg hsecond, wholeSecond, Option.some.injEq, Timestamp.mk.injEq, and_true]
  simp only [secondOfDay, perDay]
  omega

end Timestamp
end Storefront

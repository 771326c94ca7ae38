import Storefront.Time.Calendar

/-! # Dates and counts of days

Every count of days has a date, which exists in the calendar and has that count. In a year that begins in March the
leap day comes last, so only a leap year has a day of number 365.
-/
namespace Storefront.Date

/-- The date of a day of a year that begins in March. -/
def ofMarch (year dayOfYear : Int) : Date :=
  let shifted := (5 * dayOfYear + 2) / 153
  let day := dayOfYear - (153 * shifted + 2) / 5 + 1
  let month := if shifted < 10 then shifted + 3 else shifted - 9
  ⟨year + (if month ≤ 2 then 1 else 0), month.toNat, day.toNat⟩

/-- The days of an era in centuries, cycles of four years, years and days. -/
theorem exists_parts {dayOfEra : Int} (hstart : 0 ≤ dayOfEra) (hend : dayOfEra < 146097) :
    ∃ century cycle year day : Int, (0 ≤ century ∧ century ≤ 3) ∧ (0 ≤ cycle ∧ cycle ≤ 24) ∧
      (0 ≤ year ∧ year ≤ 3) ∧ (0 ≤ day ∧ day ≤ 365) ∧ (day = 365 → year = 3 ∧ (cycle = 24 → century = 3)) ∧
      dayOfEra = 36524 * century + 1461 * cycle + 365 * year + day := by
  let century := min (dayOfEra / 36524) 3
  let inCentury := dayOfEra - 36524 * century
  let cycle := inCentury / 1461
  let inCycle := inCentury - 1461 * cycle
  let year := min (inCycle / 365) 3
  refine ⟨century, cycle, year, inCycle - 365 * year, ?_, ?_, ?_, ?_, ?_, ?_⟩ <;>
  · simp only [century, inCentury, cycle, inCycle, year]
    omega

/-- The corrections for leap days leave the whole years. -/
theorem yearOfEra_eq {century cycle year day dayOfEra : Int} (hcentury : 0 ≤ century ∧ century ≤ 3)
    (hcycle : 0 ≤ cycle ∧ cycle ≤ 24) (hyear : 0 ≤ year ∧ year ≤ 3) (hday : 0 ≤ day ∧ day ≤ 365)
    (hleap : day = 365 → year = 3 ∧ (cycle = 24 → century = 3))
    (h : dayOfEra = 36524 * century + 1461 * cycle + 365 * year + day) :
    (dayOfEra - dayOfEra / 1460 + dayOfEra / 36524 - dayOfEra / 146096) / 365 = 100 * century + 4 * cycle + year := by
  have hlast : dayOfEra < 36524 * century + 36524 ∨ dayOfEra = 146096 := by
    by_cases hd : day = 365
    · obtain ⟨hy, hc⟩ := hleap hd
      by_cases hfinal : cycle = 24
      · have := hc hfinal
        omega
      · omega
    · omega
  have hcenturies : dayOfEra / 36524 - dayOfEra / 146096 = century := by
    rcases hlast with hlast | hlast
    · have : dayOfEra / 36524 = century := by omega
      have : dayOfEra / 146096 = 0 := by omega
      omega
    · omega
  -- a cycle has one day more than 1460, so the quotient may run ahead of the cycles
  obtain ⟨late, hcycles, hlow, hhigh⟩ : ∃ late : Int,
      dayOfEra / 1460 = 25 * century + cycle + late ∧ 0 ≤ day - late ∧ day - late ≤ 364 := by
    refine ⟨dayOfEra / 1460 - 25 * century - cycle, by omega, ?_, ?_⟩ <;> omega
  have hyears : dayOfEra - dayOfEra / 1460 + dayOfEra / 36524 - dayOfEra / 146096 =
      365 * (100 * century + 4 * cycle + year) + (day - late) := by
    generalize dayOfEra / 1460 = cycles, dayOfEra / 36524 = centuries, dayOfEra / 146096 = eras at hcycles hcenturies ⊢
    omega
  rw [hyears, Int.mul_add_ediv_left _ _ (by decide), Int.ediv_eq_zero_of_lt hlow (by omega), Int.add_zero]

theorem exists_ofMarch (year : Int) {dayOfYear : Int} (hlow : 0 ≤ dayOfYear) (hhigh : dayOfYear ≤ 365) :
    ∃ shifted day : Nat, shifted ≤ 11 ∧ 1 ≤ day ∧ dayOfYear = (153 * shifted + 2) / 5 + day - 1 ∧
      dayOfYear < (153 * (shifted + 1) + 2) / 5 ∧
      ofMarch year dayOfYear = if shifted < 10 then ⟨year, shifted + 3, day⟩ else ⟨year + 1, shifted - 9, day⟩ := by
  obtain ⟨shifted, hshifted⟩ := Int.eq_ofNat_of_zero_le (show 0 ≤ (5 * dayOfYear + 2) / 153 by omega)
  obtain ⟨day, hday⟩ := Int.eq_ofNat_of_zero_le (show 0 ≤ dayOfYear - (153 * (shifted : Int) + 2) / 5 + 1 by omega)
  refine ⟨shifted, day, by omega, by omega, by omega, by omega, ?_⟩
  by_cases hmonth : shifted < 10
  · have hmonth' : (shifted : Int) < 10 := by omega
    simp only [ofMarch, hshifted, hday, if_pos hmonth, if_pos hmonth', if_neg (show ¬ (shifted : Int) + 3 ≤ 2 by omega),
      Date.mk.injEq, Int.toNat_natCast, Int.add_zero, true_and, and_true]
    omega
  · have hmonth' : ¬ (shifted : Int) < 10 := by omega
    simp only [ofMarch, hshifted, hday, if_neg hmonth, if_neg hmonth', if_pos (show (shifted : Int) - 9 ≤ 2 by omega),
      Date.mk.injEq, Int.toNat_natCast, true_and, and_true]
    omega

theorem leapDays_eq {era century cycle year : Int} (hcentury : 0 ≤ century ∧ century ≤ 3)
    (hcycle : 0 ≤ cycle ∧ cycle ≤ 24) (hyear : 0 ≤ year ∧ year ≤ 3) :
    let all := 100 * century + 4 * cycle + year + era * 400
    365 * all + all / 4 - all / 100 + all / 400 = 146097 * era + 36524 * century + 1461 * cycle + 365 * year := by
  intro all
  have hcycles : all / 4 = 25 * century + cycle + 100 * era := by omega
  have hcenturies : all / 100 = century + 4 * era := by omega
  have heras : all / 400 = era := by omega
  omega

theorem exists_ofDays (n : Int) : ∃ year dayOfYear : Int, (0 ≤ dayOfYear ∧ dayOfYear ≤ 365) ∧
    (dayOfYear = 365 → isLeap (year + 1) = true) ∧
    n + 719468 = 365 * year + year / 4 - year / 100 + year / 400 + dayOfYear ∧ ofDays n = ofMarch year dayOfYear := by
  have hera := Int.mul_ediv_add_emod (n + 719468) 146097
  have hstart := Int.emod_nonneg (n + 719468) (show (146097 : Int) ≠ 0 by decide)
  have hend := Int.emod_lt_of_pos (n + 719468) (show (0 : Int) < 146097 by decide)
  generalize hquotient : (n + 719468) / 146097 = era at hera
  generalize hrest : (n + 719468) % 146097 = dayOfEra at hera hstart hend
  obtain ⟨century, cycle, year, day, hcentury, hcycle, hyear, hday, hleap, hparts⟩ := exists_parts hstart hend
  refine ⟨100 * century + 4 * cycle + year + era * 400, day, hday, fun hd => ?_, ?_, ?_⟩
  · obtain ⟨hy, hc⟩ := hleap hd
    simp only [isLeap, Bool.and_eq_true, Bool.or_eq_true, beq_iff_eq, bne_iff_ne]
    omega
  · rw [leapDays_eq hcentury hcycle hyear]
    omega
  · have hcycles : (100 * century + 4 * cycle + year) / 4 = 25 * century + cycle := by omega
    have hcenturies : (100 * century + 4 * cycle + year) / 100 = century := by omega
    have hdays : dayOfEra - (365 * (100 * century + 4 * cycle + year) + (25 * century + cycle) - century) = day := by
      omega
    simp only [ofDays, hquotient, hrest, yearOfEra_eq hcentury hcycle hyear hday hleap hparts, hcycles, hcenturies,
      hdays, ofMarch]

section
variable {year dayOfYear : Int} (hlow : 0 ≤ dayOfYear) (hhigh : dayOfYear ≤ 365)
include hlow hhigh

theorem toDays_ofMarch : (ofMarch year dayOfYear).toDays =
    365 * year + year / 4 - year / 100 + year / 400 + dayOfYear - 719468 := by
  obtain ⟨shifted, day, hshifted, -, hday, -, hdate⟩ := exists_ofMarch year hlow hhigh
  rw [hdate]
  split
  · simp only [toDays, if_neg (show ¬ shifted + 3 ≤ 2 by omega), show (shifted + 3 + 9) % 12 = shifted by omega]
    omega
  · simp only [toDays, if_pos (show shifted - 9 ≤ 2 by omega), show (shifted - 9 + 9) % 12 = shifted by omega]
    omega

theorem ofParts?_ofMarch (hleap : dayOfYear = 365 → isLeap (year + 1) = true) :
    let d := ofMarch year dayOfYear
    yearInRange d.year = true → ofParts? d.year d.month d.day = some d := by
  obtain ⟨shifted, day, hshifted, hfirst, hday, hlast, hdate⟩ := exists_ofMarch year hlow hhigh
  rw [hdate]
  split
  · intro d hrange
    refine if_pos ⟨hrange, by simp only [d]; omega, by simp only [d]; omega, hfirst, ?_⟩
    simp only [d, monthLength]
    split <;> omega
  · intro d hrange
    refine if_pos ⟨hrange, by simp only [d]; omega, by simp only [d]; omega, hfirst, ?_⟩
    simp only [d, monthLength]
    split
    · split
      · omega
      · have : dayOfYear ≠ 365 := fun h => ‹¬ _› (hleap h)
        omega
    all_goals omega

end

theorem toDays_ofDays (n : Int) : (ofDays n).toDays = n := by
  obtain ⟨year, dayOfYear, ⟨hlow, hhigh⟩, -, hdays, hdate⟩ := exists_ofDays n
  rw [hdate, toDays_ofMarch hlow hhigh]
  omega

theorem ofParts?_ofDays {n : Int} (h : yearInRange (ofDays n).year = true) :
    ofParts? (ofDays n).year (ofDays n).month (ofDays n).day = some (ofDays n) := by
  obtain ⟨year, dayOfYear, ⟨hlow, hhigh⟩, hleap, -, hdate⟩ := exists_ofDays n
  rw [hdate] at h ⊢
  exact ofParts?_ofMarch hlow hhigh hleap h

theorem bounds_of_ofParts? {d : Date} (h : ofParts? d.year d.month d.day = some d) : d.month ≤ 12 ∧ d.day ≤ 31 := by
  have hlength : monthLength d.year d.month ≤ 31 := by
    unfold monthLength
    split
    · split <;> decide
    all_goals decide
  unfold ofParts? at h
  split at h
  · rename_i hparts
    exact ⟨hparts.2.2.1, Nat.le_trans hparts.2.2.2.2 hlength⟩
  · cases h

end Storefront.Date

import Storefront.Proofs.Decimal.Printing

/-! # Numbers read leniently

Blanks around a number, plus signs in front of it and commas in it do not count. Without them a decimal is left as it is
printed, and that is read in full.
-/
namespace Storefront.Text
open Unicode

section
variable {c : Char} {lead pluses number trail : List Char} {d : Decimal}

theorem isBlank_of_mem_toText (h : c ∈ d.toText) : isBlank c = false := by
  rcases d.mem_toText h with hdigit | rfl | rfl
  · exact Decimal.isBlank_of_isDigit hdigit
  · decide
  · decide

theorem ne_plus_of_mem_toText (h : c ∈ d.toText) : c ≠ '+' := by
  rcases d.mem_toText h with hdigit | rfl | rfl
  · exact Decimal.ne_of_isDigit hdigit (by decide)
  · decide
  · decide

theorem ofText?_toText (d : Decimal) : Decimal.ofText? d.toText = some d := by
  rw [Decimal.ofText?, Decimal.read_toText]

theorem bareNumber_append (hlead : ∀ c ∈ lead, isBlank c = true) (hpluses : ∀ c ∈ pluses, c = '+')
    (hblank : ∀ c ∈ number, isBlank c = false) (hplus : ∀ c ∈ number.head?, c ≠ '+')
    (htrail : ∀ c ∈ trail, isBlank c = true) :
    bareNumber (lead ++ (pluses ++ number) ++ trail) = number.filter (· != ',') := by
  have htrim : trim (lead ++ (pluses ++ number) ++ trail) = pluses ++ number := by
    rw [trim, strip_append hlead htrail]
    apply strip_of_forall
    intro c hc
    rcases List.mem_append.mp hc with hc | hc
    · rw [hpluses c hc]
      decide
    · exact hblank c hc
  have hsigns : (pluses ++ number).dropWhile (· == '+') = number := by
    rw [List.dropWhile_append_of_pos fun c hc => beq_iff_eq.mpr (hpluses c hc)]
    exact dropWhile_eq_self fun c hc => beq_eq_false_iff_ne.mpr (hplus c hc)
  rw [bareNumber, htrim, hsigns]

end

/-- A decimal is read back from its printed form with commas put in anywhere, any number of plus signs in front of it
and blanks around it. -/
theorem decimal?_printed (d : Decimal) (lead pluses number trail : List Char) (hlead : ∀ c ∈ lead, isBlank c = true)
    (hpluses : ∀ c ∈ pluses, c = '+') (hnumber : number.filter (· != ',') = d.toText)
    (htrail : ∀ c ∈ trail, isBlank c = true) : decimal? (lead ++ (pluses ++ number) ++ trail) = some d := by
  have hchars : ∀ c ∈ number, c = ',' ∨ c ∈ d.toText := by
    intro c hc
    by_cases hcomma : c = ','
    · exact .inl hcomma
    · exact .inr (hnumber ▸ List.mem_filter.mpr ⟨hc, bne_iff_ne.mpr hcomma⟩)
  have hblank : ∀ c ∈ number, isBlank c = false := by
    intro c hc
    rcases hchars c hc with rfl | hc
    · decide
    · exact isBlank_of_mem_toText hc
  have hplus : ∀ c ∈ number.head?, c ≠ '+' := by
    intro c hc
    rcases hchars c (List.mem_of_head? hc) with rfl | hc
    · decide
    · exact ne_plus_of_mem_toText hc
  rw [decimal?, bareNumber_append hlead hpluses hblank hplus htrail, hnumber, ofText?_toText]

def deepest : Decimal := ⟨1 - pow2 96, Decimal.maxScale, by decide, Nat.le_refl _⟩

theorem decimal?_printed_deepest :
    decimal? "\u00a0\t++,-7,.922,816251426433759354395033,5,\n".toList = some deepest := by
  let number := ",-7,.922,816251426433759354395033,5,".toList
  have htext : "\u00a0\t++,-7,.922,816251426433759354395033,5,\n".toList =
      "\u00a0\t".toList ++ ("++".toList ++ number) ++ "\n".toList := by decide +kernel
  have hnumber : number.filter (· != ',') = deepest.toText := by decide +kernel
  rw [htext]
  exact decimal?_printed deepest _ _ number _ (List.all_eq_true.mp (by decide)) (by simp) hnumber
    (List.all_eq_true.mp (by decide))

end Storefront.Text

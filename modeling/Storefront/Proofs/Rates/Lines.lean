import Storefront.Proofs.Rates.File

/-! # Rate files put together

A rate file is read line by line, and of two lines for one currency the later one counts. So a file that follows
another one overrides it, and lines without a rate against the main currency can stand anywhere. A carriage return at
the end of a line does not count, whether it belongs to the end of the line or not.
-/
namespace Storefront.RateFile
open Unicode

theorem readCode_return (s : List Char) :
    readCode (s ++ ['\r']) = (readCode s).map fun p => (p.1, p.2 ++ ['\r']) := by
  by_cases hlong : 3 ≤ s.length
  · have htake : (s ++ ['\r']).take 3 = s.take 3 := List.take_append_of_le_length hlong
    have hdrop : (s ++ ['\r']).drop 3 = s.drop 3 ++ ['\r'] := List.drop_append_of_le_length hlong
    unfold readCode
    simp only [htake, hdrop]
    split <;> rfl
  · -- a code that is too short is not filled up by the end of the line, which is no letter
    have hshort : readCode s = none := if_neg fun h => hlong (by
      have := h.1
      rw [List.length_take] at this
      omega)
    have hall : (s ++ ['\r']).take 3 = s ++ ['\r'] := List.take_of_length_le (by simp; omega)
    have hreturn : isAsciiLetter '\r' = false := by decide
    rw [hshort, readCode, hall]
    simp [hreturn]

theorem dropStart_return {start : List Char} (hstart : '\r' ∉ start) (s : List Char) :
    dropStart start (s ++ ['\r']) = (dropStart start s).map (· ++ ['\r']) := by
  have hsame : start.isPrefixOf (s ++ ['\r']) = start.isPrefixOf s := by
    rw [Bool.eq_iff_iff, List.isPrefixOf_iff_prefix, List.isPrefixOf_iff_prefix, List.prefix_concat_iff]
    exact or_iff_right fun h => hstart (by simp [h])
  unfold dropStart
  rw [hsame]
  split
  · rename_i hs
    have hle := (List.isPrefixOf_iff_prefix.mp hs).length_le
    rw [List.drop_append_of_le_length hle, Option.map_some]
  · rfl

theorem isNote_return (s : List Char) : isNote (s ++ ['\r']) = isNote s := by
  have hend : ∀ inner, Text.dropEndWhile isBlank (inner ++ ['\r']) = Text.dropEndWhile isBlank inner :=
    Text.dropEndWhile_append (List.forall_mem_singleton.mpr (by decide))
  cases s with
  | nil => rfl
  | cons c inner =>
    by_cases hc : c = '('
    · subst hc
      simp only [List.cons_append, isNote, hend]
    · simp [isNote, hc]

theorem takeWhile_isRateChar_return (s : List Char) :
    (s ++ ['\r']).takeWhile isRateChar = s.takeWhile isRateChar := by
  rw [List.takeWhile_append, List.takeWhile_cons_of_neg (by decide), List.append_nil]
  split
  · rename_i hall
    exact ((List.takeWhile_prefix isRateChar).eq_of_length hall).symm
  · rfl

theorem readCode_dropWhile_return (line : List Char) :
    readCode ((line ++ ['\r']).dropWhile isBlank) =
      (readCode (line.dropWhile isBlank)).map fun p => (p.1, p.2 ++ ['\r']) := by
  rw [List.dropWhile_append]
  split
  · rename_i hblank
    rw [List.isEmpty_iff.mp hblank]
    rfl
  · exact readCode_return _

/-- A carriage return at the end of a line is one of the blanks there. -/
theorem readParts_return (line : List Char) : readParts (line ++ ['\r']) = readParts line := by
  have hto : '\r' ∉ " to ".toList := by decide
  have hspace : '\r' ∉ [' '] := by decide
  -- each part is read as before, and hands the carriage return on to the next
  simp only [readParts, Option.bind_eq_bind]
  rw [readCode_dropWhile_return, Option.bind_map]
  refine Option.bind_congr fun p _ => ?_
  simp only [Function.comp_apply]
  rw [dropStart_return hto, Option.bind_map]
  refine Option.bind_congr fun s _ => ?_
  simp only [Function.comp_apply]
  rw [readCode_return, Option.bind_map]
  refine Option.bind_congr fun p _ => ?_
  simp only [Function.comp_apply]
  rw [dropStart_return hspace, Option.bind_map]
  refine Option.bind_congr fun s _ => ?_
  simp only [Function.comp_apply, takeWhile_isRateChar_return]
  rw [List.drop_append_of_le_length (List.takeWhile_prefix isRateChar).length_le, dropStart_return hspace,
    Option.bind_map]
  refine Option.bind_congr fun s _ => ?_
  simp only [Function.comp_apply, isNote_return]

theorem readLine_return (main : Currency) (line : List Char) :
    readLine main (line ++ ['\r']) = readLine main line := by
  simp only [readLine, readParts_return]

section
variable (main : Currency) (line rest : List Char)

/-- The end of a text ends a line too, but an empty line that is not there gives nothing either. -/
theorem read_go_nil :
    (Text.lines.go line []).filterMap (readLine main) = [line.reverse].filterMap (readLine main) := by
  rw [Text.lines.go]
  split
  · rename_i hempty
    rw [List.isEmpty_iff.mp hempty]
    rfl
  · rfl

theorem read_go_newline : (Text.lines.go line ('\n' :: rest)).filterMap (readLine main) =
    [line.reverse].filterMap (readLine main) ++ read main rest := by
  rw [read, ← List.filterMap_append, List.singleton_append]
  by_cases hreturn : ∃ shorter, line = '\r' :: shorter
  · obtain ⟨shorter, rfl⟩ := hreturn
    have hgo : Text.lines.go ('\r' :: shorter) ('\n' :: rest) = shorter.reverse :: Text.lines rest := rfl
    rw [hgo, List.reverse_cons, List.filterMap_cons, List.filterMap_cons, readLine_return]
  · have hgo : Text.lines.go line ('\n' :: rest) = line.reverse :: Text.lines rest := by
      rw [Text.lines.go]
      · rfl
      · exact fun shorter h => hreturn ⟨shorter, h⟩
    rw [hgo]

end

theorem read_go_append (main : Currency) (line a b : List Char) :
    (Text.lines.go line (a ++ '\n' :: b)).filterMap (readLine main) =
      (Text.lines.go line a).filterMap (readLine main) ++ read main b := by
  induction a generalizing line with
  | nil => rw [List.nil_append, read_go_newline, read_go_nil]
  | cons c a ih =>
    by_cases hc : c = '\n'
    · subst hc
      rw [List.cons_append, read_go_newline, read_go_newline, read, Text.lines, ih, List.append_assoc]
      rfl
    · rw [List.cons_append, lines_go_of_ne hc, lines_go_of_ne hc, ih]

theorem read_append (main : Currency) (a b : List Char) :
    read main (a ++ '\n' :: b) = read main a ++ read main b := read_go_append main [] a b

/-- A line that gives no rate against the main currency: it has another form, it names no currency, its rate is against
another currency, or the text of the rate is no number. -/
inductive PassedOver (main : Currency) (line : List Char) : Prop
  | formless (form : readParts line = none)
  | unknown {first second rate : List Char} (form : readParts line = some (first, second, rate))
      (unknown : Currency.ofText? first = none ∨ Currency.ofText? second = none)
  | foreign {first second rate : List Char} {other : Currency} (form : readParts line = some (first, second, rate))
      (against : Currency.ofText? second = some other) (other_ne : other ≠ main)
  | unreadable {first second rate : List Char} (form : readParts line = some (first, second, rate))
      (unreadable : Text.decimal? rate = none)

theorem readLine_eq_none_iff {main : Currency} {line : List Char} :
    readLine main line = none ↔ PassedOver main line := by
  constructor
  · intro h
    cases hparts : readParts line with
    | none => exact .formless hparts
    | some parts =>
      obtain ⟨first, second, rate⟩ := parts
      simp only [readLine, hparts, Option.bind_eq_bind, Option.bind_some] at h
      cases hfirst : Currency.ofText? first with
      | none => exact .unknown hparts (.inl hfirst)
      | some c =>
        cases hsecond : Currency.ofText? second with
        | none => exact .unknown hparts (.inr hsecond)
        | some against =>
          simp only [hfirst, hsecond, Option.bind_some] at h
          split at h
          · exact .unreadable hparts (Option.map_eq_none_iff.mp h)
          · exact .foreign hparts hsecond ‹_›
  · rintro (hform | ⟨hform, hfirst | hsecond⟩ | ⟨hform, hsecond, hne⟩ | ⟨hform, hrate⟩)
    · simp [readLine, hform]
    · simp [readLine, hform, hfirst]
    · simp [readLine, hform, hsecond]
    · simp [readLine, hform, hsecond, hne]
    · simp [readLine, hform, hrate]

theorem read_eq_nil {main : Currency} {junk : List Char} (h : ∀ line ∈ Text.lines junk, PassedOver main line) :
    read main junk = [] :=
  List.filterMap_eq_nil_iff.mpr fun line hline => readLine_eq_none_iff.mpr (h line hline)

/-- A file that follows another one overrides it, currency by currency. Lines that are passed over change nothing,
wherever they are put in. -/
theorem read_newline_overrides (main : Currency) (a b : List Char) :
    (∀ c, rate? (read main (a ++ '\n' :: b)) c = (rate? (read main b) c).or (rate? (read main a) c)) ∧
    ∀ junk, (∀ line ∈ Text.lines junk, PassedOver main line) →
      read main (a ++ '\n' :: (junk ++ '\n' :: b)) = read main (a ++ '\n' :: b) ∧
      read main (junk ++ '\n' :: b) = read main b ∧ read main (a ++ '\n' :: junk) = read main a := by
  refine ⟨fun c => ?_, fun junk hjunk => ?_⟩
  · rw [rate?, read_append, List.reverse_append, List.lookup_append]
    rfl
  · have hnone := read_eq_nil hjunk
    refine ⟨?_, ?_, ?_⟩
    · rw [read_append, read_append, hnone, List.nil_append, read_append]
    · rw [read_append, hnone, List.nil_append]
    · rw [read_append, hnone, List.append_nil]

def autumnRates : List Char := "EUR to USD 1.0850 (never)\r\nGBP to USD 1.2718 (never)\r".toList

def winterRates : List Char := "\t eur to usd 2. (2026-01-31 18:00:00)  \n".toList

def remarks : List Char :=
  "# winter\r\nEUR to PLN 4.2 (never)\r\nXYZ to USD 1.0 (never)\n\nGBP to USD 1..2 (never)".toList

theorem read_newline_overrides_winter :
    (∀ line ∈ Text.lines remarks, PassedOver .usd line) ∧
      let all := read .usd (autumnRates ++ '\n' :: (remarks ++ '\n' :: winterRates))
      rate? all .eur = some Decimal.two ∧ rate? all .gbp = rate? (read .usd autumnRates) .gbp := by
  have hremarks : ∀ line ∈ Text.lines remarks, PassedOver .usd line := by
    have hnone : ∀ line ∈ Text.lines remarks, readLine .usd line = none := by decide +kernel
    exact fun line hline => readLine_eq_none_iff.mp (hnone line hline)
  obtain ⟨hrates, hpassed⟩ := read_newline_overrides .usd autumnRates winterRates
  have heuro : rate? (read .usd winterRates) .eur = some Decimal.two := by decide +kernel
  have hpound : rate? (read .usd winterRates) .gbp = none := by decide +kernel
  refine ⟨hremarks, ?_, ?_⟩
  · rw [(hpassed remarks hremarks).1, hrates, heuro, Option.some_or]
  · rw [(hpassed remarks hremarks).1, hrates, hpound, Option.none_or]

end Storefront.RateFile

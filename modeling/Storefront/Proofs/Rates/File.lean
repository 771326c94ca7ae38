import Storefront.Proofs.Decimal.Printing
import Storefront.Rates.Book

/-! # Rate files written and read back

The file of a book gives each currency the rate of the book cut to four decimals. A rate that nothing is
left of is read as zero, and a negative one is not read at all.
-/
namespace Storefront
open Unicode

namespace RateFile

def note (r : DatedRate) : List Char :=
  match r.expires with
  | some t => t.expiryText.toList
  | none => "never".toList

/-- The line for a rate, without its end. -/
def body (main c : Currency) (r : DatedRate) : List Char :=
  c.code.toList ++ (" to ".toList ++ (main.code.toList ++ (' ' :: (r.value.toFixed 4 ++
    (' ' :: '(' :: (note r ++ [')']))))))

theorem writeLine?_of_hasRoom (main c : Currency) {r : DatedRate} (h : r.value.HasRoom 4) :
    writeLine? main c r = some (String.ofList (body main c r ++ ['\n'])) := by
  unfold writeLine? Decimal.toFixed? body note
  rw [if_pos h, Option.map_some, Option.some_inj, ← String.toList_inj]
  cases r.expires <;> simp [ToString.toString]

theorem writeLine?_of_not_hasRoom (main c : Currency) {r : DatedRate} (h : ¬ r.value.HasRoom 4) :
    writeLine? main c r = none := by
  rw [writeLine?, Decimal.toFixed?, if_neg h, Option.map_none]

def text (main : Currency) (entries : List (Currency × DatedRate)) : List Char :=
  entries.flatMap fun p => body main p.1 p.2 ++ ['\n']

theorem write?_eq (main : Currency) (entries : List (Currency × DatedRate)) : write? main entries =
    if ∀ p ∈ entries, p.2.value.HasRoom 4 then some (String.ofList (text main entries)) else none := by
  induction entries with
  | nil => rfl
  | cons p rest ih =>
    obtain ⟨c, r⟩ := p
    have hcons : write? main ((c, r) :: rest) =
        (writeLine? main c r).bind fun line => (write? main rest).map (line ++ ·) := by
      simp only [write?, List.mapM_cons, Option.bind_eq_bind, Option.map_bind]
      refine Option.bind_congr fun line _ => ?_
      cases rest.mapM fun (c, r) => writeLine? main c r with
      | none => rfl
      | some lines => exact congrArg some (String.join_cons ..)
    rw [hcons, ih]
    by_cases hr : r.value.HasRoom 4
    · rw [writeLine?_of_hasRoom main c hr, Option.bind_some]
      simp only [List.forall_mem_cons, hr, true_and]
      split
      · rw [Option.map_some, ← String.ofList_append]
        rfl
      · rfl
    · rw [writeLine?_of_not_hasRoom main c hr, Option.bind_none, if_neg]
      exact fun h => hr (List.forall_mem_cons.mp h).1

/-- The rate that a line gives: that of the book cut to four decimals, if it is not negative. -/
def printed? (r : DatedRate) : Option Decimal :=
  if r.value.isNegative then none else Text.decimal? (r.value.toFixed 4)

theorem isPositive_printed? (r : DatedRate) :
    ((printed? r).filter Decimal.isPositive).isSome = true ↔ 1 / 10 ^ 4 ≤ r.value.value := by
  unfold printed?
  split
  · rename_i hneg
    have := Decimal.isNegative_iff.mp hneg
    simp only [Option.filter_none, Option.isSome_none, Bool.false_eq_true, false_iff, not_le]
    exact this.trans (by positivity)
  · rename_i hnonneg
    rw [Bool.not_eq_true] at hnonneg
    obtain ⟨d, hd, hvalue⟩ := Decimal.exists_decimal?_toFixed hnonneg (show 4 ≠ 0 by decide) (by decide)
    have hpos : d.isPositive = true ↔ 0 < r.value.cut 4 := by
      rw [Decimal.isPositive_iff, hvalue, div_pos_iff_of_pos_right (by positivity), Nat.cast_pos]
    rw [← Decimal.cut_pos_iff hnonneg, ← hpos, hd]
    cases h : d.isPositive <;> simp [h, Option.filter]

theorem readCode_code (c : Currency) (s : List Char) :
    readCode (c.code.toList ++ s) = some (c.code.toList, s) := by
  cases c <;> rfl

theorem dropWhile_isBlank_code (c : Currency) (s : List Char) :
    (c.code.toList ++ s).dropWhile isBlank = c.code.toList ++ s := by
  cases c <;> rfl

theorem dropStart_append (start s : List Char) : dropStart start (start ++ s) = some s := by
  simp [dropStart]

theorem dropStart_space (s : List Char) : dropStart [' '] (' ' :: s) = some s := dropStart_append [' '] s

theorem dropEndWhile_note (s : List Char) : Text.dropEndWhile isBlank (s ++ [')']) = s ++ [')'] := by
  apply Text.dropEndWhile_eq_self
  intro c hc
  rw [List.getLast?_concat] at hc
  cases hc
  decide

theorem isNote_note {s : List Char} (hs : s ≠ []) : isNote ('(' :: (s ++ [')'])) = true := by
  simp [isNote, dropEndWhile_note, hs]

theorem ofText?_code (c : Currency) : Currency.ofText? c.code.toList = some c := by
  cases c <;> decide

theorem isRateChar_of_isDigit {c : Char} (h : c.isDigit = true) : isRateChar c = true := by
  simp only [Char.isDigit, Bool.and_eq_true, decide_eq_true_eq] at h
  simp only [isRateChar, isAsciiDigit, Bool.or_eq_true, Bool.and_eq_true, decide_eq_true_eq]
  exact .inl h

theorem mem_expiryText {t : Timestamp} : ' ' ∈ t.expiryText.toList := by
  simp [Timestamp.expiryText]

theorem note_ne_nil (r : DatedRate) : note r ≠ [] := by
  unfold note
  split
  · exact List.ne_nil_of_mem mem_expiryText
  · decide

theorem readParts_body (main c : Currency) {r : DatedRate} (hr : r.value.isNegative = false) :
    readParts (body main c r) = some (c.code.toList, main.code.toList, r.value.toFixed 4) := by
  have hchars : ∀ a ∈ r.value.toFixed 4, isRateChar a = true := by
    intro a ha
    rcases Decimal.mem_toFixed hr (by decide) ha with ha | rfl
    · exact isRateChar_of_isDigit ha
    · decide
  have htake : (r.value.toFixed 4 ++ ' ' :: '(' :: (note r ++ [')'])).takeWhile isRateChar =
      r.value.toFixed 4 := by
    rw [List.takeWhile_append_of_pos hchars, List.takeWhile_cons_of_neg (by decide), List.append_nil]
  have hne : r.value.toFixed 4 ≠ [] := by simp [Decimal.toFixed]
  simp only [readParts, body, dropWhile_isBlank_code, readCode_code, dropStart_append, dropStart_space, htake,
    List.drop_left, bind, Option.bind]
  rw [isNote_note (note_ne_nil r), if_neg (by simpa using hne)]

theorem readParts_body_of_neg (main c : Currency) {r : DatedRate} (hr : r.value.isNegative = true) :
    readParts (body main c r) = none := by
  obtain ⟨s, hs⟩ : ∃ s, r.value.toFixed 4 ++ ' ' :: '(' :: (note r ++ [')']) = '-' :: s :=
    ⟨_, by simp [Decimal.toFixed, Decimal.signText, hr]; rfl⟩
  have hsign : isRateChar '-' = false := by decide
  simp only [readParts, body, dropWhile_isBlank_code, readCode_code, dropStart_append, dropStart_space, hs,
    List.takeWhile_cons, hsign, bind, Option.bind]
  rfl

theorem readLine_body (main c : Currency) (r : DatedRate) :
    readLine main (body main c r) = (printed? r).map (c, ·) := by
  unfold printed?
  split
  · rename_i hneg
    simp [readLine, readParts_body_of_neg main c hneg]
  · rename_i hnonneg
    rw [Bool.not_eq_true] at hnonneg
    simp [readLine, readParts_body main c hnonneg, ofText?_code]

theorem newline_notMem_of_isDigit {s : List Char} (h : ∀ c ∈ s, c.isDigit = true) : '\n' ∉ s :=
  fun hmem => absurd (h _ hmem) (by decide)

theorem newline_notMem_expiryText (t : Timestamp) : '\n' ∉ t.expiryText.toList := by
  have hpadded (width n : ℕ) : '\n' ∉ Decimal.padded width n :=
    newline_notMem_of_isDigit fun c => Decimal.isDigit_of_mem_padded
  have hyear (year : ℤ) : '\n' ∉ Timestamp.yearText year := by
    unfold Timestamp.yearText
    split
    · exact hpadded _ _
    · split <;> simp [hpadded]
  simp [Timestamp.expiryText, Timestamp.dateText, Timestamp.timeText, Timestamp.twoDigits, hpadded, hyear]

theorem newline_notMem_toFixed (d : Decimal) : '\n' ∉ d.toFixed 4 := by
  have hwhole : '\n' ∉ d.wholeText := newline_notMem_of_isDigit fun c => Decimal.isDigit_of_mem_wholeText
  have hdecimals : '\n' ∉ d.decimals 4 := newline_notMem_of_isDigit fun c => Decimal.isDigit_of_mem_decimals
  have hsign : '\n' ∉ d.signText := by
    unfold Decimal.signText
    split <;> simp
  simp only [Decimal.decimals] at hdecimals
  simp [Decimal.toFixed, hwhole, hdecimals, hsign]

theorem newline_notMem_body (main c : Currency) (r : DatedRate) : '\n' ∉ body main c r := by
  have hcode (c : Currency) : '\n' ∉ c.code.toList := by cases c <;> decide
  have hnote : '\n' ∉ note r := by
    unfold note
    split
    · exact newline_notMem_expiryText _
    · decide
  simp [body, hcode, hnote, newline_notMem_toFixed]

theorem lines_go_of_ne {c : Char} (hc : c ≠ '\n') (line rest : List Char) :
    Text.lines.go line (c :: rest) = Text.lines.go (c :: line) rest := by
  rw [Text.lines.go]
  exact hc

theorem lines_go_append {line : List Char} (hline : '\n' ∉ line) (start rest : List Char) :
    Text.lines.go start (line ++ '\n' :: rest) = Text.lines.go (line.reverse ++ start) ('\n' :: rest) := by
  induction line generalizing start with
  | nil => rfl
  | cons c line ih =>
    simp only [List.mem_cons, not_or] at hline
    rw [List.cons_append, lines_go_of_ne (Ne.symm hline.1), ih hline.2, List.reverse_cons, List.append_assoc]
    rfl

theorem lines_append {line : List Char} (hline : '\n' ∉ line) (hend : line.getLast? ≠ some '\r')
    (rest : List Char) : Text.lines (line ++ '\n' :: rest) = line :: Text.lines rest := by
  rw [Text.lines, lines_go_append hline, List.append_nil, Text.lines.go]
  · rw [List.reverse_reverse]
    rfl
  · intro shorter h
    rw [← List.head?_reverse, h] at hend
    exact hend rfl

theorem lines_text (main : Currency) (entries : List (Currency × DatedRate)) :
    Text.lines (text main entries) = entries.map fun p => body main p.1 p.2 := by
  induction entries with
  | nil => rfl
  | cons p rest ih =>
    have hend : (body main p.1 p.2).getLast? ≠ some '\r' := by
      simp [body, List.getLast?_append, List.getLast?_cons]
    have htext : text main (p :: rest) = body main p.1 p.2 ++ '\n' :: text main rest := by
      simp [text]
    rw [htext, lines_append (newline_notMem_body main p.1 p.2) hend, ih, List.map_cons]

theorem read_text (main : Currency) (entries : List (Currency × DatedRate)) :
    read main (text main entries) = entries.filterMap fun p => (printed? p.2).map (p.1, ·) := by
  rw [read, lines_text, List.filterMap_map]
  exact List.filterMap_congr fun p _ => readLine_body main p.1 p.2

theorem lookup_filterMap {κ α : Type} [DecidableEq κ] (keys : List κ) (f : κ → Option α) (key : κ) :
    (keys.filterMap fun k => (f k).map (k, ·)).lookup key = if key ∈ keys then f key else none := by
  induction keys with
  | nil => rfl
  | cons k keys ih =>
    by_cases hk : key = k
    · subst hk
      cases h : f key with
      | none => simp [h, ih]
      | some v => simp [h]
    · cases h : f k with
      | none => simp [h, ih, hk]
      | some v => simp [h, ih, hk, List.lookup_cons, beq_eq_false_iff_ne.mpr hk]

theorem rate?_text (b : RateBook) (c : Currency) :
    rate? (read b.main (text b.main b.entries)) c = (b.entry? c).bind printed? := by
  have hentries : b.entries.filterMap (fun p => (printed? p.2).map (p.1, ·)) =
      Currency.all.filterMap fun k => ((b.entry? k).bind printed?).map (k, ·) := by
    rw [RateBook.entries, List.filterMap_filterMap]
    refine List.filterMap_congr fun k _ => ?_
    cases b.entry? k <;> rfl
  have hmem : c ∈ Currency.all.reverse := by cases c <;> decide
  rw [rate?, read_text, hentries, ← List.filterMap_reverse, lookup_filterMap, if_pos hmem]

end RateFile

namespace RateBook

/-- Whether there is room for all the rates of a book in its file. -/
def Printable (b : RateBook) : Prop := ∀ c r, b.entry? c = some r → r.value.HasRoom 4

theorem mem_entries {b : RateBook} {c : Currency} {r : DatedRate} : (c, r) ∈ b.entries ↔ b.entry? c = some r := by
  have hall : c ∈ Currency.all := by cases c <;> decide
  simp [entries, List.mem_filterMap, Option.map_eq_some_iff, hall]

theorem printable_iff {b : RateBook} : b.Printable ↔ ∀ p ∈ b.entries, p.2.value.HasRoom 4 := by
  simp only [Printable, Prod.forall, mem_entries]

instance (b : RateBook) : Decidable b.Printable := decidable_of_iff _ printable_iff.symm

theorem writeFile_of_folder {b : RateBook} (h : b.file = .folder) (contents : String) :
    b.writeFile contents = (.error .file, { b with draft := true }) := by
  rw [writeFile, h]

theorem writeFile_of_ne_folder {b : RateBook} (h : b.file ≠ .folder) (contents : String) :
    b.writeFile contents = (.ok (), { b with file := .text contents, draft := false }) := by
  unfold writeFile
  split
  · exact absurd ‹_› h
  · rfl

/-- The contents of the file of a book. -/
def fileText (b : RateBook) : String := String.ofList (RateFile.text b.main b.entries)

theorem persist_of_printable {b : RateBook} (h : b.Printable) : b.persist = b.writeFile b.fileText := by
  rw [persist, writeEntries, RateFile.write?_eq, if_pos (printable_iff.mp h)]
  rfl

theorem persist_of_not_printable {b : RateBook} (h : ¬ b.Printable) : b.persist = (.error .outOfRange, b) := by
  rw [persist, writeEntries, RateFile.write?_eq, if_neg (mt printable_iff.mpr h)]

end RateBook
end Storefront

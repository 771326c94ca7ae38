import Storefront.Proofs.Rates.File
import Storefront.Proofs.Time.Expiry

/-! # Books written and read back

The file of a book gives all of its entries back. What is lost is small: a rate is cut to four decimals, and an expiry
to whole seconds. A book with a rate too large to be printed is not written at all.
-/
namespace Storefront
open Unicode

namespace DatedRate

/-- The rate as it stands in a file. -/
def cut (r : DatedRate) : ℚ := ⌊r.value.value * 10 ^ 4⌋ / 10 ^ 4

/-- Whether lines have room for a rate: it is not negative, and it expires in a year of four digits if ever. -/
structure Writable (r : DatedRate) : Prop where
  rate : 0 ≤ r.value.value
  year : ∀ t, r.expires = some t → 0 ≤ t.date.year ∧ t.date.year ≤ 9999
  second : ∀ t, r.expires = some t → t.nanos < Timestamp.perSecond

end DatedRate

namespace RateFile

/-- What stands in the parentheses at the end of a line for a rate. -/
def expiryColumn? (line : List Char) : Option (List Char) :=
  (readParts line).map fun _ => (Text.dropEndWhile isBlank ((line.dropWhile (· != '(')).drop 1)).dropLast

structure LineFor (main : Currency) (entry : Currency × DatedRate) (line : List Char) : Prop where
  rate : ∃ d, readLine main line = some (entry.1, d) ∧ d.value = entry.2.cut
  expiry : ∃ column, expiryColumn? line = some column ∧
    Timestamp.ofExpiry? column = entry.2.expires.map Timestamp.wholeSecond

theorem exists_printed? {r : DatedRate} (hr : r.Writable) : ∃ d, printed? r = some d ∧ d.value = r.cut := by
  have hnonneg := Decimal.isNegative_eq_false_iff.mpr hr.rate
  obtain ⟨d, hd, hvalue⟩ := Decimal.exists_decimal?_toFixed hnonneg (show 4 ≠ 0 by decide) (by decide)
  refine ⟨d, by rw [printed?, hnonneg, if_neg (by decide), hd], ?_⟩
  rw [hvalue, DatedRate.cut, ← Decimal.cut_eq_floor hnonneg, Int.cast_natCast]

theorem expiryColumn?_body (main c : Currency) {r : DatedRate} (hr : 0 ≤ r.value.value) :
    expiryColumn? (body main c r) = some (note r) := by
  have hnonneg := Decimal.isNegative_eq_false_iff.mpr hr
  have hcode (c : Currency) : ∀ a ∈ c.code.toList, (a != '(') = true :=
    List.all_eq_true.mp (by cases c <;> decide)
  have hrate : ∀ a ∈ r.value.toFixed 4, (a != '(') = true := by
    intro a ha
    rcases Decimal.mem_toFixed hnonneg (by decide) ha with ha | rfl
    · exact bne_iff_ne.mpr (Decimal.ne_of_isDigit ha (by decide))
    · decide
  have hstart : (body main c r).dropWhile (· != '(') = '(' :: (note r ++ [')']) := by
    rw [body, List.dropWhile_append_of_pos (hcode c), List.dropWhile_append_of_pos (List.all_eq_true.mp (by decide)),
      List.dropWhile_append_of_pos (hcode main), List.dropWhile_cons_of_pos (by decide),
      List.dropWhile_append_of_pos hrate, List.dropWhile_cons_of_pos (by decide),
      List.dropWhile_cons_of_neg (by decide)]
  rw [expiryColumn?, readParts_body main c hnonneg, Option.map_some, hstart, List.drop_one, List.tail_cons,
    dropEndWhile_note, List.dropLast_concat]

theorem ofExpiry?_note {r : DatedRate} (hr : r.Writable) :
    Timestamp.ofExpiry? (note r) = r.expires.map Timestamp.wholeSecond := by
  unfold note
  cases hexpires : r.expires with
  | none => decide
  | some t =>
    obtain ⟨hlow, hhigh⟩ := hr.year t hexpires
    exact Timestamp.ofExpiry?_expiryText hlow hhigh (hr.second t hexpires)

theorem lineFor_body (main c : Currency) {r : DatedRate} (hr : r.Writable) : LineFor main (c, r) (body main c r) := by
  obtain ⟨d, hd, hvalue⟩ := exists_printed? hr
  exact ⟨⟨d, by rw [readLine_body, hd, Option.map_some], hvalue⟩, note r, expiryColumn?_body main c hr.rate,
    ofExpiry?_note hr⟩

end RateFile

namespace RateBook

/-- Whether lines have room for all the rates of a book. -/
def Writable (b : RateBook) : Prop := ∀ c r, b.entry? c = some r → r.Writable

theorem writable_ofMain (main : Currency) (ttl : Int) (path : String) (file : RatePlace) :
    (ofMain main ttl path file).Writable := by
  intro c r hr
  rw [ofMain, entry?, Table.get?_insert] at hr
  split at hr
  · cases hr
    exact ⟨by simp, by simp, by simp⟩
  · cases hr

theorem Writable.insert {b : RateBook} {r : DatedRate} (hb : b.Writable) (hr : r.Writable) (c : Currency) :
    (b.insert c r).Writable := by
  intro c' r' hr'
  rw [RateBook.insert, entry?, Table.get?_insert] at hr'
  split at hr'
  · cases hr'
    exact hr
  · exact hb c' r' hr'

theorem Writable.printable_iff {b : RateBook} (hb : b.Writable) :
    b.Printable ↔ ∀ c r, b.entry? c = some r → r.value.value < 10 ^ 27 := by
  refine forall₃_congr fun c r hr => ?_
  rw [Decimal.hasRoom_iff r.value (k := 27) (by decide) (by decide) rfl, abs_of_nonneg (hb c r hr).rate]

/-- The contents give exactly the currencies of the book, each with its rate cut to four decimals, and the line of each
entry gives its expiry without the fraction of the second. -/
structure ReadsBack (b : RateBook) (contents : String) : Prop where
  rates : ∀ c, (RateFile.rate? (RateFile.read b.main contents.toList) c).map Decimal.value =
    (b.entry? c).map DatedRate.cut
  lines : List.Forall₂ (RateFile.LineFor b.main) b.entries (Text.lines contents.toList)

theorem Writable.readsBack {b : RateBook} (hb : b.Writable) : b.ReadsBack b.fileText := by
  constructor
  · intro c
    rw [fileText, String.toList_ofList, RateFile.rate?_text]
    cases hentry : b.entry? c with
    | none => rfl
    | some r =>
      obtain ⟨d, hd, hvalue⟩ := RateFile.exists_printed? (hb c r hentry)
      simp only [Option.bind_some, hd, Option.map_some, hvalue]
  · rw [fileText, String.toList_ofList, RateFile.lines_text, List.forall₂_map_right_iff, List.forall₂_same]
    intro p hp
    exact RateFile.lineFor_body b.main p.1 (hb p.1 p.2 (mem_entries.mp hp))

/-- A book is written if its rates are below the number with 28 digits, and what is written is read back. A rate that is
not makes the writing break off, and the file stays as it was. A folder in its place stays, too, beside a draft. -/
theorem persist_reads_back (b : RateBook) (hb : b.Writable) :
    ((∃ c r, b.entry? c = some r ∧ 10 ^ 27 ≤ r.value.value) → b.persist = (.error .outOfRange, b)) ∧
    ((∀ c r, b.entry? c = some r → r.value.value < 10 ^ 27) →
      (b.file = .folder → b.persist = (.error .file, { b with draft := true })) ∧
      (b.file ≠ .folder → ∃ contents,
        b.persist = (.ok (), { b with file := .text contents, draft := false }) ∧ b.ReadsBack contents)) := by
  refine ⟨fun ⟨c, r, hr, hlarge⟩ => persist_of_not_printable fun hprints => ?_, fun hsmall => ?_⟩
  · exact absurd (hb.printable_iff.mp hprints c r hr) (not_lt.mpr hlarge)
  rw [persist_of_printable (hb.printable_iff.mpr hsmall)]
  exact ⟨fun hfolder => writeFile_of_folder hfolder _,
    fun hfile => ⟨b.fileText, writeFile_of_ne_folder hfile _, hb.readsBack⟩⟩

def uneven : RateBook :=
  ((ofMain .usd 43200 "rates.txt" .missing).insert
    .eur ⟨⟨pow10 27 - 1, 0, by decide, Decimal.zero.scale_le⟩, none⟩).insert
    .gbp ⟨⟨1271899, 6, by decide, by decide⟩, some ⟨1767225600, 999999999⟩⟩

theorem uneven_reads_back :
    uneven.Writable ∧ (∀ c r, uneven.entry? c = some r → r.value.value < 10 ^ 27) ∧ uneven.file ≠ .folder ∧
      ∃ contents, uneven.persist = (.ok (), { uneven with file := .text contents, draft := false }) ∧
        uneven.ReadsBack contents := by
  have hwritable : uneven.Writable := by
    refine ((writable_ofMain _ _ _ _).insert ⟨?_, by simp, by simp⟩ _).insert ⟨?_, ?_, ?_⟩ _
    · norm_num [Decimal.value, pow10]
    · norm_num [Decimal.value]
    · rintro t ⟨⟩
      decide
    · rintro t ⟨⟩
      decide
  have hprintable : uneven.Printable := by
    rw [printable_iff]
    decide +kernel
  have hsmall := hwritable.printable_iff.mp hprintable
  exact ⟨hwritable, hsmall, by decide, ((uneven.persist_reads_back hwritable).2 hsmall).2 (by decide)⟩

/-- A rate of 28 digits keeps the book from being written. -/
theorem huge_is_not_written :
    let b := (ofMain .usd 43200 "rates.txt" .missing).insert .eur ⟨Decimal.huge, none⟩
    b.Writable ∧ b.persist = (.error .outOfRange, b) := by
  refine ⟨(writable_ofMain _ _ _ _).insert ⟨?_, by simp, by simp⟩ _, by decide +kernel⟩
  norm_num [Decimal.huge, Decimal.value, pow10]

end RateBook
end Storefront

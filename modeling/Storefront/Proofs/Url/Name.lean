import Storefront.Proofs.Attempt
import Storefront.Proofs.Text.Letter
import Storefront.Proofs.Url.Pieces

/-! # Names that are read as they are written

A name that has been read is in ASCII and in lower case, and its labels beyond ASCII are in Punycode. Such a name is read
as it is written.
-/
namespace Storefront.Url
open Unicode
variable {c d : Char} {s l : List Char}

section Characters

theorem mem_of_lastAtMost {α : Type} {key : α → Nat} {table : Array α} {n : Nat} {entry : α}
    (h : lastAtMost key table n = some entry) : entry ∈ table := by
  rw [lastAtMost] at h
  split at h
  · next hentry =>
    split at h
    · cases h
      exact Array.mem_of_getElem? hentry
    · cases h
  · cases h

theorem isAsciiUpper_shiftChar (hc : isAscii c = false) : isAsciiUpper (shiftChar lowerShifts c) = false := by
  have htable : ∀ s ∈ lowerShifts.toList, s.last < 128 ∨ 90 < s.first + s.distance := by decide +kernel
  have hlarge : 128 ≤ c.toNat := by simpa [isAscii] using hc
  rw [Bool.eq_false_iff, Ne, isAsciiUpper_iff, shiftChar]
  split
  · next s hs =>
    split
    · next hmoves =>
      have hs := htable s (Array.mem_toList_iff.mpr (mem_of_lastAtMost hs))
      simp only [Shift.moves, Bool.and_eq_true, decide_eq_true_eq] at hmoves
      have himage : 90 < s.apply c.toNat := by
        rw [Shift.apply]
        omega
      by_cases hvalid : (s.apply c.toNat).isValidChar
      · rw [Char.ofNat, dif_pos hvalid]
        change ¬(65 ≤ s.apply c.toNat ∧ s.apply c.toNat ≤ 90)
        omega
      · rw [Char.ofNat, dif_neg hvalid]
        decide
    · omega
  · omega

theorem nameChar_of_isAscii (h : isAscii c = true) : nameChar c = [asciiLower c] := by
  have hc : c.toNat < 128 := isAscii_iff.mp h
  have hwide : ¬(c.toNat = 0x3002 ∨ c.toNat = 0xff0e ∨ c.toNat = 0xff61) := by omega
  have hform : ¬(0xff01 ≤ c.toNat ∧ c.toNat ≤ 0xff5e) := by omega
  have hhidden : ¬(c.toNat = 0xad ∨ c.toNat = 0x200b ∨ c.toNat = 0x2060 ∨ c.toNat = 0xfeff) := by omega
  simp only [nameChar, if_neg hwide, if_neg hform, if_neg hhidden, toLower_of_isAscii h]

theorem asciiLower_of_not_upper (h : isAsciiUpper c = false) : asciiLower c = c := by
  rw [asciiLower, h]
  rfl

theorem nameChar_of_mem (h : d ∈ nameChar c) (hd : isAscii d = true) : nameChar d = [d] := by
  rw [nameChar_of_isAscii hd]
  have hlower (e : Char) (he : d = asciiLower e) : [asciiLower d] = [d] := by rw [he, asciiLower_idem]
  simp only [nameChar] at h
  split at h
  · obtain rfl := List.mem_singleton.mp h
    decide
  · split at h
    · exact hlower _ (List.mem_singleton.mp h)
    · split at h
      · cases h
      · rw [toLower] at h
        split at h
        · exact hlower c (List.mem_singleton.mp h)
        · next hc =>
          split at h
          · rcases List.mem_cons.mp h with rfl | h
            · decide
            · obtain rfl := List.mem_singleton.mp h
              exact absurd hd (by decide)
          · rw [List.mem_singleton.mp h, asciiLower_of_not_upper (isAsciiUpper_shiftChar (by simpa using hc))]

end Characters
section Code
variable {text : List Char} {n basic : Nat}

def codeDigits : List Char := "abcdefghijklmnopqrstuvwxyz0123456789".toList

theorem digit_mem : ∀ d < 36, Punycode.digit d ∈ codeDigits := by decide

theorem threshold_bounds (k bias : Nat) : 1 ≤ Punycode.threshold k bias ∧ Punycode.threshold k bias ≤ 26 := by
  unfold Punycode.threshold
  split
  · omega
  · split <;> omega

theorem writeNumber_digits (bias fuel q k : Nat) : ∀ c ∈ Punycode.writeNumber bias fuel q k, c ∈ codeDigits := by
  induction fuel generalizing q k with
  | zero => exact List.forall_mem_nil _
  | succ fuel ih =>
    obtain ⟨hpos, hle⟩ := threshold_bounds k bias
    rw [Punycode.writeNumber]
    split
    · next hq => exact List.forall_mem_singleton.mpr (digit_mem q (by omega))
    · have hlt := Nat.mod_lt (q - Punycode.threshold k bias) (show 0 < 36 - Punycode.threshold k bias by omega)
      exact List.forall_mem_cons.mpr ⟨digit_mem _ (by omega), ih _ _⟩

theorem writeNumber_ne_nil (bias fuel q k : Nat) : Punycode.writeNumber bias (fuel + 1) q k ≠ [] := by
  rw [Punycode.writeNumber]
  split <;> simp

/-- A pass writes digits behind what is written, and some if the character occurs. -/
theorem exists_pass (n basic : Nat) (s : Punycode.State) (text : List Char) :
    ∃ ds, (Punycode.pass n basic s text).out = s.out ++ ds ∧ (∀ c ∈ ds, c ∈ codeDigits) ∧
      ((∃ c ∈ text, c.toNat = n) → ds ≠ []) := by
  induction text generalizing s with
  | nil => exact ⟨[], by simp [Punycode.pass], List.forall_mem_nil _, by simp⟩
  | cons c text ih =>
    rw [Punycode.pass]
    split
    · next hc =>
      obtain ⟨ds, hout, hds, hne⟩ := ih { s with delta := s.delta + 1 }
      refine ⟨ds, hout, hds, ?_⟩
      rintro ⟨d, hd, hn⟩
      rcases List.mem_cons.mp hd with rfl | hd
      · omega
      · exact hne ⟨d, hd, hn⟩
    · split
      · obtain ⟨ds, hout, hds, -⟩ := ih _
        refine ⟨_, hout.trans (List.append_assoc ..), ?_, ?_⟩
        · exact List.forall_mem_append.mpr ⟨writeNumber_digits _ _ _ _, hds⟩
        · exact fun _ h => writeNumber_ne_nil _ _ _ _ (List.append_eq_nil_iff.mp h).1
      · next hc =>
        obtain ⟨ds, hout, hds, hne⟩ := ih s
        refine ⟨ds, hout, hds, ?_⟩
        rintro ⟨d, hd, hn⟩
        rcases List.mem_cons.mp hd with rfl | hd
        · exact absurd hn hc
        · exact hne ⟨d, hd, hn⟩

theorem exists_writeFrom (text : List Char) (basic fuel : Nat) (s : Punycode.State) :
    ∃ ds, (Punycode.writeFrom text basic fuel s).out = s.out ++ ds ∧ (∀ c ∈ ds, c ∈ codeDigits) ∧
      (0 < fuel → (∃ c ∈ text, s.next ≤ c.toNat) → ds ≠ []) := by
  induction fuel generalizing s with
  | zero => exact ⟨[], by simp [Punycode.writeFrom], List.forall_mem_nil _, by simp⟩
  | succ fuel ih =>
    rw [Punycode.writeFrom]
    split
    · next hnone =>
      rw [List.min?_eq_none_iff, List.filter_eq_nil_iff] at hnone
      refine ⟨[], by simp, List.forall_mem_nil _, ?_⟩
      rintro - ⟨c, hc, hle⟩
      exact absurd (decide_eq_true hle) (hnone c.toNat (List.mem_map_of_mem hc))
    · next m hm =>
      obtain ⟨c, hc, rfl⟩ := List.mem_map.mp (List.mem_filter.mp (List.min?_mem hm)).1
      obtain ⟨ds, hout, hds, hne⟩ := exists_pass c.toNat basic
        { s with delta := s.delta + (c.toNat - s.next) * (s.done + 1) } text
      obtain ⟨ds', hout', hds', -⟩ := ih (Punycode.pass c.toNat basic
        { s with delta := s.delta + (c.toNat - s.next) * (s.done + 1) } text)
      -- `m` is the number of a character of the text, so the pass over it has written digits
      refine ⟨ds ++ ds', ?_, List.forall_mem_append.mpr ⟨hds, hds'⟩, ?_⟩
      · rw [hout', hout, List.append_assoc]
      · exact fun _ _ h => hne ⟨c, hc, rfl⟩ (List.append_eq_nil_iff.mp h).1

/-- The Punycode of a label is its ASCII characters, a hyphen, and digits at the end. -/
theorem exists_encode (h : text.all isAscii = false) :
    ∃ start ds, Punycode.encode text = start ++ ds ∧ (∀ c ∈ start, (c ∈ text ∧ isAscii c = true) ∨ c = '-') ∧
      (∀ c ∈ ds, c ∈ codeDigits) ∧ ds ≠ [] := by
  obtain ⟨c, hc, hlarge⟩ := List.all_eq_false.mp h
  obtain ⟨ds, hout, hds, hne⟩ := exists_writeFrom text (text.filter (·.toNat < 128)).length text.length
    ⟨128, 0, 72, (text.filter (·.toNat < 128)).length,
      if (text.filter (·.toNat < 128)).isEmpty then [] else text.filter (·.toNat < 128) ++ ['-']⟩
  refine ⟨_, ds, hout, ?_, hds, hne (List.length_pos_of_mem hc) ⟨c, hc, ?_⟩⟩
  · intro c hc
    simp only at hc
    split at hc
    · cases hc
    · rcases List.mem_append.mp hc with hc | hc
      · obtain ⟨hc, hsmall⟩ := List.mem_filter.mp hc
        exact .inl ⟨hc, hsmall⟩
      · exact .inr (List.mem_singleton.mp hc)
  · simpa [isAscii] using hlarge

end Code

section Names
variable {name : List Char}

theorem mem_label (h : label? s = some l) : ∀ c ∈ l, (c ∈ s ∧ isAscii c = true) ∨ c ∈ '-' :: codeDigits := by
  rw [label?] at h
  split at h
  · next hascii =>
    split at h
    · cases h
    · cases h
      exact fun c hc => .inl ⟨hc, List.all_eq_true.mp hascii c hc⟩
  · next hascii =>
    obtain ⟨start, ds, hencode, hstart, hds, -⟩ := exists_encode (by simpa using hascii)
    cases h
    rw [hencode]
    intro c hc
    simp only [List.mem_append] at hc
    rcases hc with hc | hc | hc
    · have hmark : ∀ c ∈ ['x', 'n', '-', '-'], c ∈ '-' :: codeDigits := List.forall_iff_forall_mem.mp (by decide)
      exact .inr (hmark c hc)
    · refine (hstart c hc).imp_right ?_
      rintro rfl
      exact List.mem_cons_self
    · exact .inr (List.mem_cons_of_mem _ (hds c hc))

theorem label?_label (h : label? s = some l) : label? l = some l := by
  have hmem := mem_label h
  rw [label?] at h
  split at h
  · next hascii =>
    split at h
    · cases h
    · next hplain =>
      cases h
      rw [label?, if_pos hascii, if_neg hplain]
  · next hascii =>
    obtain ⟨start, ds, hencode, -, hds, hne⟩ := exists_encode (by simpa using hascii)
    have hcode : ∀ c ∈ '-' :: codeDigits, isAscii c = true := List.forall_iff_forall_mem.mp (by decide)
    have hall : l.all isAscii = true := by
      refine List.all_eq_true.mpr fun c hc => ?_
      rcases hmem c hc with ⟨-, hc⟩ | hc
      · exact hc
      · exact hcode c hc
    cases h
    rw [hencode] at hall ⊢
    rw [label?, if_pos hall, if_neg]
    rintro ⟨-, hlength | hlast⟩
    · -- the digits stand behind the mark
      have := List.length_pos_iff.mpr hne
      simp only [List.length_append, List.length_cons, List.length_nil] at hlength
      omega
    · obtain ⟨ds, c, rfl⟩ := List.eq_nil_or_concat ds |>.resolve_left hne
      rw [List.concat_eq_append, ← List.append_assoc, ← List.append_assoc, List.getLast?_concat, Option.some_inj] at hlast
      exact absurd (hds c (by simp)) (hlast ▸ by decide)

/-- Names that are written as they are read. -/
structure SettledName (s : List Char) : Prop where
  chars : ∀ c ∈ s, isAscii c = true ∧ nameChar c = [c] ∧ isForbidden c = false
  labels : ∀ l ∈ splitOn '.' s, label? l = some l

theorem flatten_splitOn (c : Char) (s : List Char) : ((splitOn c s).intersperse [c]).flatten = s := by
  rw [splitOn_eq]
  exact List.intercalate_splitOn c

theorem SettledName.name? (h : SettledName s) : name? s = some s := by
  have hchars : s.flatMap nameChar = s := by
    rw [List.flatMap_def, List.map_congr_left fun c hc => (h.chars c hc).2.1, ← List.flatMap_def, List.flatMap_singleton']
  have hallowed : s.any isForbidden = false := List.any_eq_false.mpr fun c hc => by simp [(h.chars c hc).2.2]
  simp [Url.name?, hchars, hallowed, mapM_eq_some_self h.labels, flatten_splitOn]

theorem settledName_of_name? (h : name? s = some name) : SettledName name := by
  simp only [Url.name?] at h
  split at h
  · cases h
  · next hallowed =>
    obtain ⟨labels, hlabels, rfl⟩ := Option.map_eq_some_iff.mp h
    have hcode : ∀ c ∈ '-' :: codeDigits, isAscii c = true ∧ nameChar c = [c] ∧ isForbidden c = false ∧ c ≠ '.' :=
      List.forall_iff_forall_mem.mp (by decide)
    have hchars : ∀ l ∈ labels, ∀ c ∈ l, isAscii c = true ∧ nameChar c = [c] ∧ isForbidden c = false ∧ c ≠ '.' := by
      intro l hl c hc
      obtain ⟨piece, hpiece, hlabel⟩ := exists_of_mem_mapM hlabels hl
      rcases mem_label hlabel c hc with ⟨hc, hascii⟩ | hc
      · obtain ⟨hmem, hdot⟩ := mem_of_mem_splitOn hpiece hc
        obtain ⟨e, -, he⟩ := List.mem_flatMap.mp hmem
        have hforbidden := List.any_eq_false.mp (by simpa using hallowed) c hmem
        exact ⟨hascii, nameChar_of_mem he hascii, by simpa using hforbidden, hdot⟩
      · exact hcode c hc
    have hne : labels ≠ [] := by
      rintro rfl
      exact splitOn_ne_nil _ _ (List.forall₂_nil_right_iff.mp (mapM_eq_some_iff.mp hlabels))
    have hsplit := splitOn_intersperse (fun l hl hdot => (hchars l hl '.' hdot).2.2.2 rfl) hne
    refine ⟨?_, ?_⟩
    · intro c hc
      rcases mem_intersperse hc with rfl | ⟨l, hl, hc⟩
      · decide
      · obtain ⟨hascii, hsame, hforbidden, -⟩ := hchars l hl c hc
        exact ⟨hascii, hsame, hforbidden⟩
    · rw [hsplit]
      intro l hl
      obtain ⟨piece, -, hlabel⟩ := exists_of_mem_mapM hlabels hl
      exact label?_label hlabel

theorem ofUtf8?_utf8Bytes (s : List Char) : ofUtf8? (Text.utf8Bytes s) = some s := by
  have hbytes : ByteArray.mk (Text.utf8Bytes s).toArray = s.utf8Encode := by
    rw [List.utf8Encode, Text.utf8Bytes]
    apply ByteArray.ext
    rw [← Array.toList_inj, List.toList_data_toByteArray]
  have hvalid : s.utf8Encode.IsValidUTF8 := ByteArray.isValidUTF8_utf8Encode
  have htext : String.fromUTF8 s.utf8Encode hvalid = String.ofList s := by
    apply String.toByteArray_inj.mp
    rw [String.toByteArray_ofList]
    rfl
  rw [ofUtf8?, hbytes, String.fromUTF8?, dif_pos hvalid, htext, Option.map_some, String.toList_ofList]

theorem decodeBytes_of_plain (h : '%' ∉ s) : decodeBytes s = Text.utf8Bytes s := by
  induction s with
  | nil => rfl
  | cons c s ih =>
    rw [List.mem_cons, not_or] at h
    have hbytes : Text.utf8Bytes (c :: s) = Text.utf8Bytes [c] ++ Text.utf8Bytes s := by simp [Text.utf8Bytes]
    rw [hbytes, ← ih h.2, decodeBytes]
    exact fun a b rest hc => absurd hc.symm h.1

theorem SettledName.decode? (h : SettledName s) : decode? s = some s := by
  have hpercent : '%' ∉ s := fun hmem => absurd (h.chars _ hmem).2.2 (by decide)
  rw [Url.decode?, decodeBytes_of_plain hpercent, ofUtf8?_utf8Bytes]

end Names
end Storefront.Url

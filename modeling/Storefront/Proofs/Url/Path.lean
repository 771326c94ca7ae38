import Mathlib.Data.List.Basic
import Storefront.Proofs.Url.Pieces
import Storefront.Url.Path

/-! # Paths that are read as they are written

What is encoded once holds none of the characters that are to be encoded, so that it is left alone from then on. A path
segment that stands for the place itself or the one above does so whether it is encoded or not.

A path that has been read has no dots left for the place itself or the one above, and no characters that are to be
encoded. Such a path is read as it is written, and a path is settled if its two parts at a slash are.
-/
namespace Storefront.Url

section Encoding
variable {set : Char → Bool} {c : Char} {s t : List Char} {b : UInt8}

def escapeChars : List Char := "%0123456789ABCDEF".toList

theorem upperHexDigit_mem : ∀ n < 16, upperHexDigit n ∈ escapeChars.tail := by decide

theorem exists_encodeByte (b : UInt8) : ∃ x ∈ escapeChars.tail, ∃ y ∈ escapeChars.tail, encodeByte b = ['%', x, y] := by
  have hlt : b.toNat < 256 := UInt8.toNat_lt_size b
  exact ⟨_, upperHexDigit_mem (b.toNat / 16) (by omega), _, upperHexDigit_mem (b.toNat % 16) (by omega), rfl⟩

theorem mem_escapeChars (h : c ∈ encodeByte b) : c ∈ escapeChars := by
  obtain ⟨x, hx, y, hy, hb⟩ := exists_encodeByte b
  rw [hb] at h
  simp only [List.mem_cons, List.not_mem_nil, or_false] at h
  rcases h with rfl | rfl | rfl
  · decide
  · exact List.mem_of_mem_tail hx
  · exact List.mem_of_mem_tail hy

theorem encode_cons_of_neg (h : set c = false) (s : List Char) : encode set (c :: s) = c :: encode set s := by
  simp [encode, h]

theorem encode_cons_of_pos (h : set c = true) (s : List Char) :
    encode set (c :: s) = (Text.utf8Bytes [c]).flatMap encodeByte ++ encode set s := by
  simp [encode, h]

theorem encode_eq_self (h : ∀ c ∈ s, set c = false) : encode set s = s := by
  induction s with
  | nil => rfl
  | cons c s ih =>
    obtain ⟨hc, hs⟩ := List.forall_mem_cons.mp h
    rw [encode_cons_of_neg hc, ih hs]

theorem mem_encode (h : c ∈ encode set s) : (c ∈ s ∧ set c = false) ∨ c ∈ escapeChars := by
  obtain ⟨d, hd, hc⟩ := List.mem_flatMap.mp h
  split at hc
  · obtain ⟨b, _, hb⟩ := List.mem_flatMap.mp hc
    exact .inr (mem_escapeChars hb)
  · next hset =>
    obtain rfl := List.mem_singleton.mp hc
    exact .inl ⟨hd, by simpa using hset⟩

theorem not_set_of_mem_encode (hset : escapeChars.any set = false) (h : c ∈ encode set s) : set c = false := by
  rcases mem_encode h with ⟨_, hc⟩ | hc
  · exact hc
  · exact Bool.eq_false_iff.mpr (List.any_eq_false.mp hset c hc)

theorem exists_utf8Bytes (c : Char) : ∃ b bs, Text.utf8Bytes [c] = b :: bs :=
  List.exists_cons_of_ne_nil (by simp [Text.utf8Bytes])

theorem eq_of_encode (h : '%' ∉ encode set s) : encode set s = s := by
  refine encode_eq_self fun c hc => ?_
  cases hset : set c with
  | false => rfl
  | true =>
    obtain ⟨b, bs, hbytes⟩ := exists_utf8Bytes c
    exact absurd (List.mem_flatMap.mpr ⟨c, hc, by simp [hset, hbytes, encodeByte]⟩) h

theorem large_of_not_inControls (hcontrols : inControls c = false) (hspace : c ≠ ' ') : 0x20 < c.toNat := by
  have hne : c.toNat ≠ 0x20 := fun h => hspace (Char.toNat_inj.mp h)
  simp only [inControls, Bool.or_eq_false_iff, decide_eq_false_iff_not] at hcontrols
  omega

theorem large_of_not_inFragment (h : inFragment c = false) : 0x20 < c.toNat := by
  simp only [inFragment, Bool.or_eq_false_iff] at h
  exact large_of_not_inControls h.1 (by rintro rfl; exact absurd h.2 (by decide))

theorem large_of_not_inPath (h : inPath c = false) : 0x20 < c.toNat := by
  simp only [inPath, Bool.or_eq_false_iff] at h
  exact large_of_not_inFragment h.1.1.1.1

theorem large_of_not_inSpecialQuery (h : inSpecialQuery c = false) : 0x20 < c.toNat := by
  simp only [inSpecialQuery, inQuery, Bool.or_eq_false_iff] at h
  exact large_of_not_inControls h.1.1 (by rintro rfl; exact absurd h.1.2 (by decide))

section Dots
variable {x y : Char}

/-- A character within ASCII is its own byte, and the bytes of other characters are large. -/
theorem toNat_of_mem_utf8Bytes (h : b ∈ Text.utf8Bytes [c]) : b.toNat = c.toNat ∨ 128 ≤ b.toNat := by
  have hbytes : b ∈ String.utf8EncodeChar c := by simpa [Text.utf8Bytes] using h
  have hsize : c.toNat < 0x110000 := by
    have := c.valid
    simp only [UInt32.isValidChar, Nat.isValidChar, Char.toNat] at this ⊢
    omega
  unfold String.utf8EncodeChar at hbytes
  have hvalue : c.val.toNat = c.toNat := rfl
  simp only [hvalue] at hbytes
  split at hbytes
  · obtain rfl := List.mem_singleton.mp hbytes
    exact .inl (by simp; omega)
  · refine .inr ?_
    split at hbytes
    · simp only [List.mem_cons, List.not_mem_nil, or_false] at hbytes
      rcases hbytes with rfl | rfl <;> (simp; omega)
    · split at hbytes
      · simp only [List.mem_cons, List.not_mem_nil, or_false] at hbytes
        rcases hbytes with rfl | rfl | rfl <;> (simp; omega)
      · simp only [List.mem_cons, List.not_mem_nil, or_false] at hbytes
        rcases hbytes with rfl | rfl | rfl | rfl <;> (simp; omega)

theorem dots_cons (h : c ≠ '%') (s : List Char) : dots (c :: s) = c :: dots s := by
  rw [dots]
  simp [h]

theorem dots_escape (hx : x ∈ escapeChars.tail) (hy : y ∈ escapeChars.tail) (h : x = '2' → y ≠ 'E') (s : List Char) :
    dots ('%' :: x :: y :: s) = '%' :: x :: y :: dots s := by
  have hne : ∀ z ∈ escapeChars.tail, z ≠ '%' ∧ z ≠ 'e' := List.forall_iff_forall_mem.mp (by decide)
  by_cases htwo : x = '2'
  · subst htwo
    simp [dots, h rfl, (hne y hy).2]
  · rw [dots, dots_cons (hne x hx).1, dots_cons (hne y hy).1]
    simp [htwo]

theorem dots_encodeByte (h : b.toNat ≠ 0x2e) (s : List Char) : dots (encodeByte b ++ s) = encodeByte b ++ dots s := by
  have hlt : b.toNat < 256 := UInt8.toNat_lt_size b
  have htwo : ∀ n < 16, upperHexDigit n = '2' → n = 2 := by decide
  have hfourteen : ∀ n < 16, upperHexDigit n = 'E' → n = 14 := by decide
  refine dots_escape (upperHexDigit_mem _ (by omega)) (upperHexDigit_mem _ (by omega)) ?_ s
  intro hx hy
  have := htwo _ (by omega) hx
  have := hfourteen _ (by omega) hy
  omega

theorem dots_encodeBytes {bs : List UInt8} (h : ∀ b ∈ bs, b.toNat ≠ 0x2e) (s : List Char) :
    dots (bs.flatMap encodeByte ++ s) = bs.flatMap encodeByte ++ dots s := by
  induction bs with
  | nil => rfl
  | cons b bs ih =>
    obtain ⟨hb, hbs⟩ := List.forall_mem_cons.mp h
    rw [List.flatMap_cons, List.append_assoc, dots_encodeByte hb, ih hbs, List.append_assoc]

theorem ne_dot_of_inPath (h : inPath c = true) : ∀ b ∈ Text.utf8Bytes [c], b.toNat ≠ 0x2e := by
  intro b hb hdot
  rcases toNat_of_mem_utf8Bytes hb with hc | hlarge
  · have hc : c = '.' := Char.toNat_inj.mp (hc.symm.trans hdot)
    rw [hc] at h
    exact absurd h (by decide)
  · omega

theorem dots_percent (h : ∀ e t, s ≠ '2' :: e :: t) : dots ('%' :: s) = '%' :: dots s := by
  rw [dots]
  intro e t _ hs
  exact h e t hs

theorem encode_ne (h : ∀ e t, s ≠ '2' :: e :: t) : ∀ e t, encode inPath s ≠ '2' :: e :: t := by
  intro e t hencode
  cases s with
  | nil => cases hencode
  | cons c s =>
    cases hc : inPath c with
    | true =>
      obtain ⟨b, bs, hbytes⟩ := exists_utf8Bytes c
      simp [encode_cons_of_pos hc, hbytes, encodeByte] at hencode
    | false =>
      rw [encode_cons_of_neg hc] at hencode
      obtain ⟨rfl, hs⟩ := List.cons.inj hencode
      cases s with
      | nil => cases hs
      | cons e' s => exact h e' s rfl

/-- Dots are resolved before or after the encoding. -/
theorem dots_encode (s : List Char) : dots (encode inPath s) = encode inPath (dots s) := by
  have hpercent : inPath '%' = false := by decide
  have htwo : inPath '2' = false := by decide
  -- the cases of `dots`: an encoded dot, another character behind `%2`, and everything else
  induction s using dots.induct with
  | case1 => rfl
  | case2 e rest he ih =>
    have hplain : inPath e = false := by rcases he with rfl | rfl <;> decide
    have hdot : inPath '.' = false := by decide
    simp [encode_cons_of_neg, hpercent, htwo, hplain, hdot, dots, he, ih]
  | case3 e rest he ih =>
    cases hset : inPath e with
    | false => simp [encode_cons_of_neg, hpercent, htwo, hset, dots, he, ih]
    | true =>
      obtain ⟨b, bs, hbytes⟩ := exists_utf8Bytes e
      obtain ⟨x, hx, y, hy, hb⟩ := exists_encodeByte b
      have hne : ∀ z ∈ escapeChars.tail, z ≠ '%' := List.forall_iff_forall_mem.mp (by decide)
      have hbs := (List.forall_mem_cons.mp (hbytes ▸ ne_dot_of_inPath hset)).2
      have hrest : dots (bs.flatMap encodeByte ++ encode inPath rest) =
          bs.flatMap encodeByte ++ encode inPath (dots rest) := by rw [dots_encodeBytes hbs, ih]
      simp [encode_cons_of_neg, hpercent, htwo, encode_cons_of_pos, hset, hbytes, hb, dots, he,
        dots_cons (hne x hx), dots_cons (hne y hy), hrest]
  | case4 c rest hc ih =>
    cases hset : inPath c with
    | true =>
      have hne : c ≠ '%' := by
        rintro rfl
        cases hpercent.symm.trans hset
      rw [dots_cons hne, encode_cons_of_pos hset, encode_cons_of_pos hset, dots_encodeBytes (ne_dot_of_inPath hset), ih]
    | false =>
      by_cases hescape : c = '%'
      · subst hescape
        have hrest : ∀ e t, rest ≠ '2' :: e :: t := fun e t => hc e t rfl
        rw [encode_cons_of_neg hset, dots_percent (encode_ne hrest), dots_percent hrest, encode_cons_of_neg hset, ih]
      · rw [encode_cons_of_neg hset, dots_cons hescape, dots_cons hescape, encode_cons_of_neg hset, ih]

theorem dots_eq_of_encode (ht : '%' ∉ t) (h : dots (encode inPath s) = t) : dots s = t := by
  rw [dots_encode] at h
  rw [← h]
  exact (eq_of_encode (h ▸ ht)).symm

end Dots

end Encoding

variable {special : Bool} {c : Char} {a b s : List Char} {above pieces : List (List Char)}

section Segments

def divides (special : Bool) (c : Char) : Bool := c == '/' || (special && c == '\\')

theorem segments_eq_splitOnP (special : Bool) (s : List Char) : segments special s = s.splitOnP (divides special) := by
  induction s with
  | nil => rfl
  | cons c s ih =>
    rw [segments, List.splitOnP_cons_eq_if_modifyHead, ih]
    by_cases h : c = '/' ∨ (special = true ∧ c = '\\')
    · simp [h, divides]
    · obtain ⟨first, others, hs⟩ := List.exists_cons_of_ne_nil (List.splitOnP_ne_nil (divides special) s)
      simp [h, divides, hs]

theorem segments_ne_nil (special : Bool) (s : List Char) : segments special s ≠ [] := by
  rw [segments_eq_splitOnP]
  exact List.splitOnP_ne_nil _ s

theorem segments_append_slash (special : Bool) (a b : List Char) :
    segments special (a ++ '/' :: b) = segments special a ++ segments special b := by
  simp only [segments_eq_splitOnP]
  exact List.splitOnP_append_cons a b rfl

def Unslashed (special : Bool) (s : List Char) : Prop := ∀ c ∈ s, divides special c = false

theorem segments_of_unslashed (h : Unslashed special s) : segments special s = [s] := by
  rw [segments_eq_splitOnP]
  exact List.splitOnP_eq_singleton h

theorem unslashed_of_mem_segments {piece : List Char} (h : piece ∈ segments special s) : Unslashed special piece := by
  rw [segments_eq_splitOnP] at h
  exact fun c hc => (mem_of_mem_splitOnP h hc).2

theorem segments_join {first : List Char} {others : List (List Char)} (hfirst : Unslashed special first)
    (hothers : ∀ piece ∈ others, Unslashed special piece) :
    segments special (first ++ others.flatMap ('/' :: ·)) = first :: others := by
  induction others generalizing first with
  | nil => rw [List.flatMap_nil, List.append_nil, segments_of_unslashed hfirst]
  | cons next others ih =>
    obtain ⟨hnext, hothers⟩ := List.forall_mem_cons.mp hothers
    rw [List.flatMap_cons, List.cons_append, segments_append_slash, segments_of_unslashed hfirst, ih hnext hothers,
      List.singleton_append]

/-- A text is its segments, put together by slashes. -/
theorem flatMap_segments (h : ¬(special = true ∧ '\\' ∈ s)) : (segments special s).flatMap ('/' :: ·) = '/' :: s := by
  induction s with
  | nil => rfl
  | cons c s ih =>
    have hs : (segments special s).flatMap ('/' :: ·) = '/' :: s := ih fun ⟨hspecial, hmem⟩ =>
      h ⟨hspecial, List.mem_cons_of_mem c hmem⟩
    rw [segments_eq_splitOnP, List.splitOnP_cons_eq_if_modifyHead, ← segments_eq_splitOnP]
    split
    · next hc =>
      have hslash : c = '/' := by
        simp only [divides, Bool.or_eq_true, Bool.and_eq_true, beq_iff_eq] at hc
        exact hc.resolve_right fun ⟨hspecial, hback⟩ => h ⟨hspecial, hback ▸ List.mem_cons_self⟩
      rw [List.flatMap_cons, hs, hslash]
      rfl
    · obtain ⟨first, others, hfirst⟩ := List.exists_cons_of_ne_nil (segments_ne_nil special s)
      rw [hfirst] at hs ⊢
      simpa using hs

end Segments

section Settled

/-- A segment that is written as it is read. -/
structure SettledSegment (s : List Char) : Prop where
  plain : ∀ c ∈ s, inPath c = false
  here : dots s ≠ ['.']
  above : dots s ≠ ['.', '.']

/-- A path that is read as it is written, told by what stands behind its first slash. -/
structure SettledPath (special : Bool) (s : List Char) : Prop where
  slashes : ¬(special = true ∧ '\\' ∈ s)
  pieces : ∀ piece ∈ segments special s, SettledSegment piece

instance (s : List Char) : Decidable (SettledSegment s) :=
  decidable_of_iff (s.any inPath = false ∧ dots s ≠ ['.'] ∧ dots s ≠ ['.', '.'])
    ⟨fun ⟨plain, here, above⟩ => ⟨by simpa using plain, here, above⟩,
      fun ⟨plain, here, above⟩ => ⟨by simpa using plain, here, above⟩⟩

instance (special : Bool) (s : List Char) : Decidable (SettledPath special s) :=
  decidable_of_iff (¬(special = true ∧ '\\' ∈ s) ∧ ∀ piece ∈ segments special s, SettledSegment piece)
    ⟨fun ⟨slashes, pieces⟩ => ⟨slashes, pieces⟩, fun ⟨slashes, pieces⟩ => ⟨slashes, pieces⟩⟩

theorem settledSegment_nil : SettledSegment [] := ⟨List.forall_mem_nil _, by decide, by decide⟩

theorem settledSegment_encode (hhere : dots s ≠ ['.']) (habove : dots s ≠ ['.', '.']) :
    SettledSegment (encode inPath s) where
  plain _ hc := not_set_of_mem_encode (by decide) hc
  here h := hhere (dots_eq_of_encode (by decide) h)
  above h := habove (dots_eq_of_encode (by decide) h)

theorem settledPath_append_iff : SettledPath special (a ++ '/' :: b) ↔ SettledPath special a ∧ SettledPath special b := by
  constructor
  · rintro ⟨hslashes, hpieces⟩
    rw [segments_append_slash, List.forall_mem_append] at hpieces
    refine ⟨⟨fun h => hslashes ⟨h.1, ?_⟩, hpieces.1⟩, ⟨fun h => hslashes ⟨h.1, ?_⟩, hpieces.2⟩⟩
    · simp [h.2]
    · simp [h.2]
  · rintro ⟨ha, hb⟩
    refine ⟨?_, ?_⟩
    · rintro ⟨hspecial, hmem⟩
      simp only [List.mem_append, List.mem_cons] at hmem
      rcases hmem with h | h | h
      · exact ha.slashes ⟨hspecial, h⟩
      · cases h
      · exact hb.slashes ⟨hspecial, h⟩
    · rw [segments_append_slash, List.forall_mem_append]
      exact ⟨ha.pieces, hb.pieces⟩

theorem SettledPath.plain (h : SettledPath special s) : ∀ c ∈ s, inPath c = false := by
  intro c hc
  have hmem : c ∈ (segments special s).flatMap ('/' :: ·) := by
    rw [flatMap_segments h.slashes]
    exact List.mem_cons_of_mem _ hc
  obtain ⟨piece, hpiece, hc⟩ := List.mem_flatMap.mp hmem
  rcases List.mem_cons.mp hc with rfl | hc
  · decide
  · exact (h.pieces piece hpiece).plain c hc

theorem walk_cons (above : List (List Char)) (s : List Char) (pieces : List (List Char)) :
    walk false above (s :: pieces) =
      if dots s = ['.', '.'] then if pieces = [] then ([] :: above.tail).reverse else walk false above.tail pieces
      else if dots s = ['.'] then if pieces = [] then ([] :: above).reverse else walk false above pieces
      else walk false (encode inPath s :: above) pieces := by
  have hshorten : shorten false above = above.tail := by
    rcases above with - | ⟨s, - | ⟨s', above⟩⟩ <;> simp [shorten]
  cases s with
  | nil => simp [walk, hshorten, encode]
  | cons c s => simp [walk, hshorten]

theorem walk_of_settled (h : ∀ piece ∈ pieces, SettledSegment piece) (above : List (List Char)) :
    walk false above pieces = above.reverse ++ pieces := by
  induction pieces generalizing above with
  | nil => simp [walk]
  | cons s pieces ih =>
    obtain ⟨hs, hpieces⟩ := List.forall_mem_cons.mp h
    rw [walk_cons, if_neg hs.above, if_neg hs.here, ih hpieces, encode_eq_self hs.plain, List.reverse_cons,
      List.append_assoc, List.singleton_append]

theorem readPath_of_settled (h : SettledPath special s) : readPath special false s = '/' :: s := by
  rw [readPath, walk_of_settled h.pieces, List.reverse_nil, List.nil_append, flatMap_segments h.slashes]
  rfl

theorem Unslashed.encode (h : Unslashed special s) : Unslashed special (encode inPath s) := by
  intro c hc
  rcases mem_encode hc with ⟨hc, _⟩ | hc
  · exact h c hc
  · have hescape : ∀ c ∈ escapeChars, divides true c = false := List.forall_iff_forall_mem.mp (by decide)
    have hdivides := hescape c hc
    cases special <;> simp_all [divides]

/-- What the walk has taken up is settled, and so is what it takes up. -/
theorem settled_of_mem_walk (hpieces : ∀ piece ∈ pieces, Unslashed special piece) (above : List (List Char))
    (habove : ∀ piece ∈ above, Unslashed special piece ∧ SettledSegment piece) :
    ∀ piece ∈ walk false above pieces, Unslashed special piece ∧ SettledSegment piece := by
  have hends {l : List (List Char)} (hl : ∀ piece ∈ l, Unslashed special piece ∧ SettledSegment piece) :
      ∀ piece ∈ ([] :: l).reverse, Unslashed special piece ∧ SettledSegment piece := by
    -- behind a last segment of dots the path ends in a slash
    intro piece h
    rcases List.mem_cons.mp (List.mem_reverse.mp h) with rfl | h
    · exact ⟨List.forall_mem_nil _, settledSegment_nil⟩
    · exact hl piece h
  induction pieces generalizing above with
  | nil => simpa [walk] using habove
  | cons s pieces ih =>
    obtain ⟨hs, hpieces⟩ := List.forall_mem_cons.mp hpieces
    have htail : ∀ piece ∈ above.tail, Unslashed special piece ∧ SettledSegment piece :=
      fun piece h => habove piece (List.mem_of_mem_tail h)
    rw [walk_cons]
    split
    · split
      · exact hends htail
      · exact ih hpieces _ htail
    · next hup =>
      split
      · split
        · exact hends habove
        · exact ih hpieces _ habove
      · next hhere =>
        exact ih hpieces _ (List.forall_mem_cons.mpr ⟨⟨hs.encode, settledSegment_encode hhere hup⟩, habove⟩)

theorem walk_ne_nil (above : List (List Char)) (h : pieces ≠ []) : walk false above pieces ≠ [] := by
  induction pieces generalizing above with
  | nil => exact absurd rfl h
  | cons s pieces ih =>
    by_cases hlast : pieces = []
    · subst hlast
      rw [walk_cons]
      split
      · simp
      · split <;> simp [walk]
    · rw [walk_cons]
      split
      · simpa [hlast] using ih above.tail hlast
      · split
        · simpa [hlast] using ih above hlast
        · exact ih _ hlast

/-- A path that has been read is settled. -/
theorem exists_settledPath (special : Bool) (s : List Char) :
    ∃ t, readPath special false s = '/' :: t ∧ SettledPath special t := by
  obtain ⟨first, others, hwalk⟩ := List.exists_cons_of_ne_nil (walk_ne_nil [] (segments_ne_nil special s))
  have hunslashed : ∀ piece ∈ segments special s, Unslashed special piece := fun _ h => unslashed_of_mem_segments h
  have hsettled := settled_of_mem_walk hunslashed [] (List.forall_mem_nil _)
  rw [hwalk, List.forall_mem_cons] at hsettled
  obtain ⟨hfirst, hothers⟩ := hsettled
  have hjoin := segments_join hfirst.1 fun piece h => (hothers piece h).1
  refine ⟨first ++ others.flatMap ('/' :: ·), ?_, ?_, ?_⟩
  · rw [readPath, hwalk]
    rfl
  · rintro ⟨hspecial, hmem⟩
    simp only [List.mem_append, List.mem_flatMap, List.mem_cons] at hmem
    rcases hmem with h | ⟨piece, hpiece, h | h⟩
    · exact absurd (hfirst.1 _ h) (by simp [divides, hspecial])
    · cases h
    · exact absurd ((hothers piece hpiece).1 _ h) (by simp [divides, hspecial])
  · rw [hjoin, List.forall_mem_cons]
    exact ⟨hfirst.2, fun piece h => (hothers piece h).2⟩

end Settled

end Storefront.Url

import Mathlib.Algebra.Group.Int.Defs
import Mathlib.Algebra.Group.Nat.Defs
import Storefront.Text.Split

/-! # Parts of texts

A part of a text is told by where it begins and by how many characters it has, and either may count from the end. The
part up to a position and the part from there on make up the whole text, wherever the position is.

Words of 64 bits are enough to find a part: no number leaves their range, and no position leaves the text.
-/
namespace Storefront.Text
variable {s : List Char}

section Positions
variable {size rest : Int}

/-- The position among `size` characters that a number stands for. A negative one counts from the end, and what is
outside is moved to an end. -/
def position (size n : Int) : Int := max 0 (min size (if 0 ≤ n then n else size + n))

/-- How many of the `rest` characters are taken: so many of them, all but so many, or all. -/
def extent (rest : Int) : Option Int → Int
  | none => rest
  | some n => if 0 ≤ n then min n rest else max 0 (rest + n)

theorem position_nonneg (size n : Int) : 0 ≤ position size n := Int.le_max_left 0 _

theorem position_le (h : 0 ≤ size) (n : Int) : position size n ≤ size := by
  unfold position
  omega

theorem position_zero (size : Int) : position size 0 = 0 := by
  unfold position
  omega

theorem extent_nonneg (h : 0 ≤ rest) (length : Option Int) : 0 ≤ extent rest length := by
  cases length with
  | none => exact h
  | some n =>
    simp only [extent]
    omega

theorem extent_le (h : 0 ≤ rest) (length : Option Int) : extent rest length ≤ rest := by
  cases length with
  | none => exact Int.le_refl rest
  | some n =>
    simp only [extent]
    omega

theorem extent_eq_position (h : 0 ≤ size) (n : Int) : extent size (some n) = position size n := by
  simp only [extent, position]
  omega

end Positions

theorem slice_eq (s : List Char) (start : Int) (length : Option Int) :
    slice s start length =
      (s.drop (position s.length start).toNat).take (extent (s.length - position s.length start) length).toNat := by
  cases length <;> rfl

theorem slice_to (s : List Char) (k : Int) : slice s 0 (some k) = s.take (position s.length k).toNat := by
  have hsize := Int.natCast_nonneg s.length
  rw [slice_eq, position_zero, Int.sub_zero, extent_eq_position hsize, Int.toNat_zero, List.drop_zero]

theorem slice_from (s : List Char) (k : Int) : slice s k none = s.drop (position s.length k).toNat := by
  have hnonneg := position_nonneg s.length k
  rw [slice_eq]
  refine List.take_of_length_le ?_
  rw [List.length_drop, extent]
  omega

/-- The second part begins where the first ends, whether this is counted from the start or from the end. -/
theorem slice_append_slice (s : List Char) (k : Int) : slice s 0 (some k) ++ slice s k none = s := by
  rw [slice_to, slice_from, List.take_append_drop]

theorem slice_first (s : List Char) (n : Nat) : slice s 0 (some n) = s.take n := by
  have hposition : (position s.length n).toNat = min n s.length := by
    unfold position
    omega
  rw [slice_to, hposition, ← List.take_eq_take_min]

theorem slice_last {n : Nat} (hn : 0 < n) (s : List Char) : slice s (-(n : Int)) none = s.drop (s.length - n) := by
  have hposition : (position s.length (-(n : Int))).toNat = s.length - n := by
    unfold position
    omega
  rw [slice_from, hposition]

theorem slice_all (s : List Char) : slice s 0 none = s := by
  rw [slice_from, position_zero, Int.toNat_zero, List.drop_zero]

/-- A part of a text where `start` and `length` say, behind `before` and in front of `after`. -/
structure PartOf (s : List Char) (start : Int) (length : Option Int) (before part after : List Char) : Prop where
  whole : before ++ part ++ after = s
  first : (before.length : Int) = position s.length start
  count : (part.length : Int) = extent (s.length - before.length) length

theorem exists_partOf_slice (s : List Char) (start : Int) (length : Option Int) :
    ∃ before after, PartOf s start length before (slice s start length) after := by
  have hfirstLe := position_le (Int.natCast_nonneg s.length) start
  obtain ⟨first, hfirst⟩ := Int.eq_ofNat_of_zero_le (position_nonneg s.length start)
  have hrest : 0 ≤ (s.length - first : Int) := by omega
  have hcountLe := extent_le hrest length
  obtain ⟨count, hcount⟩ := Int.eq_ofNat_of_zero_le (extent_nonneg hrest length)
  have hslice : slice s start length = (s.drop first).take count := by
    rw [slice_eq, hfirst, hcount, Int.toNat_natCast, Int.toNat_natCast]
  have hbefore : (s.take first).length = first := List.length_take_of_le (by omega)
  refine ⟨s.take first, (s.drop first).drop count, ?_, ?_, ?_⟩
  · rw [hslice, List.append_assoc, List.take_append_drop, List.take_append_drop]
  · rw [hbefore, hfirst]
  · rw [hslice, hbefore, hcount, List.length_take_of_le]
    rw [List.length_drop]
    omega

section Words
variable {n count : Int} {size rest first stop : Int64}

/-- The word of 64 bits for an integer, if there is one. -/
def word? (n : Int) : Option Int64 := if -2 ^ 63 ≤ n ∧ n < 2 ^ 63 then some (Int64.ofInt n) else none

def positionWord? (size n : Int64) : Option Int64 :=
  (if 0 ≤ n then some n else word? (size.toInt + n.toInt)).map fun n => max 0 (min size n)

def extentWord? (rest : Int64) : Option Int64 → Option Int64
  | none => some rest
  | some n => if 0 ≤ n then some (min n rest) else (word? (rest.toInt + n.toInt)).map (max 0)

def between? (s : List Char) (first stop : Int64) : Option (List Char) :=
  if 0 ≤ first ∧ first ≤ stop ∧ stop.toInt ≤ s.length then
    some (s.extract first.toNatClampNeg stop.toNatClampNeg)
  else none

/-- A part found with words of 64 bits. There is none if a number is no such word or a position is not in the text. -/
def sliceWords? (s : List Char) (start : Int64) (length : Option Int64) : Option (List Char) := do
  let size ← word? s.length
  let first ← positionWord? size start
  let rest ← word? (size.toInt - first.toInt)
  let count ← extentWord? rest length
  let stop ← word? (first.toInt + count.toInt)
  between? s first stop

theorem exists_word (hlow : -2 ^ 63 ≤ n) (hhigh : n < 2 ^ 63) : ∃ w, word? n = some w ∧ w.toInt = n :=
  ⟨Int64.ofInt n, if_pos ⟨hlow, hhigh⟩, Int64.toInt_ofInt_of_le hlow hhigh⟩

theorem exists_wordSum (hsize : 0 ≤ size.toInt) {w : Int64} (hw : ¬ 0 ≤ w.toInt) :
    ∃ sum, word? (size.toInt + w.toInt) = some sum ∧ sum.toInt = size.toInt + w.toInt := by
  have hlow := w.le_toInt
  have hhigh := size.toInt_lt
  exact exists_word (by omega) (by omega)

theorem zero_le_iff (w : Int64) : 0 ≤ w ↔ 0 ≤ w.toInt := Int64.le_iff_toInt_le

theorem toInt_max (a b : Int64) : (max a b).toInt = max a.toInt b.toInt := by
  rw [show max a b = if a ≤ b then b else a from rfl, apply_ite Int64.toInt, Int.max_def]
  simp only [Int64.le_iff_toInt_le]

theorem toInt_min (a b : Int64) : (min a b).toInt = min a.toInt b.toInt := by
  rw [show min a b = if a ≤ b then a else b from rfl, apply_ite Int64.toInt, Int.min_def]
  simp only [Int64.le_iff_toInt_le]

theorem exists_positionWord (hsize : 0 ≤ size.toInt) (n : Int64) :
    ∃ w, positionWord? size n = some w ∧ w.toInt = position size.toInt n.toInt := by
  have hclamp (w : Int64) : (max 0 (min size w)).toInt = max 0 (min size.toInt w.toInt) := by
    rw [toInt_max, toInt_min, Int64.toInt_zero]
  by_cases hn : 0 ≤ n
  · refine ⟨max 0 (min size n), by rw [positionWord?, if_pos hn, Option.map_some], ?_⟩
    rw [hclamp, position, if_pos ((zero_le_iff n).mp hn)]
  · have hneg : ¬ 0 ≤ n.toInt := mt (zero_le_iff n).mpr hn
    obtain ⟨w, hw, hsum⟩ := exists_wordSum hsize hneg
    refine ⟨max 0 (min size w), by rw [positionWord?, if_neg hn, hw, Option.map_some], ?_⟩
    rw [hclamp, position, if_neg hneg, hsum]

theorem exists_extentWord (hrest : 0 ≤ rest.toInt) (length : Option Int64) :
    ∃ w, extentWord? rest length = some w ∧ w.toInt = extent rest.toInt (length.map Int64.toInt) := by
  cases length with
  | none => exact ⟨rest, rfl, rfl⟩
  | some n =>
    by_cases hn : 0 ≤ n
    · refine ⟨min n rest, by rw [extentWord?, if_pos hn], ?_⟩
      rw [toInt_min, Option.map_some, extent, if_pos ((zero_le_iff n).mp hn)]
    · have hneg : ¬ 0 ≤ n.toInt := mt (zero_le_iff n).mpr hn
      obtain ⟨w, hw, hsum⟩ := exists_wordSum hrest hneg
      refine ⟨max 0 w, by rw [extentWord?, if_neg hn, hw, Option.map_some], ?_⟩
      rw [toInt_max, Option.map_some, extent, if_neg hneg, hsum, Int64.toInt_zero]

theorem between?_eq (hfirst : 0 ≤ first.toInt) (hcount : 0 ≤ count) (hstop : stop.toInt = first.toInt + count)
    (hle : stop.toInt ≤ s.length) : between? s first stop = some ((s.drop first.toInt.toNat).take count.toNat) := by
  have horder : first ≤ stop := Int64.le_iff_toInt_le.mpr (by omega)
  have hsub : stop.toNatClampNeg - first.toNatClampNeg = count.toNat := by
    simp only [Int64.toNatClampNeg]
    omega
  rw [between?, if_pos ⟨(zero_le_iff first).mpr hfirst, horder, hle⟩, List.extract_eq_take_drop, hsub]
  rfl

theorem sliceWords?_eq (hs : s.length < 2 ^ 63) (start : Int64) (length : Option Int64) :
    sliceWords? s start length = some (slice s start.toInt (length.map Int64.toInt)) := by
  obtain ⟨size, hsize, hsizeInt⟩ := exists_word (n := s.length) (by omega) (by omega)
  have hsizeNonneg : 0 ≤ size.toInt := by omega
  obtain ⟨first, hfirst, hfirstInt⟩ := exists_positionWord hsizeNonneg start
  have hfirstNonneg := position_nonneg size.toInt start.toInt
  have hfirstLe := position_le hsizeNonneg start.toInt
  obtain ⟨rest, hrest, hrestInt⟩ := exists_word (n := size.toInt - first.toInt) (by omega) (by omega)
  have hrestNonneg : 0 ≤ rest.toInt := by omega
  obtain ⟨count, hcount, hcountInt⟩ := exists_extentWord hrestNonneg length
  have hcountNonneg := extent_nonneg hrestNonneg (length.map Int64.toInt)
  have hcountLe := extent_le hrestNonneg (length.map Int64.toInt)
  obtain ⟨stop, hstop, hstopInt⟩ := exists_word (n := first.toInt + count.toInt) (by omega) (by omega)
  have hwords : sliceWords? s start length = between? s first stop := by
    simp only [sliceWords?, Option.bind_eq_bind, hsize, hfirst, hrest, hcount, hstop, Option.bind_some]
  rw [hwords, between?_eq (by omega) (by omega) hstopInt (by omega), slice_eq, hcountInt, hrestInt, hfirstInt, hsizeInt]

/-- With words of 64 bits a part of a text is found wherever it begins and however long it is, and it is what stands
there. The part up to a position and the part from there on make up the text. A text in memory is no longer than a word
can tell. -/
theorem slice_in_words (s : List Char) (hs : s.length < 2 ^ 63) :
    (∀ (start : Int64) (length : Option Int64), ∃ before part after,
      sliceWords? s start length = some part ∧ slice s start.toInt (length.map Int64.toInt) = part ∧
      PartOf s start.toInt (length.map Int64.toInt) before part after) ∧
    ∀ k : Int64, ∃ front back, sliceWords? s 0 (some k) = some front ∧ sliceWords? s k none = some back ∧
      front ++ back = s := by
  refine ⟨fun start length => ?_, fun k => ?_⟩
  · obtain ⟨before, after, hpart⟩ := exists_partOf_slice s start.toInt (length.map Int64.toInt)
    exact ⟨before, _, after, sliceWords?_eq hs start length, rfl, hpart⟩
  · exact ⟨_, _, sliceWords?_eq hs 0 (some k), sliceWords?_eq hs k none, slice_append_slice s k.toInt⟩

theorem slice_in_words_digits :
    let s := "12345678".toList
    s.length < 2 ^ 63 ∧
    (∃ before part after, sliceWords? s (-5) (some 2) = some part ∧ slice s (-5) (some 2) = part ∧
      PartOf s (-5) (some 2) before part after) ∧
    sliceWords? s (-5) (some 2) = some "45".toList ∧
    (∃ front back, sliceWords? s 0 (some Int64.minValue) = some front ∧
      sliceWords? s Int64.minValue none = some back ∧ front ++ back = s) ∧
    sliceWords? s Int64.minValue none = some s := by
  intro s
  have hs : s.length < 2 ^ 63 := by decide
  obtain ⟨hparts, hwhole⟩ := slice_in_words s hs
  exact ⟨hs, hparts (-5) (some 2), by decide, hwhole Int64.minValue, by decide⟩

end Words
end Storefront.Text

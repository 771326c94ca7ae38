import Mathlib.Algebra.Group.Nat.Defs
import Storefront.Proofs.Url.Name

/-! # Numeric hosts that are read as they are written

An address of version 4 is written as its four bytes, and one of version 6 as its eight groups, of which the longest
stretch of zeros is left out. Both are read back.
-/
namespace Storefront.Url
variable {base n a : Nat} {s : List Char}

section Numbers

theorem hexDigit?_digitChar : ∀ d < 16, Html.Entity.hexDigit? (Nat.digitChar d) = some d := by decide

theorem numberIn?_append_digit {d : Nat} (hd : d < base) (hbase : base ≤ 16) (h : numberIn? base s = some n) :
    numberIn? base (s ++ [Nat.digitChar d]) = some (n * base + d) := by
  rw [numberIn?] at h ⊢
  simp [List.foldlM_append, h, hexDigit?_digitChar d (by omega), hd]

theorem numberIn?_toDigits (hone : 1 < base) (hbase : base ≤ 16) (n : Nat) :
    numberIn? base (Nat.toDigits base n) = some n := by
  induction n using Nat.strong_induction_on with
  | h n ih =>
    by_cases hn : n < base
    · have hdigit := numberIn?_append_digit hn hbase (s := []) (n := 0) rfl
      rw [Nat.toDigits_of_lt_base hn]
      simpa using hdigit
    · have hrest := ih (n / base) (Nat.div_lt_self (by omega) hone)
      rw [Nat.toDigits_of_base_le hone (by omega), numberIn?_append_digit (Nat.mod_lt n (by omega)) hbase hrest,
        Nat.div_add_mod']

theorem isDigit_of_mem_toDigits {c : Char} (h : c ∈ Nat.toDigits 10 n) : Unicode.isAsciiDigit c = true := by
  have hdigit : c.isDigit = true := Nat.isDigit_of_mem_toDigits (by decide) (by decide) h
  simp only [Char.isDigit, Bool.and_eq_true, decide_eq_true_eq] at hdigit
  simp only [Unicode.isAsciiDigit, Bool.and_eq_true, decide_eq_true_eq]
  exact hdigit

theorem head?_toDigits (hn : 0 < n) : (Nat.toDigits 10 n).head? ≠ some '0' := by
  induction n using Nat.strong_induction_on with
  | h n ih =>
    by_cases hsmall : n < 10
    · rw [Nat.toDigits_of_lt_base hsmall]
      simp
      omega
    · have hhead := ih (n / 10) (by omega) (by omega)
      obtain ⟨c, rest, hrest⟩ := List.exists_cons_of_ne_nil (Nat.toDigits_ne_nil (n := n / 10) (b := 10))
      rw [Nat.toDigits_of_base_le (by decide) (by omega), hrest]
      rw [hrest] at hhead
      exact hhead

end Numbers

section Four

theorem v4Number?_toDigits (n : Nat) : v4Number? (Nat.toDigits 10 n) = some n := by
  have hread := numberIn?_toDigits (by decide : 1 < 10) (by decide) n
  by_cases hn : n = 0
  · rw [hn]
    rfl
  · have hhead := head?_toDigits (Nat.pos_of_ne_zero hn)
    obtain ⟨c, rest, hrest⟩ := List.exists_cons_of_ne_nil (Nat.toDigits_ne_nil (n := n) (b := 10))
    rw [hrest] at hhead hread ⊢
    have hc : c ≠ '0' := by simpa using hhead
    unfold v4Number?
    split
    · contradiction
    · simp_all
    · simp_all
    · simp_all
    · exact hread

def v4Bytes (a : Nat) : List Nat := [a / pow2 24, a / pow2 16 % 256, a / pow2 8 % 256, a % 256]

theorem toText_v4 (a : Nat) :
    (Host.v4 a).toText = (((v4Bytes a).map (Nat.toDigits 10)).intersperse ['.']).flatten := rfl

theorem splitOn_v4 (a : Nat) : splitOn '.' (Host.v4 a).toText = (v4Bytes a).map (Nat.toDigits 10) := by
  refine splitOn_intersperse ?_ (List.cons_ne_nil _ _)
  rw [List.forall_mem_map]
  exact fun n _ hdot => absurd (isDigit_of_mem_toDigits hdot) (by decide)

theorem mem_toText_v4 {c : Char} (h : c ∈ (Host.v4 a).toText) : c = '.' ∨ Unicode.isAsciiDigit c = true := by
  rw [toText_v4] at h
  refine (mem_intersperse h).imp_right ?_
  rintro ⟨digits, hdigits, hc⟩
  obtain ⟨n, -, rfl⟩ := List.mem_map.mp hdigits
  exact isDigit_of_mem_toDigits hc

theorem settledChar_of_isAsciiDigit {c : Char} (h : Unicode.isAsciiDigit c = true) :
    Unicode.isAscii c = true ∧ nameChar c = [c] ∧ isForbidden c = false := by
  have hdigits : ∀ n < 58, 48 ≤ n → Unicode.isAscii (Char.ofNat n) = true ∧ nameChar (Char.ofNat n) = [Char.ofNat n] ∧
      isForbidden (Char.ofNat n) = false := by decide
  have hbounds : 48 ≤ c.toNat ∧ c.toNat ≤ 57 := by
    simp only [Unicode.isAsciiDigit, Bool.and_eq_true, decide_eq_true_eq] at h
    exact h
  have hc := hdigits c.toNat (by omega) hbounds.1
  rwa [Char.ofNat_toNat] at hc

theorem settledName_v4 (a : Nat) : SettledName (Host.v4 a).toText where
  chars c hc := by
    rcases mem_toText_v4 hc with rfl | hc
    · decide
    · exact settledChar_of_isAsciiDigit hc
  labels := by
    rw [splitOn_v4, List.forall_mem_map]
    intro n _
    have hascii : (Nat.toDigits 10 n).all Unicode.isAscii = true :=
      List.all_eq_true.mpr fun c hc => (settledChar_of_isAsciiDigit (isDigit_of_mem_toDigits hc)).1
    rw [label?, if_pos hascii, if_neg]
    rintro ⟨hmark, -⟩
    obtain ⟨rest, hrest⟩ := List.isPrefixOf_iff_prefix.mp hmark
    have hx : 'x' ∈ Nat.toDigits 10 n := by simp [← hrest]
    exact absurd (isDigit_of_mem_toDigits hx) (by decide)

theorem endsInNumber_v4 (a : Nat) : endsInNumber (Host.v4 a).toText = true := by
  obtain ⟨c, rest, hlast⟩ := List.exists_cons_of_ne_nil (Nat.toDigits_ne_nil (n := a % 256) (b := 10))
  have hall : (Nat.toDigits 10 (a % 256)).all Unicode.isAsciiDigit = true :=
    List.all_eq_true.mpr fun c hc => isDigit_of_mem_toDigits hc
  simp only [endsInNumber, splitOn_v4, v4Bytes, List.map_cons, List.map_nil, List.reverse_cons, List.reverse_nil,
    List.nil_append, List.cons_append]
  rw [hlast] at hall ⊢
  simp [hall]

theorem readV4_toText (h : a < pow2 32) : readV4 (Host.v4 a).toText = some a := by
  have hnumbers : ((v4Bytes a).map (Nat.toDigits 10)).mapM v4Number? = some (v4Bytes a) := by
    rw [mapM_eq_some_iff, List.forall₂_map_left_iff, List.forall₂_same]
    exact fun n _ => v4Number?_toDigits n
  have hlast : ((v4Bytes a).map (Nat.toDigits 10)).getLast? ≠ some [] := by simp [v4Bytes]
  have hbound : a < 4294967296 := h
  rw [readV4]
  simp only [splitOn_v4, if_neg hlast, hnumbers]
  simp [v4Bytes]
  omega

/-- Numbers that fill their bytes make 32 bits. The powers of two are kept abstract, as they are too large to unfold. -/
theorem foldl_bytes_lt {power : Nat → Nat} (h32 : power 32 = 4294967296) (h24 : power 24 = 16777216)
    (h16 : power 16 = 65536) (h8 : power 8 = 256) {numbers : List Nat} (hlength : numbers.length ≤ 4)
    (hfront : numbers.dropLast.all (· < 256) = true)
    (hlast : numbers.getLast?.getD 0 < power (8 * (4 - numbers.dropLast.length))) :
    numbers.dropLast.zipIdx.foldl (fun a (n, i) => a + n * power (8 * (3 - i))) (numbers.getLast?.getD 0) < power 32 := by
  rw [h32]
  match numbers with
  | [] => simp
  | [w] =>
    have hw : w < power 32 := hlast
    rwa [h32] at hw
  | [w, x] =>
    have hx : x < power 24 := hlast
    have hw : w < 256 := by simpa using hfront
    change x + w * power 24 < _
    rw [h24] at hx ⊢
    omega
  | [w, x, y] =>
    have hy : y < power 16 := hlast
    have hwx : w < 256 ∧ x < 256 := by simpa using hfront
    change y + w * power 24 + x * power 16 < _
    rw [h16] at hy ⊢
    rw [h24]
    omega
  | [w, x, y, z] =>
    have hz : z < power 8 := hlast
    have hwxy : w < 256 ∧ x < 256 ∧ y < 256 := by simpa using hfront
    change z + w * power 24 + x * power 16 + y * power 8 < _
    rw [h8] at hz ⊢
    rw [h24, h16]
    omega
  | _ :: _ :: _ :: _ :: _ :: _ =>
    simp only [List.length_cons] at hlength
    omega

theorem lt_of_readV4 (h : readV4 s = some a) : a < pow2 32 := by
  rw [readV4] at h
  generalize (if (splitOn '.' s).getLast? = some [] then (splitOn '.' s).dropLast else splitOn '.' s) = parts at h
  simp only at h
  split at h
  · cases h
  · next hparts =>
    obtain ⟨numbers, hnumbers, h⟩ := Option.bind_eq_some_iff.mp h
    have hlength : parts.length = numbers.length := (mapM_eq_some_iff.mp hnumbers).length_eq
    split at h
    · next hbounds =>
      rw [← Option.some_inj.mp h]
      exact foldl_bytes_lt (by decide) (by decide) (by decide) (by decide) (by omega) hbounds.1 hbounds.2
    · cases h

end Four
section Six
variable {gs groups : List Nat}

def groupChars : List Char := "0123456789abcdef".toList

theorem mem_groupText (g : Nat) : ∀ c ∈ groupText g, c ∈ groupChars := by
  have hdigit : ∀ d < 16, Nat.digitChar d ∈ groupChars := by decide
  rw [groupText]
  induction g using Nat.strong_induction_on with
  | h g ih =>
    by_cases hg : g < 16
    · rw [Nat.toDigits_of_lt_base hg]
      exact List.forall_mem_singleton.mpr (hdigit g hg)
    · rw [Nat.toDigits_of_base_le (by decide) (by omega), List.forall_mem_append]
      exact ⟨ih (g / 16) (by omega), List.forall_mem_singleton.mpr (hdigit _ (Nat.mod_lt g (by decide)))⟩

theorem mem_groupsText (gs : List Nat) : ∀ c ∈ groupsText gs, c ∈ ':' :: groupChars := by
  intro c hc
  rcases mem_intersperse hc with rfl | ⟨piece, hpiece, hc⟩
  · exact List.mem_cons_self
  · obtain ⟨g, -, rfl⟩ := List.mem_map.mp hpiece
    exact List.mem_cons_of_mem _ (mem_groupText g c hc)

theorem groupsText_cons (g : Nat) (h : gs ≠ []) : groupsText (g :: gs) = groupText g ++ ':' :: groupsText gs := by
  obtain ⟨g', gs, rfl⟩ := List.exists_cons_of_ne_nil h
  simp [groupsText]

theorem exists_groupText (g : Nat) : ∃ c rest, groupText g = c :: rest ∧ c ≠ ':' := by
  obtain ⟨c, rest, hg⟩ := List.exists_cons_of_ne_nil (Nat.toDigits_ne_nil (n := g) (b := 16))
  refine ⟨c, rest, hg, ?_⟩
  rintro rfl
  exact absurd (mem_groupText g ':' (by rw [groupText, hg]; exact List.mem_cons_self)) (by decide)

theorem exists_groupsText (h : gs ≠ []) : ∃ c rest, groupsText gs = c :: rest ∧ c ≠ ':' := by
  obtain ⟨g, gs, rfl⟩ := List.exists_cons_of_ne_nil h
  obtain ⟨c, rest, hg, hc⟩ := exists_groupText g
  by_cases hgs : gs = []
  · exact ⟨c, rest, by simp [groupsText, hgs, hg], hc⟩
  · exact ⟨c, _, by rw [groupsText_cons g hgs, hg, List.cons_append], hc⟩

/-- Groups are read back if they have 16 bits. -/
theorem v6Groups?_groupsText (h : ∀ g ∈ gs, g < 65536) : v6Groups? (groupsText gs) = some gs := by
  by_cases hgs : gs = []
  · rw [hgs]
    rfl
  obtain ⟨c, rest, hc, -⟩ := exists_groupsText hgs
  have hpieces : splitOn ':' (groupsText gs) = gs.map groupText := by
    refine splitOn_intersperse ?_ (by simpa using hgs)
    rw [List.forall_mem_map]
    exact fun g _ hcolon => absurd (mem_groupText g ':' hcolon) (by decide)
  have hread : (gs.map groupText).mapM (fun p => if p.isEmpty || 4 < p.length then none else numberIn? 16 p) = some gs := by
    rw [mapM_eq_some_iff, List.forall₂_map_left_iff, List.forall₂_same]
    intro g hg
    have hlength : (groupText g).length ≤ 4 := (Nat.length_toDigits_le_iff (by decide) (by decide)).mpr (h g hg)
    have hne : groupText g ≠ [] := Nat.toDigits_ne_nil
    rw [if_neg (by simpa [hne] using hlength)]
    exact numberIn?_toDigits (by decide) (by decide) g
  have hlast : ∃ g, (gs.map groupText).getLast? = some (groupText g) := by
    obtain ⟨gs, g, rfl⟩ := List.eq_nil_or_concat gs |>.resolve_left hgs
    exact ⟨g, by simp⟩
  obtain ⟨g, hlast⟩ := hlast
  have hdot : (groupText g).contains '.' = false := by
    refine Bool.eq_false_iff.mpr fun hdot => absurd (mem_groupText g '.' (by simpa using hdot)) (by decide)
  rw [v6Groups?, hc]
  simp only [List.isEmpty_cons]
  rw [← hc, hpieces]
  simp only [hlast, hdot]
  exact hread

theorem splitFirst_unmarked {w : List Char} (hw : ':' ∉ w) (s : List Char) :
    Text.splitFirst [':', ':'] (w ++ s) = (Text.splitFirst [':', ':'] s).map fun (front, back) => (w ++ front, back) := by
  induction w with
  | nil => simp
  | cons c w ih =>
    rw [List.mem_cons, not_or] at hw
    have hprefix : [':', ':'].isPrefixOf (c :: (w ++ s)) = false := by simp [List.isPrefixOf, hw.1]
    rw [List.cons_append, Text.splitFirst, hprefix, ih hw.2, if_neg (by decide), Option.map_map]
    rfl

/-- Two colons stand behind groups, if they stand anywhere. -/
theorem splitFirst_groupsText (gs : List Nat) (s : List Char) :
    Text.splitFirst [':', ':'] (groupsText gs ++ s) =
      (Text.splitFirst [':', ':'] s).map fun (front, back) => (groupsText gs ++ front, back) := by
  induction gs with
  | nil => simp [groupsText]
  | cons g gs ih =>
    have hcolon : ':' ∉ groupText g := fun h => absurd (mem_groupText g ':' h) (by decide)
    by_cases hgs : gs = []
    · rw [hgs]
      simpa [groupsText] using splitFirst_unmarked hcolon s
    · obtain ⟨c, rest, hc, hne⟩ := exists_groupsText hgs
      have hprefix : [':', ':'].isPrefixOf (':' :: (groupsText gs ++ s)) = false := by
        rw [hc]
        simp [List.isPrefixOf, hne.symm]
      rw [groupsText_cons g hgs, List.append_assoc, splitFirst_unmarked hcolon, List.cons_append, Text.splitFirst, hprefix,
        ih, if_neg (by decide), Option.map_map, Option.map_map]
      simp [Function.comp_def]

/-- What the longest stretch of zeros is. -/
theorem zeroRun_spec (gs : List Nat) :
    (∃ back, gs = List.replicate (zeroRun gs).1 0 ++ back) ∧
      ∀ i n, (zeroRun gs).2 = some (i, n) → 2 ≤ n ∧
        ∃ front back, gs = front ++ List.replicate n 0 ++ back ∧ front.length = i := by
  induction gs with
  | nil => exact ⟨⟨[], rfl⟩, by simp [zeroRun]⟩
  | cons g gs ih =>
    obtain ⟨⟨back, hlead⟩, hbest⟩ := ih
    -- a stretch behind the first group stands one place further to the right
    have hshift : ∀ i n, (zeroRun gs).2.map (fun (i, n) => (i + 1, n)) = some (i, n) → 2 ≤ n ∧
        ∃ front back, g :: gs = front ++ List.replicate n 0 ++ back ∧ front.length = i := by
      intro i n h
      obtain ⟨⟨i, n⟩, hfound, hparts⟩ := Option.map_eq_some_iff.mp h
      cases hparts
      obtain ⟨hn, front, back, hgs, hi⟩ := hbest i n hfound
      exact ⟨hn, g :: front, back, by rw [hgs, List.cons_append, List.cons_append], by rw [List.length_cons, hi]⟩
    by_cases hg : g = 0
    · have hrun : g :: gs = List.replicate ((zeroRun gs).1 + 1) 0 ++ back := by
        rw [hg, List.replicate_succ, List.cons_append, ← hlead]
      simp only [zeroRun, if_pos hg]
      refine ⟨⟨back, hrun⟩, ?_⟩
      intro i n h
      split_ifs at h with hlong
      · cases h
        exact ⟨hlong.1, [], back, hrun, rfl⟩
      · exact hshift i n h
    · simp only [zeroRun, if_neg hg]
      exact ⟨⟨g :: gs, rfl⟩, hshift⟩

theorem readV6_v6Text (hlength : groups.length = 8) (h : ∀ g ∈ groups, g < 65536) : readV6 (v6Text groups) = some groups := by
  rw [v6Text]
  split
  · next i n hrun =>
    obtain ⟨hn, front, back, hgroups, hi⟩ := (zeroRun_spec groups).2 i n hrun
    have htake : groups.take i = front := by rw [hgroups, ← hi, List.append_assoc, List.take_left]
    have hdrop : groups.drop (i + n) = back := by
      have hsize : (front ++ List.replicate n 0).length = i + n := by simp [hi]
      rw [hgroups, ← hsize, List.drop_left]
    have hsplit : Text.splitFirst [':', ':'] (groupsText front ++ [':', ':'] ++ groupsText back) =
        some (groupsText front, groupsText back) := by
      rw [List.append_assoc, splitFirst_groupsText]
      simp [Text.splitFirst]
    have hfront : v6Groups? (groupsText front) = some front := v6Groups?_groupsText fun g hg => h g (by simp [hgroups, hg])
    have hback : v6Groups? (groupsText back) = some back := v6Groups?_groupsText fun g hg => h g (by simp [hgroups, hg])
    have hdot : (groupsText front).contains '.' = false := by
      refine Bool.eq_false_iff.mpr fun hdot => absurd (mem_groupsText front '.' (by simpa using hdot)) (by decide)
    have hcount : front.length + n + back.length = 8 := by
      rw [← hlength, hgroups]
      simp [Nat.add_assoc]
    rw [htake, hdrop, readV6, hsplit]
    have hzeros : 8 - front.length - back.length = n := by omega
    have hfits : ¬(false || decide (7 < front.length + back.length)) = true := by
      simp
      omega
    simp only [hfront, hback, hdot, if_neg hfits, hzeros, hgroups]
  · have hsplit := splitFirst_groupsText groups []
    rw [List.append_nil] at hsplit
    rw [readV6, hsplit]
    simp [Text.splitFirst, v6Groups?_groupsText h, hlength]

theorem lt_of_foldlM {start : Nat}
    (h : s.foldlM (fun n c => (Html.Entity.hexDigit? c).bind fun d => if d < base then some (n * base + d) else none) start =
      some n) : n < (start + 1) * base ^ s.length := by
  induction s generalizing start with
  | nil =>
    cases h
    simp
  | cons c s ih =>
    rw [List.foldlM_cons] at h
    obtain ⟨next, hnext, h⟩ := Option.bind_eq_some_iff.mp h
    obtain ⟨d, -, hd⟩ := Option.bind_eq_some_iff.mp hnext
    obtain ⟨hd, hvalue⟩ := Option.ite_none_right_eq_some.mp hd
    have hle : next + 1 ≤ (start + 1) * base := by
      rw [← Option.some_inj.mp hvalue, Nat.add_mul]
      omega
    calc n
      _ < (next + 1) * base ^ s.length := ih h
      _ ≤ (start + 1) * base * base ^ s.length := Nat.mul_le_mul_right _ hle
      _ = (start + 1) * base ^ (c :: s).length := by rw [List.length_cons, Nat.pow_succ, Nat.mul_assoc, Nat.mul_comm base]

theorem lt_of_numberIn? (h : numberIn? base s = some n) : n < base ^ s.length := by
  simpa using lt_of_foldlM h

theorem lt_of_byte? (h : byte? s = some n) : n < 256 := by
  rw [byte?] at h
  split at h
  · cases h
  · simpa using (Option.filter_eq_some_iff.mp h).2

theorem lt_of_mapM_groups {pieces : List (List Char)}
    (h : pieces.mapM (fun p => if p.isEmpty || 4 < p.length then none else numberIn? 16 p) = some gs) :
    ∀ g ∈ gs, g < 65536 := by
  intro g hg
  obtain ⟨p, -, hp⟩ := exists_of_mem_mapM h hg
  split at hp
  · cases hp
  · next hshort =>
    simp only [Bool.or_eq_true, decide_eq_true_eq, not_or, Nat.not_lt] at hshort
    calc g
      _ < 16 ^ p.length := lt_of_numberIn? hp
      _ ≤ 16 ^ 4 := Nat.pow_le_pow_right (by decide) hshort.2

theorem lt_of_v6Groups? (h : v6Groups? s = some gs) : ∀ g ∈ gs, g < 65536 := by
  rw [v6Groups?] at h
  split at h
  · cases h
    exact List.forall_mem_nil _
  · simp only at h
    split at h
    · split at h
      · split at h
        · next a b c d front hbytes hfront =>
          cases h
          have hbyte : ∀ n ∈ [a, b, c, d], n < 256 := fun n hn =>
            have ⟨_, _, hread⟩ := exists_of_mem_mapM hbytes hn
            lt_of_byte? hread
          simp only [List.forall_mem_cons] at hbyte
          rw [List.forall_mem_append]
          refine ⟨lt_of_mapM_groups hfront, ?_⟩
          simp only [List.forall_mem_cons, List.not_mem_nil, false_implies, implies_true, and_true]
          omega
        · cases h
      · exact lt_of_mapM_groups h
    · cases h

theorem groups_of_readV6 (h : readV6 s = some groups) : groups.length = 8 ∧ ∀ g ∈ groups, g < 65536 := by
  rw [readV6] at h
  split at h
  · split at h
    · next a b ha hb =>
      split at h
      · cases h
      · next hfits =>
        cases h
        simp only [Bool.or_eq_true, decide_eq_true_eq, not_or, Nat.not_lt] at hfits
        refine ⟨by simp; omega, ?_⟩
        intro g hg
        simp only [List.mem_append, List.mem_replicate] at hg
        rcases hg with (hg | ⟨-, rfl⟩) | hg
        · exact lt_of_v6Groups? ha g hg
        · decide
        · exact lt_of_v6Groups? hb g hg
    · cases h
  · obtain ⟨hread, hlength⟩ := Option.filter_eq_some_iff.mp h
    exact ⟨by simpa using hlength, lt_of_v6Groups? hread⟩

end Six
end Storefront.Url

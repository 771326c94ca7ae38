import Mathlib.Data.Rat.Floor
import Storefront.Proofs.Decimal.Digits
import Storefront.Proofs.Decimal.Value

/-! # Decimals printed and read back

A decimal printed to a few places is cut to them. Reading it back gives the number that was printed: the zeros
behind a number with all the digits that there is room for are dropped.
-/
namespace Storefront.Decimal

/-- What is left of the coefficient when all but so many decimals are cut off. -/
def cut (d : Decimal) (places : ℕ) : ℕ := d.coeff.natAbs * 10 ^ places / 10 ^ d.scale

theorem cut_eq_floor {d : Decimal} (hd : d.isNegative = false) (places : ℕ) :
    (d.cut places : ℤ) = ⌊d.value * 10 ^ places⌋ := by
  have hcoeff : (d.coeff : ℚ) = ((d.coeff.natAbs : ℕ) : ℤ) := by
    rw [Int.natAbs_of_nonneg (Int.not_lt.mp (of_decide_eq_false hd))]
  have hvalue : d.value * 10 ^ places = ((d.coeff.natAbs * 10 ^ places : ℕ) : ℤ) / ((10 ^ d.scale : ℕ) : ℚ) := by
    rw [value, hcoeff]
    push_cast
    ring
  rw [hvalue, Rat.floor_intCast_div_natCast, cut]
  norm_cast

theorem cut_pos_iff {d : Decimal} (hd : d.isNegative = false) (places : ℕ) :
    0 < d.cut places ↔ 1 / 10 ^ places ≤ d.value := by
  rw [← Int.natCast_pos, cut_eq_floor hd, Int.floor_pos, div_le_iff₀ (by positivity)]

def decimals (d : Decimal) (places : ℕ) : List Char :=
  (d.fractionText ++ List.replicate (places - d.scale) '0').take places

theorem toFixed_of_nonneg {d : Decimal} {places : ℕ} (hd : d.isNegative = false) (hplaces : places ≠ 0) :
    d.toFixed places = d.wholeText ++ '.' :: d.decimals places := by
  simp [toFixed, signText, hd, hplaces, decimals]

theorem hasRoom_iff (d : Decimal) {places k : ℕ} (hplaces : places ≠ 0) (hk : k ≠ 0)
    (hroom : k + (places + 1) = fixedRoom) : d.HasRoom places ↔ |d.value| < 10 ^ k := by
  have habs : |d.value| = (d.coeff.natAbs : ℚ) / 10 ^ d.scale := by
    rw [value, abs_div, abs_of_pos (show (0 : ℚ) < 10 ^ d.scale by positivity), Nat.cast_natAbs, Int.cast_abs]
  have hlength : d.HasRoom places ↔ d.wholeText.length ≤ k := by
    rw [HasRoom, if_neg hplaces, ← hroom, Nat.add_le_add_iff_right]
  rw [hlength, wholeText, Nat.length_toDigits_le_iff (by decide) (Nat.pos_of_ne_zero hk), Nat.div_lt_iff_lt_mul (pow10_pos _),
    habs, div_lt_iff₀ (by positivity)]
  exact_mod_cast Iff.rfl

/-- There is always room for the two decimals of an amount. -/
theorem hasRoom_two (d : Decimal) : d.HasRoom 2 := by
  have hwhole : d.wholeText.length ≤ 29 := by
    rw [wholeText, Nat.length_toDigits_le_iff (by decide) (by decide)]
    exact ((Nat.div_le_self _ _).trans_lt d.coeff_lt).trans (by decide)
  exact Nat.add_le_add_right hwhole 3

/-- The least number without room for four decimals. -/
def huge : Decimal := ⟨pow10 27, 0, by decide, zero.scale_le⟩

section
variable {c : Char}

theorem isDigit_of_mem_wholeText {d : Decimal} (h : c ∈ d.wholeText) : c.isDigit = true :=
  Nat.isDigit_of_mem_toDigits (by decide) (by decide) h

theorem isDigit_of_mem_fractionText {d : Decimal} (h : c ∈ d.fractionText) : c.isDigit = true := by
  unfold fractionText at h
  split at h
  · cases h
  · exact isDigit_of_mem_padded h

theorem isDigit_of_mem_decimals {d : Decimal} {places : ℕ} (h : c ∈ d.decimals places) : c.isDigit = true := by
  rcases List.mem_append.mp (List.mem_of_mem_take h) with h | h
  · exact isDigit_of_mem_fractionText h
  · rw [List.eq_of_mem_replicate h]
    decide

end

theorem length_fractionText (d : Decimal) : d.fractionText.length = d.scale := by
  unfold fractionText
  split
  · simp [*]
  · exact length_padded ‹_› (Nat.mod_lt _ (pow10_pos _))

theorem mem_toFixed {d : Decimal} (hd : d.isNegative = false) {places : ℕ} (hplaces : places ≠ 0) {c : Char}
    (h : c ∈ d.toFixed places) : c.isDigit = true ∨ c = '.' := by
  rw [toFixed_of_nonneg hd hplaces] at h
  rcases List.mem_append.mp h with h | h
  · exact .inl (isDigit_of_mem_wholeText h)
  · rcases List.mem_cons.mp h with h | h
    · exact .inr h
    · exact .inl (isDigit_of_mem_decimals h)

theorem bareNumber_eq_self {s : List Char} (h : ∀ c ∈ s, c.isDigit = true ∨ c = '.') :
    Text.bareNumber s = s := by
  have hplain : ∀ c ∈ s, Unicode.isBlank c = false ∧ c ≠ '+' ∧ c ≠ ',' := by
    intro c hc
    rcases h c hc with hc | rfl
    · exact ⟨isBlank_of_isDigit hc, ne_of_isDigit hc (by decide), ne_of_isDigit hc (by decide)⟩
    · decide
  have htrim : Text.trim s = s := Text.strip_of_forall fun c hc => (hplain c hc).1
  have hsign : s.dropWhile (· == '+') = s :=
    Text.dropWhile_eq_self fun c hc => beq_eq_false_iff_ne.mpr (hplain c (List.mem_of_head? hc)).2.1
  rw [Text.bareNumber, htrim, hsign]
  exact List.filter_eq_self.mpr fun c hc => bne_iff_ne.mpr (hplain c hc).2.2

theorem splitSign_of_isDigit {c : Char} {rest : List Char} (hc : c.isDigit = true) :
    splitSign (c :: rest) = (false, c :: rest) := by
  unfold splitSign
  split
  · rename_i h
    cases h
    exact absurd hc (by decide)
  · rename_i h
    cases h
    exact absurd hc (by decide)
  · rfl

theorem read_of_readDigits {c : Char} {rest : List Char} {m j : ℕ} (hc : c.isDigit = true)
    (h : readDigits false false 0 0 (c :: rest) = .ok (m, j)) (hm : m < limit) (hj : j ≤ maxScale) :
    read (c :: rest) = .ok ⟨m, j, hm, hj⟩ := by
  simp only [read, List.isEmpty_cons, Bool.false_eq_true, if_false, splitSign_of_isDigit hc, h, signed]
  simp only [bind, Except.bind, ofParts?_self ⟨m, j, hm, hj⟩]

theorem readDigits_point (n : ℕ) (s : List Char) :
    readDigits false true n 0 ('.' :: s) = readDigits true true n 0 s := by
  simp [readDigits, show digit? '.' = none by decide]

theorem readDigits_pointed {ws ds : List Char} (hne : ws ≠ []) (hws : ∀ c ∈ ws, c.isDigit = true)
    (hds : ∀ c ∈ ds, c.isDigit = true) (hlimit : Nat.ofDigitChars 10 (ws ++ ds) 0 < limit)
    (hscale : ds.length ≤ maxScale) :
    readDigits false false 0 0 (ws ++ '.' :: ds) = .ok (Nat.ofDigitChars 10 (ws ++ ds) 0, ds.length) := by
  rw [Nat.ofDigitChars_append] at hlimit ⊢
  have hdecimals := readDigits_append hds true true hlimit (fun _ => show 0 + ds.length ≤ maxScale by omega) []
  rw [List.append_nil] at hdecimals
  rw [readDigits_append hws false false ((le_ofDigitChars _ _).trans_lt hlimit) (by simp),
    show (false || !ws.isEmpty) = true by simpa using hne, if_neg (by decide), readDigits_point, hdecimals]
  simp [readDigits]

theorem decimal?_point {ws ds : List Char} (hne : ws ≠ []) (hws : ∀ c ∈ ws, c.isDigit = true)
    (hds : ∀ c ∈ ds, c.isDigit = true) (hlimit : Nat.ofDigitChars 10 (ws ++ ds) 0 < limit)
    (hscale : ds.length ≤ maxScale) :
    Text.decimal? (ws ++ '.' :: ds) = some ⟨Nat.ofDigitChars 10 (ws ++ ds) 0, ds.length, hlimit, hscale⟩ := by
  have hplain : ∀ c ∈ ws ++ '.' :: ds, c.isDigit = true ∨ c = '.' := by
    intro c hc
    rcases List.mem_append.mp hc with hc | hc
    · exact .inl (hws c hc)
    · exact (List.mem_cons.mp hc).symm.imp_left (hds c)
  have hdigits := readDigits_pointed hne hws hds hlimit hscale
  obtain ⟨c, rest, rfl⟩ := List.exists_cons_of_ne_nil hne
  rw [Text.decimal?, bareNumber_eq_self hplain, ofText?]
  rw [List.cons_append] at hdigits ⊢
  rw [read_of_readDigits (hws c List.mem_cons_self) hdigits hlimit hscale]

/-- The digits printed are those of the coefficient down to the last place. Missing places are zeros. -/
theorem decimals_eq (d : Decimal) (places : ℕ) :
    d.decimals places = d.fractionText.take places ++ List.replicate (places - d.scale) '0' := by
  rw [decimals, List.take_append, length_fractionText, List.take_replicate, Nat.min_self]

theorem ofDigitChars_digits (d : Decimal) :
    Nat.ofDigitChars 10 (d.wholeText ++ d.fractionText) 0 = d.coeff.natAbs := by
  have hfraction : Nat.ofDigitChars 10 d.fractionText 0 = d.coeff.natAbs % 10 ^ d.scale := by
    unfold fractionText
    split
    · simp [*, Nat.mod_one]
    · exact ofDigitChars_padded _ _
  rw [Nat.ofDigitChars_append, Nat.ofDigitChars_eq_ofDigitChars_zero, hfraction, length_fractionText, wholeText,
    Nat.ofDigitChars_ten_toDigits]
  exact Nat.div_add_mod _ _

theorem ofDigitChars_kept (d : Decimal) (places : ℕ) :
    Nat.ofDigitChars 10 (d.fractionText.take places) (Nat.ofDigitChars 10 d.wholeText 0) =
      d.coeff.natAbs / 10 ^ (d.scale - places) := by
  have hdigits : ∀ c ∈ d.wholeText ++ d.fractionText, c.isDigit = true := by
    intro c hc
    rcases List.mem_append.mp hc with hc | hc
    · exact isDigit_of_mem_wholeText hc
    · exact isDigit_of_mem_fractionText hc
  have hkept : d.wholeText ++ d.fractionText.take places =
      (d.wholeText ++ d.fractionText).take (d.wholeText.length + places) := by
    rw [List.take_length_add_append]
  rw [← Nat.ofDigitChars_append, hkept, ofDigitChars_take hdigits, ofDigitChars_digits, List.length_append,
    length_fractionText, Nat.add_sub_add_left]

theorem kept_mul (d : Decimal) (places : ℕ) :
    d.coeff.natAbs / 10 ^ (d.scale - places) * 10 ^ places = d.cut places * 10 ^ min places d.scale := by
  rw [cut]
  rcases Nat.le_total d.scale places with hle | hle
  · obtain ⟨k, rfl⟩ := Nat.exists_eq_add_of_le hle
    rw [Nat.sub_eq_zero_of_le hle, Nat.min_eq_right hle, Nat.pow_zero, Nat.div_one, Nat.pow_add, Nat.mul_left_comm,
      Nat.mul_div_cancel_left _ (by positivity)]
    ring
  · obtain ⟨k, hk⟩ := Nat.exists_eq_add_of_le hle
    rw [hk, Nat.add_sub_cancel_left, Nat.min_eq_left (Nat.le_add_right _ _), Nat.pow_add, Nat.mul_comm (10 ^ places),
      Nat.mul_div_mul_right _ _ (by positivity)]

theorem exists_decimal?_toFixed {d : Decimal} (hd : d.isNegative = false) {places : ℕ} (hplaces : places ≠ 0)
    (hmax : places ≤ maxScale) :
    ∃ r, Text.decimal? (d.toFixed places) = some r ∧ r.value = d.cut places / 10 ^ places := by
  have hkept := ofDigitChars_kept d places
  have hlimit : d.coeff.natAbs / 10 ^ (d.scale - places) < limit := (Nat.div_le_self _ _).trans_lt d.coeff_lt
  have hwhole : Nat.ofDigitChars 10 d.wholeText 0 < limit :=
    (le_ofDigitChars _ _).trans_lt (hkept ▸ hlimit)
  have htaken : (d.fractionText.take places).length = min places d.scale := by
    rw [List.length_take, length_fractionText]
  obtain ⟨m, j, hzeros, hm, hj, hvalue⟩ := readDigits_zeros (k := places - d.scale) hlimit
    (show min places d.scale + (places - d.scale) ≤ maxScale by omega)
  obtain ⟨c, rest, hhead⟩ : ∃ c rest, d.wholeText = c :: rest :=
    List.exists_cons_of_ne_nil Nat.toDigits_ne_nil
  have hdigits : readDigits false false 0 0 (d.toFixed places) = .ok (m, j) := by
    have htake : ∀ c ∈ d.fractionText.take places, c.isDigit = true := fun c hc =>
      isDigit_of_mem_fractionText (List.mem_of_mem_take hc)
    rw [toFixed_of_nonneg hd hplaces, readDigits_append (fun c => isDigit_of_mem_wholeText) false false hwhole (by simp),
      show (false || !d.wholeText.isEmpty) = true by simp [hhead], if_neg (by decide), readDigits_point, decimals_eq,
      readDigits_append htake true true (hkept ▸ hlimit) (by omega), hkept, if_pos rfl, htaken, Nat.zero_add,
      Bool.true_or]
    exact hzeros
  have hread : read (d.toFixed places) = .ok ⟨m, j, hm, hj⟩ := by
    have hc : c.isDigit = true := isDigit_of_mem_wholeText (d := d) (hhead ▸ List.mem_cons_self)
    have htext : d.toFixed places = c :: (rest ++ '.' :: d.decimals places) := by
      rw [toFixed_of_nonneg hd hplaces, hhead, List.cons_append]
    rw [htext] at hdigits ⊢
    exact read_of_readDigits hc hdigits hm hj
  refine ⟨⟨m, j, hm, hj⟩, ?_, ?_⟩
  · rw [Text.decimal?, bareNumber_eq_self fun c => mem_toFixed hd hplaces, ofText?, hread]
  · have hcut : m * 10 ^ places = d.cut places * 10 ^ j := by
      refine Nat.eq_of_mul_eq_mul_right (show 0 < 10 ^ min places d.scale by positivity) ?_
      calc m * 10 ^ places * 10 ^ min places d.scale
        _ = m * 10 ^ min places d.scale * 10 ^ places := by ring
        _ = d.coeff.natAbs / 10 ^ (d.scale - places) * 10 ^ places * 10 ^ j := by rw [hvalue]; ring
        _ = d.cut places * 10 ^ j * 10 ^ min places d.scale := by rw [kept_mul]; ring
    change ((m : ℤ) : ℚ) / 10 ^ j = _
    rw [Int.cast_natCast, div_eq_div_iff (by positivity) (by positivity)]
    exact_mod_cast hcut

section
variable (d : Decimal)

def magnitudeText : List Char := d.wholeText ++ if d.scale = 0 then [] else '.' :: d.fractionText

theorem toText_eq : d.toText = d.signText ++ d.magnitudeText := List.append_assoc _ _ _

theorem exists_wholeText : ∃ c rest, c.isDigit = true ∧ d.wholeText = c :: rest := by
  obtain ⟨c, rest, hwhole⟩ := List.exists_cons_of_ne_nil (Nat.toDigits_ne_nil : d.wholeText ≠ [])
  exact ⟨c, rest, isDigit_of_mem_wholeText (hwhole ▸ List.mem_cons_self), hwhole⟩

theorem readDigits_magnitudeText : readDigits false false 0 0 d.magnitudeText = .ok (d.coeff.natAbs, d.scale) := by
  have hne : d.wholeText ≠ [] := Nat.toDigits_ne_nil
  have hlimit : Nat.ofDigitChars 10 (d.wholeText ++ d.fractionText) 0 < limit := by
    rw [ofDigitChars_digits]
    exact d.coeff_lt
  unfold magnitudeText
  split
  · rename_i hscale
    have hfraction : d.fractionText = [] := if_pos hscale
    have hvalue := ofDigitChars_digits d
    rw [hfraction, List.append_nil] at hlimit hvalue
    rw [readDigits_append (fun c => isDigit_of_mem_wholeText) false false hlimit (by simp), hvalue,
      show (false || !d.wholeText.isEmpty) = true by simpa using hne, hscale]
    simp [readDigits]
  · have hfull : d.fractionText.length ≤ maxScale := d.length_fractionText.trans_le d.scale_le
    rw [readDigits_pointed hne (fun c => isDigit_of_mem_wholeText) (fun c => isDigit_of_mem_fractionText) hlimit hfull,
      ofDigitChars_digits, length_fractionText]

theorem splitSign_toText : splitSign d.toText = (d.isNegative, d.magnitudeText) := by
  rw [toText_eq, signText]
  split
  · rename_i hnegative
    rw [hnegative]
    rfl
  · rename_i hnegative
    obtain ⟨c, rest, hc, hwhole⟩ := d.exists_wholeText
    rw [List.nil_append, magnitudeText, hwhole, List.cons_append, splitSign_of_isDigit hc, Bool.eq_false_iff.mpr hnegative]

theorem toText_ne_nil : d.toText ≠ [] := by
  obtain ⟨c, rest, -, hwhole⟩ := d.exists_wholeText
  simp [toText_eq, magnitudeText, hwhole]

/-- A decimal that is printed in full is read as it was. -/
theorem read_toText : read d.toText = .ok d := by
  have hne : d.toText.isEmpty = false := Bool.eq_false_iff.mpr fun h => d.toText_ne_nil (List.isEmpty_iff.mp h)
  have hsigned : signed d.isNegative d.coeff.natAbs = d.coeff := signed_natAbs decide_eq_true_iff
  simp only [read, hne, Bool.false_eq_true, if_false, splitSign_toText, readDigits_magnitudeText, bind, Except.bind,
    hsigned, ofParts?_self]

theorem mem_toText {c : Char} (h : c ∈ d.toText) : c.isDigit = true ∨ c = '-' ∨ c = '.' := by
  rw [toText_eq, signText, magnitudeText] at h
  simp only [List.mem_append] at h
  rcases h with hsign | hwhole | hfraction
  · split at hsign <;> simp_all
  · exact .inl (isDigit_of_mem_wholeText hwhole)
  · split at hfraction
    · cases hfraction
    · rcases List.mem_cons.mp hfraction with rfl | hfraction
      · exact .inr (.inr rfl)
      · exact .inl (isDigit_of_mem_fractionText hfraction)

end

end Storefront.Decimal

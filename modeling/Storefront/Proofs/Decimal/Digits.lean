import Mathlib.Tactic.Ring
import Storefront.Proofs.Text.Strip
import Storefront.Text.Number

/-! # Runs of digits

Digits are printed from the left, and read back one by one. As long as the number has room it is the number that
was printed, and zeros behind the point leave its value alone even where they have no room.
-/
namespace Storefront.Decimal
variable {c : Char} {ds : List Char}

theorem digit?_of_isDigit (h : c.isDigit = true) : digit? c = some (c.toNat - '0'.toNat) := by
  simp only [Char.isDigit, Bool.and_eq_true, decide_eq_true_eq] at h
  exact if_pos h

theorem digit_le_nine (h : c.isDigit = true) : c.toNat - '0'.toNat ≤ 9 := by
  simp only [Char.isDigit, Bool.and_eq_true, decide_eq_true_eq] at h
  have : c.toNat ≤ 57 := h.2
  have : '0'.toNat = 48 := rfl
  omega

theorem isBlank_of_isDigit (h : c.isDigit = true) : Unicode.isBlank c = false := by
  simp only [Char.isDigit, Bool.and_eq_true, decide_eq_true_eq] at h
  have : 48 ≤ c.toNat := h.1
  have : c.toNat ≤ 57 := h.2
  simp [Unicode.isBlank]
  omega

theorem ne_of_isDigit (h : c.isDigit = true) {d : Char} (hd : d.isDigit = false) : c ≠ d := by
  rintro rfl
  simp [h] at hd

theorem isDigit_of_mem_padded {width n : ℕ} (h : c ∈ padded width n) : c.isDigit = true := by
  rcases List.mem_append.mp h with h | h
  · rw [List.eq_of_mem_replicate h]
    decide
  · exact Nat.isDigit_of_mem_toDigits (by decide) (by decide) h

theorem ofDigitChars_padded (width n : ℕ) : Nat.ofDigitChars 10 (padded width n) 0 = n := by
  simp [padded, Nat.ofDigitChars_append]

theorem length_padded {width n : ℕ} (hwidth : width ≠ 0) (h : n < 10 ^ width) :
    (padded width n).length = width := by
  have := (Nat.length_toDigits_le_iff (b := 10) (by decide) (Nat.pos_of_ne_zero hwidth)).mpr h
  simp only [padded, List.length_append, List.length_replicate]
  omega

theorem padded_ne_nil (width n : ℕ) : padded width n ≠ [] := by
  simp [padded]

theorem le_ofDigitChars (ds : List Char) (n : ℕ) : n ≤ Nat.ofDigitChars 10 ds n := by
  rw [Nat.ofDigitChars_eq_ofDigitChars_zero]
  exact (Nat.le_mul_of_pos_left _ (Nat.pow_pos (by decide))).trans (Nat.le_add_right _ _)

theorem ofDigitChars_lt (h : ∀ c ∈ ds, c.isDigit = true) : Nat.ofDigitChars 10 ds 0 < 10 ^ ds.length := by
  induction ds with
  | nil => simp
  | cons c ds ih =>
    obtain ⟨hc, hds⟩ := List.forall_mem_cons.mp h
    have hrest := ih hds
    rw [Nat.ofDigitChars_cons, Nat.ofDigitChars_eq_ofDigitChars_zero, List.length_cons, Nat.pow_succ,
      Nat.mul_zero, Nat.zero_add]
    have := Nat.mul_le_mul_left (10 ^ ds.length) (digit_le_nine hc)
    omega

theorem ofDigitChars_take (h : ∀ c ∈ ds, c.isDigit = true) (k : ℕ) :
    Nat.ofDigitChars 10 (ds.take k) 0 = Nat.ofDigitChars 10 ds 0 / 10 ^ (ds.length - k) := by
  have hrest : Nat.ofDigitChars 10 (ds.drop k) 0 < 10 ^ (ds.length - k) := by
    rw [← List.length_drop]
    exact ofDigitChars_lt fun c hc => h c (List.mem_of_mem_drop hc)
  have hsplit : Nat.ofDigitChars 10 ds 0 =
      10 ^ (ds.length - k) * Nat.ofDigitChars 10 (ds.take k) 0 + Nat.ofDigitChars 10 (ds.drop k) 0 := by
    conv_lhs => rw [← List.take_append_drop k ds]
    rw [Nat.ofDigitChars_append, Nat.ofDigitChars_eq_ofDigitChars_zero, List.length_drop]
  rw [hsplit, Nat.mul_add_div (Nat.pow_pos (by decide)), Nat.div_eq_of_lt hrest, Nat.add_zero]

theorem digitsValue?_of_isDigit (hne : ds ≠ []) (h : ∀ c ∈ ds, c.isDigit = true) :
    digitsValue? ds = some (Nat.ofDigitChars 10 ds 0) := by
  have hfold (n : ℕ) : ds.foldlM (fun n c => (digit? c).map (n * 10 + ·)) n = some (Nat.ofDigitChars 10 ds n) := by
    clear hne
    induction ds generalizing n with
    | nil => simp
    | cons c ds ih =>
      obtain ⟨hc, hds⟩ := List.forall_mem_cons.mp h
      simp [digit?_of_isDigit hc, ih hds, Nat.ofDigitChars_cons, Nat.mul_comm]
  cases ds with
  | nil => exact absurd rfl hne
  | cons c ds => exact hfold 0

theorem readDigits_append (h : ∀ c ∈ ds, c.isDigit = true) (point seen : Bool) {n scale : ℕ}
    (hlimit : Nat.ofDigitChars 10 ds n < limit) (hscale : point = true → scale + ds.length ≤ maxScale)
    (rest : List Char) :
    readDigits point seen n scale (ds ++ rest) =
      readDigits point (seen || !ds.isEmpty) (Nat.ofDigitChars 10 ds n)
        (if point then scale + ds.length else scale) rest := by
  induction ds generalizing seen n scale with
  | nil => simp
  | cons c ds ih =>
    obtain ⟨hc, hds⟩ := List.forall_mem_cons.mp h
    rw [Nat.ofDigitChars_cons] at hlimit ⊢
    rw [List.length_cons] at hscale ⊢
    have hroom := (le_ofDigitChars ds (10 * n + (c.toNat - '0'.toNat))).trans_lt hlimit
    have hplaces : ¬ (point = true ∧ maxScale ≤ scale) := fun ⟨hp, hfull⟩ => by
      have := hscale hp
      omega
    rw [List.cons_append, readDigits, digit?_of_isDigit hc]
    simp only [if_neg hplaces, Nat.mul_comm n 10, if_pos hroom]
    rw [ih hds true hlimit fun hp => by simpa [hp, Nat.add_assoc, Nat.add_comm 1] using hscale hp]
    cases point <;> simp [Nat.add_assoc, Nat.add_comm 1]

/-- Zeros behind the point leave the value alone, whether they have room or not. -/
theorem readDigits_zeros {n scale : ℕ} (hn : n < limit) {k : ℕ} (hscale : scale + k ≤ maxScale) :
    ∃ m j, readDigits true true n scale (List.replicate k '0') = .ok (m, j) ∧ m < limit ∧ j ≤ maxScale ∧
      m * 10 ^ scale = n * 10 ^ j := by
  induction k generalizing n scale with
  | zero => exact ⟨n, scale, by simp [readDigits], hn, hscale, rfl⟩
  | succ k ih =>
    rw [List.replicate_succ, readDigits, show digit? '0' = some 0 by decide]
    simp only [true_and, if_neg (show ¬ maxScale ≤ scale by omega), if_true, Nat.add_zero]
    split
    · rename_i hroom
      obtain ⟨m, j, hread, hm, hj, hvalue⟩ := ih hroom (show scale + 1 + k ≤ maxScale by omega)
      refine ⟨m, j, hread, hm, hj, Nat.eq_of_mul_eq_mul_right (show 0 < 10 by decide) ?_⟩
      rw [Nat.mul_assoc, ← Nat.pow_succ, hvalue]
      ring
    · -- without room the number is rounded at a zero
      exact ⟨n, scale, rfl, hn, by omega, rfl⟩

end Storefront.Decimal

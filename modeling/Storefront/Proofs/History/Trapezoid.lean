import Storefront.Proofs.History.Balance

/-! # Means as areas

Half a gap to either side of each price makes up a trapezoid between each two neighbours. So for snapshots at whole
milliseconds the mean is the area under their prices over the time that they take. Only leap seconds can bring it
outside the prices seen: the time to one and from it need not make up the time in all.
-/
namespace Storefront.History
variable {currency : Currency} {e : Exchange}

/-- Whether a moment is at a whole millisecond, which a leap second may have too. -/
def Aligned (t : Timestamp) : Prop := t.nanos % 1000000 = 0

instance (t : Timestamp) : Decidable (Aligned t) := inferInstanceAs (Decidable (_ = _))

/-- The nanoseconds from the first to the last of a sorted series. -/
def elapsed (series : List Snapshot) : ℤ :=
  match series.head?, series.getLast? with
  | some a, some b => b.timestamp.since a.timestamp
  | _, _ => 0

/-- The area under the prices when each goes over into the next evenly. -/
def area : List Snapshot → ℚ
  | a :: b :: rest =>
    b.timestamp.since a.timestamp * ((a.price.amount.value + b.price.amount.value) / 2) + area (b :: rest)
  | _ => 0

/-- The mean height of the area; a series that takes no time has its arithmetic mean. -/
def trapezoid (series : List Snapshot) : ℚ :=
  if elapsed (sorted series) = 0 then (amounts series).sum / series.length
  else area (sorted series) / elapsed (sorted series)

theorem millisSince_of_aligned {a b : Timestamp} (ha : Aligned a) (hb : Aligned b) :
    1000000 * b.millisSince a = b.since a := by
  obtain ⟨adjust, -, -, hsince⟩ := since_near a b
  have hwhole : (1000000 : ℤ) ∣ b.since a := by
    unfold Aligned at ha hb
    rw [hsince]
    omega
  exact Int.mul_tdiv_cancel' hwhole

section
variable {series : List Snapshot}

theorem elapsed_eq (haligned : ∀ s ∈ series, Aligned s.timestamp) :
    elapsed series = 1000000 * between (series.map Snapshot.timestamp) := by
  cases series with
  | nil => rfl
  | cons s rest =>
    have hlast : (s :: rest).getLast (by simp) ∈ s :: rest := List.getLast_mem _
    have hexact := millisSince_of_aligned (haligned s List.mem_cons_self) (haligned _ hlast)
    rw [elapsed, between, List.head?_map, List.getLast?_map, List.getLast?_eq_getLast_of_ne_nil (by simp)]
    exact hexact.symm

theorem dot_weightsAfter (before : ℤ) {s : Snapshot} {rest : List Snapshot}
    (haligned : ∀ u ∈ s :: rest, Aligned u.timestamp) :
    dot (weightsAfter before ((s :: rest).map Snapshot.timestamp)) (amounts (s :: rest)) =
      before / 2 * s.price.amount.value + area (s :: rest) / 1000000 := by
  induction rest generalizing before s with
  | nil => simp [weightsAfter, gap, amounts, dot, area]
  | cons u rest ih =>
    obtain ⟨hs, hrest⟩ := List.forall_mem_cons.mp haligned
    have hexact : (1000000 : ℚ) * u.timestamp.millisSince s.timestamp = u.timestamp.since s.timestamp := by
      exact_mod_cast millisSince_of_aligned hs (hrest u List.mem_cons_self)
    let lapse : ℤ := u.timestamp.millisSince s.timestamp
    calc dot (weightsAfter before ((s :: u :: rest).map Snapshot.timestamp)) (amounts (s :: u :: rest))
      _ = (before / 2 + lapse / 2) * s.price.amount.value +
          dot (weightsAfter lapse ((u :: rest).map Snapshot.timestamp)) (amounts (u :: rest)) := rfl
      _ = before / 2 * s.price.amount.value + area (s :: u :: rest) / 1000000 := by
        rw [ih lapse hrest, area, ← hexact]
        ring

theorem exactMean_eq_trapezoid (hmin : 2 ≤ series.length) (haligned : ∀ s ∈ series, Aligned s.timestamp) :
    exactMean series = trapezoid series := by
  have hperm : (sorted series).Perm series := sorted_perm series
  have haligned' : ∀ s ∈ sorted series, Aligned s.timestamp := fun s hs => haligned s (hperm.mem_iff.mp hs)
  have helapsed : elapsed (sorted series) = 1000000 * between (moments series) := elapsed_eq haligned'
  rw [exactMean, shares, trapezoid, helapsed]
  by_cases hzero : between (moments series) = 0
  · have hsum : (amounts (sorted series)).sum = (amounts series).sum := (hperm.map _).sum_eq
    have hlength : (moments series).length = (amounts (sorted series)).length := by
      rw [moments, amounts, List.length_map, List.length_map]
    rw [if_pos hzero, if_pos (by rw [hzero]; rfl), hlength, dot_replicate, hsum, ← hlength, length_moments,
      mul_one_div]
  · have hzero' : 1000000 * between (moments series) ≠ 0 := by omega
    have hdot : dot (weights (moments series)) (amounts (sorted series)) = area (sorted series) / 1000000 := by
      have hne : sorted series ≠ [] := List.ne_nil_of_length_pos (by rw [hperm.length_eq]; omega)
      obtain ⟨s, rest, hsorted⟩ := List.exists_cons_of_ne_nil hne
      rw [hsorted] at haligned'
      rw [weights, moments, hsorted, dot_weightsAfter 0 haligned']
      simp
    rw [if_neg hzero, if_neg hzero', dot_map_div, hdot, div_div]
    push_cast
    rfl

end

/-- A moment is counted on at most six times as fast as time goes, but for leap seconds. -/
theorem clock_sub_le {a b : Timestamp} (ha : a.nanos < 2 * Timestamp.perSecond)
    (hb : b.nanos < 2 * Timestamp.perSecond) : clock b - clock a ≤ 6 * b.since a + 16 * 10 ^ 9 := by
  obtain ⟨adjust, hadjust, -, hsince⟩ := since_near a b
  simp only [Timestamp.perSecond] at ha hb
  rw [hsince]
  simp only [clock, abs_le] at hadjust ⊢
  omega

section
variable {stamps : List Timestamp} (hsorted : stamps.Pairwise fun a b => a.notAfter b = true)
variable (hnanos : ∀ t ∈ stamps, t.nanos < 2 * Timestamp.perSecond) (haligned : ∀ t ∈ stamps, Aligned t)
include hsorted hnanos haligned

theorem sum_abs_gaps_le_between (hzero : between stamps ≠ 0) :
    ((gaps stamps).map abs).sum ≤ 16006 * |between stamps| := by
  cases stamps with
  | nil => exact absurd rfl hzero
  | cons t rest =>
    let last := (t :: rest).getLast (by simp)
    have hmem : last ∈ t :: rest := List.getLast_mem (by simp)
    have hgaps := sum_abs_gaps_le_clock hsorted hnanos
    have hclock : clock last - clock t ≤ 6 * last.since t + 16 * 10 ^ 9 :=
      clock_sub_le (hnanos t (by simp)) (hnanos last hmem)
    have hexact : 1000000 * between (t :: rest) = last.since t := by
      rw [between_cons]
      exact millisSince_of_aligned (haligned t (by simp)) (haligned last hmem)
    have hone : 1 ≤ |between (t :: rest)| := Int.one_le_abs hzero
    have hle : between (t :: rest) ≤ |between (t :: rest)| := le_abs_self _
    change 1000000 * _ ≤ clock last - clock t at hgaps
    omega

theorem sum_abs_shares_le : ((shares stamps).map abs).sum ≤ 16006 :=
  sum_abs_shares_le_of_gaps (by norm_num) fun hzero => by
    exact_mod_cast sum_abs_gaps_le_between hsorted hnanos haligned hzero

end

theorem forall_moments {series : List Snapshot} {P : Timestamp → Prop} (h : ∀ s ∈ series, P s.timestamp) :
    ∀ t ∈ moments series, P t := by
  refine List.forall_mem_map.mpr fun s hs => ?_
  exact h s ((sorted_perm series).mem_iff.mp hs)

/-- The mean of snapshots at whole milliseconds is the mean height of the area under their prices. Unless there are
leap seconds among them it is within the prices seen. -/
theorem mean_is_trapezoid {series : List Snapshot} (hpriced : ∀ s ∈ series, Priced currency s)
    (hmin : 2 ≤ series.length) (hmax : series.length ≤ 10 ^ 12)
    (hnanos : ∀ s ∈ series, s.timestamp.nanos < 2 * Timestamp.perSecond)
    (haligned : ∀ s ∈ series, Aligned s.timestamp) (hspan : elapsed (sorted series) < 10 ^ 13 * 1000000) :
    ∃ m : Decimal, mean series currency e = .ok (some ⟨m, currency⟩) ∧
      |m.value - trapezoid series| ≤ 1 / 10 ^ 15 ∧
      ((∀ s ∈ series, s.timestamp.isLeapSecond = false) →
        (∃ s ∈ series, s.price.amount.value ≤ m.value + 1 / 10 ^ 15) ∧
          ∃ s ∈ series, m.value ≤ s.price.amount.value + 1 / 10 ^ 15) := by
  have hsorted := moments_pairwise series
  have hnanos' : ∀ t ∈ moments series, t.nanos < 2 * Timestamp.perSecond := forall_moments hnanos
  have haligned' : ∀ t ∈ moments series, Aligned t := forall_moments haligned
  have hspan' : between (moments series) < 10 ^ 13 := by
    have helapsed := elapsed_eq fun s hs => haligned s ((sorted_perm series).mem_iff.mp hs)
    change elapsed (sorted series) = 1000000 * between (moments series) at helapsed
    omega
  obtain ⟨m, hm, happrox⟩ := exists_mean (e := e) hpriced hmin hmax hnanos' hspan'
  refine ⟨m, hm, ?_, fun hleap => ?_⟩
  · have hprices := abs_amounts_le fun s hs => hpriced s ((sorted_perm series).mem_iff.mp hs)
    have hshares := sum_abs_shares_le hsorted hnanos' haligned'
    have hbound : |exactMean series| ≤ 10 ^ 8 * 16006 :=
      (abs_dot_le (shares (moments series)) (by norm_num) hprices).trans
        (mul_le_mul_of_nonneg_left hshares (by norm_num))
    have herror := happrox.error
    rw [← exactMean_eq_trapezoid hmin haligned]
    refine herror.trans ?_
    rw [div_le_div_iff₀ (by norm_num) (by norm_num)]
    linarith
  · have hwhole : ∀ t ∈ moments series, Whole t := forall_moments fun s hs => ⟨haligned s hs, hleap s hs⟩
    obtain ⟨m', hm', hlow, hhigh, -⟩ := meanWithin_of_balanced (e := e) hpriced hmin hmax hnanos' hspan'
      (balanced_of_whole hsorted hwhole)
    rw [hm, Except.ok.injEq, Option.some.injEq, Money.mk.injEq] at hm'
    rw [hm'.1]
    exact ⟨hlow, hhigh⟩

def inDollars (seen : List (Timestamp × UInt64)) : List Snapshot :=
  seen.map fun (timestamp, dollars) => ⟨timestamp, none, ⟨.ofUInt64 dollars, .usd⟩⟩

theorem priced_inDollars {seen : List (Timestamp × UInt64)} (h : ∀ q ∈ seen, q.2.toNat < 10 ^ 8) :
    ∀ s ∈ inDollars seen, Priced .usd s := by
  refine List.forall_mem_map.mpr fun q hq => ⟨rfl, ?_, ?_, Nat.zero_le 4⟩
  · change 0 ≤ (Decimal.ofUInt64 q.2).value
    rw [Decimal.value_ofUInt64]
    positivity
  · change (Decimal.ofUInt64 q.2).value < 10 ^ 8
    rw [Decimal.value_ofUInt64]
    exact_mod_cast h q hq

def held : List Snapshot := inDollars [(⟨1700000000, 0⟩, 100), (⟨1700003600, 0⟩, 100), (⟨1700014400, 0⟩, 200)]

theorem mean_is_trapezoid_held : trapezoid held = 275 / 2 ∧
    ∃ m : Decimal, mean held .usd (RateTable.ofMain .usd).exchange = .ok (some ⟨m, .usd⟩) ∧
      |m.value - 275 / 2| ≤ 1 / 10 ^ 15 := by
  have hsorted : sorted held = held := sorted_of_pairwise (by decide)
  have helapsed : elapsed held = 14400000000000 := by decide
  have harea : area held = 3600000000000 * ((100 + 100) / 2) + 10800000000000 * ((100 + 200) / 2) := by
    simp [held, inDollars, area, Decimal.value_ofUInt64, Timestamp.since, Timestamp.perSecond, Timestamp.isLeapSecond]
  have htrapezoid : trapezoid held = 275 / 2 := by
    rw [trapezoid, hsorted, helapsed, harea]
    norm_num
  have hpriced : ∀ s ∈ held, Priced .usd s := priced_inDollars (by decide)
  obtain ⟨m, hm, hnear, -⟩ := mean_is_trapezoid (e := (RateTable.ofMain .usd).exchange) hpriced (by decide)
    (by decide) (by decide) (by decide) (by rw [hsorted]; decide)
  rw [htrapezoid] at hnear
  exact ⟨htrapezoid, m, hm, hnear⟩

def leap : List Snapshot :=
  inDollars [(⟨1467288059, 0⟩, 100), (⟨1467288059, 1000000000⟩, 100), (⟨1467288060, 0⟩, 100)]

/-- It takes a second to the leap second and another one from it, and one second in all. -/
theorem mean_leap_eq_twoHundred :
    mean leap .usd (RateTable.ofMain .usd).exchange = .ok (some ⟨.ofUInt64 200, .usd⟩) ∧
      ¬ ∀ series : List Snapshot, (∀ s ∈ series, Priced .usd s) → 2 ≤ series.length → series.length ≤ 10 ^ 12 →
        (∀ s ∈ series, s.timestamp.nanos < 2 * Timestamp.perSecond) → (∀ s ∈ series, Aligned s.timestamp) →
          elapsed (sorted series) < 10 ^ 13 * 1000000 →
            ∃ m : Decimal, mean series .usd (RateTable.ofMain .usd).exchange = .ok (some ⟨m, .usd⟩) ∧
              |m.value - trapezoid series| ≤ 1 / 10 ^ 15 ∧
              (∃ s ∈ series, s.price.amount.value ≤ m.value + 1 / 10 ^ 15) ∧
              ∃ s ∈ series, m.value ≤ s.price.amount.value + 1 / 10 ^ 15 := by
  have hsorted : sorted leap = leap := sorted_of_pairwise (by decide)
  have hmean : mean leap .usd (RateTable.ofMain .usd).exchange = .ok (some ⟨.ofUInt64 200, .usd⟩) := by
    rw [mean_eq (by decide), hsorted]
    decide +kernel
  refine ⟨hmean, fun h => ?_⟩
  obtain ⟨m, hm, -, -, s, hs, hhigh⟩ := h leap (priced_inDollars (by decide)) (by decide) (by decide) (by decide)
    (by decide) (by rw [hsorted]; decide)
  rw [hmean, Except.ok.injEq, Option.some.injEq, Money.mk.injEq] at hm
  have hprice : s.price.amount.value = 100 := by
    have hall : ∀ s ∈ leap, s.price.amount = .ofUInt64 100 := by decide
    rw [hall s hs, Decimal.value_ofUInt64]
    rfl
  rw [← hm.1, hprice, Decimal.value_ofUInt64] at hhigh
  norm_num [show (200 : UInt64).toNat = 200 from rfl] at hhigh

end Storefront.History

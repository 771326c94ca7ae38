import Storefront.Proofs.History.Mean

/-! # Means within the prices seen

The mean of a series stays within its prices if and only if its moments are balanced.
-/
namespace Storefront.History
variable {currency : Currency} {e : Exchange}

/-- The mean is within `10 ^ (-15)` of prices on either side, and the only price there is. -/
def MeanWithin (series : List Snapshot) (currency : Currency) (e : Exchange) : Prop :=
  ∃ m : Decimal, mean series currency e = .ok (some ⟨m, currency⟩) ∧
    (∃ s ∈ series, s.price.amount.value ≤ m.value + 1 / 10 ^ 15) ∧
    (∃ s ∈ series, m.value ≤ s.price.amount.value + 1 / 10 ^ 15) ∧
    ∀ p, (∀ s ∈ series, s.price.amount.value = p) → m.value = p

theorem Priced.units {s : Snapshot} (h : Priced currency s) :
    ∃ c : ℕ, |s.price.amount.value| * 10 ^ 4 = c ∧ 10 * c < Decimal.limit := by
  let d := s.price.amount
  have hc : |d.value| * 10 ^ 4 = ((d.coeff.natAbs * 10 ^ (4 - d.scale) : ℕ) : ℚ) := Decimal.abs_value_mul_pow h.scale
  refine ⟨_, hc, ?_⟩
  have hlt : ((d.coeff.natAbs * 10 ^ (4 - d.scale) : ℕ) : ℚ) ≤ ((10 ^ 12 : ℕ) : ℚ) := by
    rw [← hc]
    have := h.abs_amount_le
    push_cast
    linarith
  have := Nat.cast_le.mp hlt
  have : 10 * 10 ^ 12 < Decimal.limit := by decide
  omega

theorem meanWithin_of_balanced {series : List Snapshot} (hpriced : ∀ s ∈ series, Priced currency s)
    (hmin : 2 ≤ series.length) (hmax : series.length ≤ 10 ^ 12)
    (hnanos : ∀ t ∈ moments series, t.nanos < 2 * Timestamp.perSecond)
    (hspan : between (moments series) < 10 ^ 13) (hbalanced : Balanced (moments series)) :
    MeanWithin series currency e := by
  have hlength := length_moments series
  obtain ⟨hwhole, hnonneg⟩ := (balanced_iff (List.ne_nil_of_length_pos (by omega))).mp hbalanced
  obtain ⟨m, hm, happrox⟩ := exists_mean (e := e) hpriced hmin hmax hnanos hspan
  have hshares : (shares (moments series)).length = (amounts (sorted series)).length := by
    rw [length_shares, moments, amounts, List.length_map, List.length_map]
  have hmem {P : ℚ → Prop} : (∀ p ∈ amounts (sorted series), P p) ↔ ∀ s ∈ series, P s.price.amount.value := by
    simp [amounts, (sorted_perm series).mem_iff]
  have hlow {low : ℚ} (h : ∀ s ∈ series, low ≤ s.price.amount.value) : low ≤ exactMean series := by
    simpa [exactMean, hwhole] using le_dot hshares hnonneg (hmem.mpr h)
  have hhigh {high : ℚ} (h : ∀ s ∈ series, s.price.amount.value ≤ high) : exactMean series ≤ high := by
    simpa [exactMean, hwhole] using dot_le hshares hnonneg (hmem.mpr h)
  have hx0 := hlow fun s hs => (hpriced s hs).nonneg
  have hx8 := hhigh fun s hs => (hpriced s hs).lt.le
  have herror := happrox.error
  rw [abs_of_nonneg hx0, abs_le] at herror
  refine ⟨m, hm, ?_, ?_, fun p hp => ?_⟩
  · by_contra! hall
    have := hlow fun s hs => (hall s hs).le
    linarith
  · by_contra! hall
    have := hhigh fun s hs => (lt_sub_iff_add_lt.mpr (hall s hs)).le
    linarith
  · obtain ⟨s, hs⟩ := List.exists_mem_of_length_pos (by omega : 0 < series.length)
    obtain ⟨c, hc, hlim⟩ := (hpriced s hs).units
    have hx : exactMean series = s.price.amount.value := by
      rw [hp s hs]
      exact le_antisymm (hhigh fun s hs => (hp s hs).le) (hlow fun s hs => (hp s hs).ge)
    rw [happrox.exact c 4 (hx ▸ hc) hlim (by decide), hx, hp s hs]

theorem exists_series (currency : Currency) {stamps : List Timestamp}
    (hsorted : stamps.Pairwise fun a b => a.notAfter b = true) {ps : List Decimal}
    (hlength : ps.length = stamps.length) (hps : ∀ p ∈ ps, p = .zero ∨ p = .one) :
    ∃ series, moments series = stamps ∧ amounts (sorted series) = ps.map Decimal.value ∧
      ∀ s ∈ series, Priced currency s ∧ s.price.amount ∈ ps := by
  let series := (stamps.zip ps).map fun q => (⟨q.1, none, q.2, currency⟩ : Snapshot)
  have hstamps : series.map Snapshot.timestamp = stamps := by
    rw [List.map_map]
    exact List.map_fst_zip hlength.ge
  have hseries : sorted series = series := sorted_of_pairwise (hstamps ▸ hsorted)
  have hamounts : series.map (fun s => s.price.amount) = ps := by
    rw [List.map_map]
    exact List.map_snd_zip hlength.le
  refine ⟨series, by rw [moments, hseries, hstamps], ?_, fun s hs => ?_⟩
  · rw [hseries, ← hamounts, List.map_map]
    rfl
  · have hcurrency : s.price.currency = currency := by
      obtain ⟨q, -, rfl⟩ := List.mem_map.mp hs
      rfl
    have hmem : s.price.amount ∈ ps := hamounts ▸ List.mem_map_of_mem (f := fun s => s.price.amount) hs
    refine ⟨?_, hmem⟩
    rcases hps _ hmem with h | h
    · exact ⟨hcurrency, by simp [h], by simp [h], by simp [h, Decimal.zero]⟩
    · exact ⟨hcurrency, by simp [h], by norm_num [h], by simp [h, Decimal.one]⟩

theorem exists_half_of_mem {before : ℤ} {stamps : List Timestamp} :
    ∀ w ∈ weightsAfter before stamps, ∃ k : ℤ, w = k / 2 := by
  induction stamps generalizing before with
  | nil => simp [weightsAfter]
  | cons t rest ih =>
    refine List.forall_mem_cons.mpr ⟨⟨before + gap (some t) rest.head?, ?_⟩, ih⟩
    push_cast
    ring

theorem one_div_le_abs_div {k n : ℤ} {bound : ℚ} (hk : k ≠ 0) (hn : n ≠ 0) (h : |(n : ℚ)| ≤ bound) :
    1 / bound ≤ |(k : ℚ) / n| := by
  have hone : (1 : ℚ) ≤ |(k : ℚ)| := by exact_mod_cast Int.one_le_abs hk
  have hpos : (0 : ℚ) < |(n : ℚ)| := by simpa using hn
  rw [abs_div]
  exact div_le_div₀ (by linarith) hone hpos h

theorem far_of_sum_ne {stamps : List Timestamp} (h : stamps ≠ []) (hspan : |between stamps| ≤ 61 * 10 ^ 12)
    (hsum : (shares stamps).sum ≠ 1) : 1 / (61 * 10 ^ 12) ≤ |(shares stamps).sum - 1| := by
  have hspan' : |(between stamps : ℚ)| ≤ 61 * 10 ^ 12 := by exact_mod_cast hspan
  rw [sum_shares h] at hsum ⊢
  split at hsum
  · exact absurd rfl hsum
  · rename_i hzero
    have hzero' : (between stamps : ℚ) ≠ 0 := by exact_mod_cast hzero
    rw [if_neg hzero, div_sub_one hzero', ← Int.cast_sub]
    refine one_div_le_abs_div (fun hsub => hsum ?_) hzero hspan'
    rw [Int.sub_eq_zero.mp hsub, div_self hzero']

theorem far_of_neg {stamps : List Timestamp} (hspan : |between stamps| ≤ 61 * 10 ^ 12)
    {u : ℚ} (hu : u ∈ shares stamps) (hneg : u < 0) : 1 / (122 * 10 ^ 12) ≤ - u := by
  have hspan' : |(between stamps : ℚ)| ≤ 61 * 10 ^ 12 := by exact_mod_cast hspan
  unfold shares at hu
  split at hu
  · rw [List.eq_of_mem_replicate hu] at hneg
    exact absurd hneg (not_lt.mpr (by positivity))
  · rename_i hzero
    obtain ⟨w, hw, rfl⟩ := List.mem_map.mp hu
    obtain ⟨k, rfl⟩ := exists_half_of_mem w hw
    have hk : k ≠ 0 := by
      rintro rfl
      simp at hneg
    have hle := one_div_le_abs_div hk hzero hspan'
    have hhalf : |(k : ℚ) / between stamps| = 2 * -((k : ℚ) / 2 / between stamps) := by
      rw [← abs_of_neg hneg, abs_div, abs_div, abs_div, abs_of_pos (by norm_num : (0 : ℚ) < 2)]
      ring
    rw [hhalf] at hle
    linarith

theorem sum_sub_le_dot {us : List ℚ} {u : ℚ} (hu : u ∈ us) (hneg : u < 0) :
    us.sum - u ≤ dot us (us.map fun v => if v < 0 then 0 else 1) := by
  have hle (us : List ℚ) : us.sum ≤ dot us (us.map fun v => if v < 0 then 0 else 1) := by
    induction us with
    | nil => simp [dot]
    | cons v us ih =>
      rw [List.map_cons, dot_cons, List.sum_cons]
      split <;> linarith
  induction us with
  | nil => cases hu
  | cons v us ih =>
    rw [List.map_cons, dot_cons, List.sum_cons]
    rcases List.mem_cons.mp hu with rfl | hu
    · rw [if_pos hneg]
      linarith [hle us]
    · have := ih hu
      split <;> linarith

section
variable {stamps : List Timestamp} (hsorted : stamps.Pairwise fun a b => a.notAfter b = true)
variable (hmin : 2 ≤ stamps.length) (hmax : stamps.length ≤ 10 ^ 12)
variable (hnanos : ∀ t ∈ stamps, t.nanos < 2 * Timestamp.perSecond) (hspan : between stamps < 10 ^ 13)
variable (hwithin : ∀ series, moments series = stamps → (∀ s ∈ series, Priced currency s) →
  MeanWithin series currency e)
include hsorted hmin hmax hnanos hspan hwithin

/-- Where means stay within the prices, every choice of prices of zero and one bounds its exact mean. -/
theorem exists_near (ps : List Decimal) (hlength : ps.length = stamps.length)
    (hps : ∀ p ∈ ps, p = .zero ∨ p = .one) :
    ∃ m : ℚ, (∃ p ∈ ps, m ≤ p.value + 1 / 10 ^ 15) ∧ (∀ p : Decimal, (∀ q ∈ ps, q = p) → m = p.value) ∧
      |m - dot (shares stamps) (ps.map Decimal.value)| ≤
        (1 + |dot (shares stamps) (ps.map Decimal.value)|) / 10 ^ 28 := by
  obtain ⟨series, rfl, hamounts, hseries⟩ := exists_series currency hsorted hlength hps
  have hpriced : ∀ s ∈ series, Priced currency s := fun s hs => (hseries s hs).1
  rw [length_moments] at hmin hmax
  obtain ⟨m, hm, -, ⟨s, hs, hhigh⟩, hconst⟩ := hwithin series rfl hpriced
  obtain ⟨m', hm', happrox⟩ := exists_mean (e := e) hpriced hmin hmax hnanos hspan
  rw [hm, Except.ok.injEq, Option.some.injEq, Money.mk.injEq] at hm'
  obtain ⟨rfl, -⟩ := hm'
  refine ⟨m.value, ⟨_, (hseries s hs).2, hhigh⟩, fun p hp => ?_, hamounts ▸ happrox.error⟩
  exact hconst p.value fun s hs => by rw [hp _ (hseries s hs).2]

theorem sum_shares_eq_one : (shares stamps).sum = 1 := by
  by_contra hsum
  obtain ⟨m, -, hconst, herror⟩ := exists_near hsorted hmin hmax hnanos hspan hwithin
    (List.replicate stamps.length .one) List.length_replicate (by simp)
  have hone : m = 1 := by
    rw [hconst .one fun q hq => List.eq_of_mem_replicate hq, Decimal.value_one]
  have hdot : dot (shares stamps) ((List.replicate stamps.length Decimal.one).map Decimal.value) =
      (shares stamps).sum := by
    rw [dot_comm, List.map_replicate, Decimal.value_one, ← length_shares, dot_replicate, mul_one]
  have hfar := far_of_sum_ne (List.ne_nil_of_length_pos (by omega)) (abs_between_le hsorted hnanos hspan) hsum
  have hnear := abs_sub_abs_le_abs_sub (shares stamps).sum 1
  rw [abs_one] at hnear
  rw [hdot, hone, abs_sub_comm] at herror
  linarith

theorem shares_nonneg : ∀ u ∈ shares stamps, 0 ≤ u := by
  intro u hu
  by_contra! hneg
  have hunit : ∀ p ∈ (shares stamps).map fun v => if v < 0 then Decimal.zero else .one, p = .zero ∨ p = .one := by
    intro p hp
    obtain ⟨v, -, rfl⟩ := List.mem_map.mp hp
    split <;> simp
  obtain ⟨m, ⟨p, hp, hhigh⟩, -, herror⟩ := exists_near hsorted hmin hmax hnanos hspan hwithin _
    (by rw [List.length_map, length_shares]) hunit
  have hle : p.value ≤ 1 := by
    rcases hunit p hp with rfl | rfl <;> simp
  have hclip : (((shares stamps).map fun v => if v < 0 then Decimal.zero else .one).map Decimal.value) =
      (shares stamps).map fun v => if v < 0 then 0 else 1 := by
    rw [List.map_map]
    refine List.map_congr_left fun v _ => ?_
    simp only [Function.comp_apply, apply_ite Decimal.value, Decimal.value_zero, Decimal.value_one]
  have hfar := far_of_neg (abs_between_le hsorted hnanos hspan) hu hneg
  have hdot := sum_sub_le_dot hu hneg
  rw [sum_shares_eq_one hsorted hmin hmax hnanos hspan hwithin] at hdot
  rw [hclip, abs_le, abs_of_pos (by linarith)] at herror
  linarith

theorem balanced_of_meanWithin : Balanced stamps :=
  (balanced_iff (List.ne_nil_of_length_pos (by omega))).mpr
    ⟨sum_shares_eq_one hsorted hmin hmax hnanos hspan hwithin,
      shares_nonneg hsorted hmin hmax hnanos hspan hwithin⟩

end

/-- The mean stays within the prices seen, whatever they are, if and only if the moments are balanced. -/
theorem meanWithin_iff_balanced {stamps : List Timestamp}
    (hsorted : stamps.Pairwise fun a b => a.notAfter b = true)
    (hmin : 2 ≤ stamps.length) (hmax : stamps.length ≤ 10 ^ 12)
    (hnanos : ∀ t ∈ stamps, t.nanos < 2 * Timestamp.perSecond) (hspan : between stamps < 10 ^ 13) :
    (∀ series, moments series = stamps → (∀ s ∈ series, Priced currency s) → MeanWithin series currency e) ↔
      Balanced stamps := by
  refine ⟨balanced_of_meanWithin hsorted hmin hmax hnanos hspan, fun hbalanced series hseries hpriced => ?_⟩
  subst hseries
  rw [length_moments] at hmin hmax
  exact meanWithin_of_balanced hpriced hmin hmax hnanos hspan hbalanced

def hourly : List Timestamp := [⟨1700000000, 0⟩, ⟨1700003600, 0⟩, ⟨1700007200, 0⟩]

theorem meanWithin_hourly : Balanced hourly ∧
    ∀ series, moments series = hourly → (∀ s ∈ series, Priced .usd s) →
      MeanWithin series .usd (RateTable.ofMain .usd).exchange := by
  have hsorted : hourly.Pairwise fun a b => a.notAfter b = true := by decide
  have hbalanced : Balanced hourly := balanced_of_whole hsorted (by decide)
  exact ⟨hbalanced,
    (meanWithin_iff_balanced hsorted (by decide) (by decide) (by decide) (by decide)).mpr hbalanced⟩

def steady : List Snapshot :=
  [0, 1500000, 3000000].map fun nanos => ⟨⟨1700000000, nanos⟩, none, ⟨.ofUInt64 100, .usd⟩⟩

def twoThirds : Decimal := ⟨66666666666666666666666666667, 27, by decide, by decide⟩

/-- Two gaps of one and a half milliseconds count as one each, but the span of them as three. -/
theorem mean_steady_eq_twoThirds :
    mean steady .usd (RateTable.ofMain .usd).exchange = .ok (some ⟨twoThirds, .usd⟩) ∧
      ¬ ∀ series : List Snapshot, 2 ≤ series.length → series.length ≤ 10 ^ 12 →
        (∀ s ∈ series, Priced .usd s) → (∀ t ∈ moments series, t.nanos < 2 * Timestamp.perSecond) →
          between (moments series) < 10 ^ 13 → MeanWithin series .usd (RateTable.ofMain .usd).exchange := by
  have hsorted : sorted steady = steady := sorted_of_pairwise (by decide)
  have hmean : mean steady .usd (RateTable.ofMain .usd).exchange = .ok (some ⟨twoThirds, .usd⟩) := by
    rw [mean_eq (by decide), hsorted]
    decide +kernel
  refine ⟨hmean, fun h => ?_⟩
  have hpriced : ∀ s ∈ steady, Priced .usd s ∧ s.price.amount.value = 100 := by
    intro s hs
    obtain ⟨nanos, -, rfl⟩ := List.mem_map.mp hs
    have hvalue : (Decimal.ofUInt64 100).value = 100 := by
      norm_num [Decimal.value, Decimal.ofUInt64, show (100 : UInt64).toNat = 100 from rfl]
    refine ⟨⟨rfl, ?_, ?_, Nat.zero_le 4⟩, hvalue⟩ <;> simp only [hvalue] <;> norm_num
  obtain ⟨m, hm, ⟨s, hs, hlow⟩, -⟩ := h steady (by decide) (by decide) (fun s hs => (hpriced s hs).1)
    (by rw [moments, hsorted]; decide) (by rw [moments, hsorted]; decide)
  rw [hmean, Except.ok.injEq, Option.some.injEq, Money.mk.injEq] at hm
  rw [(hpriced s hs).2, ← hm.1] at hlow
  norm_num [Decimal.value, twoThirds] at hlow

end Storefront.History

import Storefront.Proofs.Attempt
import Storefront.Proofs.History.Weights

/-! # The mean of a price history

The sum that a mean starts from is exact, so the mean is the weighted one up to the last digit of a
division. It stays within the prices seen if and only if the weights are balanced.
-/
namespace Storefront.History
variable {currency : Currency} {e : Exchange}

/-- A price of the target currency, in the range of everyday amounts. -/
structure Priced (currency : Currency) (s : Snapshot) : Prop where
  currency : s.price.currency = currency
  nonneg : 0 ≤ s.price.amount.value
  lt : s.price.amount.value < 10 ^ 8
  scale : s.price.amount.scale ≤ 4

def amounts (series : List Snapshot) : List ℚ := series.map fun s => s.price.amount.value

def dot (us ps : List ℚ) : ℚ := (List.zipWith (· * ·) us ps).sum

theorem Priced.abs_amount_le {s : Snapshot} (h : Priced currency s) : |s.price.amount.value| ≤ 10 ^ 8 :=
  abs_le.mpr ⟨by linarith [h.nonneg], h.lt.le⟩

theorem abs_amounts_le {series : List Snapshot} (hpriced : ∀ s ∈ series, Priced currency s) :
    ∀ p ∈ amounts series, |p| ≤ 10 ^ 8 := by
  intro p hp
  obtain ⟨s, hs, rfl⟩ := List.mem_map.mp hp
  exact (hpriced s hs).abs_amount_le

theorem exists_halfGap (a b : Option Timestamp) (h : |gap a b| < 2 ^ 64) :
    ∃ d, halfGap a b = .ok d ∧ d.value = gap a b / 2 ∧ d.scale ≤ 2 := by
  match a, b with
  | some a, some b =>
    rw [gap, Int.abs_eq_natAbs] at h
    obtain ⟨n, d, hn, hd, hv, hs⟩ := Decimal.exists_half (n := b.millisSince a) (by omega)
    refine ⟨d, ?_, hv, hs⟩
    rw [halfGap, decimal, Attempt.bind_eq_ok_iff]
    exact ⟨n, Attempt.ofOption_eq_ok_iff.mpr hn, Attempt.ofOption_eq_ok_iff.mpr hd⟩
  | some _, none => exact ⟨.zero, rfl, by simp [gap], by decide⟩
  | none, _ => exact ⟨.zero, rfl, by simp [gap], by decide⟩

theorem dot_cons (u p : ℚ) (us ps : List ℚ) : dot (u :: us) (p :: ps) = u * p + dot us ps := rfl

theorem abs_dot_le (us : List ℚ) {ps : List ℚ} {bound : ℚ} (hbound : 0 ≤ bound)
    (hps : ∀ p ∈ ps, |p| ≤ bound) : |dot us ps| ≤ bound * (us.map abs).sum := by
  induction us generalizing ps with
  | nil => simp [dot]
  | cons u us ih =>
    cases ps with
    | nil => simpa [dot] using mul_nonneg hbound (add_nonneg (abs_nonneg u) (List.sum_nonneg (by simp)))
    | cons p ps =>
      obtain ⟨hp, hps⟩ := List.forall_mem_cons.mp hps
      calc |u * p + dot us ps|
        _ ≤ |u * p| + |dot us ps| := abs_add_le _ _
        _ ≤ bound * |u| + bound * (us.map abs).sum := by
          rw [abs_mul, mul_comm]
          exact add_le_add (mul_le_mul_of_nonneg_right hp (abs_nonneg u)) (ih hps)
        _ = bound * ((u :: us).map abs).sum := by
          rw [List.map_cons, List.sum_cons, mul_add]

theorem dot_map_div (us ps : List ℚ) (c : ℚ) : dot (us.map (· / c)) ps = dot us ps / c := by
  induction us generalizing ps with
  | nil => simp [dot]
  | cons u us ih =>
    cases ps with
    | nil => simp [dot]
    | cons p ps =>
      rw [List.map_cons, dot_cons, dot_cons, ih]
      ring

theorem dot_comm (us ps : List ℚ) : dot us ps = dot ps us := by
  rw [dot, dot, List.zipWith_comm]
  simp only [mul_comm]

theorem dot_replicate (ps : List ℚ) (c : ℚ) : dot (List.replicate ps.length c) ps = ps.sum * c := by
  induction ps with
  | nil => simp [dot]
  | cons p ps ih =>
    rw [List.length_cons, List.replicate_succ, dot_cons, ih, List.sum_cons]
    ring

theorem le_dot {us ps : List ℚ} {low : ℚ} (hlength : us.length = ps.length) (hus : ∀ u ∈ us, 0 ≤ u)
    (hps : ∀ p ∈ ps, low ≤ p) : low * us.sum ≤ dot us ps := by
  induction us generalizing ps with
  | nil => simp [dot]
  | cons u us ih =>
    cases ps with
    | nil => simp at hlength
    | cons p ps =>
      obtain ⟨hu, hus⟩ := List.forall_mem_cons.mp hus
      obtain ⟨hp, hps⟩ := List.forall_mem_cons.mp hps
      have hrest := ih (by simpa using hlength) hus hps
      have hfirst := mul_le_mul_of_nonneg_left hp hu
      rw [dot_cons, List.sum_cons]
      linarith

theorem dot_neg (us ps : List ℚ) : dot us (ps.map Neg.neg) = - dot us ps := by
  induction us generalizing ps with
  | nil => simp [dot]
  | cons u us ih =>
    cases ps with
    | nil => simp [dot]
    | cons p ps =>
      rw [List.map_cons, dot_cons, dot_cons, ih]
      ring

theorem dot_le {us ps : List ℚ} {high : ℚ} (hlength : us.length = ps.length) (hus : ∀ u ∈ us, 0 ≤ u)
    (hps : ∀ p ∈ ps, p ≤ high) : dot us ps ≤ high * us.sum := by
  have hneg : -high * us.sum ≤ dot us (ps.map Neg.neg) := le_dot (by simpa using hlength) hus
    (List.forall_mem_map.mpr fun p hp => neg_le_neg (hps p hp))
  rw [dot_neg] at hneg
  linarith

/-- The sum that is reached from `sum` by weighing a series that follows `last`, where no half of a gap, weight, product
or sum is rounded. -/
inductive Weighs : Option Timestamp → Decimal → List Snapshot → Decimal → Prop
  | nil {last : Option Timestamp} {sum : Decimal} : Weighs last sum [] sum
  | cons {last : Option Timestamp} {s : Snapshot} {rest : List Snapshot}
      {sum before after weight product next total : Decimal}
      (hbefore : halfGap last (some s.timestamp) = .ok before)
      (hbefore_value : before.value = gap last (some s.timestamp) / 2)
      (hafter : halfGap (some s.timestamp) (rest.head?.map Snapshot.timestamp) = .ok after)
      (hafter_value : after.value = gap (some s.timestamp) (rest.head?.map Snapshot.timestamp) / 2)
      (hweight : before.ExactSum after weight) (hproduct : weight.ExactProduct s.price.amount product)
      (hnext : sum.ExactSum product next) (hrest : Weighs (some s.timestamp) next rest total) :
      Weighs last sum (s :: rest) total

/-- The sum that is reached from `sum` by adding up prices, where no sum is rounded. -/
inductive Sums : Decimal → List Snapshot → Decimal → Prop
  | nil {sum : Decimal} : Sums sum [] sum
  | cons {s : Snapshot} {rest : List Snapshot} {sum next total : Decimal}
      (hnext : sum.ExactSum s.price.amount next) (hrest : Sums next rest total) : Sums sum (s :: rest) total

section
variable {series : List Snapshot} {last : Option Timestamp} {sum total : Decimal}

theorem Weighs.eq_ok (h : Weighs last sum series total) (hcurrency : ∀ s ∈ series, s.price.currency = currency) :
    weigh currency e last sum series = .ok total := by
  induction h with
  | nil => rfl
  | cons hbefore _ hafter _ hweight hproduct hnext _ ih =>
    obtain ⟨hs, hrest⟩ := List.forall_mem_cons.mp hcurrency
    simp only [weigh, Attempt.bind_eq_ok_iff, Attempt.ofOption_eq_ok_iff]
    exact ⟨_, hbefore, _, hafter, _, if_pos hs, _, hweight.1, _, by rw [hproduct.1]; exact hnext.1, ih hrest⟩

theorem Weighs.value (h : Weighs last sum series total) :
    total.value = sum.value +
      dot (weightsAfter (gap last (series.head?.map Snapshot.timestamp)) (series.map Snapshot.timestamp))
        (amounts series) := by
  induction h with
  | nil => simp [weightsAfter, dot]
  | cons _ hbefore_value _ hafter_value hweight hproduct hnext _ ih =>
    rw [ih, hnext.2, hproduct.2, hweight.2, hbefore_value, hafter_value, ← List.head?_map]
    simp only [List.head?_cons, Option.map_some, List.map_cons, weightsAfter, amounts, dot, List.zipWith_cons_cons,
      List.sum_cons]
    ring

theorem Sums.eq_ok (h : Sums sum series total) (hcurrency : ∀ s ∈ series, s.price.currency = currency) :
    Money.sumFrom currency e sum (series.map Snapshot.price) = .ok total := by
  induction h with
  | nil => rfl
  | cons hnext _ ih =>
    obtain ⟨hs, hrest⟩ := List.forall_mem_cons.mp hcurrency
    simp only [List.map_cons, Money.sumFrom, Attempt.bind_eq_ok_iff, Attempt.ofOption_eq_ok_iff]
    exact ⟨_, if_pos hs, _, hnext.1, ih hrest⟩

theorem Sums.value (h : Sums sum series total) : total.value = sum.value + (amounts series).sum := by
  induction h with
  | nil => simp [amounts]
  | cons hnext _ ih =>
    rw [ih, hnext.2, amounts, amounts, List.map_cons, List.sum_cons, add_assoc]

end

theorem exists_weighs {series : List Snapshot} (hpriced : ∀ s ∈ series, Priced currency s)
    (last : Option Timestamp) (before : ℤ) (sum : Decimal)
    (hlast : gap last (series.head?.map Snapshot.timestamp) = before) (hbefore : |before| < 2 ^ 64)
    (hgaps : ∀ g ∈ gaps (series.map Snapshot.timestamp), |g| < 2 ^ 64) (hscale : sum.scale ≤ 6)
    (hbound : |sum.value| +
      10 ^ 8 * ((weightsAfter before (series.map Snapshot.timestamp)).map abs).sum ≤ 10 ^ 22) :
    ∃ total, Weighs last sum series total := by
  induction series generalizing last before sum with
  | nil => exact ⟨sum, .nil⟩
  | cons s rest ih =>
    obtain ⟨hs, hrest⟩ := List.forall_mem_cons.mp hpriced
    obtain ⟨hafter, hgaps⟩ := List.forall_mem_cons.mp hgaps
    simp only [List.map_cons, weightsAfter, List.sum_cons] at hbound
    obtain ⟨a, ha, hav, has⟩ := exists_halfGap (some s.timestamp) (rest.map Snapshot.timestamp).head? hafter
    set after := gap (some s.timestamp) (rest.map Snapshot.timestamp).head? with hafter_eq
    set weight : ℚ := before / 2 + after / 2 with hweight_eq
    have hrestsum : 0 ≤ ((weightsAfter after (rest.map Snapshot.timestamp)).map abs).sum :=
      List.sum_nonneg (by simp)
    have hproduct : |weight * s.price.amount.value| ≤ 10 ^ 8 * |weight| := by
      rw [abs_mul, mul_comm]
      exact mul_le_mul_of_nonneg_right hs.abs_amount_le (abs_nonneg _)
    have hsum := abs_nonneg sum.value
    have hweight := abs_nonneg weight
    obtain ⟨b, hb, hbv, hbs⟩ := exists_halfGap last (some s.timestamp) (hlast ▸ hbefore)
    have hval : b.value + a.value = weight := by
      simp only [List.head?_cons, Option.map_some] at hlast
      rw [hbv, hav, hlast]
    obtain ⟨w, hw, hwv, hws⟩ := Decimal.exists_add hbs has (by rw [hval]; linarith)
    obtain ⟨p, hp, hpv, hps⟩ := Decimal.exists_mul hws hs.scale (by decide) (by
      rw [hwv, hval]
      show |weight * s.price.amount.value| * 10 ^ 6 < 2 ^ 96
      linarith)
    have hpv' : p.value = weight * s.price.amount.value := by rw [hpv, hwv, hval]
    have hnext : |sum.value + weight * s.price.amount.value| ≤ |sum.value| + 10 ^ 8 * |weight| :=
      (abs_add_le _ _).trans (by linarith)
    obtain ⟨t, ht, htv, hts⟩ := Decimal.exists_add hscale hps (by rw [hpv']; linarith)
    have hlast' : gap (some s.timestamp) (rest.head?.map Snapshot.timestamp) = after := by
      rw [hafter_eq, List.head?_map]
    obtain ⟨total, htotal⟩ := ih hrest (some s.timestamp) after t hlast' hafter hgaps hts (by
      rw [htv, hpv']
      linarith)
    rw [List.head?_map] at ha
    exact ⟨total, .cons hb hbv ha (by rw [hlast', hav]) ⟨hw, hwv⟩ ⟨hp, hpv⟩ ⟨ht, htv⟩ htotal⟩

theorem exists_sums {series : List Snapshot} (hpriced : ∀ s ∈ series, Priced currency s) (sum : Decimal)
    (hscale : sum.scale ≤ 4) (hbound : |sum.value| + 10 ^ 8 * series.length ≤ 10 ^ 22) :
    ∃ total, Sums sum series total := by
  induction series generalizing sum with
  | nil => exact ⟨sum, .nil⟩
  | cons s rest ih =>
    obtain ⟨hs, hrest⟩ := List.forall_mem_cons.mp hpriced
    rw [List.length_cons] at hbound
    push_cast at hbound
    have hlength : (0 : ℚ) ≤ rest.length := Nat.cast_nonneg _
    have hprice := hs.abs_amount_le
    have hnext := abs_add_le sum.value s.price.amount.value
    obtain ⟨t, ht, htv, hts⟩ := Decimal.exists_add hscale hs.scale (by linarith)
    obtain ⟨total, htotal⟩ := ih hrest t hts (by
      rw [htv]
      linarith)
    exact ⟨total, .cons ⟨ht, htv⟩ htotal⟩

theorem mean_eq {series : List Snapshot} (h : 2 ≤ series.length) : mean series currency e =
    if span (sorted series) = 0 then Money.average ((sorted series).map Snapshot.price) currency e
    else do
      let sum ← weigh currency e none Decimal.zero (sorted series)
      let amount ← Attempt.ofOption .outOfRange (sum.div (← decimal (span (sorted series))))
      return some ⟨amount, currency⟩ := by
  match series with
  | a :: b :: rest => rfl

theorem sorted_perm (series : List Snapshot) : (sorted series).Perm series := List.mergeSort_perm _ _

theorem moments_pairwise (series : List Snapshot) :
    (moments series).Pairwise fun a b => a.notAfter b = true := by
  refine List.pairwise_map.mpr (List.pairwise_mergeSort (fun a b c => ?_) (fun a b => ?_) series)
  · exact Timestamp.notAfter_trans
  · exact Timestamp.notAfter_total a.timestamp b.timestamp

theorem length_moments (series : List Snapshot) : (moments series).length = series.length := by
  rw [moments, List.length_map, (sorted_perm series).length_eq]

theorem span_sorted (series : List Snapshot) : span (sorted series) = between (moments series) :=
  span_eq _

/-- The mean in exact arithmetic. -/
def exactMean (series : List Snapshot) : ℚ := dot (shares (moments series)) (amounts (sorted series))

/-- The dividend and the divisor of a mean, where neither is rounded. -/
inductive Totals (series : List Snapshot) : Decimal → Decimal → Prop
  | summed {sum n : Decimal} (hspan : between (moments series) = 0) (hsum : Sums .zero (sorted series) sum)
      (hn : Decimal.ofParts? series.length 0 = some n) : Totals series sum n
  | weighed {sum n : Decimal} (hspan : between (moments series) ≠ 0) (hsum : Weighs none .zero (sorted series) sum)
      (hn : Decimal.ofParts? (between (moments series)) 0 = some n) : Totals series sum n

theorem exists_whole {n : ℤ} (h : |n| < 2 ^ 64) : ∃ d, Decimal.ofParts? n 0 = some d := by
  rw [Int.abs_eq_natAbs] at h
  obtain ⟨d, hd, -⟩ := Decimal.exists_ofParts? (c := n) (s := 0)
    ((by omega : n.natAbs < 2 ^ 64).trans (by decide)) (by decide)
  exact ⟨d, hd⟩

section
variable {series : List Snapshot} {sum n m : Decimal}

theorem value_of_whole {k : ℤ} (h : Decimal.ofParts? k 0 = some n) : n.value = k := by
  obtain ⟨hcoeff, hscale⟩ := Decimal.ofParts?_eq_some h
  rw [Decimal.value, hcoeff, hscale, pow_zero, div_one]

theorem Totals.mean_eq (h : Totals series sum n) (hmin : 2 ≤ series.length)
    (hcurrency : ∀ s ∈ series, s.price.currency = currency) (hdiv : sum.div n = some m) :
    mean series currency e = .ok (some ⟨m, currency⟩) := by
  have hperm : (sorted series).Perm series := sorted_perm series
  have hcurrency' : ∀ s ∈ sorted series, s.price.currency = currency :=
    fun s hs => hcurrency s (hperm.mem_iff.mp hs)
  rw [History.mean_eq hmin, span_sorted]
  cases h with
  | summed hspan hsum hn =>
    have hnonempty : ((sorted series).map Snapshot.price).isEmpty = false := by
      rw [List.isEmpty_map, List.isEmpty_eq_false_iff]
      exact List.ne_nil_of_length_pos (by rw [hperm.length_eq]; omega)
    rw [if_pos hspan, Money.average, hnonempty]
    simp only [Bool.false_eq_true, if_false, Attempt.bind_eq_ok_iff, Money.share, Attempt.ofOption_eq_ok_iff,
      List.length_map, hperm.length_eq, hn, Option.bind_some]
    exact ⟨sum, hsum.eq_ok hcurrency', m, hdiv, rfl⟩
  | weighed hspan hsum hn =>
    simp only [if_neg hspan, Attempt.bind_eq_ok_iff, decimal, Attempt.ofOption_eq_ok_iff]
    exact ⟨sum, hsum.eq_ok hcurrency', n, hn, m, hdiv, rfl⟩

theorem Totals.divisor_ne_zero (h : Totals series sum n) (hmin : 2 ≤ series.length) : n.value ≠ 0 := by
  cases h with
  | summed _ _ hn =>
    rw [value_of_whole hn]
    exact_mod_cast (by omega : series.length ≠ 0)
  | weighed hspan _ hn =>
    rw [value_of_whole hn]
    exact_mod_cast hspan

theorem Totals.exactMean_eq (h : Totals series sum n) : exactMean series = sum.value / n.value := by
  have hlength : (amounts (sorted series)).length = series.length := by
    rw [amounts, List.length_map, (sorted_perm series).length_eq]
  rw [exactMean, shares]
  cases h with
  | summed hspan hsum hn =>
    rw [if_pos hspan, length_moments, ← hlength, dot_replicate, hsum.value, value_of_whole hn, Decimal.value_zero,
      zero_add, hlength, mul_one_div, Int.cast_natCast]
  | weighed hspan hsum hn =>
    rw [if_neg hspan, dot_map_div, hsum.value, value_of_whole hn, Decimal.value_zero, zero_add]
    rfl

end

section
variable {series : List Snapshot}
variable (hnanos : ∀ t ∈ moments series, t.nanos < 2 * Timestamp.perSecond) (hspan : between (moments series) < 10 ^ 13)
include hnanos hspan

theorem sum_abs_weights_le : ((weights (moments series)).map abs).sum ≤ 61 * 10 ^ 12 := by
  have hgaps : ((((gaps (moments series)).map abs).sum : ℤ) : ℚ) ≤ 61 * 10 ^ 12 := by
    exact_mod_cast sum_abs_gaps_le (moments_pairwise series) hnanos hspan
  have hweights := sum_abs_weightsAfter 0 (moments series)
  rw [Int.cast_zero, abs_zero, zero_div, zero_add] at hweights
  exact hweights.trans hgaps

theorem abs_exactMean_le (hpriced : ∀ s ∈ series, Priced currency s) : |exactMean series| ≤ 61 * 10 ^ 20 := by
  have hbound := abs_dot_le (shares (moments series)) (by norm_num)
    (abs_amounts_le fun s hs => hpriced s ((sorted_perm series).mem_iff.mp hs))
  have hshares : ((shares (moments series)).map abs).sum ≤ 61 * 10 ^ 12 :=
    sum_abs_shares_le_of_gaps (by norm_num) fun hzero => by
      have hgaps := sum_abs_gaps_le (moments_pairwise series) hnanos hspan
      have hone : 1 ≤ |between (moments series)| := Int.one_le_abs hzero
      exact_mod_cast hgaps.trans (le_mul_of_one_le_right (by norm_num) hone)
  rw [exactMean]
  linarith

/-- Everyday prices are added up and weighed without any rounding. -/
theorem exists_totals (hpriced : ∀ s ∈ series, Priced currency s) (hmax : series.length ≤ 10 ^ 12) :
    ∃ sum n, Totals series sum n := by
  have hperm : (sorted series).Perm series := sorted_perm series
  have hpriced' : ∀ s ∈ sorted series, Priced currency s := fun s hs => hpriced s (hperm.mem_iff.mp hs)
  by_cases hzero : between (moments series) = 0
  · have hmax' : (series.length : ℚ) ≤ 10 ^ 12 := by exact_mod_cast hmax
    obtain ⟨sum, hsum⟩ := exists_sums hpriced' Decimal.zero (by decide) (by
      rw [Decimal.value_zero, abs_zero, hperm.length_eq]
      linarith)
    obtain ⟨n, hn⟩ := exists_whole (n := series.length) (by
      rw [abs_of_nonneg (Int.natCast_nonneg _)]
      omega)
    exact ⟨sum, n, .summed hzero hsum hn⟩
  · have hweights := sum_abs_weights_le hnanos hspan
    obtain ⟨sum, hsum⟩ := exists_weighs hpriced' none 0 Decimal.zero rfl (by norm_num)
      (fun g hg => by
        have := List.single_le_sum (by simp) _ (List.mem_map_of_mem (f := abs) hg)
        have := sum_abs_gaps_le (moments_pairwise series) hnanos hspan
        rw [moments] at this
        linarith)
      (by decide) (by
        rw [Decimal.value_zero, abs_zero]
        rw [weights, moments] at hweights
        linarith)
    have hbetween := abs_between_le (moments_pairwise series) hnanos hspan
    obtain ⟨n, hn⟩ := exists_whole (n := between (moments series)) (by linarith)
    exact ⟨sum, n, .weighed hzero hsum hn⟩

end

/-- The law of the mean: it is exact up to the last digit. -/
theorem exists_mean {series : List Snapshot} (hpriced : ∀ s ∈ series, Priced currency s)
    (hmin : 2 ≤ series.length) (hmax : series.length ≤ 10 ^ 12)
    (hnanos : ∀ t ∈ moments series, t.nanos < 2 * Timestamp.perSecond)
    (hspan : between (moments series) < 10 ^ 13) :
    ∃ m : Decimal, mean series currency e = .ok (some ⟨m, currency⟩) ∧
      m.Approximates (exactMean series) := by
  obtain ⟨sum, n, htotals⟩ := exists_totals hnanos hspan hpriced hmax
  have hbound := abs_exactMean_le hnanos hspan hpriced
  rw [htotals.exactMean_eq] at hbound ⊢
  obtain ⟨m, hm, happrox⟩ := Decimal.exists_div (a := sum) (htotals.divisor_ne_zero hmin) (by linarith)
  exact ⟨m, htotals.mean_eq hmin (fun s hs => (hpriced s hs).currency) hm, happrox⟩

end Storefront.History

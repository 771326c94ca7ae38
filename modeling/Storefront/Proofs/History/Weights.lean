import Mathlib.Algebra.Order.Field.Rat
import Mathlib.Tactic
import Storefront.History
import Storefront.Proofs.Decimal.Division
import Storefront.Proofs.Time.Order

/-! # The weights of moments

A mean over time weighs each moment by half the gap before it and half the gap after it. Gaps are cut
to whole milliseconds one by one, and so is the span that the weights are shared over, so the two
agree for some moments and not for others.
-/
namespace Storefront.History

/-- The milliseconds between two moments; next to nothing there are none. -/
def gap : Option Timestamp → Option Timestamp → ℤ
  | some a, some b => b.millisSince a
  | _, _ => 0

def gaps : List Timestamp → List ℤ
  | [] => []
  | t :: rest => gap (some t) rest.head? :: gaps rest

/-- The weight of each moment when the gap before the first is `before`. -/
def weightsAfter (before : ℤ) : List Timestamp → List ℚ
  | [] => []
  | t :: rest => (before / 2 + gap (some t) rest.head? / 2) :: weightsAfter (gap (some t) rest.head?) rest

def weights (stamps : List Timestamp) : List ℚ := weightsAfter 0 stamps

def between (stamps : List Timestamp) : ℤ := gap stamps.head? stamps.getLast?

def moments (series : List Snapshot) : List Timestamp := (sorted series).map Snapshot.timestamp

/-- The weights share out the span and none of them pulls the other way. -/
def Balanced (stamps : List Timestamp) : Prop :=
  between stamps = 0 ∨ (gaps stamps).sum = between stamps ∧ ∀ w ∈ weights stamps, 0 ≤ w / between stamps

theorem length_weightsAfter (before : ℤ) (stamps : List Timestamp) :
    (weightsAfter before stamps).length = stamps.length := by
  induction stamps generalizing before with
  | nil => rfl
  | cons t rest ih => simp [weightsAfter, ih]

theorem sum_weightsAfter (before : ℤ) (t : Timestamp) (rest : List Timestamp) :
    (weightsAfter before (t :: rest)).sum = before / 2 + (gaps (t :: rest)).sum := by
  induction rest generalizing before t with
  | nil => simp [weightsAfter, gaps, gap]
  | cons u rest ih =>
    rw [weightsAfter, List.sum_cons, ih]
    simp only [gaps, List.sum_cons]
    push_cast
    ring

theorem sum_abs_weightsAfter (before : ℤ) (stamps : List Timestamp) :
    ((weightsAfter before stamps).map abs).sum ≤ |(before : ℚ)| / 2 + (((gaps stamps).map abs).sum : ℤ) := by
  induction stamps generalizing before with
  | nil =>
    simp only [weightsAfter, gaps, List.map_nil, List.sum_nil, Int.cast_zero, add_zero]
    positivity
  | cons t rest ih =>
    have hrest := ih (gap (some t) rest.head?)
    have habs := abs_add_le ((before : ℚ) / 2) (gap (some t) rest.head? / 2)
    rw [abs_div, abs_div, abs_of_pos (by norm_num : (0 : ℚ) < 2)] at habs
    simp only [weightsAfter, gaps, List.map_cons, List.sum_cons, Int.cast_add, Int.cast_abs]
    linarith

/-- The part of the whole that each moment has in the mean. -/
def shares (stamps : List Timestamp) : List ℚ :=
  if between stamps = 0 then List.replicate stamps.length (1 / stamps.length)
  else (weights stamps).map (· / between stamps)

theorem length_shares (stamps : List Timestamp) : (shares stamps).length = stamps.length := by
  unfold shares
  split <;> simp [weights, length_weightsAfter]

theorem sum_map_div (us : List ℚ) (c : ℚ) : (us.map (· / c)).sum = us.sum / c := by
  induction us with
  | nil => simp
  | cons u us ih => rw [List.map_cons, List.sum_cons, List.sum_cons, ih, add_div]

theorem sum_abs_shares_le_of_gaps {stamps : List Timestamp} {c : ℚ} (hc : 1 ≤ c)
    (hgaps : between stamps ≠ 0 → (((gaps stamps).map abs).sum : ℤ) ≤ c * |(between stamps : ℚ)|) :
    ((shares stamps).map abs).sum ≤ c := by
  rw [shares]
  split
  · rw [List.map_replicate, List.sum_replicate, nsmul_eq_mul, abs_of_nonneg (by positivity), mul_one_div]
    exact (div_self_le_one _).trans hc
  · rename_i hzero
    have hpos : (0 : ℚ) < |(between stamps : ℚ)| := by
      rw [abs_pos]
      exact_mod_cast hzero
    have hweights := sum_abs_weightsAfter 0 stamps
    rw [Int.cast_zero, abs_zero, zero_div, zero_add] at hweights
    have habs : ((weights stamps).map (· / (between stamps : ℚ))).map abs =
        ((weights stamps).map abs).map (· / |(between stamps : ℚ)|) := by
      rw [List.map_map, List.map_map]
      exact List.map_congr_left fun w _ => abs_div w _
    rw [habs, sum_map_div, div_le_iff₀ hpos]
    exact hweights.trans (hgaps hzero)

theorem sum_shares {stamps : List Timestamp} (h : stamps ≠ []) :
    (shares stamps).sum = if between stamps = 0 then 1 else ((gaps stamps).sum : ℚ) / between stamps := by
  have hpos : (0 : ℚ) < stamps.length := by exact_mod_cast List.length_pos_iff.mpr h
  unfold shares
  split
  · rw [List.sum_replicate, nsmul_eq_mul, mul_one_div_cancel hpos.ne']
  · obtain ⟨t, rest, rfl⟩ := List.exists_cons_of_ne_nil h
    simp [sum_map_div, weights, sum_weightsAfter]

theorem balanced_iff {stamps : List Timestamp} (h : stamps ≠ []) :
    Balanced stamps ↔ (shares stamps).sum = 1 ∧ ∀ u ∈ shares stamps, 0 ≤ u := by
  rw [sum_shares h, Balanced, shares]
  split
  · rename_i hzero
    refine iff_of_true (.inl hzero) ⟨rfl, fun u hu => ?_⟩
    rw [List.eq_of_mem_replicate hu]
    positivity
  · rename_i hzero
    have hzero' : (between stamps : ℚ) ≠ 0 := by exact_mod_cast hzero
    rw [or_iff_right hzero, div_eq_one_iff_eq hzero', Int.cast_inj, List.forall_mem_map]

theorem span_eq (series : List Snapshot) : span series = between (series.map Snapshot.timestamp) := by
  unfold span between
  rw [List.head?_map, List.getLast?_map]
  cases series.head? <;> cases series.getLast? <;> rfl

theorem sorted_of_pairwise {series : List Snapshot}
    (h : (series.map Snapshot.timestamp).Pairwise fun a b => a.notAfter b = true) : sorted series = series :=
  List.mergeSort_of_pairwise (List.pairwise_map.mp h)

/-- A count that no moment in order exceeds: it grows at least as fast as the time between two moments,
whatever leap seconds there are. -/
def clock (t : Timestamp) : ℤ := 6000000000 * t.seconds + t.nanos

section
variable {a b : Timestamp}

theorem since_near (a b : Timestamp) :
    ∃ adjust : ℤ, |adjust| ≤ 1 ∧ (a.secondOfDay = b.secondOfDay → adjust = 0) ∧
      b.since a = (b.seconds - a.seconds + adjust) * 1000000000 + (b.nanos - a.nanos) := by
  refine ⟨_, ?_, ?_, rfl⟩
  · split_ifs <;> simp
  · intro h
    simp [h]

theorem abs_since_le (h : a.notAfter b = true) (ha : a.nanos < 2 * Timestamp.perSecond)
    (hb : b.nanos < 2 * Timestamp.perSecond) : |b.since a| ≤ clock b - clock a := by
  obtain ⟨adjust, hadjust, hday, hsince⟩ := since_near a b
  have hsame : a.seconds = b.seconds → adjust = 0 := fun hs => hday (by simp [Timestamp.secondOfDay, hs])
  rw [Timestamp.notAfter_iff] at h
  simp only [Timestamp.perSecond] at ha hb
  rw [hsince]
  simp only [clock, abs_le] at hadjust ⊢
  omega

theorem clock_le (ha : a.nanos < 2 * Timestamp.perSecond) (hb : b.nanos < 2 * Timestamp.perSecond)
    (hspan : b.millisSince a < 10 ^ 13) : clock b - clock a ≤ 61 * 10 ^ 18 := by
  obtain ⟨adjust, hadjust, -, hsince⟩ := since_near a b
  have hlt : b.since a < 10 ^ 19 := by
    by_contra hge
    rw [Timestamp.millisSince, Int.tdiv_eq_ediv_of_nonneg (by omega)] at hspan
    omega
  simp only [Timestamp.perSecond] at ha hb
  rw [hsince] at hlt
  simp only [clock, abs_le] at hadjust ⊢
  omega

theorem abs_millisSince_le (a b : Timestamp) : 1000000 * |b.millisSince a| ≤ |b.since a| := by
  rw [Timestamp.millisSince, Int.abs_eq_natAbs, Int.abs_eq_natAbs, Int.natAbs_tdiv]
  exact_mod_cast Nat.mul_div_le _ _

end

section
variable {stamps : List Timestamp}

/-- The gaps of a series in order add up to no more than its clock counts. -/
theorem sum_abs_gaps_le_clock {t : Timestamp} {rest : List Timestamp}
    (hsorted : (t :: rest).Pairwise fun a b => a.notAfter b = true)
    (hnanos : ∀ u ∈ t :: rest, u.nanos < 2 * Timestamp.perSecond) :
    1000000 * ((gaps (t :: rest)).map abs).sum ≤ clock ((t :: rest).getLast (by simp)) - clock t := by
  induction rest generalizing t with
  | nil => simp [gaps, gap]
  | cons u rest ih =>
    have hrest := ih (List.Pairwise.of_cons hsorted) fun v hv => hnanos v (List.mem_cons_of_mem t hv)
    have hstep : |u.since t| ≤ clock u - clock t :=
      abs_since_le (List.rel_of_pairwise_cons hsorted (by simp)) (hnanos t (by simp)) (hnanos u (by simp))
    have hmillis := abs_millisSince_le t u
    rw [gaps, List.map_cons, List.sum_cons, List.getLast_cons_cons]
    simp only [List.head?_cons, gap]
    linarith

theorem between_cons (t : Timestamp) (rest : List Timestamp) :
    between (t :: rest) = ((t :: rest).getLast (by simp)).millisSince t := by
  simp [between, List.getLast?_eq_getLast_of_ne_nil, gap]

theorem sum_abs_gaps_le (hsorted : stamps.Pairwise fun a b => a.notAfter b = true)
    (hnanos : ∀ t ∈ stamps, t.nanos < 2 * Timestamp.perSecond) (hspan : between stamps < 10 ^ 13) :
    ((gaps stamps).map abs).sum ≤ 61 * 10 ^ 12 := by
  cases stamps with
  | nil => simp [gaps]
  | cons t rest =>
    have hclock := clock_le (hnanos t (by simp)) (hnanos _ (List.getLast_mem (by simp)))
      (between_cons t rest ▸ hspan)
    have := sum_abs_gaps_le_clock hsorted hnanos
    linarith

theorem abs_between_le (hsorted : stamps.Pairwise fun a b => a.notAfter b = true)
    (hnanos : ∀ t ∈ stamps, t.nanos < 2 * Timestamp.perSecond) (hspan : between stamps < 10 ^ 13) :
    |between stamps| ≤ 61 * 10 ^ 12 := by
  cases stamps with
  | nil => simp [between, gap]
  | cons t rest =>
    let last := (t :: rest).getLast (by simp)
    have hmem : last ∈ t :: rest := List.getLast_mem (by simp)
    have horder : t.notAfter last = true := by
      rcases List.mem_cons.mp hmem with h | h
      · rw [h]
        exact Timestamp.notAfter_refl _
      · exact List.rel_of_pairwise_cons hsorted h
    have hclock := clock_le (hnanos t (by simp)) (hnanos last hmem) (between_cons t rest ▸ hspan)
    have hsince := abs_since_le horder (hnanos t (by simp)) (hnanos last hmem)
    have hmillis := abs_millisSince_le t last
    rw [between_cons]
    linarith

theorem weightsAfter_nonneg {before : ℤ} (hbefore : 0 ≤ before) (hgaps : ∀ g ∈ gaps stamps, 0 ≤ g) :
    ∀ w ∈ weightsAfter before stamps, 0 ≤ w := by
  induction stamps generalizing before with
  | nil => simp [weightsAfter]
  | cons t rest ih =>
    rw [gaps, List.forall_mem_cons] at hgaps
    rw [weightsAfter, List.forall_mem_cons]
    have hbefore : (0 : ℚ) ≤ before := by exact_mod_cast hbefore
    have hgap : (0 : ℚ) ≤ gap (some t) rest.head? := by exact_mod_cast hgaps.1
    exact ⟨by positivity, ih hgaps.1 hgaps.2⟩

def Whole (t : Timestamp) : Prop := t.nanos % 1000000 = 0 ∧ t.isLeapSecond = false

instance (t : Timestamp) : Decidable (Whole t) := inferInstanceAs (Decidable (_ ∧ _))

def millis (t : Timestamp) : ℤ := t.seconds * 1000 + (t.nanos / 1000000 : ℕ)

theorem millisSince_of_whole {a b : Timestamp} (ha : Whole a) (hb : Whole b) :
    b.millisSince a = millis b - millis a := by
  have hexact : b.since a = 1000000 * (millis b - millis a) := by
    simp only [Timestamp.since, ha.2, hb.2, Bool.false_eq_true, if_false, ite_self, millis]
    simp only [Timestamp.perSecond]
    have := ha.1
    have := hb.1
    omega
  rw [Timestamp.millisSince, hexact, Int.mul_tdiv_cancel_left _ (by decide)]

theorem millis_le {a b : Timestamp} (h : a.notAfter b = true) (ha : Whole a) : millis a ≤ millis b := by
  rw [Timestamp.notAfter_iff] at h
  have hnanos : a.nanos < 1000000000 := Nat.lt_of_not_le (of_decide_eq_false ha.2)
  simp only [millis]
  omega

theorem gaps_of_whole {t : Timestamp} {rest : List Timestamp}
    (hsorted : (t :: rest).Pairwise fun a b => a.notAfter b = true) (hwhole : ∀ u ∈ t :: rest, Whole u) :
    (gaps (t :: rest)).sum = millis ((t :: rest).getLast (by simp)) - millis t ∧
      ∀ g ∈ gaps (t :: rest), 0 ≤ g := by
  induction rest generalizing t with
  | nil => simp [gaps, gap]
  | cons u rest ih =>
    obtain ⟨hsum, hnonneg⟩ :=
      ih (List.Pairwise.of_cons hsorted) fun v hv => hwhole v (List.mem_cons_of_mem t hv)
    have hgap : gap (some t) (some u) = millis u - millis t :=
      millisSince_of_whole (hwhole t (by simp)) (hwhole u (by simp))
    have hle := millis_le (List.rel_of_pairwise_cons hsorted (by simp)) (hwhole t (by simp)) (b := u)
    rw [gaps, List.sum_cons, List.getLast_cons_cons, List.forall_mem_cons, List.head?_cons, hgap, hsum]
    exact ⟨by ring, by omega, hnonneg⟩

theorem balanced_of_whole (hsorted : stamps.Pairwise fun a b => a.notAfter b = true)
    (hwhole : ∀ t ∈ stamps, Whole t) : Balanced stamps := by
  cases stamps with
  | nil => exact .inl rfl
  | cons t rest =>
    obtain ⟨hsum, hnonneg⟩ := gaps_of_whole hsorted hwhole
    have hbetween : (gaps (t :: rest)).sum = between (t :: rest) := by
      rw [hsum, between_cons, millisSince_of_whole (hwhole t (by simp)) (hwhole _ (List.getLast_mem _))]
    refine .inr ⟨hbetween, fun w hw => ?_⟩
    have : 0 ≤ between (t :: rest) := hbetween ▸ List.sum_nonneg hnonneg
    exact div_nonneg (weightsAfter_nonneg le_rfl hnonneg w hw) (by exact_mod_cast this)

end
end Storefront.History

import Storefront.Proofs.History.Ties
import Storefront.Proofs.History.Trapezoid

/-! # The order in which snapshots are supplied

A series is sorted by time before its mean is found, so that only snapshots of one moment keep the order in which they
were supplied. It makes no difference to the mean where these have one price, or where their moment is fair.
-/
namespace Storefront.History
variable {currency : Currency} {e : Exchange} {series a b : List Snapshot}

/-- Whether the mean of a series is found without any rounding. -/
def Unrounded (series : List Snapshot) : Prop := ∃ sum n m, Totals series sum n ∧ sum.ExactQuotient n m

def SameMean (currency : Currency) (e : Exchange) (a b : List Snapshot) : Prop :=
  ∃ m m' : Decimal, mean a currency e = .ok (some ⟨m, currency⟩) ∧ mean b currency e = .ok (some ⟨m', currency⟩) ∧
    m.value = m'.value

/-- Whether all that was seen at a moment has the same price. -/
def PricesAgree (series : List Snapshot) (t : Timestamp) : Prop :=
  ∀ s ∈ series, ∀ s' ∈ series, s.timestamp = t → s'.timestamp = t → s.price.amount.value = s'.price.amount.value

theorem Unrounded.exists_mean (h : Unrounded series) (hmin : 2 ≤ series.length)
    (hcurrency : ∀ s ∈ series, s.price.currency = currency) :
    ∃ m : Decimal, mean series currency e = .ok (some ⟨m, currency⟩) ∧ m.value = exactMean series := by
  obtain ⟨sum, n, m, htotals, hdiv, hexact⟩ := h
  exact ⟨m, htotals.mean_eq hmin hcurrency hdiv, by rw [hexact, htotals.exactMean_eq]⟩

theorem unrounded_of_sorted_eq (h : sorted a = sorted b) (hb : Unrounded b) : Unrounded a := by
  have hmoments : moments a = moments b := congrArg (List.map Snapshot.timestamp) h
  have hlength : a.length = b.length := by rw [← length_moments a, hmoments, length_moments]
  obtain ⟨sum, n, m, htotals, hdiv⟩ := hb
  refine ⟨sum, n, m, ?_, hdiv⟩
  cases htotals with
  | summed hspan hsum hn => exact .summed (hmoments ▸ hspan) (h ▸ hsum) (hlength ▸ hn)
  | weighed hspan hsum hn => exact .weighed (hmoments ▸ hspan) (h ▸ hsum) (hmoments ▸ hn)

/-- Everyday prices have an unrounded mean if the exact one is a decimal with a digit to spare. -/
theorem unrounded_of_exactMean (hpriced : ∀ s ∈ series, Priced currency s)
    (hmin : 2 ≤ series.length) (hmax : series.length ≤ 10 ^ 12)
    (hnanos : ∀ t ∈ moments series, t.nanos < 2 * Timestamp.perSecond) (hspan : between (moments series) < 10 ^ 13)
    (c places : ℕ) (hwhole : |exactMean series| * 10 ^ places = c) (hc : 10 * c < Decimal.limit)
    (hplaces : places ≤ Decimal.maxScale) : Unrounded series := by
  obtain ⟨sum, n, htotals⟩ := exists_totals hnanos hspan hpriced hmax
  have hbound := abs_exactMean_le hnanos hspan hpriced
  rw [htotals.exactMean_eq] at hbound hwhole
  obtain ⟨m, hm, happrox⟩ := Decimal.exists_div (a := sum) (htotals.divisor_ne_zero hmin) (by linarith)
  exact ⟨sum, n, m, htotals, hm, happrox.exact c places hwhole hc hplaces⟩

/-- Unrounded means are the same just when the exact ones are. -/
theorem sameMean_iff (ha : Unrounded a) (hb : Unrounded b) (hmina : 2 ≤ a.length) (hminb : 2 ≤ b.length)
    (hcurrencya : ∀ s ∈ a, s.price.currency = currency) (hcurrencyb : ∀ s ∈ b, s.price.currency = currency) :
    SameMean currency e a b ↔ exactMean a = exactMean b := by
  obtain ⟨m, hm, hexact⟩ := ha.exists_mean (e := e) hmina hcurrencya
  obtain ⟨m', hm', hexact'⟩ := hb.exists_mean (e := e) hminb hcurrencyb
  constructor
  · rintro ⟨n, n', hn, hn', heq⟩
    rw [hm, Except.ok.injEq, Option.some.injEq, Money.mk.injEq] at hn
    rw [hm', Except.ok.injEq, Option.some.injEq, Money.mk.injEq] at hn'
    rw [← hexact, ← hexact', hn.1, hn'.1, heq]
  · intro heq
    exact ⟨m, m', hm, hm', by rw [hexact, hexact', heq]⟩

theorem moments_eq_of_perm (h : a.Perm b) : moments a = moments b := by
  have hsorted : (sorted a).Perm (sorted b) := (sorted_perm a).trans (h.trans (sorted_perm b).symm)
  exact (hsorted.map Snapshot.timestamp).eq_of_pairwise (fun _ _ _ _ => Timestamp.notAfter_antisymm)
    (moments_pairwise a) (moments_pairwise b)

/-- The products of shares and prices, where each is made of a part that depends on the snapshot and one that depends on
the place. -/
theorem dot_eq_sum_add_dot {share price : Timestamp → ℚ} {us : List ℚ} (hlength : series.length = us.length)
    (h : ∀ s u, (s, u) ∈ series.zip us →
      u * s.price.amount.value = share s.timestamp * s.price.amount.value + u * price s.timestamp) :
    dot us (amounts series) = (series.map fun s => share s.timestamp * s.price.amount.value).sum +
      dot us ((series.map Snapshot.timestamp).map price) := by
  induction series generalizing us with
  | nil => simp [amounts, dot]
  | cons s rest ih =>
    cases us with
    | nil => simp at hlength
    | cons u us =>
      have hfirst := h s u List.mem_cons_self
      have hrest := ih (by simpa using hlength) fun s u hus => h s u (List.mem_cons_of_mem _ hus)
      simp only [amounts, List.map_cons, dot_cons, List.sum_cons] at hrest ⊢
      rw [hrest, hfirst]
      ring

theorem exists_split {t : Timestamp} (h : PricesAgree series t ∨ SharesAgree (moments series) t) :
    ∃ share price : ℚ, ∀ s ∈ series, s.timestamp = t → ∀ u, (t, u) ∈ (moments series).zip (shares (moments series)) →
      u * s.price.amount.value = share * s.price.amount.value + u * price := by
  rcases h with hprices | hshares
  · by_cases hseen : ∃ s ∈ series, s.timestamp = t
    · obtain ⟨s, hs, hst⟩ := hseen
      refine ⟨0, s.price.amount.value, fun s' hs' hst' u _ => ?_⟩
      rw [hprices s' hs' s hs hst' hst, zero_mul, zero_add]
    · exact ⟨0, 0, fun s hs hst => absurd ⟨s, hs, hst⟩ hseen⟩
  · by_cases hplace : ∃ u, (t, u) ∈ (moments series).zip (shares (moments series))
    · obtain ⟨u, hu⟩ := hplace
      refine ⟨u, 0, fun s _ _ u' hu' => ?_⟩
      rw [hshares u' u hu' hu, mul_zero, add_zero]
    · exact ⟨0, 0, fun s _ _ u hu => absurd ⟨u, hu⟩ hplace⟩

theorem exactMean_eq_of_agree (h : a.Perm b)
    (hagree : ∀ t, PricesAgree b t ∨ SharesAgree (moments b) t) : exactMean a = exactMean b := by
  choose share price hsplit using fun t => exists_split (hagree t)
  have hparts (series : List Snapshot) (hperm : series.Perm b) : exactMean series =
      (b.map fun s => share s.timestamp * s.price.amount.value).sum +
        dot (shares (moments b)) ((moments b).map price) := by
    have hmoments : (sorted series).map Snapshot.timestamp = moments b := moments_eq_of_perm hperm
    have hsorted : (sorted series).Perm b := (sorted_perm series).trans hperm
    rw [exactMean, moments_eq_of_perm hperm, dot_eq_sum_add_dot (by rw [length_shares, ← hmoments, List.length_map])
      fun s u hus => ?_, hmoments, (hsorted.map _).sum_eq]
    refine hsplit _ s (hsorted.mem_iff.mp (List.of_mem_zip hus).1) rfl u ?_
    have hplace := List.mem_map_of_mem (f := Prod.map Snapshot.timestamp id) hus
    rwa [← List.zip_map_left, hmoments] at hplace
  rw [hparts a h, hparts b (.refl b)]

theorem dot_set {us ps : List ℚ} {i : ℕ} (hi : i < us.length) (hi' : i < ps.length) (p : ℚ) :
    dot us (ps.set i p) = dot us ps + us[i] * (p - ps[i]) := by
  induction us generalizing ps i with
  | nil => simp at hi
  | cons u us ih =>
    cases ps with
    | nil => simp at hi'
    | cons q ps =>
      cases i with
      | zero =>
        simp only [List.set_cons_zero, dot_cons, List.getElem_cons_zero]
        ring
      | succ i =>
        simp only [List.set_cons_succ, dot_cons, List.getElem_cons_succ]
        rw [ih (by simpa using hi) (by simpa using hi')]
        ring

section
variable {i j : ℕ}

/-- The series in order where two places have changed what is at them. -/
def swap (series : List Snapshot) (i j : ℕ) (hi : i < (sorted series).length) (hj : j < (sorted series).length) :
    List Snapshot := ((sorted series).set i (sorted series)[j]).set j (sorted series)[i]

theorem swap_perm (hi : i < (sorted series).length) (hj : j < (sorted series).length) :
    (swap series i j hi hj).Perm series := (List.set_set_perm hi hj).trans (sorted_perm series)

theorem sorted_swap {hi : i < (sorted series).length} {hj : j < (sorted series).length}
    (hij : (sorted series)[i].timestamp = (sorted series)[j].timestamp) :
    sorted (swap series i j hi hj) = swap series i j hi hj := by
  refine sorted_of_pairwise ?_
  have hself {k : ℕ} (hk : k < (sorted series).length) :
      (moments series).set k (sorted series)[k].timestamp = moments series := by
    rw [moments, ← List.map_set, List.set_getElem_self]
  have hmoments : (swap series i j hi hj).map Snapshot.timestamp = moments series := by
    rw [swap, List.map_set, List.map_set]
    change ((moments series).set i _).set j _ = _
    rw [← hij, hself, hij, hself]
  rw [hmoments]
  exact moments_pairwise series

/-- Two snapshots of one moment that change places bring as much as their prices and their shares differ. -/
theorem exactMean_swap (hi : i < (sorted series).length) (hj : j < (sorted series).length)
    (hui : i < (shares (moments series)).length) (huj : j < (shares (moments series)).length)
    (hij : (sorted series)[i].timestamp = (sorted series)[j].timestamp) :
    exactMean (swap series i j hi hj) = exactMean series +
      ((shares (moments series))[i] - (shares (moments series))[j]) *
        ((sorted series)[j].price.amount.value - (sorted series)[i].price.amount.value) := by
  have hpi : i < (amounts (sorted series)).length := by rwa [amounts, List.length_map]
  have hpj : j < (amounts (sorted series)).length := by rwa [amounts, List.length_map]
  have hamount {k : ℕ} (hk : k < (sorted series).length) (hpk : k < (amounts (sorted series)).length) :
      (amounts (sorted series))[k] = (sorted series)[k].price.amount.value := List.getElem_map _
  rw [exactMean, moments_eq_of_perm (swap_perm hi hj), sorted_swap hij, swap, amounts, List.map_set, List.map_set]
  change dot _ (((amounts (sorted series)).set i _).set j _) = _
  rw [dot_set huj (by rwa [List.length_set]), dot_set hui hpi, List.getElem_set, hamount hi hpi, hamount hj hpj,
    ite_self, exactMean]
  ring

theorem exists_place {t : Timestamp} {u : ℚ} (h : (t, u) ∈ (moments series).zip (shares (moments series))) :
    ∃ (i : ℕ) (hi : i < (sorted series).length) (hui : i < (shares (moments series)).length),
      (sorted series)[i].timestamp = t ∧ (shares (moments series))[i] = u := by
  obtain ⟨i, hi, hplace⟩ := List.mem_iff_getElem.mp h
  rw [List.getElem_zip, Prod.mk.injEq] at hplace
  rw [List.length_zip, lt_min_iff, moments, List.length_map] at hi
  refine ⟨i, hi.1, hi.2, ?_, hplace.2⟩
  rw [← hplace.1]
  exact (List.getElem_map _).symm

theorem agree_of_exactMean_eq (h : ∀ a, a.Perm series → exactMean a = exactMean series) (t : Timestamp) :
    PricesAgree series t ∨ SharesAgree (moments series) t := by
  have hswap {i j : ℕ} (hi : i < (sorted series).length) (hj : j < (sorted series).length)
      (hui : i < (shares (moments series)).length) (huj : j < (shares (moments series)).length)
      (hij : (sorted series)[i].timestamp = (sorted series)[j].timestamp)
      (hprice : (sorted series)[i].price.amount.value ≠ (sorted series)[j].price.amount.value) :
      (shares (moments series))[i] = (shares (moments series))[j] := by
    have hmean := exactMean_swap hi hj hui huj hij
    rw [h _ (swap_perm hi hj), left_eq_add, mul_eq_zero, sub_eq_zero, sub_eq_zero] at hmean
    exact hmean.resolve_right (Ne.symm hprice)
  rw [or_iff_not_imp_left]
  intro hprices u u' hu hu'
  obtain ⟨i, hi, hui, hit, rfl⟩ := exists_place hu
  obtain ⟨j, hj, huj, hjt, rfl⟩ := exists_place hu'
  by_cases hij : (sorted series)[i].price.amount.value = (sorted series)[j].price.amount.value
  · -- one of the snapshots of the moment has another price than both
    obtain ⟨s, hs, hst, hprice⟩ : ∃ s ∈ series, s.timestamp = t ∧
        (sorted series)[i].price.amount.value ≠ s.price.amount.value := by
      by_contra! hall
      refine hprices fun s hs s' hs' hst hst' => ?_
      rw [← hall s hs hst, ← hall s' hs' hst']
    obtain ⟨k, hk, rfl⟩ := List.mem_iff_getElem.mp ((sorted_perm series).mem_iff.mpr hs)
    have huk : k < (shares (moments series)).length := by
      rwa [length_shares, length_moments, ← (sorted_perm series).length_eq]
    exact (hswap hi hk hui huk (hit.trans hst.symm) hprice).trans
      (hswap hk hj huk huj (hst.trans hjt.symm) (hij ▸ hprice.symm))
  · exact hswap hi hj hui huj (hit.trans hjt.symm) hij

end

/-- It makes no difference in which order snapshots are supplied if their prices agree at each moment that is not fair.
Where all orders bring unrounded means, it makes a difference otherwise. -/
theorem sameMean_iff_fair (hmin : 2 ≤ series.length) (hcurrency : ∀ s ∈ series, s.price.currency = currency) :
    ((∀ t, PricesAgree series t ∨ Fair (moments series) t) →
      ∀ a b, a.Perm series → b.Perm series → Unrounded a → Unrounded b → SameMean currency e a b) ∧
    ((∀ a, a.Perm series → Unrounded a) →
      ((∀ a b, a.Perm series → b.Perm series → SameMean currency e a b) ↔
        ∀ t, PricesAgree series t ∨ Fair (moments series) t)) := by
  have hsame {a b : List Snapshot} (ha : a.Perm series) (hb : b.Perm series) (hua : Unrounded a) (hub : Unrounded b) :
      SameMean currency e a b ↔ exactMean a = exactMean b :=
    sameMean_iff hua hub (ha.length_eq ▸ hmin) (hb.length_eq ▸ hmin) (fun s hs => hcurrency s (ha.mem_iff.mp hs))
      fun s hs => hcurrency s (hb.mem_iff.mp hs)
  simp only [← sharesAgree_iff (moments_pairwise series)]
  have hagree (h : ∀ t, PricesAgree series t ∨ SharesAgree (moments series) t) {a b : List Snapshot}
      (ha : a.Perm series) (hb : b.Perm series) : exactMean a = exactMean b :=
    (exactMean_eq_of_agree ha h).trans (exactMean_eq_of_agree hb h).symm
  refine ⟨fun h a b ha hb hua hub => (hsame ha hb hua hub).mpr (hagree h ha hb), fun hunrounded => ⟨fun h => ?_, ?_⟩⟩
  · exact agree_of_exactMean_eq fun a ha =>
      (hsame ha (.refl series) (hunrounded a ha) (hunrounded series (.refl series))).mp (h a series ha (.refl series))
  · exact fun h a b ha hb => (hsame ha hb (hunrounded a ha) (hunrounded b hb)).mpr (hagree h ha hb)

theorem unrounded_of_area {seen : List (Timestamp × UInt64)} {k : ℤ} {n : ℕ}
    (hdollars : ∀ q ∈ seen, q.2.toNat < 10 ^ 8)
    (hsorted : ((inDollars seen).map Snapshot.timestamp).Pairwise fun a b => a.notAfter b = true)
    (hmin : 2 ≤ (inDollars seen).length) (hmax : (inDollars seen).length ≤ 10 ^ 12)
    (hnanos : ∀ t ∈ (inDollars seen).map Snapshot.timestamp, t.nanos < 2 * Timestamp.perSecond)
    (hspan : between ((inDollars seen).map Snapshot.timestamp) < 10 ^ 13)
    (haligned : ∀ s ∈ inDollars seen, Aligned s.timestamp) (hk : k ≠ 0) (helapsed : elapsed (inDollars seen) = k)
    (harea : area (inDollars seen) = k * n) (hn : 10 * n < Decimal.limit) : Unrounded (inDollars seen) := by
  have hself : sorted (inDollars seen) = inDollars seen := sorted_of_pairwise hsorted
  have hk' : (k : ℚ) ≠ 0 := by exact_mod_cast hk
  have hmean : exactMean (inDollars seen) = n := by
    rw [exactMean_eq_trapezoid hmin haligned, trapezoid, hself, helapsed, harea, if_neg hk, mul_div_cancel_left₀ _ hk']
  exact unrounded_of_exactMean (priced_inDollars hdollars) hmin hmax (by rwa [moments, hself])
    (by rwa [moments, hself]) n 0 (by rw [hmean, Nat.abs_cast, pow_zero, mul_one]) hn (Nat.zero_le _)

def noon : List Snapshot :=
  inDollars [(⟨1700000000, 0⟩, 10), (⟨1700003600, 0⟩, 20), (⟨1700003600, 0⟩, 40), (⟨1700007200, 0⟩, 30)]

def noon' : List Snapshot :=
  inDollars [(⟨1700000000, 0⟩, 10), (⟨1700003600, 0⟩, 40), (⟨1700003600, 0⟩, 20), (⟨1700007200, 0⟩, 30)]

theorem unrounded_noon : Unrounded noon ∧ Unrounded noon' := by
  constructor <;> refine unrounded_of_area (k := 7200000000000) (n := 25) (by decide) (by decide) (by decide)
    (by decide) (by decide) (by decide) (by decide) (by decide) (by decide) ?_ (by decide)
  · simp [inDollars, area, Decimal.value_ofUInt64, Timestamp.since, Timestamp.perSecond, Timestamp.isLeapSecond]
    norm_num
  · simp [inDollars, area, Decimal.value_ofUInt64, Timestamp.since, Timestamp.perSecond, Timestamp.isLeapSecond]
    norm_num

theorem sorted_of_perm_noon (h : a.Perm noon) : sorted a = noon ∨ sorted a = noon' := by
  have hall : ∀ series ∈ noon.permutations', series.map Snapshot.timestamp = noon.map Snapshot.timestamp →
      series = noon ∨ series = noon' := by decide +kernel
  have hself : sorted noon = noon := sorted_of_pairwise (by decide)
  have hmoments : moments a = moments noon := moments_eq_of_perm h
  exact hall _ (List.mem_permutations'.mpr ((sorted_perm a).trans h)) (hmoments.trans (by rw [moments, hself]))

theorem unrounded_of_perm_noon (h : a.Perm noon) : Unrounded a := by
  have hself : sorted noon = noon := sorted_of_pairwise (by decide)
  have hself' : sorted noon' = noon' := sorted_of_pairwise (by decide)
  rcases sorted_of_perm_noon h with ha | ha
  · exact unrounded_of_sorted_eq (ha.trans hself.symm) unrounded_noon.1
  · exact unrounded_of_sorted_eq (ha.trans hself'.symm) unrounded_noon.2

theorem sameMean_iff_fair_noon : 2 ≤ noon.length ∧ (∀ s ∈ noon, s.price.currency = .usd) ∧
    (∀ t, PricesAgree noon t ∨ Fair (moments noon) t) ∧ (∀ a, a.Perm noon → Unrounded a) ∧
    ∀ a b, a.Perm noon → b.Perm noon → SameMean .usd (RateTable.ofMain .usd).exchange a b := by
  have hcurrency : ∀ s ∈ noon, s.price.currency = .usd := by decide
  have hmoments : moments noon = noon.map Snapshot.timestamp :=
    congrArg (List.map Snapshot.timestamp) (sorted_of_pairwise (by decide))
  have hfair : ∀ t, PricesAgree noon t ∨ Fair (moments noon) t :=
    fun t => .inr (fair_of_forall_mem (by rw [hmoments]; decide) t)
  have hunrounded : ∀ a, a.Perm noon → Unrounded a := fun _ => unrounded_of_perm_noon
  exact ⟨by decide, hcurrency, hfair, hunrounded, ((sameMean_iff_fair (by decide) hcurrency).2 hunrounded).mpr hfair⟩

def opening : List Snapshot :=
  inDollars [(⟨1767225600, 0⟩, 100), (⟨1767225600, 0⟩, 200), (⟨1767232800, 0⟩, 300)]

def opening' : List Snapshot :=
  inDollars [(⟨1767225600, 0⟩, 200), (⟨1767225600, 0⟩, 100), (⟨1767232800, 0⟩, 300)]

theorem unrounded_opening : Unrounded opening := by
  refine unrounded_of_area (k := 7200000000000) (n := 250) (by decide) (by decide) (by decide) (by decide) (by decide)
    (by decide) (by decide) (by decide) (by decide) ?_ (by decide)
  simp [inDollars, area, Decimal.value_ofUInt64, Timestamp.since, Timestamp.perSecond, Timestamp.isLeapSecond]
  norm_num

theorem unrounded_opening' : Unrounded opening' := by
  refine unrounded_of_area (k := 7200000000000) (n := 200) (by decide) (by decide) (by decide) (by decide) (by decide)
    (by decide) (by decide) (by decide) (by decide) ?_ (by decide)
  simp [inDollars, area, Decimal.value_ofUInt64, Timestamp.since, Timestamp.perSecond, Timestamp.isLeapSecond]
  norm_num

/-- Of what is seen at the opening only the last counts. -/
theorem mean_opening_depends_on_order :
    opening.Perm opening' ∧
    mean opening .usd (RateTable.ofMain .usd).exchange = .ok (some ⟨.ofUInt64 250, .usd⟩) ∧
    mean opening' .usd (RateTable.ofMain .usd).exchange = .ok (some ⟨.ofUInt64 200, .usd⟩) ∧
    ¬ ∀ a b : List Snapshot, a.Perm b → (∀ s ∈ a, s.price.currency = .usd) →
      (∃ s ∈ a, ∃ s' ∈ a, s.timestamp ≠ s'.timestamp) → Unrounded a → Unrounded b →
        SameMean .usd (RateTable.ofMain .usd).exchange a b := by
  have hperm : opening.Perm opening' := .swap _ _ _
  have hmean : mean opening .usd (RateTable.ofMain .usd).exchange = .ok (some ⟨.ofUInt64 250, .usd⟩) := by
    rw [mean_eq (by decide), show sorted opening = opening from sorted_of_pairwise (by decide)]
    decide +kernel
  have hmean' : mean opening' .usd (RateTable.ofMain .usd).exchange = .ok (some ⟨.ofUInt64 200, .usd⟩) := by
    rw [mean_eq (by decide), show sorted opening' = opening' from sorted_of_pairwise (by decide)]
    decide +kernel
  refine ⟨hperm, hmean, hmean', fun h => ?_⟩
  obtain ⟨m, m', hm, hm', heq⟩ :=
    h opening opening' hperm (by decide) (by decide) unrounded_opening unrounded_opening'
  rw [hmean, Except.ok.injEq, Option.some.injEq, Money.mk.injEq] at hm
  rw [hmean', Except.ok.injEq, Option.some.injEq, Money.mk.injEq] at hm'
  rw [← hm.1, ← hm'.1, Decimal.value_ofUInt64, Decimal.value_ofUInt64, Nat.cast_inj] at heq
  exact absurd heq (by decide)

end Storefront.History

import Storefront.History
import Storefront.Proofs.Money.Comparison

/-! # The lowest price

The lowest price so far is brought into the currency of each price that follows, and gives way to it if that is lower.
Where no conversion between the prices of a series loses anything, every answer is the order of what the two are worth.
So what is left in the end is the first of the snapshots whose price is worth least.
-/
namespace Storefront
open Attempt

namespace Money
variable {e : Exchange} {a b : Money}

/-- Whether a conversion loses nothing: the amount becomes its multiple by the exact ratio of the two rates. -/
def ConvertsExactly (m : Money) (target : Currency) (e : Exchange) : Prop :=
  ∃ m', m.convert target e = .ok m' ∧ m'.amount.value = m.amount.value * (e.unit m.currency / e.unit target)

theorem compare_of_exact (hunit : 0 < e.unit a.currency) (h : b.ConvertsExactly a.currency e) :
    a.compare b e = .ok (cmp (a.worth e) (b.worth e)) := by
  obtain ⟨b', hb', hvalue⟩ := h
  have hworth : b.worth e = b'.amount.value * e.unit a.currency := by
    rw [hvalue, mul_assoc, div_mul_cancel₀ _ hunit.ne', worth]
  rw [compare, hb', ok_bind, Decimal.compare_eq_cmp, hworth, worth, cmp_mul_pos_right hunit]
  rfl

end Money

namespace History
variable {e : Exchange} {series series' rest : List Snapshot} {best b s : Snapshot}

/-- A series of prices that have rates, and of which every one can be had in the currency of every other one. -/
structure Exact (e : Exchange) (series : List Snapshot) : Prop where
  unit_pos : ∀ s ∈ series, 0 < e.unit s.price.currency
  converts : ∀ a ∈ series, ∀ b ∈ series, a.price.ConvertsExactly b.price.currency e

theorem Exact.mono (h : Exact e series) (hsub : series' ⊆ series) : Exact e series' where
  unit_pos s hs := h.unit_pos s (hsub hs)
  converts a ha b hb := h.converts a (hsub ha) b (hsub hb)

/-- The first of the snapshots whose price is worth least. -/
def FirstLowest (e : Exchange) (series : List Snapshot) (best : Snapshot) : Prop :=
  ∃ before after, series = before ++ best :: after ∧ (∀ s ∈ before, best.price.worth e < s.price.worth e) ∧
    ∀ s ∈ after, best.price.worth e ≤ s.price.worth e

namespace FirstLowest

theorem singleton (e : Exchange) (s : Snapshot) : FirstLowest e [s] s := ⟨[], [], rfl, by simp, by simp⟩

theorem le (h : FirstLowest e series best) (hs : s ∈ series) : best.price.worth e ≤ s.price.worth e := by
  obtain ⟨before, after, rfl, hbefore, hafter⟩ := h
  rcases List.mem_append.mp hs with hs | hs
  · exact (hbefore s hs).le
  · rcases List.mem_cons.mp hs with rfl | hs
    · exact le_rfl
    · exact hafter s hs

theorem cons (h : FirstLowest e series best) (hlt : best.price.worth e < b.price.worth e) :
    FirstLowest e (b :: series) best := by
  obtain ⟨before, after, rfl, hbefore, hafter⟩ := h
  exact ⟨b :: before, after, rfl, List.forall_mem_cons.mpr ⟨hlt, hbefore⟩, hafter⟩

theorem insert (h : FirstLowest e (b :: rest) best) (hle : b.price.worth e ≤ s.price.worth e) :
    FirstLowest e (b :: s :: rest) best := by
  obtain ⟨before, after, heq, hbefore, hafter⟩ := h
  rcases List.cons_eq_append_iff.mp heq with ⟨rfl, heq⟩ | ⟨before, rfl, rfl⟩
  · obtain ⟨rfl, rfl⟩ := List.cons.inj heq
    exact ⟨[], s :: rest, rfl, hbefore, List.forall_mem_cons.mpr ⟨hle, hafter⟩⟩
  · obtain ⟨hb, hbefore⟩ := List.forall_mem_cons.mp hbefore
    exact ⟨b :: s :: before, after, rfl,
      List.forall_mem_cons.mpr ⟨hb, List.forall_mem_cons.mpr ⟨hb.trans_le hle, hbefore⟩⟩, hafter⟩

end FirstLowest

/-- What is left is the first of the lowest among the price so far and those that follow. -/
theorem exists_lowestFrom (h : Exact e (best :: rest)) :
    ∃ low, lowestFrom e best rest = .ok low ∧ FirstLowest e (best :: rest) low := by
  induction rest generalizing best with
  | nil => exact ⟨best, rfl, .singleton e best⟩
  | cons s rest ih =>
    have hs : s ∈ best :: s :: rest := List.mem_cons_of_mem _ List.mem_cons_self
    have hcompare := Money.compare_of_exact (h.unit_pos s hs) (h.converts best List.mem_cons_self s hs)
    rw [lowestFrom, hcompare, ok_bind]
    by_cases hlt : s.price.worth e < best.price.worth e
    · obtain ⟨low, hlow, hfirst⟩ := ih (h.mono (List.subset_cons_self _ _))
      rw [if_pos ((cmp_eq_lt_iff _ _).mpr hlt)]
      exact ⟨low, hlow, hfirst.cons ((hfirst.le List.mem_cons_self).trans_lt hlt)⟩
    · obtain ⟨low, hlow, hfirst⟩ := ih
        (h.mono (List.cons_subset_cons _ (List.subset_cons_self _ _)))
      rw [if_neg fun hcmp => hlt ((cmp_eq_lt_iff _ _).mp hcmp)]
      exact ⟨low, hlow, hfirst.insert (not_lt.mp hlt)⟩

/-- Where no conversion loses anything, the lowest snapshot is the first of those whose price is worth least, and only
an empty series has none. -/
theorem lowest_is_first (h : Exact e series) :
    (lowest series e = .ok none ↔ series = []) ∧
      (series ≠ [] → ∃ best, lowest series e = .ok (some best) ∧ FirstLowest e series best) := by
  cases series with
  | nil => exact ⟨iff_of_true rfl rfl, fun hne => absurd rfl hne⟩
  | cons s rest =>
    obtain ⟨best, hbest, hfirst⟩ := exists_lowestFrom h
    have hlowest : lowest (s :: rest) e = .ok (some best) := by
      rw [lowest, hbest]
      rfl
    refine ⟨iff_of_false ?_ (List.cons_ne_nil s rest), fun _ => ⟨best, hlowest, hfirst⟩⟩
    rw [hlowest]
    exact fun hnone => Option.some_ne_none best (Except.ok.inj hnone)

def doubleEuro : RateTable := (RateTable.ofMain .usd).set .eur Decimal.two

def sale : List Snapshot :=
  [⟨⟨1700000000, 0⟩, none, .dollars 30⟩, ⟨⟨1700003600, 0⟩, none, .euros 8⟩, ⟨⟨1700007200, 0⟩, none, .dollars 16⟩]

theorem exact_sale : Exact doubleEuro.exchange sale where
  unit_pos := by decide +kernel
  converts a ha b hb := by
    have hconverts : ∀ a ∈ sale, ∀ b ∈ sale,
        (a.price.convert b.price.currency doubleEuro.exchange).toOption.any (fun m =>
          m.amount.value = a.price.amount.value *
            (doubleEuro.exchange.unit a.price.currency / doubleEuro.exchange.unit b.price.currency)) = true := by
      decide +kernel
    obtain ⟨m, hm, hvalue⟩ := (Option.any_eq_true _ _).mp (hconverts a ha b hb)
    exact ⟨m, eq_ok_of_toOption hm, of_decide_eq_true hvalue⟩

theorem lowest_is_first_sale : Exact doubleEuro.exchange sale ∧
    ∃ best, lowest sale doubleEuro.exchange = .ok (some best) ∧ best.price = .euros 8 ∧
      FirstLowest doubleEuro.exchange sale best := by
  have hlowest : lowest sale doubleEuro.exchange = .ok (some ⟨⟨1700003600, 0⟩, none, .euros 8⟩) := by decide +kernel
  obtain ⟨best, hbest, hfirst⟩ := (lowest_is_first exact_sale).2 (by decide)
  obtain rfl := Option.some.inj (Except.ok.inj (hlowest.symm.trans hbest))
  exact ⟨exact_sale, _, hlowest, rfl, hfirst⟩

end History
end Storefront

import Mathlib.Data.List.Pairwise
import Storefront.Catalog.Find
import Storefront.Proofs.Decimal.Digits

/-! # Which plan a key finds

A plan answers to its number, to its name, and to what stands in its name before a note. Plans that differ in their
numbers and in their full names are found by number, always, and by name unless an earlier plan has that name before
its note. Then the first such plan is found.
-/
namespace Storefront.Catalog
open Unicode

/-- Plans that can be told apart by number and by full name. No name is a number or has blanks around it. -/
structure Distinct (plans : List PagePlan) : Prop where
  ids : plans.Pairwise fun p q => ∀ n ∈ p.id, q.id ≠ some n
  names : plans.Pairwise fun p q => sameName p.name.toList q.name.toList = false
  id_lt : ∀ p ∈ plans, ∀ n ∈ p.id, n < pow2 32
  not_number : ∀ p ∈ plans, Text.natural? (pow2 32) p.name.toList = none
  trimmed : ∀ p ∈ plans, Text.trim p.name.toList = p.name.toList

def shadows (q p : PagePlan) : Bool := sameName (shortName q.name.toList) p.name.toList

section
variable {p q : PagePlan} {plans front back : List PagePlan}

theorem sameName_refl (name : List Char) : sameName name name = true := by simp [sameName]

theorem isKey_name (hnumber : Text.natural? (pow2 32) p.name.toList = none)
    (htrim : Text.trim p.name.toList = p.name.toList) :
    isKey q p.name = (sameName q.name.toList p.name.toList || shadows q p) := by
  simp only [isKey, htrim, hnumber, shadows]

theorem isKey_own (hnumber : Text.natural? (pow2 32) p.name.toList = none)
    (htrim : Text.trim p.name.toList = p.name.toList) : isKey p p.name = true := by
  rw [isKey_name hnumber htrim, sameName_refl, Bool.true_or]

theorem find?_name (h : Distinct (front ++ p :: back)) :
    find? (front ++ p :: back) p.name = (front.find? (shadows · p)).or (some p) := by
  have hp : p ∈ front ++ p :: back := by simp
  have hnumber := h.not_number p hp
  have htrim := h.trimmed p hp
  have hfront : front.find? (isKey · p.name) = front.find? (shadows · p) := by
    rw [← List.head?_filter, ← List.head?_filter]
    refine congrArg List.head? (List.filter_congr fun q hq => ?_)
    have hnames := (List.pairwise_append.mp h.names).2.2 q hq p List.mem_cons_self
    rw [isKey_name hnumber htrim, hnames, Bool.false_or]
  have hown : (p :: back).find? (isKey · p.name) = some p := List.find?_cons_of_pos (isKey_own hnumber htrim)
  rw [find?, List.find?_append, hfront, hown]

theorem natural?_toDigits {bound n : Nat} (hn : n < bound) :
    Text.natural? bound (Nat.toDigits 10 n) = some n := by
  have hdigits : ∀ c ∈ Nat.toDigits 10 n, c.isDigit = true := fun c =>
    Nat.isDigit_of_mem_toDigits (by decide) (by decide)
  have hvalue := Decimal.digitsValue?_of_isDigit Nat.toDigits_ne_nil hdigits
  unfold Text.natural?
  split
  · rename_i rest hplus
    exact absurd (hdigits '+' (hplus ▸ List.mem_cons_self)) (by decide)
  · simp only [hvalue, Nat.ofDigitChars_ten_toDigits, Option.filter_some, hn, decide_true, if_true]

theorem trim_toDigits (n : Nat) : Text.trim (Nat.toDigits 10 n) = Nat.toDigits 10 n := by
  apply Text.strip_of_forall
  intro c hc
  exact Decimal.isBlank_of_isDigit (Nat.isDigit_of_mem_toDigits (by decide) (by decide) hc)

theorem isKey_toString {n : Nat} (hn : n < pow2 32) : isKey q (toString n) = (q.id == some n) := by
  have htext : (toString n).toList = Nat.toDigits 10 n := by simp [toString, Nat.repr]
  simp only [isKey, htext, trim_toDigits, natural?_toDigits hn]

theorem find?_id (h : Distinct plans) (hp : p ∈ plans) {n : Nat} (hn : p.id = some n) :
    find? plans (toString n) = some p := by
  obtain ⟨front, back, rfl⟩ := List.append_of_mem hp
  have hkey (q : PagePlan) : isKey q (toString n) = (q.id == some n) := isKey_toString (h.id_lt p hp n hn)
  have hfront : front.find? (isKey · (toString n)) = none := by
    refine List.find?_eq_none.mpr fun q hq hmatch => ?_
    rw [hkey, beq_iff_eq] at hmatch
    exact (List.pairwise_append.mp h.ids).2.2 q hq p List.mem_cons_self n hmatch hn
  have hown : (p :: back).find? (isKey · (toString n)) = some p :=
    List.find?_cons_of_pos (by rw [hkey, hn, beq_self_eq_true])
  rw [find?, List.find?_append, hfront, Option.none_or, hown]

end

/-- A plan is found by its number. By its name it is found just when no earlier plan has that name before its note; else
the first of those is found. -/
theorem found_by_name_iff {plans : List PagePlan} (h : Distinct plans) :
    (∀ front p back, plans = front ++ p :: back →
      find? plans p.name = (front.find? (shadows · p)).or (some p) ∧
      (find? plans p.name = some p ↔ ∀ q ∈ front, shadows q p = false)) ∧
    ∀ p ∈ plans, ∀ n, p.id = some n → find? plans (toString n) = some p := by
  refine ⟨?_, fun p hp n hn => find?_id h hp hn⟩
  rintro front p back rfl
  refine ⟨find?_name h, ?_⟩
  rw [find?_name h]
  cases hshadow : front.find? (shadows · p) with
  | none => simpa using List.find?_eq_none.mp hshadow
  | some q =>
    -- the plan in front is another one, since its full name is
    have hq := List.mem_of_find?_eq_some hshadow
    have hnames := (List.pairwise_append.mp h.names).2.2 q hq p List.mem_cons_self
    have hne : q ≠ p := by
      rintro rfl
      rw [sameName_refl] at hnames
      cases hnames
    refine iff_of_false (by simpa using hne) fun hall => ?_
    have hfound := List.find?_some hshadow
    rw [hall q hq] at hfound
    cases hfound

theorem found_by_name_iff_builtin : Distinct builtin ∧
    (∀ p ∈ builtin, find? builtin p.name = some p) ∧
    ∀ p ∈ builtin, ∀ n, p.id = some n → find? builtin (toString n) = some p := by
  have hdistinct : Distinct builtin :=
    ⟨by decide +kernel, by decide +kernel, by decide +kernel, by decide +kernel, by decide +kernel⟩
  have hplain : builtin.Pairwise fun q p => shadows q p = false := by decide +kernel
  obtain ⟨hname, hid⟩ := found_by_name_iff hdistinct
  refine ⟨hdistinct, fun p hp => ?_, hid⟩
  obtain ⟨front, back, hsplit⟩ := List.append_of_mem hp
  refine (hname front p back hsplit).2.mpr fun q hq => ?_
  exact (List.pairwise_append.mp (hsplit ▸ hplain)).2.2 q hq p List.mem_cons_self

def outletLamps : PagePlan := promUa.twin (some 1) "Lamps (outlet)" (secure "outlet.test")

def plainLamps : PagePlan := promUa.twin (some 2) "Lamps" (secure "lamps.test")

/-- An outlet in front of a shop of the same name is found in its place. -/
theorem plain_lamps_are_shadowed : Distinct [outletLamps, plainLamps] ∧
    find? [outletLamps, plainLamps] "Lamps" = some outletLamps ∧
    ¬ ∀ plans, Distinct plans → ∀ p ∈ plans, find? plans p.name = some p := by
  have hdistinct : Distinct [outletLamps, plainLamps] :=
    ⟨by decide +kernel, by decide +kernel, by decide +kernel, by decide +kernel, by decide +kernel⟩
  have hfound : find? [outletLamps, plainLamps] plainLamps.name = some outletLamps := by decide +kernel
  refine ⟨hdistinct, hfound, fun hall => ?_⟩
  have hplain := hfound.symm.trans (hall _ hdistinct plainLamps (by decide +kernel))
  exact absurd hplain (by decide +kernel)

end Storefront.Catalog

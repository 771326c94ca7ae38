import Mathlib.Data.Bool.AllAny
import Storefront.Catalog.Builtin
import Storefront.Proofs.Decimal.Printing
import Storefront.Proofs.Plan.Prices

/-! # Price texts

Shops write a price with its digits in groups, a comma or a point in front of the decimals, and a unit behind them. When
the characters are dropped that no number is written with, what is left is the number, unless the unit has a full stop:
that is left too, as a second point.
-/
namespace Storefront
open Attempt Mold

theorem Mold.isNumberChar_of_isDigit {c : Char} (h : c.isDigit = true) : isNumberChar c = true := by
  simp only [Char.isDigit, Bool.and_eq_true, decide_eq_true_eq] at h
  have hle : c.toNat ≤ 57 := h.2
  have hascii : Unicode.isDecimalDigit c = true := by
    rw [Unicode.isDecimalDigit, if_pos (show c.toNat < 0x660 by omega)]
    exact Bool.and_eq_true_iff.mpr ⟨decide_eq_true h.1, decide_eq_true h.2⟩
  simp [isNumberChar, hascii]

theorem Mold.isDigit_eq_false {c : Char} (h : isNumberChar c = false) : c.isDigit = false := by
  refine Bool.eq_false_iff.mpr fun hdigit => ?_
  rw [isNumberChar_of_isDigit hdigit] at h
  cases h

theorem Mold.filter_map_commaToPoint {s : List Char} (h : ∀ c ∈ s, c.isDigit = true ∨ isNumberChar c = false) :
    (s.map commaToPoint).filter isNumberChar = s.filter Char.isDigit := by
  have hsame : s.map commaToPoint = s := by
    refine List.map_congr_left (fun c hc => if_neg ?_) |>.trans (List.map_id s)
    rintro rfl
    exact absurd (h ',' hc) (by decide)
  rw [hsame]
  refine List.filter_congr fun c hc => ?_
  rcases h c hc with hdigit | hplain
  · rw [hdigit, isNumberChar_of_isDigit hdigit]
  · rw [hplain, isDigit_eq_false hplain]

/-- A price as it is written: the digits of its whole part among characters that group them, a mark, two decimals, and
a unit. What groups the digits and what makes up the unit are characters that no number is written with, such as
spaces, letters and signs of currencies. -/
structure PriceText where
  whole : List Char
  mark : Char
  decimals : List Char
  unit : List Char
  whole_grouped : ∀ c ∈ whole, c.isDigit = true ∨ isNumberChar c = false
  whole_digit : ∃ c ∈ whole, c.isDigit = true
  whole_lt : Nat.ofDigitChars 10 (whole.filter Char.isDigit) 0 < 10 ^ 20
  mark_eq : mark = ',' ∨ mark = '.'
  decimals_digit : ∀ c ∈ decimals, c.isDigit = true
  decimals_length : decimals.length = 2
  unit_plain : ∀ c ∈ unit, isNumberChar c = false

namespace PriceText
variable (t : PriceText)

def text : List Char := t.whole ++ t.mark :: (t.decimals ++ t.unit)

def digits : List Char := t.whole.filter Char.isDigit

def value : ℚ := Nat.ofDigitChars 10 t.digits 0 + Nat.ofDigitChars 10 t.decimals 0 / 100

theorem isDigit_of_mem_digits {c : Char} (h : c ∈ t.digits) : c.isDigit = true := (List.mem_filter.mp h).2

theorem digits_ne_nil : t.digits ≠ [] := by
  obtain ⟨c, hc, hdigit⟩ := t.whole_digit
  exact List.ne_nil_of_mem (List.mem_filter.mpr ⟨hc, hdigit⟩)

theorem value_nonneg : 0 ≤ t.value := by
  unfold value
  positivity

theorem ofDigitChars_eq : Nat.ofDigitChars 10 (t.digits ++ t.decimals) 0 =
    100 * Nat.ofDigitChars 10 t.digits 0 + Nat.ofDigitChars 10 t.decimals 0 := by
  rw [Nat.ofDigitChars_append, Nat.ofDigitChars_eq_ofDigitChars_zero, t.decimals_length]

theorem ofDigitChars_lt : Nat.ofDigitChars 10 (t.digits ++ t.decimals) 0 < Decimal.limit := by
  have hwhole := t.whole_lt
  have hdecimals := Decimal.ofDigitChars_lt t.decimals_digit
  have hlimit : 10 ^ 22 < Decimal.limit := by decide
  rw [t.decimals_length] at hdecimals
  rw [t.ofDigitChars_eq, digits]
  omega

def amount : Decimal where
  coeff := Nat.ofDigitChars 10 (t.digits ++ t.decimals) 0
  scale := t.decimals.length
  coeff_lt := t.ofDigitChars_lt
  scale_le := by
    rw [t.decimals_length]
    decide

theorem value_amount : t.amount.value = t.value := by
  change ((Nat.ofDigitChars 10 (t.digits ++ t.decimals) 0 : ℤ) : ℚ) / 10 ^ t.decimals.length = t.value
  rw [t.ofDigitChars_eq, t.decimals_length, value]
  push_cast
  ring

/-- What the molds leave of the text is its digits around a point. -/
theorem kept_text : (t.text.map commaToPoint).filter isNumberChar = t.digits ++ '.' :: t.decimals := by
  have hmark : commaToPoint t.mark = '.' := by
    rcases t.mark_eq with h | h <;> rw [h] <;> rfl
  have hdecimals : t.decimals.filter Char.isDigit = t.decimals := List.filter_eq_self.mpr t.decimals_digit
  have hunit : t.unit.filter Char.isDigit = [] := by
    refine List.filter_eq_nil_iff.mpr fun c hc => ?_
    rw [isDigit_eq_false (t.unit_plain c hc)]
    decide
  rw [text, List.map_append, List.filter_append, filter_map_commaToPoint t.whole_grouped, List.map_cons, hmark,
    List.filter_cons_of_pos (by decide), List.map_append, List.filter_append,
    filter_map_commaToPoint fun c hc => .inl (t.decimals_digit c hc),
    filter_map_commaToPoint fun c hc => .inr (t.unit_plain c hc), hdecimals, hunit, List.append_nil, digits]

theorem decimal?_kept : Text.decimal? (t.digits ++ '.' :: t.decimals) = some t.amount :=
  Decimal.decimal?_point t.digits_ne_nil (fun _ => t.isDigit_of_mem_digits) t.decimals_digit t.ofDigitChars_lt
    t.amount.scale_le

end PriceText

def priceMolds : List Mold := [⟨.commas2Points, []⟩, ⟨.onlyFloatChars, []⟩]

theorem applyAll_priceMolds (s : List Char) :
    applyAll priceMolds s = .ok ((s.map commaToPoint).filter isNumberChar) := rfl

namespace VariantPlan
variable {p : VariantPlan} {f : Fragment} {raw : List Char} {d : Decimal}

def optionalRules (p : VariantPlan) : List (Option Rule) := [p.code, p.propertyA, p.propertyB, p.propertyC, p.stock]

theorem exists_optionalField {rule : Option Rule} (h : ∀ r ∈ rule, r.Picks) (hf : ∀ t, f ≠ .text t) :
    ∃ found, optionalField rule f = .ok found := by
  cases rule with
  | none => exact ⟨none, rfl⟩
  | some r =>
    obtain ⟨found, hfound⟩ := (h r rfl).exists_lookup hf
    simp only [optionalField, hfound, ok_bind]
    cases found with
    | ok s => exact ⟨_, rfl⟩
    | error failure => exact ⟨_, rfl⟩

theorem exists_parse (hraw : p.price.extract f = .ok raw) (hd : Text.decimal? raw = some d) (hpositive : 0 < d.value)
    (hrules : ∀ rule ∈ p.optionalRules, ∀ r ∈ rule, r.Picks) (hf : ∀ t, f ≠ .text t) : ∃ v, p.parse f = .ok v := by
  have hfields : ∀ rule ∈ p.optionalRules, ∃ found, optionalField rule f = .ok found := fun rule hrule =>
    exists_optionalField (hrules rule hrule) hf
  simp only [optionalRules, List.forall_mem_cons] at hfields
  obtain ⟨⟨_, hcode⟩, ⟨_, ha⟩, ⟨_, hb⟩, ⟨_, hc⟩, ⟨_, hstock⟩, -⟩ := hfields
  simp only [parse, parseWith, hraw, ok_bind, hd, Option.getD_some, Decimal.isPositive_iff.mpr hpositive, hcode, ha, hb,
    hc, hstock]
  exact ⟨_, rfl⟩

/-- An option is refused for its price just when that is not positive. -/
theorem invalidPrice_iff (hraw : p.price.extract f = .ok raw) (hd : Text.decimal? raw = some d) :
    (∃ text, p.parse f = .error (.invalidPrice text)) ↔ d.value ≤ 0 := by
  rw [← not_lt, ← Decimal.isPositive_iff]
  cases hpositive : d.isPositive with
  | false =>
    refine iff_of_true ⟨String.ofList raw, ?_⟩ (by decide)
    simp only [parse, parseWith, hraw, ok_bind, hd, Option.getD_some, hpositive]
    rfl
  | true =>
    refine iff_of_false ?_ (by decide)
    rintro ⟨text, h⟩
    simp only [parse, parseWith, hraw, ok_bind, hd, Option.getD_some, hpositive, Bool.not_true, Bool.and_false,
      Bool.false_eq_true, if_false, bind_eq_error_iff, pure, Except.pure, reduceCtorEq, and_false, exists_false,
      or_false, optionalField_ne_invalidPrice] at h

theorem price_of_parse (hraw : p.price.extract f = .ok raw) (hd : Text.decimal? raw = some d) {v : Variant}
    (h : p.parse f = .ok v) : v.price = ⟨d, p.currency⟩ := by
  obtain ⟨raw', hraw', hprice, -⟩ := exists_raw_of_parseWith h
  obtain rfl := Except.ok.inj (hraw.symm.trans hraw')
  rw [hprice, hd, Option.getD_some]

/-- The built-in plans that read an option off the page itself read its price like this, and pick the rest. -/
theorem default_of_builtin : ∀ plan ∈ Catalog.builtin, ∀ p ∈ plan.defaultOption,
    p.price.method = .css ∧ p.price.molds = priceMolds ∧ ∀ rule ∈ p.optionalRules, ∀ r ∈ rule, r.Picks := by
  decide +kernel

/-- A price text is read as the amount that it means, and an option with it is refused for its price just when that
is zero. The built-in plans do not refuse such an option for anything else. -/
theorem parse_priceText (t : PriceText) :
    ∃ s d, applyAll priceMolds t.text = .ok s ∧ Text.decimal? s = some d ∧ d.scale = 2 ∧ d.value = t.value ∧
      (∀ (p : VariantPlan) (f : Fragment), p.price.molds = priceMolds → p.price.raw f = .ok t.text →
        ((∃ text, p.parse f = .error (.invalidPrice text)) ↔ t.value = 0) ∧
        ∀ v, p.parse f = .ok v → v.price = ⟨d, p.currency⟩) ∧
      ∀ plan ∈ Catalog.builtin, ∀ p ∈ plan.defaultOption, p.price.molds = priceMolds ∧
        ∀ f, p.price.raw f = .ok t.text → t.value ≠ 0 → ∃ v, p.parse f = .ok v := by
  have happly : applyAll priceMolds t.text = .ok (t.digits ++ '.' :: t.decimals) := by
    rw [applyAll_priceMolds, t.kept_text]
  have hextract {p : VariantPlan} {f : Fragment} (hmolds : p.price.molds = priceMolds)
      (hraw : p.price.raw f = .ok t.text) : p.price.extract f = .ok (t.digits ++ '.' :: t.decimals) := by
    rw [Rule.extract_of_raw hraw, Rule.reshape, hmolds, happly]
  refine ⟨_, t.amount, happly, t.decimal?_kept, t.decimals_length, t.value_amount, fun p f hmolds hraw => ⟨?_, ?_⟩,
    fun plan hplan p hp => ?_⟩
  · rw [invalidPrice_iff (hextract hmolds hraw) t.decimal?_kept, t.value_amount]
    exact ⟨fun h => le_antisymm h t.value_nonneg, le_of_eq⟩
  · exact fun v hv => price_of_parse (hextract hmolds hraw) t.decimal?_kept hv
  · obtain ⟨hmethod, hmolds, hrules⟩ := default_of_builtin plan hplan p hp
    refine ⟨hmolds, fun f hraw hne => ?_⟩
    have hpositive : 0 < t.amount.value := by
      rw [t.value_amount]
      exact lt_of_le_of_ne t.value_nonneg hne.symm
    exact exists_parse (hextract hmolds hraw) t.decimal?_kept hpositive hrules (Rule.ne_text_of_raw hmethod hraw)

def priceTag (text : String) : Fragment := .ofMarkup s!"<span data-qaid='product_price'>{text}</span>".toList

def hryvnias : PriceText where
  whole := "12 345\u00a0678".toList
  mark := ','
  decimals := "90".toList
  unit := " грн".toList
  whole_grouped := List.all_iff_forall_prop.mp (by decide +kernel)
  whole_digit := List.any_iff_exists_prop.mp (by decide +kernel)
  whole_lt := by decide +kernel
  mark_eq := .inl rfl
  decimals_digit := List.all_iff_forall_prop.mp (by decide +kernel)
  decimals_length := rfl
  unit_plain := List.all_iff_forall_prop.mp (by decide +kernel)

theorem parse_priceText_hryvnias : hryvnias.value = 1234567890 / 100 ∧ ∃ p ∈ Catalog.promUa.defaultOption,
    p.price.raw (priceTag "12 345\u00a0678,90 грн") = .ok hryvnias.text ∧
      ∃ d v, d.scale = 2 ∧ d.value = hryvnias.value ∧
        p.parse (priceTag "12 345\u00a0678,90 грн") = .ok v ∧ v.price = ⟨d, p.currency⟩ := by
  have hvalue : hryvnias.value = 1234567890 / 100 := by
    have hdigits : Nat.ofDigitChars 10 hryvnias.digits 0 = 12345678 := by decide +kernel
    have hdecimals : Nat.ofDigitChars 10 hryvnias.decimals 0 = 90 := by decide +kernel
    rw [PriceText.value, hdigits, hdecimals]
    norm_num
  obtain ⟨_, d, -, -, hscale, hd, hparse, hbuiltin⟩ := parse_priceText hryvnias
  have hraw : ∀ p ∈ Catalog.promUa.defaultOption,
      p.price.raw (priceTag "12 345\u00a0678,90 грн") = .ok hryvnias.text := by decide +kernel
  refine ⟨hvalue, _, rfl, hraw _ rfl, ?_⟩
  obtain ⟨hmolds, hread⟩ := hbuiltin Catalog.promUa List.mem_cons_self _ rfl
  obtain ⟨v, hv⟩ := hread _ (hraw _ rfl) (by rw [hvalue]; norm_num)
  exact ⟨d, v, hscale, hd, hv, (hparse _ _ hmolds (hraw _ rfl)).2 v hv⟩

/-- A full stop behind the unit is left as a second point, and no number is read. A price of zero is refused as well. -/
theorem full_stop_is_second_point :
    applyString priceMolds "1 299,50 грн." = .ok "1299.50." ∧ Text.decimal? "1299.50.".toList = none ∧
    ∃ p ∈ Catalog.promUa.defaultOption,
      p.parse (priceTag "1 299,50 грн.") = .error (.invalidPrice "1299.50.") ∧
      p.parse (priceTag "0,00 грн") = .error (.invalidPrice "0.00") :=
  ⟨by decide +kernel, by decide +kernel, _, rfl, by decide +kernel, by decide +kernel⟩

end VariantPlan
end Storefront

import Storefront.Json.Decode
import Storefront.Json.Reader
import Storefront.Json.Writer
import Storefront.Proofs.Attempt

/-! # Written JSON read back

A value without numbers is read back from its text as it was written, whatever its strings hold, as long as it is not
nested too deep. A field of a record is given at most once, whether the record is an object or an array, and a list is
read value by value.
-/
namespace Storefront.Json
variable {c : Char} {rest : List Char}

section Strings

theorem hexDigit?_hexDigit : ∀ n < 16, Html.Entity.hexDigit? (Text.hexDigit n) = some n := by decide

theorem readUnit_hexDigits {n : Nat} (h : n < 0x10000) (rest : List Char) :
    readUnit (Text.hexDigits 4 n ++ rest) = some (n, rest) := by
  have hdigit (m : Nat) := hexDigit?_hexDigit (m % 16) (Nat.mod_lt _ (by decide))
  simp only [Text.hexDigits, List.nil_append, List.cons_append, readUnit, hdigit, Option.some.injEq, Prod.mk.injEq,
    and_true]
  omega

theorem readCodePoint_hexDigits (h : c.toNat < 0xd800) (rest : List Char) :
    readCodePoint (Text.hexDigits 4 c.toNat ++ rest) = some (c, rest) := by
  have hlow : ¬ (0xd800 ≤ c.toNat ∧ c.toNat < 0xdc00) := by omega
  have hvalid : c.toNat.isValidChar := .inl h
  simp [readCodePoint, readUnit_hexDigits (show c.toNat < 0x10000 by omega), hlow, hvalid]

theorem readString_escapeChar (c : Char) (out : List Char) (fuel : Nat) (rest : List Char) :
    readString out (fuel + 1) (escapeChar c ++ rest) = readString (c :: out) fuel rest := by
  unfold escapeChar
  split
  · simp [readString]
  · simp [readString]
  · simp [readString]
  · simp [readString]
  · simp [readString]
  · next hquote hslash _ _ _ =>
    split
    · next h =>
      have hc : c = Char.ofNat 8 := Char.toNat_inj.mp h
      simp [readString, hc]
    · split
      · next h =>
        have hc : c = Char.ofNat 12 := Char.toNat_inj.mp h
        simp [readString, hc]
      · split
        · next h => simp [readString, readCodePoint_hexDigits (show c.toNat < 0xd800 by omega)]
        · next h =>
          have hplain : c ≠ '"' ∧ c ≠ '\\' := ⟨hquote, hslash⟩
          simp [readString, hplain, h]

theorem escapeChar_ne_nil (c : Char) : escapeChar c ≠ [] := by
  unfold escapeChar
  grind

theorem readString_escapes (s out : List Char) {fuel : Nat}
    (hfuel : (s.flatMap escapeChar ++ '"' :: rest).length ≤ fuel) :
    readString out fuel (s.flatMap escapeChar ++ '"' :: rest) = some (String.ofList (out.reverse ++ s), rest) := by
  induction s generalizing out fuel with
  | nil =>
    obtain ⟨fuel, rfl⟩ := Nat.exists_eq_succ_of_ne_zero (Nat.ne_zero_of_lt hfuel)
    simp [readString]
  | cons c s ih =>
    have hpos : 0 < (escapeChar c).length := List.length_pos_iff.mpr (escapeChar_ne_nil c)
    rw [List.flatMap_cons, List.append_assoc] at hfuel ⊢
    rw [List.length_append] at hfuel
    obtain ⟨fuel, rfl⟩ : ∃ n, fuel = n + 1 := Nat.exists_eq_succ_of_ne_zero (by omega)
    rw [readString_escapeChar, ih (c :: out) (by omega), List.reverse_cons, List.append_assoc, List.singleton_append]

end Strings

section Values
variable {depth fuel : Nat} {j : Json}

/-- Values without numbers that are nested so deep at most. -/
inductive Worded : Nat → Json → Prop
  | null (depth : Nat) : Worded depth .null
  | bool (depth : Nat) (b : Bool) : Worded depth (.bool b)
  | string (depth : Nat) (s : String) : Worded depth (.string s)
  | array {depth : Nat} {items : List Json} (items_worded : ∀ v ∈ items, Worded depth v) :
    Worded (depth + 1) (.array items)
  | object {depth : Nat} {fields : List (String × Json)} (fields_worded : ∀ f ∈ fields, Worded depth f.2) :
    Worded (depth + 1) (.object fields)

/-- Whether a value is read back from its text, with anything behind it. A value is entered with one step and left with
none, so that two steps for each character are enough. -/
def ReadsBack (depth : Nat) (j : Json) : Prop :=
  ∀ fuel rest, 2 * j.compact.toList.length ≤ fuel → readValue fuel depth (j.compact.toList ++ rest) = some (j, rest)

theorem skipSpace_of_ne (h : isSpace c = false) (rest : List Char) : skipSpace (c :: rest) = c :: rest := by
  simp [skipSpace, h]

theorem toList_quoted (s : String) : (quoted s).toList = '"' :: (s.toList.flatMap escapeChar ++ ['"']) := by
  simp [quoted]

theorem readString_quoted (s : String) (rest : List Char) :
    readString [] ((s.toList.flatMap escapeChar ++ '"' :: rest).length + 1)
      (s.toList.flatMap escapeChar ++ '"' :: rest) = some (s, rest) := by
  rw [readString_escapes s.toList [] (Nat.le_succ _)]
  simp

/-- How the text of a value begins: with no blank, and not with a closing bracket. -/
theorem Worded.exists_compact (h : Worded depth j) :
    ∃ c rest, j.compact.toList = c :: rest ∧ isSpace c = false ∧ c ≠ ']' := by
  cases h with
  | null => exact ⟨'n', "ull".toList, rfl, rfl, by decide⟩
  | bool _ b =>
    cases b with
    | false => exact ⟨'f', "alse".toList, rfl, rfl, by decide⟩
    | true => exact ⟨'t', "rue".toList, rfl, rfl, by decide⟩
  | string _ s => exact ⟨'"', _, by rw [compact, toList_quoted], rfl, by decide⟩
  | array => exact ⟨'[', _, by rw [compact, String.append_assoc, String.toList_append]; rfl, rfl, by decide⟩
  | object => exact ⟨Char.ofNat 0x7b, _, by rw [compact, String.append_assoc, String.toList_append]; rfl, rfl, by decide⟩

theorem readsBack_null (depth : Nat) : ReadsBack depth .null := by
  intro fuel rest hfuel
  obtain ⟨fuel, rfl⟩ : ∃ n, fuel = n + 1 := Nat.exists_eq_succ_of_ne_zero (by simp [compact] at hfuel; omega)
  simp [readValue, compact, skipSpace_of_ne, isSpace, dropWord]

theorem readsBack_bool (depth : Nat) (b : Bool) : ReadsBack depth (.bool b) := by
  intro fuel rest hfuel
  obtain ⟨fuel, rfl⟩ : ∃ n, fuel = n + 1 := Nat.exists_eq_succ_of_ne_zero (by cases b <;> simp [compact] at hfuel <;> omega)
  cases b <;> simp [readValue, compact, skipSpace_of_ne, isSpace, dropWord]

theorem readsBack_string (depth : Nat) (s : String) : ReadsBack depth (.string s) := by
  intro fuel rest hfuel
  rw [compact, toList_quoted] at hfuel ⊢
  obtain ⟨fuel, rfl⟩ : ∃ n, fuel = n + 1 := Nat.exists_eq_succ_of_ne_zero (by simp at hfuel; omega)
  rw [List.cons_append, List.append_assoc, List.singleton_append, readValue, skipSpace_of_ne rfl]
  simp only [if_true, readString_quoted, Option.map_some]

theorem toList_compactItems (v : Json) {items : List Json} (h : items ≠ []) :
    (compactItems (v :: items)).toList = v.compact.toList ++ ',' :: (compactItems items).toList := by
  obtain ⟨w, items, rfl⟩ := List.exists_cons_of_ne_nil h
  simp [compactItems]

theorem Worded.exists_compactItems {v : Json} (h : Worded depth v) (items : List Json) :
    ∃ c rest, (compactItems (v :: items)).toList = c :: rest ∧ isSpace c = false ∧ c ≠ ']' := by
  obtain ⟨c, rest, hv, hspace, hopen⟩ := h.exists_compact
  by_cases hlast : items = []
  · exact ⟨c, rest, by rw [hlast, compactItems, hv], hspace, hopen⟩
  · exact ⟨c, _, by rw [toList_compactItems v hlast, hv, List.cons_append], hspace, hopen⟩

theorem readItems_compactItems {items : List Json} (hne : items ≠ []) (h : ∀ v ∈ items, ReadsBack depth v)
    (done : List Json) (rest : List Char) (fuel : Nat) (hfuel : 2 * (compactItems items).toList.length < fuel) :
    readItems fuel depth done ((compactItems items).toList ++ ']' :: rest) = some (.array (done.reverse ++ items), rest) := by
  induction items generalizing done fuel with
  | nil => exact absurd rfl hne
  | cons v items ih =>
    obtain ⟨hv, hitems⟩ := List.forall_mem_cons.mp h
    obtain ⟨fuel, rfl⟩ : ∃ n, fuel = n + 1 := Nat.exists_eq_succ_of_ne_zero (by omega)
    by_cases hlast : items = []
    · subst hlast
      have hread := hv fuel (']' :: rest) (by simpa [compactItems] using Nat.le_of_lt_succ hfuel)
      simp [readItems, compactItems, hread, skipSpace_of_ne, isSpace]
    · rw [toList_compactItems v hlast] at hfuel ⊢
      rw [List.length_append, List.length_cons] at hfuel
      have hread := hv fuel (',' :: ((compactItems items).toList ++ ']' :: rest)) (by omega)
      have hmore := ih hlast hitems (v :: done) fuel (by omega)
      simp [readItems, hread, skipSpace_of_ne, isSpace, hmore]

theorem readsBack_array {items : List Json} (hworded : ∀ v ∈ items, Worded depth v)
    (h : ∀ v ∈ items, ReadsBack depth v) : ReadsBack (depth + 1) (.array items) := by
  intro fuel rest hfuel
  have htext : (compact (.array items)).toList = '[' :: ((compactItems items).toList ++ [']']) := by simp [compact]
  rw [htext, List.length_cons, List.length_append, List.length_singleton] at hfuel
  obtain ⟨fuel, rfl⟩ : ∃ n, fuel = n + 1 := Nat.exists_eq_succ_of_ne_zero (by omega)
  rw [htext, List.cons_append, List.append_assoc, List.singleton_append, readValue, skipSpace_of_ne rfl]
  cases items with
  | nil => simp [compactItems, skipSpace_of_ne, isSpace]
  | cons v items =>
    have hread := readItems_compactItems (List.cons_ne_nil v items) h [] rest fuel (by omega)
    obtain ⟨c, more, hbegins, hspace, hopen⟩ := (hworded v List.mem_cons_self).exists_compactItems items
    rw [hbegins, List.cons_append] at hread ⊢
    simp [skipSpace_of_ne hspace, hopen, hread]

theorem toList_compactFields (name : String) (v : Json) {fields : List (String × Json)} (h : fields ≠ []) :
    (compactFields ((name, v) :: fields)).toList =
      (quoted name).toList ++ ':' :: (v.compact.toList ++ ',' :: (compactFields fields).toList) := by
  obtain ⟨⟨name', v'⟩, fields, rfl⟩ := List.exists_cons_of_ne_nil h
  simp [compactFields]

theorem readFields_field {name : String} {v : Json} (hv : ReadsBack depth v) (hfuel : 2 * v.compact.toList.length ≤ fuel)
    (done : List (String × Json)) (rest : List Char) :
    readFields (fuel + 1) depth done ((quoted name).toList ++ ':' :: (v.compact.toList ++ ',' :: rest)) =
        readFields fuel depth ((name, v) :: done) rest ∧
      readFields (fuel + 1) depth done ((quoted name).toList ++ ':' :: (v.compact.toList ++ Char.ofNat 0x7d :: rest)) =
        some (.object ((name, v) :: done).reverse, rest) := by
  have hname (behind : List Char) := readString_quoted name (':' :: (v.compact.toList ++ behind))
  constructor
  all_goals
    rw [toList_quoted, List.cons_append, List.append_assoc, List.singleton_append, readFields, skipSpace_of_ne rfl]
    simp only [hname]
    simp [skipSpace_of_ne, isSpace, hv fuel _ hfuel]

theorem readFields_compactFields {fields : List (String × Json)} (hne : fields ≠ [])
    (h : ∀ f ∈ fields, ReadsBack depth f.2) (done : List (String × Json)) (rest : List Char) (fuel : Nat)
    (hfuel : 2 * (compactFields fields).toList.length < fuel) :
    readFields fuel depth done ((compactFields fields).toList ++ Char.ofNat 0x7d :: rest) =
      some (.object (done.reverse ++ fields), rest) := by
  induction fields generalizing done fuel with
  | nil => exact absurd rfl hne
  | cons field fields ih =>
    obtain ⟨name, v⟩ := field
    obtain ⟨hv, hfields⟩ : ReadsBack depth v ∧ ∀ f ∈ fields, ReadsBack depth f.2 := List.forall_mem_cons.mp h
    obtain ⟨fuel, rfl⟩ : ∃ n, fuel = n + 1 := Nat.exists_eq_succ_of_ne_zero (by omega)
    -- a comma follows every field but the last
    by_cases hlast : fields = []
    · subst hlast
      have htext : (compactFields [(name, v)]).toList = (quoted name).toList ++ ':' :: v.compact.toList := by
        simp [compactFields]
      rw [htext, List.length_append, List.length_cons] at hfuel
      rw [htext, List.append_assoc, List.cons_append, (readFields_field hv (by omega) done rest).2]
      simp
    · rw [toList_compactFields name v hlast] at hfuel ⊢
      simp only [List.length_append, List.length_cons] at hfuel
      rw [List.append_assoc, List.cons_append, List.append_assoc, List.cons_append,
        (readFields_field hv (by omega) done _).1]
      simp only [ih hlast hfields ((name, v) :: done) fuel (by omega), List.reverse_cons, List.append_assoc,
        List.singleton_append]

theorem readsBack_object {fields : List (String × Json)} (h : ∀ f ∈ fields, ReadsBack depth f.2) :
    ReadsBack (depth + 1) (.object fields) := by
  intro fuel rest hfuel
  have htext : (compact (.object fields)).toList =
      Char.ofNat 0x7b :: ((compactFields fields).toList ++ [Char.ofNat 0x7d]) := by simp [compact]
  rw [htext, List.length_cons, List.length_append, List.length_singleton] at hfuel
  obtain ⟨fuel, rfl⟩ : ∃ n, fuel = n + 1 := Nat.exists_eq_succ_of_ne_zero (by omega)
  rw [htext, List.cons_append, List.append_assoc, List.singleton_append, readValue, skipSpace_of_ne rfl]
  cases fields with
  | nil => simp [compactFields, skipSpace_of_ne, isSpace]
  | cons field fields =>
    have hread := readFields_compactFields (List.cons_ne_nil field fields) h [] rest fuel (by omega)
    obtain ⟨more, hbegins⟩ : ∃ more, (compactFields (field :: fields)).toList = '"' :: more := by
      obtain ⟨name, v⟩ := field
      by_cases hlast : fields = []
      · exact ⟨_, by rw [hlast, compactFields, String.append_assoc, String.toList_append, toList_quoted]; rfl⟩
      · exact ⟨_, by rw [toList_compactFields name v hlast, toList_quoted]; rfl⟩
    rw [hbegins, List.cons_append] at hread ⊢
    simp [skipSpace_of_ne, isSpace, hread]

theorem Worded.readsBack (h : Worded depth j) : ReadsBack depth j := by
  induction h with
  | null depth => exact readsBack_null depth
  | bool depth b => exact readsBack_bool depth b
  | string depth s => exact readsBack_string depth s
  | array hworded ih => exact readsBack_array hworded ih
  | object _ ih => exact readsBack_object ih

/-- A value without numbers is read back from its text. -/
theorem Worded.ofText?_compact (h : Worded depthLimit j) : ofText? j.compact = some j := by
  have hread := h.readsBack (2 * j.compact.toList.length + 2) [] (Nat.le_add_right _ 2)
  rw [List.append_nil] at hread
  simp [ofText?, hread, skipSpace]

end Values

section Records
variable {α : Type}

theorem list?_map {f : Json → Option α} {g : α → Json} (h : ∀ a, f (g a) = some a) (items : List α) :
    list? f (.array (items.map g)) = some items := by
  rw [list?, mapM_eq_some_iff, List.forall₂_map_left_iff, List.forall₂_same]
  exact fun a _ => h a

/-- The values that a record gives for a field, which is known by its name in an object and by its place in an array. -/
def given (place : Nat) (name : String) : Json → List Json
  | object fs => (fs.filter (·.1 == name)).map (·.2)
  | array items => items[place]?.toList
  | _ => []

/-- What is read for a field is what is given for it. -/
theorem exists_given {j : Json} {names : List String} {vs : List (Option Json)} (h : j.record? names = some vs)
    (place : Nat) {name : String} (hname : names[place]? = some name) :
    ∃ v, vs[place]? = some v ∧ j.given place name = v.toList := by
  have hlt : place < names.length := List.getElem?_eq_some_iff.mp hname |>.1
  cases j with
  | object fs =>
    rw [record?, mapM_eq_some_iff, List.forall₂_iff_get] at h
    obtain ⟨hlength, hread⟩ := h
    refine ⟨vs[place], List.getElem?_eq_getElem _, ?_⟩
    have hfield := hread place hlt (hlength ▸ hlt)
    rw [List.getElem?_eq_getElem hlt, Option.some_inj] at hname
    simp only [List.get_eq_getElem, hname] at hfield
    rw [given]
    split at hfield
    · next hnone => simp [hnone, ← Option.some_inj.mp hfield]
    · next hone => simp [hone, ← Option.some_inj.mp hfield]
    · cases hfield
  | array items =>
    simp only [record?, Option.ite_none_right_eq_some, Option.some_inj] at h
    obtain ⟨hle, rfl⟩ := h
    refine ⟨items[place]?, ?_, rfl⟩
    rcases Nat.lt_or_ge place items.length with hplace | hplace
    · simp [List.getElem?_append_left, hplace]
    · rw [List.getElem?_append_right (by simpa using hplace), List.getElem?_replicate_of_lt (by simp; omega),
        List.getElem?_eq_none hplace]
  | null => cases h
  | bool => cases h
  | integer => cases h
  | real => cases h
  | string => cases h

theorem eq_default_of_given {default a : α} {f : Json → Option α} {v : Option Json} {values : List Json}
    (hread : fieldOr? default f v = some a) (hgiven : values = v.toList) (habsent : values = []) : a = default := by
  cases v with
  | none => exact (Option.some_inj.mp hread).symm
  | some v => exact absurd (habsent.symm.trans hgiven) (by simp)

end Records

end Storefront.Json

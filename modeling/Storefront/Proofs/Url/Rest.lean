import Storefront.Proofs.Url.Path
import Storefront.Text.Address
import Storefront.Url.Reader

/-! # What stands behind an authority

A path, a query and a fragment that have been read are settled: they are written as they are read. What is put behind them
with a slash becomes part of the last one there is, and the whole is settled if that part is.
-/
namespace Storefront.Url
variable {scheme p q s t : List Char} {a : Authority} {u : Url}

/-- A query, if there is one, and a fragment, with their marks. -/
structure SettledTail (s : List Char) : Prop where
  query : ∀ c ∈ s.takeWhile (· != '#'), inSpecialQuery c = false
  fragment : ∀ c ∈ s.dropWhile (· != '#'), inFragment c = false

structure SettledRest (s : List Char) : Prop where
  path : SettledPath true (s.takeWhile (!isPathEnd ·))
  tail : SettledTail (s.dropWhile (!isPathEnd ·))

instance (s : List Char) : Decidable (SettledTail s) :=
  decidable_of_iff ((s.takeWhile (· != '#')).any inSpecialQuery = false ∧ (s.dropWhile (· != '#')).any inFragment = false)
    ⟨fun ⟨query, fragment⟩ => ⟨by simpa using query, by simpa using fragment⟩,
      fun ⟨query, fragment⟩ => ⟨by simpa using query, by simpa using fragment⟩⟩

instance (s : List Char) : Decidable (SettledRest s) :=
  decidable_of_iff (SettledPath true (s.takeWhile (!isPathEnd ·)) ∧ SettledTail (s.dropWhile (!isPathEnd ·)))
    ⟨fun ⟨path, tail⟩ => ⟨path, tail⟩, fun ⟨path, tail⟩ => ⟨path, tail⟩⟩

/-- Whether the parts of an address behind its authority are written as they are read. -/
structure SettledParts (u : Url) : Prop where
  path : ∃ p, u.path = '/' :: p ∧ SettledPath true p
  query : ∀ q ∈ u.query, ∀ c ∈ q, inSpecialQuery c = false
  fragment : ∀ f ∈ u.fragment, ∀ c ∈ f, inFragment c = false

def tailText (query fragment : Option (List Char)) : List Char :=
  ((query.map ('?' :: ·)).getD []) ++ ((fragment.map ('#' :: ·)).getD [])

def restText (u : Url) : List Char := u.path ++ tailText u.query u.fragment

theorem toText_eq (h : u.authority = some a) :
    u.toText = u.scheme ++ ':' :: '/' :: '/' :: a.toText ++ u.restText := by
  simp [toText, frontText, h, restText, tailText]

theorem readTail_eq (s : List Char) :
    readTail true s =
      (match s.takeWhile (· != '#') with
        | '?' :: q => some (encode inSpecialQuery q)
        | _ => none,
      (s.dropWhile (· != '#')).tail?.map (encode inFragment)) := by
  rw [readTail, List.span_eq_takeWhile_dropWhile]
  rfl

theorem readTail_of_settled (h : SettledTail s) (hs : ∀ c ∈ s.head?, isPathEnd c = true) :
    tailText (readTail true s).1 (readTail true s).2 = s := by
  obtain ⟨hquery, hfragment⟩ := h
  have hwhole : s.takeWhile (· != '#') ++ s.dropWhile (· != '#') = s := List.takeWhile_append_dropWhile
  have hmark := Text.head?_dropWhile (· != '#') s
  have hall : ∀ c ∈ s.takeWhile (· != '#'), (c != '#') = true := List.all_eq_true.mp List.all_takeWhile
  rw [readTail_eq, tailText]
  generalize s.takeWhile (· != '#') = front at *
  generalize s.dropWhile (· != '#') = back at *
  have hback : ((back.tail?.map (encode inFragment)).map ('#' :: ·)).getD [] = back := by
    cases back with
    | nil => rfl
    | cons c f =>
      obtain rfl : c = '#' := by simpa using hmark c rfl
      have hf : encode inFragment f = f := encode_eq_self fun c hc => hfragment c (List.mem_cons_of_mem _ hc)
      simp [hf]
  have hfront : ((match front with
      | '?' :: q => some (encode inSpecialQuery q)
      | _ => none).map ('?' :: ·)).getD [] = front := by
    cases front with
    | nil => rfl
    | cons c q =>
      have hc : c = '?' := by
        have hend := hs c (by rw [← hwhole]; rfl)
        have hne := hall c List.mem_cons_self
        simp only [isPathEnd, Bool.or_eq_true, beq_iff_eq] at hend
        exact hend.resolve_right (by simpa using hne)
      subst hc
      have hq : encode inSpecialQuery q = q := encode_eq_self fun c hc => hquery c (List.mem_cons_of_mem _ hc)
      simp [hq]
  simp only [hfront, hback, hwhole]

theorem settledParts_readRest (h : isSpecial scheme = true) (a : Authority) (s : List Char) :
    SettledParts (readRest scheme a s) := by
  rw [readRest, h, List.span_eq_takeWhile_dropWhile]
  simp only [readTail_eq]
  refine ⟨?_, ?_, ?_⟩
  · split
    · exact ⟨[], rfl, by simp, by simp [segments, settledSegment_nil]⟩
    · split
      · exact exists_settledPath true _
      · exact exists_settledPath true _
  · intro q hq c hc
    simp only at hq
    split at hq
    · cases hq
      exact not_set_of_mem_encode (by decide) hc
    · cases hq
  · intro f hf c hc
    obtain ⟨f, -, rfl⟩ := Option.map_eq_some_iff.mp hf
    exact not_set_of_mem_encode (by decide) hc

theorem restText_readRest (h : isSpecial scheme = true) (a : Authority) (hs : SettledRest s) :
    (readRest scheme a ('/' :: s)).restText = '/' :: s := by
  have hwhole : s.takeWhile (!isPathEnd ·) ++ s.dropWhile (!isPathEnd ·) = s := List.takeWhile_append_dropWhile
  have hmark : ∀ c ∈ (s.dropWhile (!isPathEnd ·)).head?, isPathEnd c = true := by
    simpa using Text.head?_dropWhile (!isPathEnd ·) s
  have htail := readTail_of_settled hs.tail hmark
  have hslash : isPathEnd '/' = false := by decide
  rw [readRest, h, List.span_eq_takeWhile_dropWhile]
  simp [hslash, readPath_of_settled hs.path, restText, htail, hwhole]

/-- Whether a text that is put behind an address with a slash is read there as it is written. It belongs to the path, unless
there is a query or a fragment. -/
def Keeps (u : Url) (s : List Char) : Prop :=
  match u.query, u.fragment with
  | _, some _ => ∀ c ∈ s, inFragment c = false
  | some _, none => SettledTail s
  | none, none => SettledRest s

instance (u : Url) (s : List Char) : Decidable (u.Keeps s) :=
  match u with
  | ⟨_, _, _, _, some _⟩ => decidable_of_iff (s.any inFragment = false) (by simp [Keeps])
  | ⟨_, _, _, some _, none⟩ => inferInstanceAs (Decidable (SettledTail s))
  | ⟨_, _, _, none, none⟩ => inferInstanceAs (Decidable (SettledRest s))

section Joined

theorem isPathEnd_of_inPath {c : Char} (h : inPath c = false) : (!isPathEnd c) = true := by
  simp only [inPath, Bool.or_eq_false_iff] at h
  simp [isPathEnd, h]

theorem settledRest_append_iff (hp : ∀ c ∈ p, inPath c = false) (hs : ∀ c ∈ s.head?, isPathEnd c = true) :
    SettledRest (p ++ s) ↔ SettledPath true p ∧ SettledTail s := by
  have hends : ∀ c ∈ s.head?, (!isPathEnd c) = false := by simpa using hs
  obtain ⟨htake, hdrop⟩ := span_append (fun c hc => isPathEnd_of_inPath (hp c hc)) hends
  constructor
  · rintro ⟨hpath, htail⟩
    rw [htake] at hpath
    rw [hdrop] at htail
    exact ⟨hpath, htail⟩
  · rintro ⟨hpath, htail⟩
    exact ⟨by rwa [htake], by rwa [hdrop]⟩

/-- What stands behind a settled path with a slash is settled on its own. -/
theorem settledRest_slash_iff (hp : SettledPath true p) : SettledRest (p ++ '/' :: s) ↔ SettledRest s := by
  have hends : ∀ c ∈ p ++ ['/'], (!isPathEnd c) = true := by
    rw [List.forall_mem_append]
    exact ⟨fun c hc => isPathEnd_of_inPath (hp.plain c hc), List.forall_mem_singleton.mpr (by decide)⟩
  have htake : (p ++ '/' :: s).takeWhile (!isPathEnd ·) = p ++ '/' :: s.takeWhile (!isPathEnd ·) := by
    rw [List.append_cons, List.takeWhile_append_of_pos hends, ← List.append_cons]
  have hdrop : (p ++ '/' :: s).dropWhile (!isPathEnd ·) = s.dropWhile (!isPathEnd ·) := by
    rw [List.append_cons, List.dropWhile_append_of_pos hends]
  constructor
  · rintro ⟨hpath, htail⟩
    rw [htake, settledPath_append_iff] at hpath
    exact ⟨hpath.2, hdrop ▸ htail⟩
  · rintro ⟨hpath, htail⟩
    exact ⟨by rw [htake, settledPath_append_iff]; exact ⟨hp, hpath⟩, by rwa [hdrop]⟩

theorem settledTail_append_iff (hq : ∀ c ∈ q, inSpecialQuery c = false) : SettledTail (q ++ s) ↔ SettledTail s := by
  have hends : ∀ c ∈ q, (c != '#') = true := by
    intro c hc
    rw [bne_iff_ne]
    rintro rfl
    exact absurd (hq _ hc) (by decide)
  have htake : (q ++ s).takeWhile (· != '#') = q ++ s.takeWhile (· != '#') := List.takeWhile_append_of_pos hends
  have hdrop : (q ++ s).dropWhile (· != '#') = s.dropWhile (· != '#') := List.dropWhile_append_of_pos hends
  constructor
  · rintro ⟨hquery, hfragment⟩
    rw [htake, List.forall_mem_append] at hquery
    exact ⟨hquery.2, hdrop ▸ hfragment⟩
  · rintro ⟨hquery, hfragment⟩
    exact ⟨by rw [htake, List.forall_mem_append]; exact ⟨hq, hquery⟩, by rwa [hdrop]⟩

theorem settledTail_hash_iff : SettledTail ('#' :: s) ↔ ∀ c ∈ s, inFragment c = false := by
  have htake : ('#' :: s).takeWhile (· != '#') = [] := by simp
  have hdrop : ('#' :: s).dropWhile (· != '#') = '#' :: s := by simp
  constructor
  · rintro ⟨-, hfragment⟩
    rw [hdrop] at hfragment
    exact (List.forall_mem_cons.mp hfragment).2
  · intro h
    exact ⟨by simp [htake], by rw [hdrop, List.forall_mem_cons]; exact ⟨by decide, h⟩⟩

theorem settledTail_nil : SettledTail [] := ⟨by simp, by simp⟩

theorem SettledParts.queryText (h : SettledParts u) :
    ∀ c ∈ (u.query.map ('?' :: ·)).getD [], inSpecialQuery c = false := by
  cases hq : u.query with
  | none => simp
  | some q => exact List.forall_mem_cons.mpr ⟨by decide, h.query q hq⟩

theorem SettledParts.fragmentText (h : SettledParts u) : SettledTail ((u.fragment.map ('#' :: ·)).getD []) := by
  cases hf : u.fragment with
  | none => exact settledTail_nil
  | some f => exact settledTail_hash_iff.mpr (h.fragment f hf)

theorem isPathEnd_of_head_queryText {c : Char} (query : Option (List Char)) (hs : ∀ c ∈ s.head?, isPathEnd c = true)
    (hc : c ∈ (((query.map ('?' :: ·)).getD []) ++ s).head?) : isPathEnd c = true := by
  cases query with
  | none => exact hs c hc
  | some q =>
    obtain rfl : '?' = c := by simpa using hc
    decide

theorem SettledParts.exists_restText (h : SettledParts u) : ∃ s, u.restText = '/' :: s ∧ SettledRest s := by
  obtain ⟨p, hp, hsettled⟩ := h.path
  refine ⟨p ++ tailText u.query u.fragment, by rw [restText, hp, List.cons_append], ?_⟩
  rw [tailText, settledRest_append_iff hsettled.plain, settledTail_append_iff h.queryText]
  · exact ⟨hsettled, h.fragmentText⟩
  · intro c hc
    refine isPathEnd_of_head_queryText u.query ?_ hc
    cases u.fragment with
    | none => simp
    | some f => simp [isPathEnd]

theorem keeps_dropWhile_iff (u : Url) (s : List Char) : u.Keeps (s.dropWhile (· == '/')) ↔ u.Keeps s := by
  induction s with
  | nil => rfl
  | cons c s ih =>
    by_cases hc : c = '/'
    · subst hc
      rw [List.dropWhile_cons_of_pos rfl, ih]
      have hfragment : inFragment '/' = false := by decide
      unfold Keeps
      split
      · simp [hfragment]
      · exact (settledTail_append_iff (q := ['/']) (List.forall_mem_singleton.mpr (by decide))).symm
      · exact (settledRest_slash_iff (p := []) ⟨by simp, by simp [segments, settledSegment_nil]⟩).symm
    · rw [List.dropWhile_cons_of_neg (by simpa using hc)]

theorem not_mem_of_dropEndWhile {f set : Char → Bool} (h : ∀ c ∈ s, set c = false) :
    ∀ c ∈ Text.dropEndWhile f s, set c = false := by
  intro c hc
  obtain ⟨trail, htrail, -⟩ := Text.exists_dropEndWhile f s
  exact h c (htrail ▸ List.mem_append_left trail hc)

theorem exists_joined_path (hp : SettledPath true p) (s : List Char) :
    ∃ t, Text.dropEndWhile (· == '/') ('/' :: p) ++ '/' :: s = '/' :: t ∧ (SettledRest t ↔ SettledRest s) := by
  obtain ⟨slashes, hwhole, hslashes⟩ := Text.exists_dropEndWhile (· == '/') ('/' :: p)
  cases hkept : Text.dropEndWhile (· == '/') ('/' :: p) with
  | nil => exact ⟨s, rfl, Iff.rfl⟩
  | cons c front =>
    rw [hkept, List.cons_append, List.cons.injEq] at hwhole
    obtain ⟨rfl, rfl⟩ := hwhole
    refine ⟨front ++ '/' :: s, rfl, settledRest_slash_iff ?_⟩
    cases slashes with
    | nil => rwa [List.append_nil] at hp
    | cons d slashes =>
      obtain rfl : d = '/' := by simpa using hslashes d List.mem_cons_self
      exact (settledPath_append_iff.mp hp).1

/-- What is put behind settled parts with a slash leaves them settled just if it is kept. -/
theorem SettledParts.exists_joined (h : SettledParts u) (s : List Char) :
    ∃ t, Text.joinSlash u.restText s = '/' :: t ∧ (SettledRest t ↔ u.Keeps s) := by
  obtain ⟨p, hp, hsettled⟩ := h.path
  rw [← keeps_dropWhile_iff, Text.joinSlash]
  generalize s.dropWhile (· == '/') = s
  cases hf : u.fragment with
  | some f =>
    have hrest : u.restText = ('/' :: p ++ (u.query.map ('?' :: ·)).getD []) ++ '#' :: f := by
      simp [restText, hp, tailText, hf]
    have hfront : ∀ c ∈ Text.dropEndWhile (· == '/') f ++ ['/'], inFragment c = false :=
      List.forall_mem_append.mpr ⟨not_mem_of_dropEndWhile (h.fragment f hf), List.forall_mem_singleton.mpr (by decide)⟩
    refine ⟨p ++ ((u.query.map ('?' :: ·)).getD [] ++ '#' :: (Text.dropEndWhile (· == '/') f ++ ['/'] ++ s)), ?_, ?_⟩
    · rw [hrest, Text.dropEndWhile_append_cons rfl]
      simp
    · have hhead : ∀ c ∈ ('#' :: (Text.dropEndWhile (· == '/') f ++ ['/'] ++ s)).head?, isPathEnd c = true := by
        simp [isPathEnd]
      rw [settledRest_append_iff hsettled.plain fun c => isPathEnd_of_head_queryText u.query hhead,
        settledTail_append_iff h.queryText, settledTail_hash_iff, List.forall_mem_append]
      simp only [Keeps, hf, hsettled, true_and]
      exact and_iff_right hfront
  | none =>
    cases hq : u.query with
    | some q =>
      have hrest : u.restText = '/' :: p ++ '?' :: q := by simp [restText, hp, tailText, hf, hq]
      have hfront : ∀ c ∈ '?' :: Text.dropEndWhile (· == '/') q ++ ['/'], inSpecialQuery c = false :=
        List.forall_mem_append.mpr
          ⟨List.forall_mem_cons.mpr ⟨by decide, not_mem_of_dropEndWhile (h.query q hq)⟩,
            List.forall_mem_singleton.mpr (by decide)⟩
      refine ⟨p ++ ('?' :: Text.dropEndWhile (· == '/') q ++ ['/'] ++ s), ?_, ?_⟩
      · rw [hrest, Text.dropEndWhile_append_cons rfl]
        simp
      · rw [settledRest_append_iff hsettled.plain (by simp [isPathEnd]), settledTail_append_iff hfront]
        simp [Keeps, hf, hq, hsettled]
    | none =>
      have hrest : u.restText = '/' :: p := by simp [restText, hp, tailText, hf, hq]
      rw [hrest]
      simpa [Keeps, hf, hq] using exists_joined_path hsettled s

end Joined

end Storefront.Url

import Storefront.Proofs.Plan.Listing

/-! # The options of a page by reference

The options of a page are those of its list, with the default price added where the plan says so, and
then the default option where the mode keeps it. What can go wrong on the way is listed as well.
-/
namespace Storefront.PagePlan

def Reads (p : PagePlan) (markup : List Char) (doc : Fragment) : Prop :=
  ∃ processed, Mold.applyAll p.preprocess markup = .ok processed ∧ doc = Fragment.ofMarkup processed

/-- The default option, which bears the name of the mode as its code and its first property. -/
def Labelled (p : PagePlan) (doc : Fragment) (d : Variant) : Prop :=
  ∃ plan v, p.defaultOption = some plan ∧ plan.parse doc = .ok v ∧
    d = { v with code := some p.defaultMode.name, propertyA := some p.defaultMode.name }

/-- `w` is `v` with a price added that is first converted to the currency of `v`. -/
def Raises (base : Money) (e : Exchange) (v w : Variant) : Prop :=
  ∃ converted amount, base.convert v.price.currency e = .ok converted ∧
    v.price.amount.add converted.amount = some amount ∧
    w = { v with price := ⟨amount, v.price.currency⟩ }

/-- The options that are read from the list. -/
inductive Listed (p : PagePlan) (doc : Fragment) : List Variant → Prop
  | single (hm : p.defaultMode = .single) : Listed p doc []
  | absent {e : Failure} (hm : p.defaultMode = .alongside ∨ p.defaultMode = .alternative)
      (h : p.Unlisted doc e) (ha : e.isAbsence = true) : Listed p doc []
  | standalone {plan : VariantPlan} {fs : List Fragment} (hm : p.defaultMode ≠ .single)
      (hp : p.priceMode = .standalone) (h : p.Lists doc plan fs)
      (valid : ∀ f ∈ fs, (∃ v, plan.parse f = .ok v) ∨ ∃ text, plan.parse f = .error (.invalidPrice text)) :
      Listed p doc (readable plan.parse fs)
  | additive {plan : VariantPlan} {fs : List Fragment} {vs : List Variant} (hm : p.defaultMode ≠ .single)
      (hp : p.priceMode = .additive) (h : p.Lists doc plan fs)
      (all : List.Forall₂ (fun f v => plan.parseDelta f = .ok v) fs vs) : Listed p doc vs

/-- The options as the page quotes them. -/
inductive Quoted (p : PagePlan) (doc : Fragment) (e : Exchange) (vs : List Variant) : List Variant → Prop
  | plain (h : p.priceMode = .standalone ∨ p.defaultMode = .ignore) : Quoted p doc e vs vs
  | raised {base : Variant} {ws : List Variant} (hp : p.priceMode = .additive)
      (hm : p.defaultMode ≠ .ignore) (hb : p.Labelled doc base)
      (all : List.Forall₂ (Raises base.price e) vs ws) : Quoted p doc e vs ws

/-- Whether the mode keeps the default option beside other options. -/
def Keeps (p : PagePlan) (ws : List Variant) : Prop :=
  p.defaultMode = .alongside ∨ p.defaultMode = .single ∨ (p.defaultMode = .alternative ∧ ws = [])

/-- What the default option adds to the other options. -/
inductive DefaultPart (p : PagePlan) (doc : Fragment) (ws : List Variant) : List Variant → Prop
  | kept {d : Variant} (hk : p.Keeps ws) (h : p.Labelled doc d) : DefaultPart p doc ws [d]
  | dropped (hk : ¬ p.Keeps ws) : DefaultPart p doc ws []

/-- What makes it impossible to read the options of a page. -/
inductive Fails (p : PagePlan) (markup : List Char) (e : Exchange) : Prop
  | preprocess {fault : Mold.Fault} (h : Mold.applyAll p.preprocess markup = .error fault)
  | title {doc : Fragment} {failure : Failure} (hd : p.Reads markup doc)
      (h : p.title.extract doc = .error failure)
  | noList (hm : p.defaultMode ≠ .single) (h : p.list = none ∨ p.option = none)
  | unlisted {doc : Fragment} {failure : Failure} (hd : p.Reads markup doc) (hm : p.defaultMode ≠ .single)
      (h : p.Unlisted doc failure)
      (strict : failure.isAbsence = true → p.defaultMode = .ignore ∨ p.defaultMode = .basis)
  | fragment {doc f : Fragment} {plan : VariantPlan} {fs : List Fragment} {failure : Failure}
      (hd : p.Reads markup doc) (hm : p.defaultMode ≠ .single) (hl : p.Lists doc plan fs) (hf : f ∈ fs)
      (h : p.parseOption plan f = .error failure) (valid : ∀ text, failure ≠ .invalidPrice text)
  | noDefault (hm : p.defaultMode ≠ .ignore) (h : p.defaultOption = none)
  | default {doc : Fragment} {plan : VariantPlan} {failure : Failure} (hd : p.Reads markup doc)
      (hm : p.defaultMode ≠ .ignore) (hp : p.defaultOption = some plan)
      (h : plan.parse doc = .error failure)
  | sum {doc : Fragment} {vs : List Variant} {base v : Variant} (hd : p.Reads markup doc)
      (hm : p.defaultMode ≠ .ignore) (hp : p.priceMode = .additive) (hl : p.Listed doc vs)
      (hb : p.Labelled doc base) (hv : v ∈ vs) (h : ∀ w, ¬ Raises base.price e v w)

/-- No fragment of the list lacks something that its option needs. -/
def NoneLacks (p : PagePlan) (doc : Fragment) : Prop :=
  p.defaultMode ≠ .single → ∀ plan fs, p.Lists doc plan fs → ∀ f ∈ fs, lacks (p.parseOption plan) f = false

variable {p : PagePlan} {markup : List Char} {doc : Fragment} {e : Exchange}

theorem Reads.unique {doc' : Fragment} (h : p.Reads markup doc) (h' : p.Reads markup doc') : doc = doc' := by
  obtain ⟨s, hs, rfl⟩ := h
  obtain ⟨s', hs', rfl⟩ := h'
  rw [hs] at hs'
  exact congrArg Fragment.ofMarkup (Except.ok.inj hs')

theorem tolerates_iff {m : DefaultMode} :
    m.toleratesMissingOptions = true ↔ m = .alongside ∨ m = .alternative := by
  cases m <;> simp [DefaultMode.toleratesMissingOptions]

theorem keepsDefault_iff {ws : List Variant} : keepsDefault p.defaultMode ws = true ↔ p.Keeps ws := by
  unfold keepsDefault Keeps
  cases p.defaultMode <;> simp

theorem readDefault_eq_ok_iff {d : Variant} : p.readDefault doc = .ok d ↔ p.Labelled doc d := by
  unfold readDefault Labelled
  cases p.defaultOption with
  | none => simp
  | some plan =>
    simp only [Attempt.bind_eq_ok_iff, pure, Except.pure, Except.ok.injEq, Option.some.injEq]
    constructor
    · rintro ⟨v, hv, rfl⟩
      exact ⟨plan, v, rfl, hv, rfl⟩
    · rintro ⟨_, v, rfl, hv, rfl⟩
      exact ⟨v, hv, rfl⟩

theorem addBase_eq_ok_iff {base : Money} {v w : Variant} :
    addBase base e v = .ok w ↔ Raises base e v w := by
  simp only [addBase, Raises, Attempt.bind_eq_ok_iff, Attempt.ofOption_eq_ok_iff, pure, Except.pure,
    Except.ok.injEq]
  constructor
  · rintro ⟨converted, hc, amount, ha, rfl⟩
    exact ⟨converted, amount, hc, ha, rfl⟩
  · rintro ⟨converted, amount, hc, ha, rfl⟩
    exact ⟨converted, hc, amount, ha, rfl⟩

theorem extract_eq_ok_iff {page : Page} : p.extract markup e = .ok page ↔
    ∃ doc title vs ws, p.Reads markup doc ∧ p.title.extract doc = .ok title ∧
      p.listedOptions doc = .ok vs ∧ p.mergeDefault doc vs e = .ok ws ∧
      page = ⟨match optionalField p.subtitle doc with
        | some subtitle => s!"{String.ofList title} {subtitle}"
        | none => String.ofList title, optionalField p.thumbnail doc, ws⟩ := by
  unfold extract Reads
  cases hm : Mold.applyAll p.preprocess markup with
  | error fault => simp
  | ok processed =>
    simp only [Attempt.bind_eq_ok_iff, pure, Except.pure, Except.ok.injEq]
    constructor
    · rintro ⟨title, ht, vs, hv, ws, hw, rfl⟩
      exact ⟨_, title, vs, ws, ⟨processed, rfl, rfl⟩, ht, hv, hw, rfl⟩
    · rintro ⟨_, title, vs, ws, ⟨_, rfl, rfl⟩, ht, hv, hw, rfl⟩
      exact ⟨title, ht, vs, hv, ws, hw, rfl⟩

theorem Labelled.unique {d d' : Variant} (h : p.Labelled doc d) (h' : p.Labelled doc d') : d = d' := by
  rw [← readDefault_eq_ok_iff] at h h'
  exact Except.ok.inj (h.symm.trans h')

theorem DefaultPart.eq {ws ds : List Variant} {d : Variant} (h : p.DefaultPart doc ws ds)
    (hd : p.Labelled doc d) : ds = if keepsDefault p.defaultMode ws then [d] else [] := by
  cases h with
  | kept hk h => rw [if_pos (keepsDefault_iff.mpr hk), h.unique hd]
  | dropped hk => rw [if_neg (mt keepsDefault_iff.mp hk)]

theorem defaultPart_of_labelled {d : Variant} (ws : List Variant) (hd : p.Labelled doc d) :
    p.DefaultPart doc ws (if keepsDefault p.defaultMode ws then [d] else []) := by
  by_cases hk : p.Keeps ws
  · rw [if_pos (keepsDefault_iff.mpr hk)]
    exact .kept hk hd
  · rw [if_neg (mt keepsDefault_iff.mp hk)]
    exact .dropped hk

theorem quoted_standalone_iff {vs ws : List Variant} (hp : p.priceMode = .standalone) :
    p.Quoted doc e vs ws ↔ ws = vs := by
  constructor
  · intro h
    cases h with
    | plain => rfl
    | raised hp' => simp [hp] at hp'
  · rintro rfl
    exact .plain (.inl hp)

theorem quoted_additive_iff {base : Variant} {vs ws : List Variant} (hp : p.priceMode = .additive)
    (hm : p.defaultMode ≠ .ignore) (hb : p.Labelled doc base) :
    p.Quoted doc e vs ws ↔ vs.mapM (addBase base.price e) = .ok ws := by
  simp only [Attempt.mapM_eq_ok_iff, addBase_eq_ok_iff]
  constructor
  · intro h
    cases h with
    | plain h => simp [hp, hm] at h
    | raised _ _ hb' all => exact hb'.unique hb ▸ all
  · exact .raised hp hm hb

theorem mergeDefault_of_labelled {d : Variant} {vs options : List Variant} (hm : p.defaultMode ≠ .ignore)
    (hd : p.Labelled doc d) : p.mergeDefault doc vs e = .ok options ↔
      ∃ ws, p.Quoted doc e vs ws ∧ options = ws ++ if keepsDefault p.defaultMode ws then [d] else [] := by
  have append : ∀ ws, (if keepsDefault p.defaultMode ws then ws ++ [d] else ws) =
      ws ++ if keepsDefault p.defaultMode ws then [d] else [] := by
    intro ws
    split <;> simp
  have hr := readDefault_eq_ok_iff.mpr hd
  cases hp : p.priceMode with
  | standalone =>
    simp only [quoted_standalone_iff hp, mergeDefault, hm, hr, hp, append, if_false,
      Attempt.bind_eq_ok_iff, pure, Except.pure, Except.ok.injEq, exists_eq_left, exists_eq_left',
      @eq_comm _ options]
  | additive =>
    simp only [quoted_additive_iff hp hm hd, mergeDefault, hm, hr, hp, append, if_false,
      Attempt.bind_eq_ok_iff, pure, Except.pure, Except.ok.injEq, exists_eq_left', @eq_comm _ options]

theorem mergeDefault_eq_ok_iff {vs options : List Variant} : p.mergeDefault doc vs e = .ok options ↔
    (p.defaultMode ≠ .ignore → ∃ d, p.Labelled doc d) ∧
      ∃ ws ds, p.Quoted doc e vs ws ∧ p.DefaultPart doc ws ds ∧ options = ws ++ ds := by
  by_cases hm : p.defaultMode = .ignore
  · have keeps : ∀ ws, ¬ p.Keeps ws := by simp [Keeps, hm]
    simp only [mergeDefault, hm, if_true, Except.ok.injEq, ne_eq, not_true, false_implies, true_and]
    constructor
    · rintro rfl
      exact ⟨vs, [], .plain (.inr hm), .dropped (keeps vs), (List.append_nil vs).symm⟩
    · rintro ⟨ws, ds, hq, hd, rfl⟩
      cases hq with
      | raised _ hm' => exact absurd hm hm'
      | plain =>
        cases hd with
        | kept hk => exact absurd hk (keeps vs)
        | dropped => exact (List.append_nil vs).symm
  · simp only [hm, ne_eq, not_false_eq_true, true_implies]
    constructor
    · intro h
      have hd : ∃ d, p.Labelled doc d := by
        simp only [mergeDefault, hm, if_false, Attempt.bind_eq_ok_iff, readDefault_eq_ok_iff] at h
        exact h.imp fun _ h => h.1
      obtain ⟨d, hd⟩ := hd
      obtain ⟨ws, hq, rfl⟩ := (mergeDefault_of_labelled hm hd).mp h
      exact ⟨⟨d, hd⟩, ws, _, hq, defaultPart_of_labelled ws hd, rfl⟩
    · rintro ⟨⟨d, hd⟩, ws, ds, hq, hp, rfl⟩
      exact (mergeDefault_of_labelled hm hd).mpr ⟨ws, hq, by rw [hp.eq hd]⟩

theorem exists_mergeDefault_iff {vs : List Variant} : (∃ options, p.mergeDefault doc vs e = .ok options) ↔
    (p.defaultMode ≠ .ignore → ∃ d, p.Labelled doc d ∧
      (p.priceMode = .additive → ∀ v ∈ vs, ∃ w, Raises d.price e v w)) := by
  by_cases hm : p.defaultMode = .ignore
  · simp [mergeDefault, hm]
  constructor
  · rintro ⟨options, h⟩ _
    obtain ⟨labelled, ws, ds, hq, -, -⟩ := mergeDefault_eq_ok_iff.mp h
    obtain ⟨d, hd⟩ := labelled hm
    refine ⟨d, hd, fun hp => ?_⟩
    simpa only [addBase_eq_ok_iff] using
      Attempt.exists_mapM_eq_ok_iff.mp ⟨ws, (quoted_additive_iff hp hm hd).mp hq⟩
  · intro h
    obtain ⟨d, hd, raises⟩ := h hm
    have hq : ∃ ws, p.Quoted doc e vs ws := by
      cases hp : p.priceMode with
      | standalone => exact ⟨vs, .plain (.inl hp)⟩
      | additive =>
        simp only [quoted_additive_iff hp hm hd, Attempt.exists_mapM_eq_ok_iff, addBase_eq_ok_iff]
        exact raises hp
    obtain ⟨ws, hq⟩ := hq
    exact ⟨_, (mergeDefault_of_labelled hm hd).mpr ⟨ws, hq, rfl⟩⟩

section Fragments
variable {plan : VariantPlan} {fs : List Fragment} {vs : List Variant}

theorem Lists.listed_iff (h : p.Lists doc plan fs) (hm : p.defaultMode ≠ .single) : p.Listed doc vs ↔
    (∀ f ∈ fs, halt? (p.parseOption plan) f = none) ∧ vs = readable (p.parseOption plan) fs := by
  constructor
  · intro hl
    cases hl with
    | single hm' => exact absurd hm' hm
    | absent _ h' => exact absurd h' h.not_unlisted
    | standalone _ hp h' valid =>
      obtain ⟨rfl, rfl⟩ := h.unique h'
      rw [parseOption_standalone hp]
      exact ⟨fun f hf => halt?_eq_none_iff.mpr (valid f hf), rfl⟩
    | additive _ hp h' all =>
      obtain ⟨rfl, rfl⟩ := h.unique h'
      rw [parseOption_additive hp]
      have parses := Attempt.exists_mapM_eq_ok_iff.mp ⟨vs, Attempt.mapM_eq_ok_iff.mpr all⟩
      refine ⟨fun f hf => ?_, (forall₂_readable_iff parses).mp all⟩
      exact halt?_eq_none_iff.mpr (.inl (parses f hf))
  · rintro ⟨hn, rfl⟩
    cases hp : p.priceMode with
    | standalone =>
      rw [parseOption_standalone hp] at hn ⊢
      exact .standalone hm hp h fun f hf => halt?_eq_none_iff.mp (hn f hf)
    | additive =>
      rw [parseOption_additive hp] at hn ⊢
      exact .additive hm hp h ((forall₂_readable_iff (parses_of_halt?_eq_none hn)).mpr rfl)

theorem listedOptions_eq_ok_iff (present : p.NoneLacks doc) :
    p.listedOptions doc = .ok vs ↔ p.Listed doc vs := by
  by_cases hm : p.defaultMode = .single
  · rw [listedOptions_single hm, Except.ok.injEq]
    constructor
    · rintro rfl
      exact .single hm
    · intro h
      cases h with
      | single => rfl
      | absent => rfl
      | standalone hm' => exact absurd hm hm'
      | additive hm' => exact absurd hm hm'
  obtain missing | ⟨plan, fs, h⟩ | ⟨e, h⟩ := lists_cases p doc
  · rw [listedOptions_of_missing hm missing]
    simp only [reduceCtorEq, false_iff]
    intro h
    cases h with
    | single hm' => exact hm hm'
    | absent _ h => exact h.not_missing missing
    | standalone _ _ h => exact h.not_missing missing
    | additive _ _ h => exact h.not_missing missing
  · cases hs : fs.findSome? (halt? (p.parseOption plan)) with
    | none =>
      rw [h.listedOptions_of_none hm hs, h.listed_iff hm,
        and_iff_right (List.findSome?_eq_none_iff.mp hs), Except.ok.injEq, eq_comm]
    | some e =>
      obtain ⟨f, hf, he⟩ := List.exists_of_findSome?_eq_some hs
      have ha : e.isAbsence = false := by
        rw [← lacks_of_halt?_eq_some he]
        exact present hm plan fs h f hf
      rw [h.listedOptions_of_some hm hs]
      simp only [ha, Bool.false_eq_true, false_and, if_false, reduceCtorEq, false_iff]
      intro hl
      simp [((h.listed_iff hm).mp hl).1 f hf] at he
  · rw [listedOptions_of_unlisted hm h]
    constructor
    · intro hl
      split at hl
      · next ha =>
        cases hl
        exact .absent (tolerates_iff.mp ha.2) h ha.1
      · cases hl
    · intro hl
      cases hl with
      | single hm' => exact absurd hm' hm
      | absent hm' h' ha =>
        rw [if_pos ⟨(h.unique h').symm ▸ ha, tolerates_iff.mpr hm'⟩]
      | standalone _ _ h' => exact absurd h h'.not_unlisted
      | additive _ _ h' => exact absurd h h'.not_unlisted

end Fragments

theorem exists_listed (hd : p.Reads markup doc) (h : ¬ p.Fails markup e) : ∃ vs, p.Listed doc vs := by
  by_cases hm : p.defaultMode = .single
  · exact ⟨[], .single hm⟩
  obtain missing | ⟨plan, fs, hl⟩ | ⟨failure, hl⟩ := lists_cases p doc
  · exact absurd (.noList hm missing) h
  · have hn : ∀ f ∈ fs, halt? (p.parseOption plan) f = none := by
      intro f hf
      cases hh : halt? (p.parseOption plan) f with
      | none => rfl
      | some failure =>
        obtain ⟨hp, valid⟩ := halt?_eq_some_iff.mp hh
        exact absurd (.fragment hd hm hl hf hp valid) h
    exact ⟨_, (hl.listed_iff hm).mpr ⟨hn, rfl⟩⟩
  · have tolerated : failure.isAbsence = true ∧
        (p.defaultMode = .alongside ∨ p.defaultMode = .alternative) := by
      by_contra strict
      refine h (.unlisted hd hm hl fun ha => ?_)
      have allowed : ¬ (p.defaultMode = .alongside ∨ p.defaultMode = .alternative) :=
        fun hm' => strict ⟨ha, hm'⟩
      cases hp : p.defaultMode <;> simp_all
    exact ⟨[], .absent tolerated.2 hl tolerated.1⟩

theorem exists_labelled (hd : p.Reads markup doc) (hm : p.defaultMode ≠ .ignore)
    (h : ¬ p.Fails markup e) : ∃ d, p.Labelled doc d := by
  cases hp : p.defaultOption with
  | none => exact absurd (.noDefault hm hp) h
  | some plan =>
    cases hv : plan.parse doc with
    | ok v => exact ⟨_, plan, v, hp, hv, rfl⟩
    | error failure => exact absurd (.default hd hm hp hv) h

theorem exists_extract (present : ∀ doc, p.Reads markup doc → p.NoneLacks doc) (h : ¬ p.Fails markup e) :
    ∃ page, p.extract markup e = .ok page := by
  cases hp : Mold.applyAll p.preprocess markup with
  | error fault => exact absurd (.preprocess hp) h
  | ok processed =>
    have hd : p.Reads markup (Fragment.ofMarkup processed) := ⟨processed, hp, rfl⟩
    cases ht : p.title.extract (Fragment.ofMarkup processed) with
    | error failure => exact absurd (.title hd ht) h
    | ok title =>
      obtain ⟨vs, hl⟩ := exists_listed hd h
      have merge : ∃ options, p.mergeDefault (Fragment.ofMarkup processed) vs e = .ok options := by
        refine exists_mergeDefault_iff.mpr fun hm => ?_
        obtain ⟨d, hb⟩ := exists_labelled hd hm h
        refine ⟨d, hb, fun hp v hv => ?_⟩
        by_contra none
        exact h (.sum hd hm hp hl hb hv (not_exists.mp none))
      obtain ⟨options, ho⟩ := merge
      exact ⟨_, extract_eq_ok_iff.mpr
        ⟨_, title, vs, options, hd, ht, (listedOptions_eq_ok_iff (present _ hd)).mpr hl, ho, rfl⟩⟩

theorem noneLacks_of_all {list : Rule} {plan : VariantPlan} (hl : p.list = some list)
    (ho : p.option = some plan)
    (h : (fragments list doc).toOption.all (·.all fun f => !lacks (p.parseOption plan) f) = true) :
    p.NoneLacks doc := by
  rintro - plan' fs ⟨ho', list', hl', hf⟩ f hmem
  rw [ho] at ho'
  rw [hl] at hl'
  cases ho'
  cases hl'
  simp only [hf, Except.toOption, Option.all_some, List.all_eq_true, Bool.not_eq_true'] at h
  exact h f hmem

theorem not_fails_of_extract {page : Page} (present : ∀ doc, p.Reads markup doc → p.NoneLacks doc)
    (h : p.extract markup e = .ok page) : ¬ p.Fails markup e := by
  obtain ⟨doc, title, vs, ws, hd, ht, hv, hw, -⟩ := extract_eq_ok_iff.mp h
  have hl := (listedOptions_eq_ok_iff (present doc hd)).mp hv
  have merged := exists_mergeDefault_iff.mp ⟨ws, hw⟩
  intro fails
  cases fails with
  | preprocess hp =>
    obtain ⟨processed, hp', -⟩ := hd
    simp [hp] at hp'
  | title hd' ht' =>
    obtain rfl := hd.unique hd'
    simp [ht] at ht'
  | noList hm missing => simp [listedOptions_of_missing hm missing] at hv
  | unlisted hd' hm unlisted strict =>
    obtain rfl := hd.unique hd'
    rw [listedOptions_of_unlisted hm unlisted] at hv
    split at hv
    · next ha =>
      obtain hm' | hm' := strict ha.1 <;> simp [hm', DefaultMode.toleratesMissingOptions] at ha
    · cases hv
  | fragment hd' hm lists hf hp valid =>
    obtain rfl := hd.unique hd'
    have passed := ((lists.listed_iff hm).mp hl).1 _ hf
    simp [halt?_eq_some_iff.mpr ⟨hp, valid⟩] at passed
  | noDefault hm hp =>
    obtain ⟨d, ⟨plan, v, hp', -⟩, -⟩ := merged hm
    simp [hp] at hp'
  | default hd' hm hp hv' =>
    obtain rfl := hd.unique hd'
    obtain ⟨d, ⟨plan, v, hp', hv, -⟩, -⟩ := merged hm
    rw [hp] at hp'
    cases hp'
    simp [hv'] at hv
  | sum hd' hm hp hl' hb hv' unraised =>
    obtain rfl := hd.unique hd'
    obtain ⟨d, hd, raises⟩ := merged hm
    obtain rfl := hd.unique hb
    have same := (listedOptions_eq_ok_iff (present _ hd')).mpr hl'
    rw [hv] at same
    cases same
    obtain ⟨w, hw⟩ := raises hp _ hv'
    exact unraised w hw

/-- The options of a page are those of the list as they are quoted, and then what the default option
adds to them. There is no page exactly where the plan fails on the markup. -/
theorem extract_by_reference (p : PagePlan) (markup : List Char) (e : Exchange)
    (present : ∀ doc, p.Reads markup doc → p.NoneLacks doc) :
    (∀ page, p.extract markup e = .ok page → ∃ doc vs ws ds, p.Reads markup doc ∧ p.Listed doc vs ∧
      p.Quoted doc e vs ws ∧ p.DefaultPart doc ws ds ∧ page.options = ws ++ ds) ∧
    ((∃ failure, p.extract markup e = .error failure) ↔ p.Fails markup e) := by
  constructor
  · intro page h
    obtain ⟨doc, title, vs, options, hd, -, hv, ho, rfl⟩ := extract_eq_ok_iff.mp h
    obtain ⟨-, ws, ds, hq, hp, rfl⟩ := mergeDefault_eq_ok_iff.mp ho
    exact ⟨doc, vs, ws, ds, hd, (listedOptions_eq_ok_iff (present doc hd)).mp hv, hq, hp, rfl⟩
  · rw [Attempt.exists_error_iff]
    constructor
    · intro none
      by_contra h
      exact none (exists_extract present h)
    · rintro fails ⟨page, h⟩
      exact not_fails_of_extract present h fails

def sizes (mode : DefaultMode) (priceMode : PriceMode) : PagePlan where
  id := none
  name := "Sizes"
  domain := ⟨"https".toList, none, [], none, none⟩
  title := Rule.css "title"
  defaultMode := mode
  defaultOption := some { price := Rule.css "i", currency := .usd }
  list := some (Rule.css "p")
  option := some { price := Rule.css "b", currency := .eur }
  priceMode := priceMode

def twoDollars : Exchange := ((RateTable.ofMain .usd).set .eur Decimal.two).exchange

def listedSizes : List Char := "<title>Shoes</title><i>100</i><p><b>10</b><p><b>0</b><p><b>20</b>".toList

theorem extract_by_reference_sizes :
    (∀ doc, (sizes .alongside .additive).Reads listedSizes doc → (sizes .alongside .additive).NoneLacks doc) ∧
    ∃ page doc vs ws ds, (sizes .alongside .additive).extract listedSizes twoDollars = .ok page ∧
      (sizes .alongside .additive).Reads listedSizes doc ∧ (sizes .alongside .additive).Listed doc vs ∧
      (sizes .alongside .additive).Quoted doc twoDollars vs ws ∧
      (sizes .alongside .additive).DefaultPart doc ws ds ∧ page.options = ws ++ ds ∧
      page.options.map (·.price.amount.toText) =
        ["60.00".toList, "50.00".toList, "70.00".toList, "100".toList] := by
  have present : ∀ doc, (sizes .alongside .additive).Reads listedSizes doc →
      (sizes .alongside .additive).NoneLacks doc := by
    rintro _ ⟨_, hs, rfl⟩
    cases hs
    exact noneLacks_of_all rfl rfl (by decide +kernel)
  have prices : ((sizes .alongside .additive).extract listedSizes twoDollars).toOption.map
      (·.options.map (·.price.amount.toText)) =
        some ["60.00".toList, "50.00".toList, "70.00".toList, "100".toList] := by decide +kernel
  cases h : (sizes .alongside .additive).extract listedSizes twoDollars with
  | error failure => simp [h, Except.toOption] at prices
  | ok page =>
    simp only [h, Except.toOption, Option.map_some, Option.some.injEq] at prices
    obtain ⟨doc, vs, ws, ds, hd, hl, hq, hp, ho⟩ :=
      (extract_by_reference (sizes .alongside .additive) listedSizes twoDollars present).1 page h
    exact ⟨present, page, doc, vs, ws, ds, rfl, hd, hl, hq, hp, ho, prices⟩

end Storefront.PagePlan

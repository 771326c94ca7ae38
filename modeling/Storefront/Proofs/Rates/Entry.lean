import Storefront.Proofs.Job.Faults
import Storefront.Proofs.Rates.Ensure

/-! # What is entered in a book

A rate that is taken in is above zero and counts from then on for as long as rates do. It is entered before the book is
written, and stays if the book turns out to be too large for that. When none is taken in, the entries are what they
were. So each action changes the entry for its own currency at most.

Whatever a source says, a call fails only for want of a rate, for the rate file, or because a rate is out of range: it
would count beyond the calendar, or it is too large to be printed.
-/
namespace Storefront

/-- How a desk fails to have a rate. -/
inductive RateFault : Failure → Prop
  | unavailable (c : Currency) (problem : RateProblem) : RateFault (.rateUnavailable c problem)
  | file : RateFault .file

namespace RateBook

/-- A rate above zero has been entered for as long as rates count. -/
structure Enters (b : RateBook) (now : Timestamp) (c : Currency) (rate : Decimal) (b' : RateBook) : Prop where
  positive : rate.isPositive = true
  main_eq : b'.main = b.main
  ttl_eq : b'.ttl = b.ttl
  dated : ∃ expires, now.later? b.ttl = some expires ∧
    ∀ c', b'.entry? c' = if c' = c then some ⟨rate, some expires⟩ else b.entry? c'

/-- What may come of a rate that is to be taken in for a currency. -/
inductive TakesIn (b : RateBook) (now : Timestamp) (c : Currency) : Attempt Decimal × RateBook → Prop
  | taken {rate : Decimal} {b' : RateBook} (enters : b.Enters now c rate b') : TakesIn b now c (.ok rate, b')
  | unwritten {rate : Decimal} {b' : RateBook} (enters : b.Enters now c rate b') (large : ¬ b'.Printable) :
      TakesIn b now c (.error .outOfRange, b')
  | failed {f : Failure} {b' : RateBook} (fault : RateFault f) (main_eq : b'.main = b.main) (ttl_eq : b'.ttl = b.ttl)
      (rates_eq : b'.rates = b.rates) : TakesIn b now c (.error f, b')
  | undated (never : now.later? b.ttl = none) : TakesIn b now c (.error .outOfRange, b)

section
variable (b : RateBook) (now : Timestamp) (c : Currency)

theorem accept_takesIn {rate : Decimal} (hpositive : rate.isPositive = true) : b.TakesIn now c (b.accept now c rate) := by
  unfold accept
  cases hlater : now.later? b.ttl with
  | none => exact .undated hlater
  | some expires => exact .taken ⟨hpositive, rfl, rfl, expires, hlater, fun c' => b.rates.get?_insert c c' _⟩

theorem record_takesIn {rate : Decimal} (hpositive : rate.isPositive = true) : b.TakesIn now c (b.record now c rate) := by
  cases hlater : now.later? b.ttl with
  | none =>
    rw [record_of_not_later hlater]
    exact .undated hlater
  | some expires =>
    obtain ⟨b', hrecord, hmain, httl, hentry⟩ := record_of_later hlater c rate
    have henters : b.Enters now c rate b' := ⟨hpositive, hmain, httl, expires, hlater, hentry⟩
    rw [hrecord]
    split
    · exact .taken henters
    · rename_i hlarge
      refine .unwritten henters fun hprints => hlarge fun c' r' hr' => hprints c' r' ?_
      rwa [hentry, ← entry?_insert]

theorem writeFile_keeps (contents : String) :
    (b.writeFile contents).2.main = b.main ∧ (b.writeFile contents).2.ttl = b.ttl ∧
      (b.writeFile contents).2.rates = b.rates := by
  unfold writeFile
  split
  · exact ⟨rfl, rfl, rfl⟩
  · exact ⟨rfl, rfl, rfl⟩

theorem persist_keeps : b.persist.2.main = b.main ∧ b.persist.2.ttl = b.ttl ∧ b.persist.2.rates = b.rates := by
  unfold persist writeEntries
  split
  · exact b.writeFile_keeps _
  · exact ⟨rfl, rfl, rfl⟩

theorem writeFile_error {contents : String} {f : Failure} (h : (b.writeFile contents).1 = .error f) : f = .file := by
  unfold writeFile at h
  split at h
  · exact (Except.error.inj h).symm
  · cases h

theorem writeEntries_blank : ∃ contents, b.writeEntries (RateFile.blank b.main) = b.writeFile contents := by
  have hzero : Decimal.zero.HasRoom 4 := by decide
  have hroom : ∀ p ∈ RateFile.blank b.main, p.2.value.HasRoom 4 := by
    intro p hp
    obtain ⟨c, -, rfl⟩ := List.mem_map.mp hp
    exact hzero
  rw [writeEntries, RateFile.write?_eq, if_pos hroom]
  exact ⟨_, rfl⟩

theorem acceptFromFile_takesIn : b.TakesIn now c (b.acceptFromFile now c) := by
  obtain ⟨contents, hblank⟩ := b.writeEntries_blank
  obtain ⟨hmain, httl, hrates⟩ := b.writeFile_keeps contents
  have herror (f : Failure) : (b.writeFile contents).1 = .error f → f = .file := b.writeFile_error
  unfold acceptFromFile
  split
  · rw [hblank]
    generalize b.writeFile contents = written at hmain httl hrates herror
    obtain ⟨outcome, b'⟩ := written
    cases outcome with
    | ok _ => exact .failed (.unavailable c _) hmain httl hrates
    | error f => exact .failed (herror f rfl ▸ .file) hmain httl hrates
  · exact .failed .file rfl rfl rfl
  · split
    · rename_i rate hrate
      exact b.accept_takesIn now c (Option.filter_eq_some_iff.mp hrate).2
    · exact .failed (.unavailable c _) rfl rfl rfl

end

section
variable {b b' : RateBook} {now : Timestamp} {c : Currency} {a : Attempt Decimal}

theorem entry?_of_rates_eq (h : b'.rates = b.rates) (c : Currency) : b'.entry? c = b.entry? c :=
  congrArg (·.get? c) h

theorem TakesIn.main_eq (h : b.TakesIn now c (a, b')) : b'.main = b.main := by
  cases h with
  | taken enters => exact enters.main_eq
  | unwritten enters large => exact enters.main_eq
  | failed fault main_eq ttl_eq rates_eq => exact main_eq
  | undated never => rfl

theorem Enters.entry?_of_ne {rate : Decimal} (h : b.Enters now c rate b') {c' : Currency} (hne : c' ≠ c) :
    b'.entry? c' = b.entry? c' := by
  obtain ⟨expires, -, hentry⟩ := h.dated
  rw [hentry, if_neg hne]

theorem TakesIn.entry?_of_ne (h : b.TakesIn now c (a, b')) {c' : Currency} (hne : c' ≠ c) :
    b'.entry? c' = b.entry? c' := by
  cases h with
  | taken enters => exact enters.entry?_of_ne hne
  | unwritten enters large => exact enters.entry?_of_ne hne
  | failed fault main_eq ttl_eq rates_eq => exact entry?_of_rates_eq rates_eq c'
  | undated never => rfl

/-- A rate that has not been taken in leaves the entry as it was, unless it is only the writing that failed. -/
theorem TakesIn.entry?_of_error {f : Failure} (h : b.TakesIn now c (.error f, b')) :
    b'.entry? c = b.entry? c ∨ f = .outOfRange ∧ ¬ b'.Printable ∧ (RateBook.entry? b' c).isSome = true := by
  cases h with
  | unwritten enters large =>
    obtain ⟨expires, -, hentry⟩ := enters.dated
    exact .inr ⟨rfl, large, by simp [hentry]⟩
  | failed fault main_eq ttl_eq rates_eq => exact .inl (entry?_of_rates_eq rates_eq c)
  | undated never => exact .inl rfl

theorem TakesIn.fault {f : Failure} (h : b.TakesIn now c (.error f, b')) : RateFault f ∨ f = .outOfRange := by
  cases h with
  | unwritten enters large => exact .inr rfl
  | failed fault main_eq ttl_eq rates_eq => exact .inl fault
  | undated never => exact .inr rfl

theorem fresh?_eq_some_iff {rate : Decimal} :
    b.fresh? now c = some rate ↔ ∃ r, b.entry? c = some r ∧ r.isExpiredAt now = false ∧ r.value = rate := by
  unfold fresh?
  cases b.entry? c with
  | none => simp
  | some r => cases hexpired : r.isExpiredAt now <;> simp [Option.filter, hexpired]

theorem fresh?_of_entry {r : DatedRate} (hentry : b.entry? c = some r) (hcounts : r.isExpiredAt now = false) :
    b.fresh? now c = some r.value := fresh?_eq_some_iff.mpr ⟨r, hentry, hcounts, rfl⟩

end
end RateBook

namespace RateDesk
variable {ρ : Type} (d : RateDesk ρ) (c : Currency)

/-- How a call for rates may fail. -/
def CallFault (f : Failure) : Prop := RateFault f ∨ f = .outOfRange

theorem failsWith_onBook {f : Timestamp → RateBook → Attempt Decimal × RateBook}
    (h : ∀ now (b : RateBook), b.TakesIn now c (f now b)) : (d.onBook f).FailsWith CallFault := by
  refine Job.FailsWith.within (Job.failsWith_act fun now b => ?_)
  have htakes := h (d.clock now) b
  generalize f (d.clock now) b = taken at htakes
  intro e he
  obtain ⟨outcome, b'⟩ := taken
  obtain rfl : outcome = .error e := he
  exact htakes.fault

theorem failsWith_fallBack (cause : String) : (d.fallBack c cause).FailsWith CallFault := by
  refine .bind fun path => .bind fun allowed => ?_
  split
  · exact d.failsWith_onBook c fun now b => RateBook.acceptFromFile_takesIn b now c
  · exact Job.failsWith_error (.inl (.unavailable c _))

theorem failsWith_fetch : (d.fetch c).FailsWith CallFault := by
  refine .bind fun main => .bind fun found => ?_
  cases found with
  | error f => exact d.failsWith_fallBack c f.message
  | ok rate =>
    by_cases hpositive : rate.isPositive = true
    · simp only [if_pos hpositive]
      exact d.failsWith_onBook c fun now b => RateBook.record_takesIn b now c hpositive
    · simp only [if_neg hpositive]
      exact d.failsWith_fallBack c _

theorem failsWith_ensure : (d.ensure c).FailsWith CallFault := by
  refine .bind fun fresh => ?_
  cases fresh with
  | some rate => exact Job.failsWith_ok rate
  | none =>
    refine Job.FailsWith.holding (.bind fun claimed => ?_)
    cases claimed with
    | some rate => exact Job.failsWith_ok rate
    | none => exact d.failsWith_fetch c

theorem failsWith_ensureAll (list : List Currency) : (d.ensureAll list).FailsWith CallFault := by
  induction list with
  | nil => exact Job.failsWith_ok ()
  | cons c rest ih =>
    refine .bind_of fun ensured hensured => ?_
    cases ensured with
    | ok rate => exact ih
    | error f => exact Job.failsWith_error (d.failsWith_ensure c _ hensured f rfl)

end RateDesk
end Storefront

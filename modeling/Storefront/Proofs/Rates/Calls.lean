import Storefront.Proofs.Job.Pool
import Storefront.Proofs.Money.Conversion
import Storefront.Proofs.Rates.Standing

/-! # Calls for rates side by side

Calls may be served in any order and wait for one another, and what is outside may change in the meantime. While
a desk serves them its book stands, and a rate goes on to count until its time has run out. A call comes to a rate
above zero that is in the book, or it fails for want of a rate.
-/
namespace Storefront
open Relation (ReflTransGen)

/-- Rates above zero, the divisor first, whose quotient is too large for decimals. -/
structure QuotientTooLarge (x y : Decimal) : Prop where
  divisor : 0 < x.value
  dividend : 0 < y.value
  none : y.div x = none
  large : 2 ^ 96 - 1 ≤ y.value / x.value

theorem quotientTooLarge_of_div {x y : Decimal} (hx : 0 < x.value) (hy : 0 < y.value) (hnone : y.div x = none) :
    QuotientTooLarge x y := by
  refine ⟨hx, hy, hnone, ?_⟩
  by_contra hsmall
  have habs : |y.value / x.value| < 2 ^ 96 - 1 / 2 := by
    rw [abs_of_pos (div_pos hy hx)]
    exact (not_le.mp hsmall).trans (by norm_num)
  obtain ⟨quotient, hquotient, -⟩ := Decimal.exists_div hx.ne' habs
  rw [hnone] at hquotient
  cases hquotient

/-- How a book fails to give the rate between two currencies. -/
inductive RateBook.LacksRate (b : RateBook) (alpha beta : Currency) : Failure → Prop
  | unresolved {c : Currency} (mem : c = alpha ∨ c = beta) (missing : b.entry? c = none) :
      LacksRate b alpha beta (.rateUnavailable c .notResolved)
  | tooLarge {x y : DatedRate} (divisor : b.entry? alpha = some x) (dividend : b.entry? beta = some y)
      (quotient : QuotientTooLarge x.value y.value) : LacksRate b alpha beta (.overflow (.dividingRates beta alpha))

theorem RateBook.Stands.exchange_rate {b : RateBook} {now : Timestamp} (h : b.Stands now) {alpha beta : Currency}
    {f : Failure} (hf : b.exchange.rate alpha beta = .error f) : b.LacksRate alpha beta f := by
  have hworth (c : Currency) {f : Failure} (hf : b.exchange.positive c = .error f) :
      b.entry? c = none ∧ f = .rateUnavailable c .notResolved := by
    obtain ⟨hnone, rfl⟩ := Attempt.ofOption_eq_error_iff.mp hf
    refine ⟨?_, rfl⟩
    cases hentry : b.entry? c with
    | none => rfl
    | some r =>
      have hpositive := h.positive hentry
      simp [exchange, hentry, Option.filter, hpositive] at hnone
  have hentered (c : Currency) {x : Decimal} (hx : b.exchange.positive c = .ok x) :
      ∃ r, b.entry? c = some r ∧ r.value = x ∧ 0 < x.value := by
    obtain ⟨hrate, hpositive⟩ := Exchange.positive_eq_ok_iff.mp hx
    obtain ⟨r, hr, rfl⟩ := Option.map_eq_some_iff.mp hrate
    exact ⟨r, hr, rfl, Decimal.isPositive_iff.mp hpositive⟩
  rcases Attempt.bind_eq_error_iff.mp hf with hbeta | ⟨y, hy, hf⟩
  · obtain ⟨hnone, rfl⟩ := hworth beta hbeta
    exact .unresolved (.inr rfl) hnone
  rcases Attempt.bind_eq_error_iff.mp hf with halpha | ⟨x, hx, hf⟩
  · obtain ⟨hnone, rfl⟩ := hworth alpha halpha
    exact .unresolved (.inl rfl) hnone
  · obtain ⟨dividend, hdividend, rfl, hypos⟩ := hentered beta hy
    obtain ⟨divisor, hdivisor, rfl, hxpos⟩ := hentered alpha hx
    obtain ⟨hnone, rfl⟩ := Attempt.ofOption_eq_error_iff.mp hf
    exact .tooLarge hdivisor hdividend (quotientTooLarge_of_div hxpos hypos hnone)

namespace RateDesk
variable {ρ : Type}

section
variable (d : RateDesk ρ) (A : ρ → Prop) (main : Currency) (ttl : Int)

/-- The book stands, and a condition on what is outside holds. -/
structure InOrder (p : Nat × RateBook × ρ) : Prop where
  main_eq : p.2.1.main = main
  ttl_eq : p.2.1.ttl = ttl
  stands : p.2.1.Stands (d.clock p.1)
  outside : A p.2.2

/-- Time goes on, and so does the book if all was in order. -/
def Advances (p q : Nat × RateBook × ρ) : Prop :=
  p.1 ≤ q.1 ∧ (d.InOrder A main ttl p → p.2.1.GoesOn q.2.1 (d.clock p.1) (d.clock q.1) ∧ A q.2.2)

/-- How a call may fail: for want of a rate, or because a rate would count beyond the calendar or is too large to be
printed. -/
def FaultAt (q : Nat × RateBook × ρ) (f : Failure) : Prop :=
  RateFault f ∨ f = .outOfRange ∧ ((d.clock q.1).later? ttl = none ∨ ¬ RateBook.Printable q.2.1)

/-- What a call for one rate comes to: a rate that has just been found in the book or entered, or a fault. -/
def Answers (c : Currency) (a : Attempt Decimal) (q : Nat × RateBook × ρ) : Prop :=
  match a with
  | .ok rate => rate.isPositive = true ∧ ∃ r, RateBook.entry? q.2.1 c = some r ∧ r.value = rate ∧
      (0 < ttl → r.isExpiredAt (d.clock q.1) = false)
  | .error f => d.FaultAt ttl q f

end

section
variable {d : RateDesk ρ} {A : ρ → Prop} {main : Currency} {ttl : Int} {p q : Nat × RateBook × ρ}

theorem InOrder.advance (hp : d.InOrder A main ttl p) (h : d.Advances A main ttl p q) : d.InOrder A main ttl q := by
  obtain ⟨hgoes, houtside⟩ := h.2 hp
  exact ⟨hgoes.main_eq.trans hp.main_eq, hgoes.ttl_eq.trans hp.ttl_eq, hgoes.stands, houtside⟩

variable (hclock : ∀ i j, i ≤ j → (d.clock i).notAfter (d.clock j) = true)
include hclock

theorem advances_of_rates_eq {later : Nat} (hle : p.1 ≤ later) {b : RateBook} (hmain : b.main = p.2.1.main)
    (httl : b.ttl = p.2.1.ttl) (hrates : b.rates = p.2.1.rates) {r : ρ} (hr : A p.2.2 → A r) :
    d.Advances A main ttl p (later, b, r) :=
  ⟨hle, fun hp => ⟨hp.stands.goesOn (hclock _ _ hle) hmain httl hrates, hr hp.outside⟩⟩

theorem advances_lapse (now later : Nat) (s : RateBook × ρ) (hle : now ≤ later) :
    d.Advances A main ttl (now, s) (later, s) :=
  advances_of_rates_eq hclock (p := (now, s)) hle rfl rfl rfl id

theorem advances_of_reflTransGen (h : ReflTransGen (d.Advances A main ttl) p q) : d.Advances A main ttl p q := by
  induction h with
  | refl => exact advances_lapse hclock p.1 p.1 p.2 (Nat.le_refl _)
  | @tail q r _ hstep ih =>
    refine ⟨Nat.le_trans ih.1 hstep.1, fun hp => ?_⟩
    have hq := hp.advance ih
    obtain ⟨hgoes, -⟩ := ih.2 hp
    obtain ⟨hgoes', houtside⟩ := hstep.2 hq
    exact ⟨hgoes.trans hgoes' (hclock _ _ hstep.1), houtside⟩

theorem InOrder.wait (hp : d.InOrder A main ttl p) (h : ReflTransGen (d.Advances A main ttl) p q) :
    d.InOrder A main ttl q := hp.advance (advances_of_reflTransGen hclock h)

omit hclock in
theorem keeps_onBook {α : Type} {g : Timestamp → RateBook → α × RateBook} {Q : α → Nat × RateBook × ρ → Prop}
    (hp : d.InOrder A main ttl p)
    (hgoes : p.2.1.GoesOn (g (d.clock p.1) p.2.1).2 (d.clock p.1) (d.clock p.1))
    (hQ : d.InOrder A main ttl (p.1, (g (d.clock p.1) p.2.1).2, p.2.2) →
      Q (g (d.clock p.1) p.2.1).1 (p.1, (g (d.clock p.1) p.2.1).2, p.2.2)) :
    (d.onBook g).Keeps (d.Advances A main ttl) Q p := by
  have hstep : d.Advances A main ttl p (p.1, (g (d.clock p.1) p.2.1).2, p.2.2) :=
    ⟨Nat.le_refl _, fun _ => ⟨hgoes, hp.outside⟩⟩
  exact Job.keeps_onFirst_act hstep (hQ (hp.advance hstep))

theorem keeps_outside {α : Type} {job : Job RateLock ρ α} (hjob : job.Preserves A) (hp : d.InOrder A main ttl p) :
    (job.onSecond : Job RateLock (RateBook × ρ) α).Keeps (d.Advances A main ttl) (fun _ q => d.InOrder A main ttl q) p := by
  have houtside := Job.keeps_onSecond (R := d.Advances A main ttl) (I := d.InOrder A main ttl) (A := A)
    (fun _ hp => hp.outside) (fun p t _ ht => advances_of_rates_eq hclock (Nat.le_refl p.1) rfl rfl rfl fun _ => ht)
    (fun _ _ hstep hp => hp.advance hstep) hjob hp
  exact houtside.mono fun _ _ h => h.2

omit hclock in
theorem answers_of_takesIn {c : Currency} {a : Attempt Decimal} {b : RateBook} {now : Nat}
    (h : b.TakesIn (d.clock now) c (a, q.2.1)) (httl : b.ttl = ttl) (hq : q.1 = now) : d.Answers ttl c a q := by
  cases h with
  | @taken rate _ enters =>
    obtain ⟨positive, -, -, expires, dated, entry⟩ := enters
    refine ⟨positive, ⟨rate, some expires⟩, (entry c).trans (if_pos rfl), rfl, fun hpositive => ?_⟩
    have hexpires := Timestamp.eq_addSeconds_of_later dated
    simp only [DatedRate.isExpiredAt]
    rw [hexpires, hq, ← Bool.not_eq_true, Timestamp.notAfter_iff]
    simp only [Timestamp.addSeconds]
    omega
  | unwritten enters large => exact .inr ⟨rfl, .inr large⟩
  | failed fault main_eq ttl_eq rates_eq => exact .inl fault
  | undated never =>
    refine .inr ⟨rfl, .inl ?_⟩
    rw [hq, ← httl]
    exact never

section
variable (hsource : ∀ c ≠ main, (d.source c main).Preserves A) (hallows : ∀ question, (d.allows question).Preserves A)
variable {c : Currency}
include hallows

theorem keeps_fallBack (hc : c ≠ main) (cause : String) (hp : d.InOrder A main ttl p) :
    (d.fallBack c cause).Keeps (d.Advances A main ttl) (fun a q => d.InOrder A main ttl q ∧ d.Answers ttl c a q) p := by
  -- the others may write while the question waits for its turn, and again while it waits for its answer
  refine Job.Keeps.bind (Job.Keeps.bind (Job.keeps_holding fun q hq => Job.Keeps.bind ?_))
  refine (keeps_outside hclock (hallows _) (hp.wait hclock hq)).mono fun allowed q hq => Job.Keeps.bind ?_
  refine Job.keeps_rest fun q' hq' => ?_
  have hq' := hq.wait hclock hq'
  cases allowed with
  | false => exact ⟨hq', .inl (.unavailable c _)⟩
  | true =>
    have htakes := q'.2.1.acceptFromFile_takesIn (d.clock q'.1) c
    change Job.Keeps _ _ (d.onBook fun now b => b.acceptFromFile now c) q'
    refine keeps_onBook hq' ?_ fun hend => ⟨hend, ?_⟩
    · exact hq'.stands.takesIn (hq'.main_eq ▸ hc) htakes
    · exact answers_of_takesIn htakes hq'.ttl_eq rfl

include hsource

theorem keeps_fetch (hc : c ≠ main) (hp : d.InOrder A main ttl p) :
    (d.fetch c).Keeps (d.Advances A main ttl) (fun a q => d.InOrder A main ttl q ∧ d.Answers ttl c a q) p := by
  refine Job.Keeps.bind (Job.Keeps.bind ?_)
  have hpreserves : (d.source c p.2.1.main).Preserves A := hp.main_eq ▸ hsource c hc
  refine (keeps_outside hclock hpreserves hp).mono fun answer q hq => ?_
  cases answer with
  | error f => exact keeps_fallBack hclock hallows hc _ hq
  | ok rate =>
    dsimp only
    split
    · rename_i hpositive
      have htakes := q.2.1.record_takesIn (d.clock q.1) c hpositive
      refine keeps_onBook hq ?_ fun hend => ⟨hend, ?_⟩
      · exact hq.stands.takesIn (hq.main_eq ▸ hc) htakes
      · exact answers_of_takesIn htakes hq.ttl_eq rfl
    · exact keeps_fallBack hclock hallows hc _ hq

omit hclock hsource hallows in
theorem InOrder.answers_of_fresh (hp : d.InOrder A main ttl p) {rate : Decimal}
    (hfresh : p.2.1.fresh? (d.clock p.1) c = some rate) : d.Answers ttl c (.ok rate) p := by
  obtain ⟨r, hentry, hcounts, rfl⟩ := RateBook.fresh?_eq_some_iff.mp hfresh
  exact ⟨hp.stands.positive hentry, r, hentry, rfl, fun _ => hcounts⟩

theorem keeps_refresh (hp : d.InOrder A main ttl p) :
    (d.refresh c).Keeps (d.Advances A main ttl) (fun a q => d.InOrder A main ttl q ∧ d.Answers ttl c a q) p := by
  refine Job.Keeps.bind (keeps_onBook hp (hp.stands.claim c) fun hq => ?_)
  cases hfresh : p.2.1.fresh? (d.clock p.1) c with
  | some rate =>
    rw [RateBook.claim_of_some hfresh]
    exact ⟨hp, hp.answers_of_fresh hfresh⟩
  | none =>
    have hc : c ≠ main := hp.main_eq ▸ hp.stands.ne_main hfresh
    rw [RateBook.claim_of_none hfresh] at hq ⊢
    exact keeps_fetch hclock hsource hallows hc hq

/-- A call for one rate leaves all in order, and comes to what it should. -/
theorem keeps_ensure (c : Currency) (hp : d.InOrder A main ttl p) :
    (d.ensure c).Keeps (d.Advances A main ttl) (fun a q => d.InOrder A main ttl q ∧ d.Answers ttl c a q) p := by
  refine Job.Keeps.bind ?_
  simp only [Job.view, Job.Keeps]
  cases hfresh : p.2.1.fresh? (d.clock p.1) c with
  | some rate => exact ⟨hp, hp.answers_of_fresh hfresh⟩
  | none => exact Job.keeps_holding fun q hq => keeps_refresh hclock hsource hallows (hp.wait hclock hq)

end

/-- In a pool of jobs that keep all in order everything is in order at every step, and what the jobs have come to was so
when each was done. -/
theorem steps_keep {α : Type} {Q : α → Nat × RateBook × ρ → Prop} {jobs : List (Job RateLock (RateBook × ρ) α)}
    (hjobs : ∀ job ∈ jobs, ∀ q, d.InOrder A main ttl q → job.Keeps (d.Advances A main ttl) Q q)
    (limit : Nat) {now : Nat} {s : RateBook × ρ} (hp : d.InOrder A main ttl (now, s)) (n : Nat) :
    let p := (Pool.start limit jobs now s).steps n
    d.InOrder A main ttl (p.now, p.state) ∧ ∀ result ∈ p.results, ∃ q, q.1 ≤ p.now ∧ Q result.2 q := by
  intro p
  have hlapse : ∀ now later s, now ≤ later → d.Advances A main ttl (now, s) (later, s) := advances_lapse hclock
  have hkept : (Pool.start limit jobs now s).Kept (d.Advances A main ttl) Q :=
    Pool.kept_start (fun job hjob q hq => hjobs job hjob q (hp.wait hclock hq)) limit
  have hnone : (Pool.start limit jobs now s).Answered (d.Advances A main ttl) Q := by
    intro result hresult
    cases hresult
  refine ⟨hp.wait hclock (Pool.kept_steps hlapse hkept n).2, fun result hresult => ?_⟩
  obtain ⟨q, hanswer, hreach⟩ := Pool.answered_steps hlapse hkept hnone n result hresult
  exact ⟨q, (advances_of_reflTransGen hclock hreach).1, hanswer⟩

end
end RateDesk
end Storefront

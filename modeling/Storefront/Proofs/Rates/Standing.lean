import Storefront.Proofs.Rates.Entry

/-! # What always stands in a book

The main currency is worth one for ever. Other rates are above zero, and none counts for longer than one that is
entered now. Whatever is done to a book keeps this, and a rate goes on to count until its time has run out, from
the same entry or from one that has come in its place.
-/
namespace Storefront

/-- A rate that counts whenever another one does. -/
def DatedRate.Outlasts (r' r : DatedRate) : Prop := ∀ t, r'.isExpiredAt t = true → r.isExpiredAt t = true

theorem DatedRate.Outlasts.trans {r r' r'' : DatedRate} (h' : r''.Outlasts r') (h : r'.Outlasts r) : r''.Outlasts r :=
  fun t ht => h t (h' t ht)

theorem DatedRate.Outlasts.counts {r r' : DatedRate} {t : Timestamp} (h : r'.Outlasts r) (hr : r.isExpiredAt t = false) :
    r'.isExpiredAt t = false := by
  rw [← Bool.not_eq_true] at hr ⊢
  exact fun hexpired => hr (h t hexpired)

theorem DatedRate.isExpiredAt_mono {r : DatedRate} {now later : Timestamp} (hle : now.notAfter later = true)
    (h : r.isExpiredAt later = false) : r.isExpiredAt now = false := by
  unfold isExpiredAt at h ⊢
  cases hexpires : r.expires with
  | none => rfl
  | some expires =>
    simp only [hexpires] at h
    rw [← Bool.not_eq_true] at h ⊢
    intro hnow
    exact h (Timestamp.notAfter_trans hnow hle)

namespace RateBook

structure Stands (b : RateBook) (now : Timestamp) : Prop where
  main : b.entry? b.main = some ⟨Decimal.one, none⟩
  other : ∀ c ≠ b.main, ∀ r, b.entry? c = some r →
    r.value.isPositive = true ∧ ∃ expires, r.expires = some expires ∧ expires.notAfter (now.addSeconds b.ttl) = true

/-- How a book goes on from one moment to another. -/
structure GoesOn (b b' : RateBook) (now later : Timestamp) : Prop where
  main_eq : b'.main = b.main
  ttl_eq : b'.ttl = b.ttl
  stands : b'.Stands later
  stays : ∀ c r, b.entry? c = some r → r.isExpiredAt later = false → ∃ r', b'.entry? c = some r' ∧ r'.Outlasts r

section
variable {b b' b'' : RateBook} {now later latest : Timestamp} {c : Currency}

theorem stands_ofMain (main : Currency) (ttl : Int) (path : String) (file : RatePlace) (now : Timestamp) :
    (ofMain main ttl path file).Stands now := by
  have hentry (c : Currency) : entry? (ofMain main ttl path file) c = if c = main then some ⟨Decimal.one, none⟩ else none :=
    Table.get?_insert _ main c _
  constructor
  · exact (hentry main).trans (if_pos rfl)
  · intro c hc r hr
    have hne : c ≠ main := hc
    rw [hentry, if_neg hne] at hr
    cases hr

theorem Stands.positive (h : b.Stands now) {r : DatedRate} (hr : b.entry? c = some r) : r.value.isPositive = true := by
  by_cases hc : c = b.main
  · rw [hc, h.main, Option.some.injEq] at hr
    rw [← hr]
    rfl
  · exact (h.other c hc r hr).1

theorem Stands.ne_main (h : b.Stands now) {t : Timestamp} (hnone : b.fresh? t c = none) : c ≠ b.main := by
  intro hc
  rw [hc, fresh?_of_entry h.main rfl] at hnone
  cases hnone

theorem Stands.mono (h : b.Stands now) (hle : now.notAfter later = true) : b.Stands later := by
  refine ⟨h.main, fun c hc r hr => ?_⟩
  obtain ⟨hpositive, expires, hexpires, hbound⟩ := h.other c hc r hr
  refine ⟨hpositive, expires, hexpires, Timestamp.notAfter_trans hbound ?_⟩
  rw [Timestamp.notAfter_iff] at hle ⊢
  simp only [Timestamp.addSeconds]
  omega

theorem GoesOn.trans (h : b.GoesOn b' now later) (h' : b'.GoesOn b'' later latest)
    (hle : later.notAfter latest = true) : b.GoesOn b'' now latest := by
  refine ⟨h'.main_eq.trans h.main_eq, h'.ttl_eq.trans h.ttl_eq, h'.stands, fun c r hr hcounts => ?_⟩
  obtain ⟨r', hr', houtlasts⟩ := h.stays c r hr (DatedRate.isExpiredAt_mono hle hcounts)
  obtain ⟨r'', hr'', houtlasts'⟩ := h'.stays c r' hr' (houtlasts.counts hcounts)
  exact ⟨r'', hr'', houtlasts'.trans houtlasts⟩

theorem Stands.goesOn (h : b.Stands now) (hle : now.notAfter later = true) (hmain : b'.main = b.main)
    (httl : b'.ttl = b.ttl) (hrates : b'.rates = b.rates) : b.GoesOn b' now later := by
  have hentry (c : Currency) : b'.entry? c = b.entry? c := entry?_of_rates_eq hrates c
  have hlater := h.mono hle
  refine ⟨hmain, httl, ⟨?_, fun c hc r hr => ?_⟩, fun c r hr _ => ⟨r, (hentry c).trans hr, fun _ => id⟩⟩
  · rw [hentry, hmain]
    exact h.main
  · rw [hentry] at hr
    rw [httl]
    exact hlater.other c (hmain ▸ hc) r hr

theorem Stands.claim (h : b.Stands now) (c : Currency) : b.GoesOn (b.claim now c).2 now now := by
  cases hfresh : b.fresh? now c with
  | some rate =>
    rw [claim_of_some hfresh]
    exact h.goesOn (Timestamp.notAfter_refl now) rfl rfl rfl
  | none =>
    rw [claim_of_none hfresh]
    have hc := h.ne_main hfresh
    have hentry := b.entry?_erase c
    refine ⟨rfl, rfl, ⟨(hentry b.main).trans ?_, fun c' hc' r hr => ?_⟩, fun c' r hr hcounts => ⟨r, ?_, fun _ => id⟩⟩
    · rw [if_neg (Ne.symm hc)]
      exact h.main
    · rw [hentry] at hr
      split at hr
      · cases hr
      · exact h.other c' hc' r hr
    · rw [hentry, if_neg]
      · exact hr
      · intro heq
        subst heq
        rw [fresh?_of_entry hr hcounts] at hfresh
        cases hfresh

/-- What is entered for another currency than the main one lasts for as long as anything in the book. -/
theorem Stands.enters {rate : Decimal} (h : b.Stands now) (hc : c ≠ b.main) (henters : b.Enters now c rate b') :
    b.GoesOn b' now now := by
  obtain ⟨positive, main_eq, ttl_eq, expires, dated, entry⟩ := henters
  have hexpires := Timestamp.eq_addSeconds_of_later dated
  refine ⟨main_eq, ttl_eq, ⟨?_, fun c' hc' r hr => ?_⟩, fun c' r hr _ => ?_⟩
  · rw [main_eq, entry, if_neg (Ne.symm hc)]
    exact h.main
  · rw [entry] at hr
    split at hr
    · cases hr
      exact ⟨positive, expires, rfl, by rw [hexpires, ttl_eq]; exact Timestamp.notAfter_refl _⟩
    · rw [ttl_eq]
      exact h.other c' (main_eq ▸ hc') r hr
  · by_cases heq : c' = c
    · -- nothing in the book counts for longer than what is entered now
      subst heq
      obtain ⟨-, old, hold, hbound⟩ := h.other c' hc r hr
      refine ⟨⟨rate, some expires⟩, (entry c').trans (if_pos rfl), fun t ht => ?_⟩
      have ht : expires.notAfter t = true := ht
      rw [← hexpires] at hbound
      simp only [DatedRate.isExpiredAt, hold]
      exact Timestamp.notAfter_trans hbound ht
    · exact ⟨r, (entry c').trans ((if_neg heq).trans hr), fun _ => id⟩

theorem Stands.takesIn {a : Attempt Decimal} (h : b.Stands now) (hc : c ≠ b.main) (htakes : b.TakesIn now c (a, b')) :
    b.GoesOn b' now now := by
  cases htakes with
  | taken enters => exact h.enters hc enters
  | unwritten enters large => exact h.enters hc enters
  | failed fault main_eq ttl_eq rates_eq => exact h.goesOn (Timestamp.notAfter_refl now) main_eq ttl_eq rates_eq
  | undated never => exact h.goesOn (Timestamp.notAfter_refl now) rfl rfl rfl

end
end RateBook
end Storefront

import Storefront.Proofs.Attempt
import Storefront.Proofs.Rates.Entry
import Storefront.Proofs.Time.Order
import Storefront.Settings.Environment

/-! # For how long rates count

Settings may say any number of hours below 2^64. It is taken as a signed number, so that the largest ones are negative,
and made into seconds, for which a span of time has room only near zero. So the lifetime of rates is as many hours as
the settings say up to a limit. Beyond it there is none, or all rates expire before they are entered.
-/
namespace Storefront

theorem Json.lt_of_below? {bound n : Nat} {j : Json} (h : Json.below? bound j = some n) : n < bound := by
  cases j with
  | integer m =>
    rw [Json.below?] at h
    split at h
    · obtain rfl := Option.some.inj h
      omega
    · cases h
  | _ => cases h

namespace Settings
variable {e : Environment} {path : Option String} {s : Settings}

theorem rateHours_lt_of_ofJson {base : Settings} {j : Json} (hbase : base.rateHours < pow2 64)
    (h : base.ofJson? j = some s) : s.rateHours < pow2 64 := by
  unfold ofJson? at h
  split at h
  · rename_i hours _ _ _
    simp only [Option.bind_eq_bind, Option.bind_eq_some_iff, Option.pure_def, Option.some.injEq] at h
    obtain ⟨_, -, _, -, _, -, _, -, _, -, _, -, _, -, _, -, n, hn, _, -, _, -, rfl⟩ := h
    change n < pow2 64
    cases hours with
    | none => exact Option.some.inj hn ▸ hbase
    | some j => exact Json.lt_of_below? hn
  · cases h

theorem rateHours_lt (h : load e path = .ok s) : s.rateHours < pow2 64 := by
  have hhome : (inHome e.home).rateHours < pow2 64 := show 12 < pow2 64 by decide
  cases path with
  | none => exact Except.ok.inj h ▸ hhome
  | some path =>
    obtain ⟨text, -, htext⟩ := Attempt.bind_eq_ok_iff.mp h
    rw [ofText, Attempt.ofOption_eq_ok_iff, Option.bind_eq_some_iff] at htext
    obtain ⟨j, -, hj⟩ := htext
    exact rateHours_lt_of_ofJson hhome hj

/-- The largest number of hours that a span of time has room for. -/
def longestHours : Nat := 2562047788015

theorem longestHours_eq : longestHours = 2562047788015 := rfl
theorem pow2_sixty_four : pow2 64 = 18446744073709551616 := rfl

theorem bmod_word {n : Nat} (h : n < pow2 64) :
    Int.bmod n (pow2 64) = if n < 9223372036854775808 then (n : Int) else n - pow2 64 := by
  rw [Int.bmod_def]
  rw [pow2_sixty_four] at h ⊢
  omega

/-- What becomes of a number of hours. -/
inductive Lifetime (hours : Nat) : Attempt Int → Prop
  | kept (h : hours ≤ longestHours) : Lifetime hours (.ok (hours * 3600))
  | tooLong (hlow : longestHours < hours) (hhigh : hours + longestHours < pow2 64) :
      Lifetime hours (.error .outOfRange)
  | negative (h : pow2 64 ≤ hours + longestHours) : Lifetime hours (.ok ((hours - pow2 64) * 3600))

theorem rateTtl_lifetime (h : s.rateHours < pow2 64) : Lifetime s.rateHours s.rateTtl := by
  have hspan : longestSpan = 9223372036854775 := rfl
  have hlongest := longestHours_eq
  have hpow := pow2_sixty_four
  unfold rateTtl
  rw [bmod_word h]
  generalize s.rateHours = hours at h
  rw [hpow] at h ⊢
  -- the numbers of the lower half have no room above, those of the upper half have none below
  split
  · rename_i hlower
    by_cases hkept : hours ≤ longestHours
    · rw [if_pos (by omega)]
      exact .kept hkept
    · rw [if_neg (by omega)]
      exact .tooLong (by omega) (by omega)
  · rename_i hupper
    by_cases hroom : pow2 64 ≤ hours + longestHours
    · rw [if_pos (by omega)]
      exact .negative hroom
    · rw [if_neg (by omega)]
      exact .tooLong (by omega) (by omega)

theorem Lifetime.eq_kept_iff {hours : Nat} {a : Attempt Int} (h : Lifetime hours a) :
    a = .ok (hours * 3600) ↔ hours ≤ longestHours := by
  have hlongest := longestHours_eq
  have hpow := pow2_sixty_four
  cases h with
  | kept h => exact iff_of_true rfl h
  | tooLong hlow _ => exact iff_of_false nofun (by omega)
  | negative h =>
    rw [Except.ok.injEq]
    omega

theorem Lifetime.eq_outOfRange_iff {hours : Nat} {a : Attempt Int} (h : Lifetime hours a) :
    a = .error .outOfRange ↔ longestHours < hours ∧ hours + longestHours < pow2 64 := by
  cases h with
  | kept h => exact iff_of_false nofun fun hlong => absurd hlong.1 (Nat.not_lt.mpr h)
  | tooLong hlow hhigh => exact iff_of_true rfl ⟨hlow, hhigh⟩
  | negative h => exact iff_of_false nofun fun hlong => absurd hlong.2 (Nat.not_lt.mpr h)

theorem Lifetime.pos_iff {hours : Nat} {ttl : Int} (h : Lifetime hours (.ok ttl)) (hpos : 1 ≤ hours)
    (hbound : hours < pow2 64) : 0 < ttl ↔ hours ≤ longestHours := by
  have hlongest := longestHours_eq
  have hpow := pow2_sixty_four
  cases h with
  | kept h => exact iff_of_true (by omega) h
  | negative h => exact iff_of_false (by omega) (by omega)

end Settings

theorem DatedRate.isExpiredAt_addSeconds (value : Decimal) (now : Timestamp) (ttl : Int) :
    (DatedRate.mk value (some (now.addSeconds ttl))).isExpiredAt now = decide (ttl ≤ 0) := by
  rw [Bool.eq_iff_iff, decide_eq_true_iff]
  change (now.addSeconds ttl).notAfter now = true ↔ _
  rw [Timestamp.notAfter_iff]
  change now.seconds + ttl < now.seconds ∨ now.seconds + ttl = now.seconds ∧ now.nanos ≤ now.nanos ↔ _
  omega

namespace RateBook
variable {b b' : RateBook} {now : Timestamp} {c : Currency} {rate : Decimal}

theorem accept_ok_iff : (b.accept now c rate).1 = .ok rate ↔
    Timestamp.firstSecond ≤ now.seconds + b.ttl ∧ now.seconds + b.ttl ≤ Timestamp.lastSecond := by
  unfold accept Timestamp.later?
  split_ifs with hdated
  · exact iff_of_true rfl hdated
  · exact iff_of_false nofun hdated

theorem fresh?_of_accept (h : b.accept now c rate = (.ok rate, b')) :
    b'.fresh? now c = if 0 < b.ttl then some rate else none := by
  unfold accept at h
  cases hlater : now.later? b.ttl with
  | none => rw [hlater] at h; cases h
  | some expires =>
    rw [hlater] at h
    obtain rfl := (Prod.mk.inj h).2
    obtain rfl := Timestamp.eq_addSeconds_of_later hlater
    have hentry (r : DatedRate) : RateBook.entry? (b.insert c r) c = some r :=
      (b.rates.get?_insert c c r).trans (if_pos rfl)
    have hexpired := DatedRate.isExpiredAt_addSeconds rate now b.ttl
    rw [fresh?, hentry, Option.filter_some, hexpired]
    by_cases hpos : 0 < b.ttl
    · simp [hpos]
    · simp [hpos, Int.not_lt.mp hpos]

end RateBook

namespace Settings

/-- Rates count for exactly as many hours as the settings say, from the moment at which they are entered. -/
structure KeepsHours (s : Settings) : Prop where
  exact : s.rateTtl = .ok (s.rateHours * 3600)
  counts : ∀ ttl, s.rateTtl = .ok ttl → ∀ now value,
    (DatedRate.mk value (some (now.addSeconds ttl))).isExpiredAt now = false

/-- Of the settings that a file gives, those with at most `longestHours` keep their hours. Those that say more hours
have no lifetime of rates, except that the largest numbers have one that is negative: with them a rate is expired when
it is entered. Hours that are kept are also those for which a rate can be entered, unless the calendar ends before. -/
theorem rateTtl_kept_iff (h : load e path = .ok s) (hpos : 1 ≤ s.rateHours) :
    (s.KeepsHours ↔ s.rateHours ≤ longestHours) ∧
      (s.rateTtl = .error .outOfRange ↔ longestHours < s.rateHours ∧ s.rateHours + longestHours < pow2 64) ∧
      ∀ b : RateBook, s.rateTtl = .ok b.ttl → ∀ now c rate,
        (∀ b', b.accept now c rate = (.ok rate, b') →
          b'.fresh? now c = if s.rateHours ≤ longestHours then some rate else none) ∧
        (s.rateHours ≤ longestHours → Timestamp.firstSecond ≤ now.seconds →
          ((b.accept now c rate).1 = .ok rate ↔ now.seconds + s.rateHours * 3600 ≤ Timestamp.lastSecond)) := by
  have hbound := rateHours_lt h
  have hlifetime := rateTtl_lifetime hbound
  refine ⟨⟨fun hkeeps => hlifetime.eq_kept_iff.mp hkeeps.exact, fun hkept => ?_⟩, hlifetime.eq_outOfRange_iff, ?_⟩
  · refine ⟨hlifetime.eq_kept_iff.mpr hkept, fun ttl httl now value => ?_⟩
    rw [httl] at hlifetime
    have hsign := (hlifetime.pos_iff hpos hbound).mpr hkept
    rw [DatedRate.isExpiredAt_addSeconds, decide_eq_false_iff_not]
    exact Int.not_le.mpr hsign
  · intro b httl now c rate
    rw [httl] at hlifetime
    constructor
    · intro b' haccept
      simp only [RateBook.fresh?_of_accept haccept, hlifetime.pos_iff hpos hbound]
    · intro hkept hfirst
      have hexact : b.ttl = s.rateHours * 3600 := Except.ok.inj (hlifetime.eq_kept_iff.mpr hkept)
      rw [RateBook.accept_ok_iff, hexact]
      exact and_iff_right (by omega)

def hoursFile (hours : String) : Environment :=
  { home := "/home", files := [("/s.json", "\x7b\"rate_ttl_hours\":" ++ hours ++ "\x7d")] }

def withHours (hours : Nat) : Settings := { inHome "/home" with rateHours := hours }

theorem rateTtl_kept_iff_day :
    load (hoursFile "24") (some "/s.json") = .ok (withHours 24) ∧ 1 ≤ (withHours 24).rateHours ∧
      (withHours 24).KeepsHours ∧
      ((RateBook.ofMain .usd 86400 "rates.txt" .missing).accept ⟨1767225600, 0⟩ .eur Decimal.two).1 = .ok Decimal.two := by
  have hload : load (hoursFile "24") (some "/s.json") = .ok (withHours 24) := by decide +kernel
  have httl : (withHours 24).rateTtl = .ok 86400 := by decide +kernel
  have hkept : (withHours 24).rateHours ≤ longestHours := by decide
  obtain ⟨hkeeps, -, hbooks⟩ := rateTtl_kept_iff hload (by decide)
  have haccept := (hbooks (.ofMain .usd 86400 "rates.txt" .missing) httl ⟨1767225600, 0⟩ .eur Decimal.two).2
  exact ⟨hload, by decide, hkeeps.mpr hkept, (haccept hkept (by decide)).mpr (by decide)⟩

/-- The largest number of hours makes rates expire an hour before they are entered, and with one hour more than the
longest ones there is no lifetime at all. Both settings are loaded without a failure. -/
theorem long_hours_are_not_kept :
    load (hoursFile "18446744073709551615") (some "/s.json") = .ok (withHours 18446744073709551615) ∧
      (withHours 18446744073709551615).rateTtl = .ok (-3600) ∧
      (DatedRate.mk Decimal.two (some (Timestamp.addSeconds ⟨1767225600, 0⟩ (-3600)))).isExpiredAt ⟨1767225600, 0⟩ ∧
      ¬ (withHours 18446744073709551615).KeepsHours ∧
      load (hoursFile "2562047788016") (some "/s.json") = .ok (withHours 2562047788016) ∧
      (withHours 2562047788016).rateTtl = .error .outOfRange := by
  have hnegative : (withHours 18446744073709551615).rateTtl = .ok (-3600) := by decide +kernel
  refine ⟨by decide +kernel, hnegative, by decide, fun hkeeps => ?_, by decide +kernel, by decide +kernel⟩
  exact absurd (hnegative.symm.trans hkeeps.exact) (by decide +kernel)

end Settings
end Storefront

import Storefront.Proofs.Job.Pool
import Storefront.Proofs.Rates.Actions

/-! # Which fallbacks last

A refresh that succeeds writes the whole book over the rate file, and nothing else does. So the file gives fallbacks for
what the book held at the last refresh, and for nothing else; without a refresh they are those of before.
-/
namespace Storefront
namespace RateBook

/-- The rate above zero that the rate file gives when there is no other. -/
def fallback? (b : RateBook) (c : Currency) : Option Decimal :=
  match b.file with
  | .text contents => (RateFile.rate? (RateFile.read b.main contents.toList) c).filter Decimal.isPositive
  | _ => none

/-- Whether an action takes in a rate from the source and gives it out. -/
def refreshes (b : RateBook) : BookAction → Bool
  | .record now c rate => (b.record now c rate).1.isOk
  | _ => false

/-- The book as the last refresh left it, if there was one. -/
def lastRefresh (b : RateBook) : List BookAction → Option RateBook
  | [] => none
  | a :: rest => ((b.act a).lastRefresh rest).or (if b.refreshes a then some (b.act a) else none)

/-- A book with something of a rate left at four decimals. -/
def Lasting (b : RateBook) (c : Currency) : Prop := ∃ r, b.entry? c = some r ∧ 1 / 10 ^ 4 ≤ r.value.value

theorem lastRefresh_main {b w : RateBook} {actions : List BookAction}
    (h : b.lastRefresh actions = some w) : w.main = b.main := by
  induction actions generalizing b with
  | nil => cases h
  | cons a rest ih =>
    rw [lastRefresh, Option.or_eq_some_iff] at h
    rcases h with h | ⟨-, h⟩
    · rw [ih h, act_main]
    · split at h
      · cases h
        exact b.act_main a
      · cases h

theorem claim_file (b : RateBook) (now : Timestamp) (c : Currency) : (b.claim now c).2.file = b.file := by
  unfold claim
  split <;> rfl

theorem accept_file (b : RateBook) (now : Timestamp) (c : Currency) (rate : Decimal) :
    (b.accept now c rate).2.file = b.file := by
  unfold accept
  split <;> rfl

section
variable {b : RateBook} {contents : String}

theorem record_of_text (hb : b.file = .text contents) (now : Timestamp) (c : Currency) (rate : Decimal) :
    (b.record now c rate).2.file =
      if (b.record now c rate).1.isOk then .text (b.record now c rate).2.fileText else b.file := by
  cases hlater : now.later? b.ttl with
  | none =>
    rw [record_of_not_later hlater]
    rfl
  | some expires =>
    have hfile : (b.insert c ⟨rate, some expires⟩).file ≠ .folder := by
      change b.file ≠ .folder
      simp [hb]
    simp only [record, accept, hlater]
    by_cases hprints : (b.insert c ⟨rate, some expires⟩).Printable
    · rw [persist_of_printable hprints, writeFile_of_ne_folder hfile]
      rfl
    · rw [persist_of_not_printable hprints]
      rfl

theorem acceptFromFile_of_text (hb : b.file = .text contents) (now : Timestamp) (c : Currency) :
    (b.acceptFromFile now c).2.file = b.file := by
  unfold acceptFromFile
  rw [hb]
  dsimp only
  split
  · rw [← hb]
    exact b.accept_file now c _
  · exact hb

theorem act_of_text (hb : b.file = .text contents) (a : BookAction) : (b.act a).file =
    if b.refreshes a then .text (b.act a).fileText else b.file := by
  cases a with
  | claim now c => exact b.claim_file now c
  | record now c rate => exact record_of_text hb now c rate
  | acceptFromFile now c => exact acceptFromFile_of_text hb now c

/-- After any actions the rate file is that of the last refresh. -/
theorem acts_of_text (hb : b.file = .text contents) (actions : List BookAction) :
    (b.acts actions).file = match b.lastRefresh actions with
      | some w => .text w.fileText
      | none => b.file := by
  induction actions generalizing b contents with
  | nil => rfl
  | cons a rest ih =>
    have hfile := act_of_text hb a
    obtain ⟨contents', htext⟩ : ∃ contents', (b.act a).file = .text contents' := by
      rw [hfile, hb]
      split <;> exact ⟨_, rfl⟩
    refine (ih htext).trans ?_
    rw [lastRefresh]
    cases h : (b.act a).lastRefresh rest with
    | some w => rfl
    | none =>
      dsimp only
      rw [hfile, Option.none_or]
      split <;> rfl

/-- A currency has a fallback after any actions just when the last refresh left one. -/
theorem fallback?_acts (hb : b.file = .text contents) (actions : List BookAction) (c : Currency) :
    ((b.acts actions).fallback? c).isSome = true ↔ match b.lastRefresh actions with
      | some w => w.Lasting c
      | none => (b.fallback? c).isSome = true := by
  have hmain := b.acts_main actions
  have hfile := acts_of_text hb actions
  cases h : b.lastRefresh actions with
  | none =>
    rw [h] at hfile
    simp only [fallback?, hfile, hmain]
  | some w =>
    rw [h] at hfile
    simp only [fallback?, hfile, hmain, Lasting, fileText, String.toList_ofList]
    rw [← lastRefresh_main h, RateFile.rate?_text]
    cases hentry : w.entry? c with
    | none => simp
    | some r => simpa using RateFile.isPositive_printed? r

end
end RateBook

namespace RateDesk
variable {ρ : Type}

/-- Of a desk that began with a rate file, those fallbacks last that its book held at the last refresh, or all of them if
there was none. The refreshes are among the answers above zero of the source, each of which is recorded in its turn, and
one that succeeds writes the whole book. -/
theorem fallback_of_run_iff (d : RateDesk ρ) (clients : List (List RateCall)) (limit now : Nat)
    (main : Currency) (ttl : Int) (path contents : String) (r : ρ) :
    let book := RateBook.ofMain main ttl path (.text contents)
    let final := (Pool.start limit (clients.map d.logged.serveAll) now (book, r, {})).run.state
    ∃ actions : List BookAction, final.1 = book.acts actions ∧
      actions.filter BookAction.isRecord = final.2.2.answers.filterMap RateAnswer.action? ∧
      final.1.file = (match book.lastRefresh actions with
        | some w => .text w.fileText
        | none => .text contents) ∧
      ∀ c, (final.1.fallback? c).isSome = true ↔ match book.lastRefresh actions with
        | some w => w.Lasting c
        | none => (book.fallback? c).isSome = true := by
  intro book final
  obtain ⟨actions, hfinal, hrecords⟩ := d.follows_of_run book clients limit now r
  have hfinal : final.1 = book.acts actions := hfinal
  rw [hfinal]
  exact ⟨actions, rfl, hrecords, RateBook.acts_of_text rfl actions, RateBook.fallback?_acts rfl actions⟩

def euroDesk : RateDesk Unit where
  source c _ := pure (if c = .eur then .ok ⟨15, 1, by decide, by decide⟩ else .error .outOfRange)
  allows _ := pure true
  clock _ := ⟨1767225600, 0⟩

def filledIn : RateBook :=
  .ofMain .usd 43200 "rates.txt" (.text "EUR to USD 2.0000 (never)\nGBP to USD 3.0000 (never)\n")

/-- A refresh of the euro takes the fallback of the pound away. -/
theorem fallback_of_pound_is_lost :
    (filledIn.fallback? .gbp).isSome = true ∧
      (Pool.start 1 [euroDesk.serveAll [.ensure .eur]] 0 (filledIn, ())).run.state.1.fallback? .gbp =
        none := by
  rw [Pool.run_eq_steps (n := 20) (by decide +kernel)]
  decide +kernel

end RateDesk
end Storefront

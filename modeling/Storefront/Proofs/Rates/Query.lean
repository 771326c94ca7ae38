import Storefront.Proofs.Attempt
import Storefront.Proofs.Job.Run
import Storefront.Rates.Source

/-! # The search pages of rates

Each currency has a search page of its own, and the rate that is read off one is above zero.
-/
namespace Storefront

theorem RatePage.isPositive_of_read {c main : Currency} {markup : String} {rate : Decimal}
    (h : RatePage.read c main markup = .ok rate) : rate.isPositive = true := by
  obtain ⟨raw, -, h⟩ := Attempt.bind_eq_ok_iff.mp h
  exact (Option.filter_eq_some_iff.mp (Attempt.ofOption_eq_ok_iff.mp h)).2

namespace Fetcher
variable {ν : Type}

def rateUrl (f : Fetcher ν) (main c : Currency) : String := f.resolve (some (RatePage.query c main))

theorem rateUrl_eq (f : Fetcher ν) (main c : Currency) :
    f.rateUrl main c =
      String.ofList (Text.joinSlash (toString f.domain).toList (RatePage.query c main).toList) := by
  have hrelative : (Url.ofString (RatePage.query c main)).toOption = none := by
    cases main <;> cases c <;> decide +kernel
  rw [rateUrl, resolve]
  cases h : Url.ofString (RatePage.query c main) with
  | ok url =>
    rw [h] at hrelative
    cases hrelative
  | error fault => rfl

/-- No two currencies share a search page. -/
theorem rateUrl_injective (f : Fetcher ν) (main : Currency) : Function.Injective (f.rateUrl main) := by
  intro a b hab
  rw [rateUrl_eq, rateUrl_eq, String.ofList_inj, Text.joinSlash, Text.joinSlash, List.append_cancel_left_eq,
    List.cons.injEq] at hab
  have hqueries : ∀ a ∈ Currency.all, ∀ b ∈ Currency.all,
      (RatePage.query a main).toList.dropWhile (· == '/') = (RatePage.query b main).toList.dropWhile (· == '/') →
        a = b := by
    cases main <;> decide +kernel
  exact hqueries a (by cases a <;> decide) b (by cases b <;> decide) hab.2

end Fetcher

theorem run_webRate {κ ν : Type} (f : Fetcher ν) (cancel : Option Nat) (c main : Currency) (now : Nat) (s : Site ν) :
    (webRate f cancel c main : Job κ (Site ν) _).run now s =
      let o := (f.get cancel (some (RatePage.query c main)) : Job κ (Site ν) _).run now s
      ⟨o.value >>= RatePage.read c main, o.instant, o.state⟩ := by
  rw [webRate, Job.run_seq]
  dsimp only
  cases (f.get cancel (some (RatePage.query c main)) : Job κ (Site ν) _).run now s |>.value <;> rfl

end Storefront

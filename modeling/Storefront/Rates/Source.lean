import Storefront.Fetch.Download
import Storefront.Prompt
import Storefront.Rates.Refresh
import Storefront.Rule.Extract
import Storefront.Text.Number

/-! # Sources of rates

Rates are read off search pages, or they have been prepared beforehand, and so are the answers to
questions. A search page answers how much one unit of a currency is: the number stands right before the main
currency's long name, with nothing but tags between them.
-/
namespace Storefront.RatePage

def query (currency main : Currency) : String := s!"search?hl=en&gl=en&q={currency}+to+{main}"

def domain : String := "https://www.google.com/"

def rule (main : Currency) : Rule :=
  Rule.regex ("([0-9][0-9,]*(?:\\.[0-9]+)?)\\s*(?:<[^>]+>\\s*)*" ++ main.longName)
    [⟨.onlyFloatChars, []⟩]

def read (currency main : Currency) (markup : String) : Attempt Decimal := do
  let raw ← (rule main).extract (.text markup.toList)
  Attempt.ofOption (.rateUnavailable currency (.notOnPage main))
    ((Text.decimal? raw).filter Decimal.isPositive)

end Storefront.RatePage

namespace Storefront

def webRate {κ ν : Type} (f : Fetcher ν) (cancel : Option Nat) (c main : Currency) :
    Job κ (Site ν) (Attempt Decimal) := do
  match ← f.get cancel (some (RatePage.query c main)) with
  | .ok markup => return RatePage.read c main markup
  | .error e => return .error e

structure PreparedRate where
  answer : Except String Decimal
  wait : Nat := 0

structure RateScript where
  answers : Table Currency (List PreparedRate) := {}
  requests : List (Currency × Currency) := []

namespace RateScript

def noAnswer : PreparedRate := ⟨.error "offline", 0⟩

def answer (s : RateScript) (c main : Currency) : PreparedRate × RateScript :=
  let asked := { s with requests := s.requests ++ [(c, main)] }
  match (s.answers.get? c).bind takePrepared with
  | some (a, list) => (a, { asked with answers := s.answers.insert c list })
  | none => (noAnswer, asked)

def rate {κ : Type} (c main : Currency) : Job κ RateScript (Attempt Decimal) := do
  let a ← Job.act fun _ s => s.answer c main
  let now ← Job.instant
  Job.sleepUntil (now + a.wait)
  return a.answer.mapError fun reason => .rateUnavailable c (.stated reason)

end RateScript

/-- Someone who is asked. Either one answer to every question is settled beforehand, or each question
takes the next line of answers. A question without an answer is denied. -/
structure Respondent where
  answer : Option Bool := none
  lines : List (List Char) := []
  /-- The questions that the settled answer has been given to. -/
  questions : List String := []
  unanswered : Option String := none

namespace Respondent

def allows (r : Respondent) (question : String) : Bool × Respondent :=
  match r.answer, r.lines with
  | some yes, _ => (yes, { r with questions := r.questions ++ [question] })
  | none, line :: lines => (Prompt.isYes line, { r with lines })
  | none, [] => (false, { r with unanswered := r.unanswered <|> some question })

end Respondent
end Storefront

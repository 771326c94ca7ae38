import Storefront.Failure
import Storefront.Text.Blank

/-! # Reading money

A sum of money is a number and a currency's code, with blanks and colons between them or nothing.
The number may have a comma for its point.
-/
namespace Storefront.Money
open Unicode

inductive ReadProblem
  | noCode
  | amount (e : Decimal.ReadError)
  | code (text : String)
deriving DecidableEq

def ReadProblem.message : ReadProblem → String
  | noCode => "missing currency code"
  | amount e => e.message
  | code text => (Failure.misconfigured (.unknownCurrency text)).message

/-- The number's text, without the blanks and colons behind it and with a point. -/
def numberText (s : List Char) : List Char :=
  Text.trim ((Text.dropEndWhile (· == ':') (Text.trim s)).map fun c => if c = ',' then '.' else c)

/-- Reads a sum without blanks around it. The code begins at the first letter. -/
def readBare (s : List Char) : Except ReadProblem Money :=
  let number := s.takeWhile (!isAsciiLetter ·)
  let code := s.drop number.length
  if code.isEmpty then .error .noCode
  else match Decimal.read (numberText number) with
    | .error e => .error (.amount e)
    | .ok amount => match Currency.ofText? code with
      | some currency => .ok ⟨amount, currency⟩
      | none => .error (.code (String.ofList (Text.trim code)))

def read (s : List Char) : Except String Money :=
  let s := Text.trim s
  match readBare s with
  | .ok m => .ok m
  | .error p => .error s!"'{String.ofList s}': {p.message}"

end Storefront.Money

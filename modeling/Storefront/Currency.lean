import Storefront.Text.Blank
import Storefront.Unicode.Case

/-! # Currencies -/
namespace Storefront

inductive Currency
  | usd
  | eur
  | uah
  | gbp
  | pln
deriving DecidableEq, Repr

namespace Currency
open Unicode

def all : List Currency := [.usd, .eur, .uah, .gbp, .pln]

def code : Currency → String
  | usd => "USD"
  | eur => "EUR"
  | uah => "UAH"
  | gbp => "GBP"
  | pln => "PLN"

/-- The name as rate pages spell it out. -/
def longName : Currency → String
  | usd => "United States Dollar"
  | eur => "Euro"
  | uah => "Ukrainian hryvnia"
  | gbp => "Pound sterling"
  | pln => "Polish zloty"

instance : ToString Currency := ⟨code⟩

def ofCode? (s : String) : Option Currency := all.find? (·.code == s)

/-- The currency whose code this is, in either case and with blanks around it. -/
def ofText? (s : List Char) : Option Currency :=
  let wanted := (Text.trim s).map asciiLower
  all.find? fun c => c.code.toList.map asciiLower == wanted

end Currency
end Storefront

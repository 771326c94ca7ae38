import Storefront.Binary64.Text
import Storefront.Text.Blank

/-! # Lenient numbers

Shops write numbers with blanks around them, plus signs in front and commas between the thousands.
All of these are dropped before the number is read.
-/
namespace Storefront.Text

/-- The text of a number without blanks around it, leading plus signs and commas. -/
def bareNumber (s : List Char) : List Char :=
  ((trim s).dropWhile (· == '+')).filter (· != ',')

def decimal? (s : List Char) : Option Decimal := Decimal.ofText? (bareNumber s)

def float? (s : List Char) : Option Float := Binary64.ofText? (bareNumber s)

def natural? (bound : Nat) (s : List Char) : Option Nat :=
  let digits := match s with
    | '+' :: rest => rest
    | _ => s
  (Decimal.digitsValue? digits).filter (· < bound)

end Storefront.Text

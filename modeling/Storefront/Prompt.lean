import Storefront.Text.Blank
import Storefront.Unicode.Case

/-! # Yes or no

A question is answered by one line. Anything but a yes is a no.
-/
namespace Storefront.Prompt
open Unicode

def shown (question : String) : String := s!"{question} [y/N] "

def isYes (line : List Char) : Bool :=
  let answer := String.ofList ((Text.trim line).map asciiLower)
  answer == "y" || answer == "yes"

def ask (input : List Char) : Bool := isYes (input.takeWhile (· != '\n'))

/-- Whether something may be used: with an answer known beforehand, or with one from the terminal. -/
def allows (assumeYes : Bool) (terminal : Option (List Char)) : Bool :=
  assumeYes || terminal.any ask

end Storefront.Prompt

/-! # Modes of page plans

How a page's default option goes together with its repeating options, and what their prices are.
-/
namespace Storefront

inductive DefaultMode
  /-- There is no default option. -/
  | ignore
  /-- The default option is one of the options. -/
  | alongside
  /-- The default option is what the repeating options modify. -/
  | basis
  /-- The default option stands in for missing repeating options. -/
  | alternative
  /-- The default option is the only one. -/
  | single
deriving DecidableEq, Repr

namespace DefaultMode

def all : List DefaultMode := [.ignore, .alongside, .basis, .alternative, .single]

def name : DefaultMode → String
  | ignore => "Ignore"
  | alongside => "Alongside"
  | basis => "Basis"
  | alternative => "Alternative"
  | single => "Single"

def key : DefaultMode → String
  | ignore => "ignore"
  | alongside => "alongside"
  | basis => "basis"
  | alternative => "alternative"
  | single => "single"

def ofKey? (key : String) : Option DefaultMode := all.find? (·.key == key)

/-- Whether a page without repeating options is still valid. -/
def toleratesMissingOptions : DefaultMode → Bool
  | alongside => true
  | alternative => true
  | _ => false

end DefaultMode

inductive PriceMode
  /-- Each price is complete. -/
  | standalone
  /-- Each price is added to that of the default option. -/
  | additive
deriving DecidableEq, Repr

namespace PriceMode

def name : PriceMode → String
  | standalone => "Standalone"
  | additive => "Additive"

def ofKey? : String → Option PriceMode
  | "standalone" => some .standalone
  | "additive" => some .additive
  | _ => none

end PriceMode
end Storefront

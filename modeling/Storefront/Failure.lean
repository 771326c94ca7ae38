import Storefront.Mold.Basic
import Storefront.Money.Basic
import Storefront.Plan.Mode
import Storefront.Url.Basic

/-! # Failures

What can go wrong between an address and its prices. A failure is a cause; its wording is derived.
-/
namespace Storefront

inductive Misconfiguration
  | mold (fault : Mold.Fault)
  | invalidSelector (query : String)
  | invalidPattern (query : String)
  | selectorOnText (query : String)
  | elementsByPattern (query : String)
  /-- A list of elements has been given molds. -/
  | moldedElements (query : String)
  | noOptionList (plan : String) (mode : DefaultMode)
  | noDefaultOption (plan : String) (mode : DefaultMode)
  | nothingLeft (plan : String) (deduction : Decimal)
  | unknownCurrency (text : String)
  | invalidSetting (key value : String)
  | stated (text : String)
deriving DecidableEq

def Misconfiguration.message : Misconfiguration → String
  | mold fault => fault.message
  | invalidSelector query => s!"invalid selector '{query}'"
  | invalidPattern query => s!"invalid pattern '{query}'"
  | selectorOnText query => s!"CSS bit '{query}' cannot extract from a raw string"
  | elementsByPattern query => s!"regex bit '{query}' yields strings, not elements"
  | moldedElements query => s!"bit '{query}': element lists cannot be post-processed"
  | noOptionList plan mode => s!"plan '{plan}' needs an option list in {mode.name} mode"
  | noDefaultOption plan mode => s!"plan '{plan}' needs a default option in {mode.name} mode"
  | nothingLeft plan deduction => s!"plan '{plan}': deduction {deduction} leaves nothing to divide by"
  | unknownCurrency text => s!"unknown currency: {text}"
  | invalidSetting key value => s!"{key}: invalid value '{value}'"
  | stated text => text

/-- The computation that left the range of decimals. -/
inductive Computation
  | dividingRates (dividend divisor : Currency)
  | converting (money : Money) (target : Currency)
  | summing
  | weighting
  | comparing (today average : Decimal)
  | addingToDefault (price : Money)
  | sharingFee (value : Decimal)
  | stated (text : String)
deriving DecidableEq

def Computation.message : Computation → String
  | dividingRates dividend divisor => s!"dividing {dividend} by {divisor} rate"
  | converting money target => s!"converting {money.amount} {money.currency} to {target}"
  | summing => "summing prices"
  | weighting => "weighting prices over time"
  | comparing today average => s!"comparing {today} with {average}"
  | addingToDefault price => s!"adding {price} to the default price"
  | sharingFee value => s!"amortizing the order fee over {value}"
  | stated text => text

inductive RateProblem
  | notInTable
  | notResolved
  | notOnPage (main : Currency)
  | denied (cause : String)
  | templateWritten (path : String)
  | notInFile (path : String)
  | stated (text : String)
deriving DecidableEq

def RateProblem.message : RateProblem → String
  | notInTable => "not in rate table"
  | notResolved => "rate not resolved"
  | notOnPage main => s!"no {main} rate on the search page"
  | denied cause => s!"{cause}; rate file fallback denied"
  | templateWritten path => s!"rate file was missing, a template was written to {path}"
  | notInFile path => s!"no usable rate in {path}"
  | stated text => text

inductive DownloadProblem
  | status (code : Nat)
  | emptyPage
  | timeout
  | request (text : String)
  | stated (text : String)
deriving DecidableEq

def DownloadProblem.message : DownloadProblem → String
  | status code => s!"HTTP {code}"
  | emptyPage => "got empty result from the server"
  | timeout => "request timed out"
  | request text => s!"request failed: {text}"
  | stated text => text

inductive Failure
  | misconfigured (cause : Misconfiguration)
  | selectorNotFound (query context : String)
  | noResults (query : String)
  | invalidPrice (raw : String)
  | overflow (computation : Computation)
  | notFound (url : String)
  | refused (url : String)
  | exhausted (url : String) (attempts : Nat) (last : DownloadProblem)
  | outOfTime (url : String)
  | cancelled
  | rateUnavailable (currency : Currency) (problem : RateProblem)
  | invalidUrl (fault : Url.Fault)
  | file
  | json
  /-- A computation that is not checked has left its range. -/
  | outOfRange
deriving DecidableEq

namespace Failure

def message : Failure → String
  | misconfigured cause => s!"Configuration error: {cause.message}"
  | selectorNotFound query context => s!"Selector not found: '{query}' in {context}"
  | noResults query => s!"Extraction yielded no results: '{query}'"
  | invalidPrice raw => s!"Zero or negative price is not permitted: '{raw}'"
  | overflow computation => s!"Price arithmetic overflowed while {computation.message}"
  | notFound url => s!"Page not found: {url}"
  | refused url => s!"Site protection triggered, refusing to download {url}"
  | exhausted url attempts last => s!"{attempts} download attempts failed for {url}: {last.message}"
  | outOfTime url => s!"Time budget exceeded while downloading {url}"
  | cancelled => "Operation cancelled"
  | rateUnavailable currency problem => s!"Currency rate unavailable for {currency}: {problem.message}"
  | invalidUrl fault => s!"Invalid URL: {fault.message}"
  | file => "IO error"
  | json => "JSON error"
  | outOfRange => "value out of range"

/-- Whether there is just nothing there, which an optional field tolerates. -/
def isAbsence : Failure → Bool
  | selectorNotFound _ _ => true
  | noResults _ => true
  | _ => false

def endsScan : Failure → Bool
  | notFound _ => true
  | refused _ => true
  | exhausted _ _ _ => true
  | outOfTime _ => true
  | _ => false

end Failure

abbrev Attempt := Except Failure

def Attempt.ofOption {α : Type} (failure : Failure) : Option α → Attempt α
  | some a => .ok a
  | none => .error failure

end Storefront

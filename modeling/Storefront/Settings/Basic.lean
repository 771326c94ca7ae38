import Storefront.Fetch.Download
import Storefront.Text.FilePath

/-! # Settings

Where data is kept, how pages are fetched, and how long pages and rates count.
-/
namespace Storefront

/-- Delays and requests last for milliseconds, rates for hours, and pages and downloads for seconds. -/
structure Settings where
  dataDir : String
  cacheTtl : Nat := 43200
  attempts : Nat := 10
  delayStep : Nat := 200
  timeBudget : Option Nat := none
  requestTimeout : Nat := 30000
  userAgent : String :=
    "Mozilla/5.0 (Windows NT 10.0; Win64; x64) AppleWebKit/537.36 (KHTML, like Gecko) Chrome/131.0.0.0 Safari/537.36"
  mainCurrency : Currency := .usd
  rateHours : Nat := 12
  rateFile : Option String := none
  concurrency : Nat := 4
deriving DecidableEq

namespace Settings

def joinPath (folder name : String) : String := String.ofList (Text.joinPath folder.toList name.toList)

def dataDirIn (home : String) : String := joinPath home ".pricewatch"

def inHome (home : String) : Settings := { dataDir := dataDirIn home }

def pageFolder (s : Settings) : String := joinPath s.dataDir "webcache"

def rateFilePath (s : Settings) : String := s.rateFile.getD (joinPath s.dataDir "rates.txt")

/-- The longest span of time, in seconds. -/
def longestSpan : Int := 9223372036854775

/-- How many seconds a rate counts. Hours are a signed number of 64 bits. -/
def rateTtl (s : Settings) : Attempt Int :=
  let seconds := Int.bmod s.rateHours (pow2 64) * 3600
  if -longestSpan ≤ seconds ∧ seconds ≤ longestSpan then .ok seconds else .error .outOfRange

def policy (s : Settings) : RetryPolicy :=
  ⟨s.attempts, s.delayStep, s.timeBudget.map (· * 1000)⟩

end Settings
end Storefront

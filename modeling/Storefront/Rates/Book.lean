import Storefront.Money.Exchange
import Storefront.Rates.File
import Storefront.Table

/-! # The book of rates

The book holds what currencies are worth in one main currency, which itself is worth one for ever. The
other rates expire after a time. The book is written to a rate file, and rates that cannot be had
otherwise are read from there.
-/
namespace Storefront

inductive RatePlace
  | missing
  | text (contents : String)
  | folder
deriving DecidableEq

structure RateBook where
  main : Currency
  /-- How many seconds a rate counts. -/
  ttl : Int
  path : String
  rates : Table Currency DatedRate
  file : RatePlace
  /-- Whether a draft of the file has been left beside it. -/
  draft : Bool := false
deriving DecidableEq

namespace RateBook

def ofMain (main : Currency) (ttl : Int) (path : String) (file : RatePlace) : RateBook :=
  { main, ttl, path, file, rates := ({} : Table Currency DatedRate).insert main ⟨Decimal.one, none⟩ }

def entry? (b : RateBook) (c : Currency) : Option DatedRate := b.rates.get? c

def insert (b : RateBook) (c : Currency) (r : DatedRate) : RateBook := { b with rates := b.rates.insert c r }

def fresh? (b : RateBook) (now : Timestamp) (c : Currency) : Option Decimal :=
  ((b.entry? c).filter fun r => !r.isExpiredAt now).map DatedRate.value

/-- A rate that counts; one that does not is dropped. -/
def claim (b : RateBook) (now : Timestamp) (c : Currency) : Option Decimal × RateBook :=
  match b.fresh? now c with
  | some r => (some r, b)
  | none => (none, { b with rates := b.rates.erase c })

/-- Takes a rate in for as long as rates count. -/
def accept (b : RateBook) (now : Timestamp) (c : Currency) (rate : Decimal) : Attempt Decimal × RateBook :=
  match now.later? b.ttl with
  | some expires => (.ok rate, b.insert c ⟨rate, some expires⟩)
  | none => (.error .outOfRange, b)

/-- The rates as they are, expired or not. -/
def exchange (b : RateBook) : Exchange := ⟨fun c => (b.entry? c).map DatedRate.value, .notResolved⟩

/-- Writes the rate file by way of a draft beside it. -/
def writeFile (b : RateBook) (contents : String) : Attempt Unit × RateBook :=
  match b.file with
  | .folder => (.error .file, { b with draft := true })
  | _ => (.ok (), { b with file := .text contents, draft := false })

def entries (b : RateBook) : List (Currency × DatedRate) :=
  Currency.all.filterMap fun c => (b.entry? c).map (c, ·)

/-- Writes the rate file from entries, unless there is no room to print one of them. -/
def writeEntries (b : RateBook) (entries : List (Currency × DatedRate)) : Attempt Unit × RateBook :=
  match RateFile.write? b.main entries with
  | some contents => b.writeFile contents
  | none => (.error .outOfRange, b)

def persist (b : RateBook) : Attempt Unit × RateBook := b.writeEntries b.entries

/-- Takes in a rate that has just been found, and writes the book. That the file is in the way does not matter. -/
def record (b : RateBook) (now : Timestamp) (c : Currency) (rate : Decimal) : Attempt Decimal × RateBook :=
  match b.accept now c rate with
  | (.ok rate, b) => match b.persist with
    | (.error .outOfRange, b) => (.error .outOfRange, b)
    | (_, b) => (.ok rate, b)
  | failed => failed

/-- Takes in the rate that the rate file gives. Where there is no file, one to be filled in is written. -/
def acceptFromFile (b : RateBook) (now : Timestamp) (c : Currency) : Attempt Decimal × RateBook :=
  match b.file with
  | .missing => match b.writeEntries (RateFile.blank b.main) with
    | (.ok (), b) => (.error (.rateUnavailable c (.templateWritten b.path)), b)
    | (.error f, b) => (.error f, b)
  | .folder => (.error .file, b)
  | .text contents =>
    match (RateFile.rate? (RateFile.read b.main contents.toList) c).filter Decimal.isPositive with
    | some rate => b.accept now c rate
    | none => (.error (.rateUnavailable c (.notInFile b.path)), b)

end RateBook
end Storefront

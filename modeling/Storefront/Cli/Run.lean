import Storefront.Catalog.Find
import Storefront.Cli.Arguments
import Storefront.History
import Storefront.Json.Writer
import Storefront.Rates.Source
import Storefront.Scan.Batch
import Storefront.Settings.Environment

/-! # Running commands

A run ends with an exit code, what it has written, and, when it has failed as a whole, the reason. It
leaves a folder for pages and a place for the rate file behind.
-/
namespace Storefront.Cli

def versionText : String := "pricewatch 0.1.0\n"

structure Store where
  folder : PageFolder
  rates : RatePlace

structure Report where
  code : Nat
  out : String := ""
  error : Option String := none
  store : Option Store := none
  /-- The first question that nobody has answered. -/
  unanswered : Option String := none

/-- A run that fails as a whole. A computation out of range ends it at once. -/
def Report.ofFailure (context : Option String) (f : Failure) : Report :=
  match f with
  | .outOfRange => { code := 101 }
  | f => { code := 1, error := some (context.getD f.message) }

/-- The state of a run: there is one more site to be asked, for rates, and someone for questions. -/
abbrev State (ν : Type) := ScanState ν (Site ν × Respondent)

structure Host (ν : Type) where
  environment : Environment
  transport : Transport ν
  net : ν
  clock : Nat → Timestamp
  answers : List (List Char) := []
  store : Settings → Store

namespace Host
variable {ν : Type}

def rateFetcher (h : Host ν) (s : Settings) : Attempt (Fetcher ν) := do
  let domain ← (Url.ofString RatePage.domain).mapError Failure.invalidUrl
  return ⟨domain, s.policy, h.transport, h.clock⟩

def desk (h : Host ν) (f : Fetcher ν) : RateDesk (Site ν × Respondent) where
  source c main := (webRate f none c main).onFirst
  allows question := (Job.act fun _ (r : Respondent) => r.allows question).onSecond
  clock := h.clock

def scanner (h : Host ν) (s : Settings) (f : Fetcher ν) : Scanner ν (Site ν × Respondent) :=
  { settings := s, transport := h.transport, desk := h.desk f }

def state (h : Host ν) (s : Settings) (ttl : Int) (allowRateFile : Bool) : State ν :=
  let store := h.store s
  { folder := store.folder, net := h.net
    book := RateBook.ofMain s.mainCurrency ttl s.rateFilePath store.rates
    outside :=
      ({ delay := s.delayStep, cache := { ttl := s.cacheTtl, folder := .absent }, net := h.net },
        { answer := if allowRateFile then some true else none, lines := h.answers }) }

def leave (report : Report) (t : State ν) : Report :=
  { report with store := some ⟨t.folder, t.book.file⟩, unanswered := t.outside.2.unanswered }

def finish (t : State ν) : Attempt String → Report
  | .ok out => leave { code := 0, out } t
  | .error f => leave (Report.ofFailure none f) t

def rate (s : Scanner ν (Site ν × Respondent)) (source target : Currency) (t : State ν) : Report :=
  let r := (Scanner.onRates (s.desk.rate target source)).run 0 t
  finish r.state (r.value.map fun rate => s!"1 {source} = {rate.round 4} {target}\n")

def shift (s : Scanner ν (Site ν × Respondent)) (general current : Money) (t : State ν) : Report :=
  let r := (Scanner.onRates (s.desk.ensureAll [general.currency, current.currency])).run 0 t
  finish r.state do
    r.value
    let shift ← priceShift (some general) (some current) r.state.book.exchange
    return (← renderShift shift) ++ "\n"

def isOutOfRange (o : ScanOutcome) : Bool :=
  match o.result with
  | .error .outOfRange => true
  | _ => false

/-- Scans pages, the front page when no address is given. The code says whether all could be read. -/
def scan (s : Scanner ν (Site ν × Respondent)) (p : PagePlan) (uris : List String) (json : Bool)
    (t : State ν) : Report :=
  let targets := if uris.isEmpty then [⟨p, none⟩] else uris.map fun uri => ⟨p, some uri⟩
  let pool := s.scanBatch targets 0 t
  let outcomes := pool.outcomes
  if outcomes.any isOutOfRange then leave { code := 101 } pool.state
  else
    let out := if json then (outcomesJson outcomes).pretty ++ "\n" else renderOutcomes outcomes
    leave { code := if outcomes.any ScanOutcome.failed then 1 else 0, out } pool.state

def withScanner (h : Host ν) (i : Invocation)
    (command : Scanner ν (Site ν × Respondent) → State ν → Report) : Report :=
  match Settings.find h.environment i.config with
  | .error f => Report.ofFailure (some "failed to load settings") f
  | .ok settings =>
    match settings.rateTtl, h.rateFetcher settings with
    | .ok ttl, .ok f => command (h.scanner settings f) (h.state settings ttl i.allowRateFile)
    | .error f, _ => Report.ofFailure none f
    | _, .error f => Report.ofFailure none f

def execute (h : Host ν) (i : Invocation) : Report :=
  match i.command with
  | .shops json =>
    let plans := Catalog.builtin
    { code := 0, out := if json then (Catalog.json plans).pretty ++ "\n" else Catalog.render plans }
  | .scan shop uris json => match Catalog.find? Catalog.builtin shop with
    | none => { code := 1, error := some s!"unknown shop '{shop}', see `pricewatch shops`" }
    | some p => h.withScanner i fun s t => scan s p uris json t
  | .rate source target => h.withScanner i fun s t => rate s source target t
  | .shift general current => h.withScanner i fun s t => shift s general current t
  | .completions _ => { code := 0 }

def run (h : Host ν) (args : List String) : Report :=
  match read args with
  | .invocation i => h.execute i
  | .help => { code := 0 }
  | .version => { code := 0, out := versionText }
  | .misuse => { code := 2 }

end Host
end Storefront.Cli

import Storefront.Settings.Json
import Storefront.Text.Number

/-! # Finding the settings

The settings are the default ones, overridden by a file if there is one, and then by what the
environment binds.
-/
namespace Storefront

structure Environment where
  home : String
  bindings : List (String × String) := []
  /-- The text files that can be read. -/
  files : List (String × String) := []

namespace Environment

def value? (e : Environment) (name : String) : Option String := e.bindings.lookup name

def file? (e : Environment) (path : String) : Option String :=
  (e.files.find? fun (name, _) => Text.samePath path.toList name.toList).map Prod.snd

def folderFile : String := ".pricewatch/settings.json"

def homeFile (e : Environment) : String := Settings.joinPath (Settings.dataDirIn e.home) "settings.json"

/-- The settings file: the one asked for, the one that a variable names, or one of two usual ones if it
is there. -/
def settingsPath (e : Environment) (explicit : Option String) : Option String :=
  explicit <|> e.value? "PRICEWATCH_CONFIG" <|>
    [folderFile, e.homeFile].find? fun path => (e.file? path).isSome

end Environment

namespace Settings

def numberIn (bound : Nat) (name value : String) : Attempt Nat :=
  Attempt.ofOption (.misconfigured (.invalidSetting name value))
    (Text.natural? bound (Text.trim value.toList))

def currencyIn (value : String) : Attempt Currency :=
  Attempt.ofOption (.misconfigured (.unknownCurrency (String.ofList (Text.trim value.toList))))
    (Currency.ofText? value.toList)

structure Override where
  name : String
  set : String → Settings → Attempt Settings

def wordOverride (name : String) (bound : Nat) (set : Nat → Settings → Settings) : Override :=
  ⟨name, fun value s => (numberIn bound name value).map (set · s)⟩

def overrides : List Override :=
  [⟨"PRICEWATCH_DATA_DIR", fun value s => .ok { s with dataDir := value }⟩,
   wordOverride "PRICEWATCH_CACHE_TTL_SECS" (pow2 64) fun n s => { s with cacheTtl := n },
   wordOverride "PRICEWATCH_FETCH_ATTEMPTS" (pow2 32) fun n s => { s with attempts := n },
   wordOverride "PRICEWATCH_RETRY_DELAY_STEP_MS" (pow2 64) fun n s => { s with delayStep := n },
   wordOverride "PRICEWATCH_FETCH_TIME_BUDGET_SECS" (pow2 64) fun n s => { s with timeBudget := some n },
   ⟨"PRICEWATCH_MAIN_CURRENCY", fun value s => (currencyIn value).map fun c => { s with mainCurrency := c }⟩,
   ⟨"PRICEWATCH_RATE_FILE", fun value s => .ok { s with rateFile := some value }⟩,
   wordOverride "PRICEWATCH_CONCURRENCY" (pow2 64) fun n s => { s with concurrency := n }]

def withVariables (s : Settings) (e : Environment) : Attempt Settings :=
  overrides.foldlM (fun s o => match e.value? o.name with
    | some value => o.set value s
    | none => .ok s) s

/-- The settings of a file, or the default ones without a file. -/
def load (e : Environment) : Option String → Attempt Settings
  | none => .ok (inHome e.home)
  | some path => do
    ofText (inHome e.home) (← Attempt.ofOption .file (e.file? path))

def find (e : Environment) (explicit : Option String) : Attempt Settings := do
  (← load e (e.settingsPath explicit)).withVariables e

end Settings
end Storefront

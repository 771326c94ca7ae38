import Storefront.Json.Reader
import Storefront.Money.Basic
import Storefront.Settings.Basic

/-! # Settings as JSON

Fields that are missing have their default values.
-/
namespace Storefront.Settings
open Json

def toJson (s : Settings) : Json :=
  .object [("data_dir", .string s.dataDir), ("cache_ttl_secs", .ofNat s.cacheTtl),
    ("fetch_attempts", .ofNat s.attempts), ("retry_delay_step_ms", .ofNat s.delayStep),
    ("fetch_time_budget_secs", .ofOption .ofNat s.timeBudget),
    ("request_timeout_ms", .ofNat s.requestTimeout), ("user_agent", .string s.userAgent),
    ("main_currency", s.mainCurrency.toJson), ("rate_ttl_hours", .ofNat s.rateHours),
    ("rate_file", .ofOption .string s.rateFile), ("concurrency", .ofNat s.concurrency)]

def fieldNames : List String :=
  ["data_dir", "cache_ttl_secs", "fetch_attempts", "retry_delay_step_ms", "fetch_time_budget_secs",
    "request_timeout_ms", "user_agent", "main_currency", "rate_ttl_hours", "rate_file", "concurrency"]

def word? : Json → Option Nat := below? (pow2 64)

def ofJson? (base : Settings) (j : Json) : Option Settings :=
  match j.record? fieldNames with
  | some [dataDir, cacheTtl, attempts, delayStep, timeBudget, requestTimeout, userAgent, mainCurrency,
      rateHours, rateFile, concurrency] => do
    return {
      dataDir := ← fieldOr? base.dataDir string? dataDir
      cacheTtl := ← fieldOr? base.cacheTtl word? cacheTtl
      attempts := ← fieldOr? base.attempts (below? (pow2 32)) attempts
      delayStep := ← fieldOr? base.delayStep word? delayStep
      timeBudget := ← fieldOr? base.timeBudget (optional? word?) timeBudget
      requestTimeout := ← fieldOr? base.requestTimeout word? requestTimeout
      userAgent := ← fieldOr? base.userAgent string? userAgent
      mainCurrency := ← fieldOr? base.mainCurrency Currency.ofJson? mainCurrency
      rateHours := ← fieldOr? base.rateHours word? rateHours
      rateFile := ← fieldOr? base.rateFile (optional? string?) rateFile
      concurrency := ← fieldOr? base.concurrency word? concurrency }
  | _ => none

def ofText (base : Settings) (text : String) : Attempt Settings :=
  Attempt.ofOption .json ((Json.ofText? text).bind base.ofJson?)

end Storefront.Settings

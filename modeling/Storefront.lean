import Storefront.Binary64.Text
import Storefront.Catalog.Builtin
import Storefront.Catalog.Find
import Storefront.Cli.Arguments
import Storefront.Cli.Run
import Storefront.Currency
import Storefront.Decimal.Arithmetic
import Storefront.Decimal.Basic
import Storefront.Decimal.Text
import Storefront.Failure
import Storefront.Fetch.Cache
import Storefront.Fetch.Download
import Storefront.Fetch.Transport
import Storefront.History
import Storefront.Html.Builder
import Storefront.Html.Entity
import Storefront.Html.Misnested
import Storefront.Html.Node
import Storefront.Html.Parse
import Storefront.Html.Rules.Body
import Storefront.Html.Rules.Foreign
import Storefront.Html.Rules.Head
import Storefront.Html.Rules.Table
import Storefront.Html.Token
import Storefront.Html.Write
import Storefront.Job.Basic
import Storefront.Job.Pool
import Storefront.Job.Rest
import Storefront.Json.Basic
import Storefront.Json.Decode
import Storefront.Json.Reader
import Storefront.Json.Writer
import Storefront.Main
import Storefront.Mold.Basic
import Storefront.Mold.Pipeline
import Storefront.Mold.Work
import Storefront.Money.Basic
import Storefront.Money.Exchange
import Storefront.Money.Reader
import Storefront.Page.Basic
import Storefront.Pattern.Bracket
import Storefront.Pattern.CharSet
import Storefront.Pattern.Escape
import Storefront.Pattern.Expr
import Storefront.Pattern.Program
import Storefront.Pattern.Reader
import Storefront.Pattern.Replace
import Storefront.Pattern.Search
import Storefront.Plan.Extract
import Storefront.Plan.Mode
import Storefront.Plan.Page
import Storefront.Plan.Variant
import Storefront.Power
import Storefront.Prompt
import Storefront.Proofs.Attempt
import Storefront.Proofs.Catalog.Find
import Storefront.Proofs.Decimal.Digits
import Storefront.Proofs.Decimal.Division
import Storefront.Proofs.Decimal.Printing
import Storefront.Proofs.Decimal.Product
import Storefront.Proofs.Decimal.Range
import Storefront.Proofs.Decimal.Relative
import Storefront.Proofs.Decimal.Sign
import Storefront.Proofs.Decimal.Value
import Storefront.Proofs.Fetch.Accounting
import Storefront.Proofs.Fetch.Attempts
import Storefront.Proofs.Fetch.Cache
import Storefront.Proofs.Fetch.Cancel
import Storefront.Proofs.Fetch.Deadline
import Storefront.Proofs.Fetch.Gone
import Storefront.Proofs.Fetch.Pace
import Storefront.Proofs.Fetch.Record
import Storefront.Proofs.Fetch.Resolve
import Storefront.Proofs.Fetch.Tiers
import Storefront.Proofs.Fetch.Untouched
import Storefront.Proofs.History.Balance
import Storefront.Proofs.History.Deviation
import Storefront.Proofs.History.Lowest
import Storefront.Proofs.History.Mean
import Storefront.Proofs.History.Order
import Storefront.Proofs.History.Shift
import Storefront.Proofs.History.Ties
import Storefront.Proofs.History.Trapezoid
import Storefront.Proofs.History.Weights
import Storefront.Proofs.Job.Climbs
import Storefront.Proofs.Job.Complete
import Storefront.Proofs.Job.Faults
import Storefront.Proofs.Job.Keeps
import Storefront.Proofs.Job.Part
import Storefront.Proofs.Job.Places
import Storefront.Proofs.Job.Pool
import Storefront.Proofs.Job.Results
import Storefront.Proofs.Job.Run
import Storefront.Proofs.Job.Turns
import Storefront.Proofs.Json.RoundTrip
import Storefront.Proofs.Mold.Characters
import Storefront.Proofs.Mold.Comments
import Storefront.Proofs.Mold.Cuts
import Storefront.Proofs.Mold.Delimiters
import Storefront.Proofs.Mold.Demands
import Storefront.Proofs.Mold.Padding
import Storefront.Proofs.Money.Comparison
import Storefront.Proofs.Money.Conversion
import Storefront.Proofs.Money.RoundTrip
import Storefront.Proofs.Money.Spelling
import Storefront.Proofs.Plan.Absence
import Storefront.Proofs.Plan.Currencies
import Storefront.Proofs.Plan.Economics
import Storefront.Proofs.Plan.Faults
import Storefront.Proofs.Plan.Listing
import Storefront.Proofs.Plan.Merge
import Storefront.Proofs.Plan.Overflow
import Storefront.Proofs.Plan.Positive
import Storefront.Proofs.Plan.PriceText
import Storefront.Proofs.Plan.Prices
import Storefront.Proofs.Rates.Actions
import Storefront.Proofs.Rates.Calls
import Storefront.Proofs.Rates.Cancelled
import Storefront.Proofs.Rates.Ensure
import Storefront.Proofs.Rates.Entry
import Storefront.Proofs.Rates.Errands
import Storefront.Proofs.Rates.Fallback
import Storefront.Proofs.Rates.File
import Storefront.Proofs.Rates.Freshness
import Storefront.Proofs.Rates.Lines
import Storefront.Proofs.Rates.Query
import Storefront.Proofs.Rates.Readable
import Storefront.Proofs.Rates.RoundTrip
import Storefront.Proofs.Rates.Standing
import Storefront.Proofs.Rates.Window
import Storefront.Proofs.Rule.Faults
import Storefront.Proofs.Rule.RoundTrip
import Storefront.Proofs.Scan.Batch
import Storefront.Proofs.Scan.Gone
import Storefront.Proofs.Scan.Locks
import Storefront.Proofs.Scan.Settle
import Storefront.Proofs.Scan.Site
import Storefront.Proofs.Settings.RateLifetime
import Storefront.Proofs.Text.Delimiters
import Storefront.Proofs.Text.FileName
import Storefront.Proofs.Text.Join
import Storefront.Proofs.Text.Slice
import Storefront.Proofs.Text.Spans
import Storefront.Proofs.Text.TitleCase
import Storefront.Proofs.Time.Calendar
import Storefront.Proofs.Time.Expiry
import Storefront.Proofs.Time.Order
import Storefront.Proofs.Url.Host
import Storefront.Proofs.Url.Name
import Storefront.Proofs.Url.Numeric
import Storefront.Proofs.Url.Path
import Storefront.Proofs.Url.Pieces
import Storefront.Proofs.Url.Rest
import Storefront.Proofs.Url.RoundTrip
import Storefront.Rates.Book
import Storefront.Rates.File
import Storefront.Rates.Refresh
import Storefront.Rates.Source
import Storefront.Rule.Basic
import Storefront.Rule.Extract
import Storefront.Rule.Json
import Storefront.Scan.Batch
import Storefront.Scan.Page
import Storefront.Selector.Basic
import Storefront.Selector.Match
import Storefront.Selector.Reader
import Storefront.Selector.Token
import Storefront.Settings.Basic
import Storefront.Settings.Environment
import Storefront.Settings.Json
import Storefront.Table
import Storefront.Text.Address
import Storefront.Text.Blank
import Storefront.Text.FilePath
import Storefront.Text.Fingerprint
import Storefront.Text.Number
import Storefront.Text.Quoted
import Storefront.Text.Reference
import Storefront.Text.Split
import Storefront.Text.TitleCase
import Storefront.Time.Calendar
import Storefront.Time.Text
import Storefront.Time.Timestamp
import Storefront.Unicode.Case
import Storefront.Unicode.Category
import Storefront.Unicode.Property
import Storefront.Unicode.Script
import Storefront.Unicode.Spans
import Storefront.Url.Basic
import Storefront.Url.Encode
import Storefront.Url.Host
import Storefront.Url.Path
import Storefront.Url.Punycode
import Storefront.Url.Reader

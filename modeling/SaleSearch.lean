import SaleSearch.Files.Directory
import SaleSearch.Main
import SaleSearch.Proofs.Compilation.Outline
import SaleSearch.Proofs.Compilation.Quoting
import SaleSearch.Proofs.Compilation.Reading
import SaleSearch.Settings.Json
import SaleSearch.Proofs.Catalog.Record
import SaleSearch.Proofs.Catalog.Coherence
import SaleSearch.Proofs.Catalog.Tracking
import SaleSearch.Proofs.Catalog.SingleFlight
import SaleSearch.Proofs.Catalog.Invalidation
import SaleSearch.Proofs.Catalog.Progress
import SaleSearch.Proofs.Verification.Agreement
import SaleSearch.Proofs.Outcome
import SaleSearch.Proofs.Refusal.Timestamp
import SaleSearch.Proofs.Verification.Course
import SaleSearch.Proofs.Refusal.Ground
import SaleSearch.Proofs.Refusal.Verification
import SaleSearch.Proofs.Refusal.Compilation
import SaleSearch.Proofs.Filter.Complete
import SaleSearch.Proofs.Verification.Kept
import SaleSearch.Proofs.Request.Absent
import SaleSearch.Proofs.Filter.Places
import SaleSearch.Proofs.Filter.Scopes
import SaleSearch.Proofs.Catalog.Separation
import SaleSearch.Proofs.Verification.Frugal
import SaleSearch.Proofs.Calendar.Elapsed
import SaleSearch.Proofs.Timestamp.Dates
import SaleSearch.Proofs.Window.Bounds
import SaleSearch.Proofs.Window.Days
import SaleSearch.Proofs.Timestamp.Size
import SaleSearch.Proofs.Timestamp.Numeric
import SaleSearch.Proofs.Quantity.PageSize
import SaleSearch.Proofs.Quantity.Decimal
import SaleSearch.Proofs.History.Faithful
import SaleSearch.Proofs.Sql.Defects
import SaleSearch.Proofs.Request.Query
import SaleSearch.Proofs.Compilation.Aggregated
import SaleSearch.Proofs.Compilation.Page
import SaleSearch.Proofs.Compilation.Inputs
import SaleSearch.Proofs.Filter.Normal
import SaleSearch.Proofs.TimeRange.Tokens
import SaleSearch.Proofs.Request.LastValues
import SaleSearch.Proofs.Sql.Description

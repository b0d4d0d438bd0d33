import SaleSearch.TimeRange
import SaleSearch.Token

/-!
# Settings

Everything that a request may leave unsaid is decided by the settings, which are handed to each
compilation. Tokens of a request fall back on them: a sort direction, a function or a column that is
not recognised counts as absent here, and whether it should have been refused is decided elsewhere.
A time range is refused here.
-/

namespace SaleSearch

/-- What the settings say, with the defaults for what they leave unsaid. -/
structure Settings where
  /-- The largest page that a listing may have. -/
  maxLimit : Nat := 500
  sortDirection : SortDirection := .descending
  aggregateFunction : AggregateFunction := .count
  aggregateColumn : AggregateColumn := .saleId
  /-- How far a history looks back if the request does not say. -/
  timeRange : TimeRange := .last 24 .hours
  /-- Send filter values beside the statement and not inside it. -/
  bindValues : Bool := false
  deriving DecidableEq, Repr

end SaleSearch

/-! ## Tokens with a default -/

namespace SaleSearch.Grammar

/-- The direction of a token, or the default if there is none or it is not known. -/
def sortDirection (raw : Option String) (default : SortDirection) : SortDirection :=
  (raw.bind SortDirection.ofToken?).getD default

/-- The function of a token, or the default if there is none or it is not known. -/
def aggregateFunction (raw : Option String) (default : AggregateFunction) : AggregateFunction :=
  (raw.bind AggregateFunction.ofToken?).getD default

/-- The column of a token, or the default if there is none or it is not known. -/
def aggregateColumn (raw : Option String) (default : AggregateColumn) : AggregateColumn :=
  (raw.bind AggregateColumn.ofToken?).getD default

/-- The range of a token, which has to be one of the accepted ones; the default if nothing was
sent. -/
def timeRange? (raw : Option String) (default : TimeRange) : Option TimeRange :=
  match raw with
  | none | some "" => some default
  | some token => if token ∈ TimeRange.accepted then TimeRange.ofToken? token else none

end SaleSearch.Grammar

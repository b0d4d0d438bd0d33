/-!
# Tokens

Four parameters and settings take their values from closed sets. A token outside its set is reported
together with the set.

* `TokenSet.read` reads a token of a set or says which set it is not in.
* `SortDirection` is the direction in which a listing is sorted.
* `AggregateFunction` and `AggregateColumn` say what a summary computes, and `AggregateMode` whether
  it gives one value or a history of daily values. `AggregateColumn.isComputed` and
  `AggregateColumn.isIdentifier` are the two properties of a column on which compilation depends.
-/

namespace SaleSearch

/-- The closed sets. -/
inductive TokenSet where
  | sortDirection
  | aggregateFunction
  | aggregateColumn
  | timeRange
  deriving DecidableEq, Repr

/-- The set as a message calls it. -/
def TokenSet.name : TokenSet → String
  | .sortDirection => "sort direction"
  | .aggregateFunction => "aggregate function"
  | .aggregateColumn => "aggregate column"
  | .timeRange => "time range"

/-- A token that is not a member of the set it should be in. -/
structure UnknownToken where
  expected : TokenSet
  token : String
  deriving DecidableEq, Repr

/-- The message for a token that is not in its set. -/
def UnknownToken.message (e : UnknownToken) : String :=
  "Unknown " ++ e.expected.name ++ ": '" ++ e.token ++ "'"

/-- The member of a set whose text a token is. -/
def TokenSet.read {α : Type} (expected : TokenSet) (read? : String → Option α) (token : String) :
    Except UnknownToken α :=
  match read? token with
  | some member => .ok member
  | none => .error { expected, token }

/-! ## Sort directions -/

/-- The direction in which a listing is sorted. -/
inductive SortDirection where
  | ascending
  | descending
  deriving DecidableEq, Repr

namespace SortDirection

/-- The token of a direction, which is also how a statement writes it. -/
def text : SortDirection → String
  | .ascending => "ASC"
  | .descending => "DESC"

/-- All directions. -/
def all : List SortDirection := [.ascending, .descending]

/-- The direction of a token. -/
def ofToken? (token : String) : Option SortDirection :=
  all.find? fun direction => direction.text = token

/-- The direction of a token, or the complaint that it is none. -/
def read : String → Except UnknownToken SortDirection :=
  TokenSet.sortDirection.read ofToken?

/-- `SortDirection.ofToken?` reads what `SortDirection.text` writes. -/
theorem ofToken?_text (d : SortDirection) : ofToken? d.text = some d := by
  cases d <;> decide

end SortDirection

/-! ## Aggregates -/

/-- The functions that a summary can apply. -/
inductive AggregateFunction where
  | count
  | sum
  | avg
  | min
  | max
  | median
  deriving DecidableEq, Repr

namespace AggregateFunction

/-- The token of a function, which is also how a statement writes it. -/
def text : AggregateFunction → String
  | .count => "count"
  | .sum => "sum"
  | .avg => "avg"
  | .min => "min"
  | .max => "max"
  | .median => "median"

/-- All functions. -/
def all : List AggregateFunction := [.count, .sum, .avg, .min, .max, .median]

/-- The function of a token, which has to be exact. -/
def ofToken? (token : String) : Option AggregateFunction :=
  all.find? fun function => function.text = token

/-- The function of a token, or the complaint that it is none. -/
def read : String → Except UnknownToken AggregateFunction :=
  TokenSet.aggregateFunction.read ofToken?

/-- `AggregateFunction.ofToken?` reads what `AggregateFunction.text` writes. -/
theorem ofToken?_text (f : AggregateFunction) : ofToken? f.text = some f := by
  cases f <;> decide

end AggregateFunction

/-- The columns to which a function can be applied. -/
inductive AggregateColumn where
  | saleId
  | totalAssetIds
  | listingPriceAmount
  | listingPriceValue
  deriving DecidableEq, Repr

namespace AggregateColumn

/-- The token of a column, which is also its name in a statement. -/
def text : AggregateColumn → String
  | .saleId => "sale_id"
  | .totalAssetIds => "total_asset_ids"
  | .listingPriceAmount => "listing_price_amount"
  | .listingPriceValue => "listing_price_value"

/-- All columns. -/
def all : List AggregateColumn :=
  [.saleId, .totalAssetIds, .listingPriceAmount, .listingPriceValue]

/-- The column of a token, which has to be exact. -/
def ofToken? (token : String) : Option AggregateColumn :=
  all.find? fun column => column.text = token

/-- The column of a token, or the complaint that it is none. -/
def read : String → Except UnknownToken AggregateColumn :=
  TokenSet.aggregateColumn.read ofToken?

/-- Is the column not stored, so that it has to be projected by a subquery? The number of assets
is. -/
def isComputed : AggregateColumn → Bool
  | .totalAssetIds => true
  | _ => false

/-- Is the column an identifier, which can only be counted? -/
def isIdentifier : AggregateColumn → Bool
  | .saleId => true
  | _ => false

/-- `AggregateColumn.ofToken?` reads what `AggregateColumn.text` writes. -/
theorem ofToken?_text (c : AggregateColumn) : ofToken? c.text = some c := by
  cases c <;> decide

end AggregateColumn

/-- The two shapes of a summary: a single value, or a history of daily values. -/
inductive AggregateMode where
  | point
  | history
  deriving DecidableEq, Repr

/-- Without a choice a summary is a single value. -/
instance : Inhabited AggregateMode := ⟨.point⟩

end SaleSearch

import SaleSearch.Listing
import SaleSearch.TimeRange

/-!
# Summaries

The statements that aggregate matching sales, either to one value or to a value for each chain,
currency and day of a window.

* `Summary.Choice` is what is aggregated, and `Summary.resolve` finds it out, refusing what cannot
  be aggregated.
* `Summary.point` and `Summary.history` are the two statements.
* `Summary.compile` compiles one of them.
-/

namespace SaleSearch

open Sql

/-- An identifier can only be counted, so `sum(sale_id)` is refused. -/
def checkAggregatePair (function : AggregateFunction) (column : AggregateColumn) :
    Except Rejection Unit :=
  if function ≠ .count ∧ column.isIdentifier then .error (.illegalAggregate function column)
  else .ok ()

namespace Summary

/-- A function, a column, and whether the request names the column. -/
structure Choice where
  function : AggregateFunction
  column : AggregateColumn
  columnGiven : Bool
  deriving DecidableEq, Repr

namespace Choice

/-- Are rows counted, rather than the values of a column? They are if `count` is applied to a column
that the request does not name, unless that column is computed. -/
def countsRows (c : Choice) : Bool :=
  c.function = .count && !c.columnGiven && !c.column.isComputed

/-- The argument of the aggregate, which is missing if rows are counted. -/
def argument (c : Choice) : Option Column :=
  if c.countsRows then none else some { name := c.column.text }

/-- The aggregate as an expression. -/
def expr (c : Choice) : Expr :=
  .aggregate c.function.text c.argument

end Choice

/-- A function that was named but is not known. -/
def unknownFunction? (raw : Option String) : Option String :=
  raw.filter fun token => (AggregateFunction.ofToken? token).isNone

/-- A column that was named but is not known. -/
def unknownColumn? (raw : Option String) : Option String :=
  raw.filter fun token => (AggregateColumn.ofToken? token).isNone

/-- The function that a request asks for, or else the one of the settings. -/
def function (request : Request) (settings : Settings) : AggregateFunction :=
  Grammar.aggregateFunction (request.given? "aggregate_function") settings.aggregateFunction

/-- The column that a request asks for, or else the one of the settings. -/
def column (request : Request) (settings : Settings) : AggregateColumn :=
  Grammar.aggregateColumn (request.given? "aggregate_column") settings.aggregateColumn

/-- What a request asks to be aggregated. An unknown function is refused before an unknown column,
and both before a pair that cannot be aggregated. -/
def resolve (request : Request) (settings : Settings) : Except Rejection Choice :=
  match unknownFunction? (request.given? "aggregate_function"),
    unknownColumn? (request.given? "aggregate_column") with
  | some token, _ => .error (.invalidAggregateFunction token)
  | none, some token => .error (.invalidAggregateColumn token)
  | none, none =>
      (checkAggregatePair (function request settings) (column request settings)).map fun _ =>
        { function := function request settings
          column := column request settings
          columnGiven := (request.given? "aggregate_column").isSome }

/-- The sales with their blocks. A computed column is projected by a subquery over the sales. -/
def source (column : AggregateColumn) : Source :=
  Sales.withBlocks <|
    if column.isComputed then
      .subquery
        [.wildcard, .renamed (.call "length" [.column { name := "asset_ids" }]) column.text]
        (.table "Sales" none) {} Sales.shortName
    else .table "Sales" (some Sales.shortName)

/-- The statement for a single value. -/
def point (choice : Choice) (filter : List Predicate) : Statement where
  select := [.expr choice.expr]
  source := source choice.column
  clauses := { filter }

/-- The day of a sale, in seconds. -/
def day : Expr :=
  .call "toUnixTimestamp" [.call "toStartOfDay" [.column Sales.blockTimestamp]]

/-- The columns of a history: chain, currency, day and value. -/
def historySelect (choice : Choice) : List SelectItem :=
  [.expr (.column { name := "chain" }),
    .renamed (.column { name := "listing_price_symcode" }) "symbol_code",
    .renamed day "timestamp",
    .renamed choice.expr "value"]

/-- The condition that a window puts on the time of a sale. -/
def windowPredicate (bounds : Int × Int) : Predicate :=
  .window Sales.blockTimestamp (.signed bounds.1) (.signed bounds.2)

/-- The statement for a value by chain, currency and day. The window is the last of its conditions,
and without one all times are covered. -/
def history (choice : Choice) (filter : List Predicate) (window : Option (Int × Int)) :
    Statement where
  select := historySelect choice
  source := source choice.column
  clauses :=
    { filter := filter ++ window.toList.map windowPredicate
      groupBy := ["chain", "symbol_code", "timestamp"]
      orderBy := some { column := "timestamp", direction := .ascending } }

/-- The range that a request asks for, or that of the settings. It is checked before the filters of
a history. -/
def range (request : Request) (settings : Settings) : Except Rejection TimeRange :=
  let raw := request.get? "range"
  match Grammar.timeRange? raw settings.timeRange with
  | some range => .ok range
  | none => .error (.invalidTimeRange (raw.getD ""))

/-- The summary of a request. Only a history has a range, and only a single value has conditions on
the timestamp. -/
def statement (request : Request) (mode : AggregateMode) (settings : Settings) (now : Int) :
    Except Rejection Statement := do
  let choice ← resolve request settings
  match mode with
  | .point =>
      let filter ← (Filter.assemble request .aggregate).mapError .invalidTimestamp
      return point choice filter
  | .history =>
      let range ← range request settings
      let filter ← (Filter.assemble request .history).mapError .invalidTimestamp
      return history choice filter (Window.window? range now)

/-- The compiled summary of a request. -/
def compile (request : Request) (mode : AggregateMode) (settings : Settings) (now : Int) :
    Except Rejection Compiled := do
  let statement ← statement request mode settings now
  (statement.compile settings.passing).mapError .internal

end Summary

end SaleSearch

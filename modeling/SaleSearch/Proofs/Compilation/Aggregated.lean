import SaleSearch.Proofs.Compilation.Agreement
import SaleSearch.Proofs.Compilation.Chosen

/-!
# What a summary aggregates

A summary settles at one place what it aggregates, and three others depend on it: the aggregate
itself, the source, and what is said about the result.  Here they are shown to agree.

* `aggregateText`, `sourceText` and `layout` are the text of a summary, written out.
* `Summary.Aggregated` is what a compiled summary is like, and `Summary.aggregated` the result.
-/

namespace SaleSearch

open Sql

namespace Summary

/-! ## The text -/

/-- The aggregate over a column, or without an argument, as it is where rows are counted. -/
def aggregateOf (f : AggregateFunction) (argument : Option AggregateColumn) : Expr :=
  .aggregate f.text (argument.map fun column => { name := column.text })

/-- The text of the aggregate. -/
def aggregateText (f : AggregateFunction) (argument : Option AggregateColumn) : String :=
  f.text ++ "(" ++ argument.elim "" AggregateColumn.text ++ ")"

/-- The text of the source: a subquery that adds the number of assets if that is aggregated, the
table of sales otherwise. -/
def sourceText (argument : Option AggregateColumn) : String :=
  if argument = some .totalAssetIds then
    "(SELECT *, length(asset_ids) AS total_asset_ids FROM Sales) AS s"
      ++ " JOIN blocks ON blocks.block_id = s.block_id"
  else "Sales AS s JOIN blocks ON blocks.block_id = s.block_id"

/-- The text of a summary around an aggregate, a source and conditions. -/
def layout (mode : AggregateMode) (aggregate source conditions : String) : String :=
  match mode with
  | .point => "SELECT " ++ aggregate ++ " FROM " ++ source ++ conditions
  | .history =>
      "SELECT chain, listing_price_symcode AS symbol_code,"
        ++ " toUnixTimestamp(toStartOfDay(blocks.timestamp)) AS timestamp, "
        ++ aggregate ++ " AS value FROM " ++ source ++ conditions
        ++ " GROUP BY chain, symbol_code, timestamp ORDER BY timestamp ASC"

/-- The columns that a summary returns. -/
def outputs (mode : AggregateMode) (aggregate : String) : List String :=
  match mode with
  | .point => [aggregate]
  | .history => ["chain", "symbol_code", "timestamp", "value"]

/-- The select list of a summary. -/
def selected (mode : AggregateMode) (aggregate : Expr) : List SelectItem :=
  match mode with
  | .point => [.expr aggregate]
  | .history => historyKeys ++ [.renamed aggregate "value"]

/-- The layout in the pieces of `Summary.front_shape` and `Summary.tailText_shape`. -/
lemma layout_eq (mode : AggregateMode) (aggregate source conditions : String) :
    layout mode aggregate source conditions
      = lead mode ++ aggregate ++ turn mode ++ source ++ conditions ++ closing mode := by
  cases mode with
  | point => rw [closing, String.append_empty]; rfl
  | history =>
      have keys : lead .history = "SELECT chain, listing_price_symcode AS symbol_code,"
          ++ " toUnixTimestamp(toStartOfDay(blocks.timestamp)) AS timestamp, " := by
        decide +kernel
      rw [keys]
      rfl

/-- Either there are no conditions, or they are a `WHERE` clause in brackets. -/
def IsConditions (text : String) : Prop :=
  text = "" ∨ ∃ inner, text = " WHERE (" ++ inner ++ ")"

lemma isConditions_fill (passing : Passing) (next : Nat) (filter : List Predicate) :
    IsConditions (Segment.fill passing next (filterSegments filter)) := by
  cases filter with
  | nil => exact .inl rfl
  | cons p rest =>
      refine .inr ⟨Segment.fill passing next (p.segments ++ furtherSegments rest), ?_⟩
      rw [filterSegments, List.cons_append, Segment.fill, Segment.fill_append_slots,
        String.append_assoc]
      rfl

lemma expr_eq_aggregateOf (choice : Choice) :
    choice.expr = aggregateOf choice.function choice.aggregated? := by
  rw [Choice.expr, Choice.argument_eq_map, aggregateOf]

lemma text_aggregateOf (f : AggregateFunction) (argument : Option AggregateColumn) :
    (aggregateOf f argument).text = aggregateText f argument := by
  cases argument <;> simp [aggregateOf, aggregateText, Expr.text, application, Column.qualified]

lemma outputName_aggregateOf (f : AggregateFunction) (argument : Option AggregateColumn) :
    (aggregateOf f argument).outputName = aggregateText f argument := by
  rw [← text_aggregateOf]
  rfl

lemma text_source (choice : Choice) :
    (source choice.column).text = sourceText choice.aggregated? := by
  rw [sourceText]
  split
  · rename_i computed
    rw [source_of_computed (Choice.aggregated?_eq_totalAssetIds.1 computed)]
    rfl
  · rename_i stored
    rw [source_of_stored (Choice.aggregated?_eq_totalAssetIds.not.1 stored)]
    rfl

/-- The text of a summary is the layout of its mode around some conditions. -/
lemma exists_conditions (mode : AggregateMode) (choice : Choice) (filter : List Predicate)
    (window : Option (Int × Int)) (passing : Passing) :
    ∃ conditions, IsConditions conditions
      ∧ ((shape mode choice filter window).compiled passing).sql
        = layout mode (aggregateText choice.function choice.aggregated?)
            (sourceText choice.aggregated?) conditions := by
  refine ⟨_, isConditions_fill passing 0 (shape mode choice filter window).clauses.filter, ?_⟩
  have arrayJoin : (shape mode choice filter window).clauses.arrayJoinText = "" := by
    cases mode <;> rfl
  rw [Statement.sql_compiled, arrayJoin, front_shape, tailText_shape, text_source,
    expr_eq_aggregateOf, text_aggregateOf, layout_eq, String.empty_append]
  simp only [String.append_assoc]

/-- The statement of a summary has the output names that `outputs` lists. -/
lemma outputNames_shape (mode : AggregateMode) (choice : Choice) (filter : List Predicate)
    (window : Option (Int × Int)) :
    (shape mode choice filter window).outputNames
      = outputs mode (aggregateText choice.function choice.aggregated?) := by
  cases mode with
  | point =>
      show [choice.expr.outputName] = _
      rw [expr_eq_aggregateOf, outputName_aggregateOf]
      rfl
  | history => rfl

/-! ## The result -/

/-- A compiled summary that applies a function to a column, or that counts rows if there is no
column. -/
structure Aggregated (request : Request) (mode : AggregateMode) (settings : Settings)
    (s : Statement) (c : Compiled) (f : AggregateFunction) (argument : Option AggregateColumn) :
    Prop where
  function : IsGivenOr AggregateFunction.text (request.given? "aggregate_function")
    settings.aggregateFunction f
  column : ∀ column, argument = some column → IsGivenOr AggregateColumn.text
    (request.given? "aggregate_column") settings.aggregateColumn column
  identifier : argument = some .saleId → f = .count
  rows : argument = none ↔ f = .count ∧ request.given? "aggregate_column" = none
    ∧ settings.aggregateColumn ≠ .totalAssetIds
  select : s.select = selected mode (aggregateOf f argument)
  counted : s.source = Sales.withBlocks Sales.counted ↔ argument = some .totalAssetIds
  stored : s.source = Sales.withBlocks Sales.stored ↔ argument ≠ some .totalAssetIds
  usesSubquery : c.usesSubquery = true ↔ argument = some .totalAssetIds
  columns : c.columns = outputs mode (aggregateText f argument)
  keys : ∀ key ∈ s.clauses.keys, key ∈ c.columns
  inScope : ∀ schema : Schema, schema.Stores → s.Scoped schema
  text : ∃ conditions, IsConditions conditions
    ∧ c.sql = layout mode (aggregateText f argument) (sourceText argument) conditions

/-- The statement of a choice that is `Made` has all the properties of `Aggregated`. -/
lemma aggregated_shape {request : Request} {settings : Settings} {choice : Choice}
    (made : choice.Made request settings) (mode : AggregateMode) {filter : List Predicate}
    (formed : ∀ p ∈ filter, p.Formed) (window : Option (Int × Int)) (passing : Passing) :
    Aggregated request mode settings (shape mode choice filter window)
      ((shape mode choice filter window).compiled passing) choice.function choice.aggregated? := by
  have sources : (shape mode choice filter window).source = source choice.column := by
    cases mode <;> rfl
  have columns := outputNames_shape mode choice filter window
  exact {
    function := made.function
    column := fun column aggregated => Choice.column_of_aggregated? aggregated ▸ made.column
    identifier := fun identifier => made.identifier (Choice.column_of_aggregated? identifier)
    rows := made.aggregated?_eq_none
    select := by rw [← expr_eq_aggregateOf]; cases mode <;> rfl
    counted := by rw [sources, source_eq_counted, Choice.aggregated?_eq_totalAssetIds]
    stored := by rw [sources, source_eq_stored, Ne, Ne, Choice.aggregated?_eq_totalAssetIds]
    usesSubquery := by
      rw [Choice.aggregated?_eq_totalAssetIds, ← hasSubquery_source, ← sources]
      rfl
    columns := columns
    keys := by
      show ∀ key ∈ _, key ∈ (shape mode choice filter window).outputNames
      rw [columns]
      cases mode <;> simp [shape, point, history, Clauses.keys, outputs]
    inScope := fun schema stores => scoped_shape stores mode choice formed window
    text := exists_conditions mode choice filter window passing }

/-- **A summary aggregates what its source provides, and sums up no identifiers.**  Whenever a
request compiles, verified or not, the aggregate, the source and the description of the result agree
on what is aggregated, the result has the columns by which it is grouped and sorted, and over every
store with the attributes of sales all columns of the statement are in scope. -/
theorem aggregated (request : Request) (mode : AggregateMode) (settings : Settings) (now : Int)
    (c : Compiled) (compiled : compile request mode settings now = .ok c) :
    ∃ s f argument, statement request mode settings now = .ok s
      ∧ s.compile settings.passing = .ok c
      ∧ Aggregated request mode settings s c f argument := by
  obtain ⟨choice, filter, window, resolved, assembled, ended, rfl⟩ := compile_eq_ok.1 compiled
  exact ⟨shape mode choice filter window, choice.function, choice.aggregated?,
    statement_eq_ok.2 ⟨choice, filter, window, resolved, assembled, ended, rfl⟩,
    compile_shape .., aggregated_shape (made_of_resolve resolved) mode
      (Filter.formed_of_assemble assembled) window settings.passing⟩

/-- The largest sales of a week, by their assets. -/
def largestOfWeek : Request :=
  .ofPairs [("aggregate_function", "max"), ("aggregate_column", "total_asset_ids"), ("range", "7d")]

/-- The number of assets is computed in a subquery, and the window of the week is set by the
time. -/
theorem aggregated_largestOfWeek : ∃ c s,
    compile largestOfWeek .history {} 1700000000 = .ok c
      ∧ statement largestOfWeek .history {} 1700000000 = .ok s
      ∧ Aggregated largestOfWeek .history {} s c .max (some .totalAssetIds) := by
  have resolved : resolve largestOfWeek {} = .ok
      { function := .max, column := .totalAssetIds, columnGiven := true } := by decide +kernel
  have asked : Filter.assemble largestOfWeek .history = .ok [] := by decide +kernel
  have week : ends largestOfWeek .history {} 1700000000 = .ok (some (1699315200, 1699920000)) := by
    decide +kernel
  obtain ⟨c, compiled⟩ : ∃ c, compile largestOfWeek .history {} 1700000000 = .ok c :=
    ⟨_, compile_eq_ok.2 ⟨_, _, _, resolved, asked, week, rfl⟩⟩
  obtain ⟨s, f, argument, stated, -, agrees⟩ := aggregated largestOfWeek .history {} _ c compiled
  have f_text : f.text = "max" := by
    have given : largestOfWeek.given? "aggregate_function" = some "max" := by decide +kernel
    exact IsGivenOr.text_eq (given ▸ agrees.function)
  obtain rfl : f = .max := by
    cases f <;> first | rfl | exact absurd f_text (by decide)
  have column : largestOfWeek.given? "aggregate_column" = some "total_asset_ids" := by
    decide +kernel
  obtain ⟨other, rfl⟩ : ∃ other, argument = some other := by
    refine Option.ne_none_iff_exists'.1 fun rows => ?_
    exact absurd (agrees.rows.1 rows).1 (by decide)
  obtain rfl : other = .totalAssetIds :=
    AggregateColumn.text_injective (IsGivenOr.text_eq (column ▸ agrees.column other rfl))
  exact ⟨c, s, compiled, stated, agrees⟩

end Summary

end SaleSearch

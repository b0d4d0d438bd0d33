import SaleSearch.Proofs.Compilation.Sound
import SaleSearch.Proofs.Sql.Scope

/-!
# The choice and the source of a summary

What is aggregated is chosen at one place, and the source is chosen to fit it.

* `Choice.aggregated?` is the aggregated column, which is absent if rows are counted, and
  `made_of_resolve` says where a choice comes from.
* `Schema.Stores` is what the stored tables have to provide, and `scoped_shape` says that a summary
  then finds every column that it names.
-/

namespace SaleSearch

open Sql

/-- The member whose text was given, or the default if none was. -/
def IsGivenOr {α : Type} (text : α → String) (given : Option String) (default a : α) : Prop :=
  given = some (text a) ∨ given = none ∧ a = default

/-- If a token was given, the member has that token as its text. -/
lemma IsGivenOr.text_eq {α : Type} {text : α → String} {token : String} {default a : α}
    (h : IsGivenOr text (some token) default a) : text a = token := by
  simpa [IsGivenOr, eq_comm] using h

/-- If the given token is not an unknown one, reading it or taking the default yields
`IsGivenOr`. -/
lemma isGivenOr_getD {α : Type} {text : α → String} {ofToken? : String → Option α}
    (exact_text : ∀ {token a}, ofToken? token = some a → text a = token) {given : Option String}
    (known : (given.filter fun token => (ofToken? token).isNone) = none) (default : α) :
    IsGivenOr text given default ((given.bind ofToken?).getD default) := by
  cases given with
  | none => exact .inr ⟨rfl, rfl⟩
  | some token =>
      cases read : ofToken? token with
      | none => simp [read] at known
      | some a => exact .inl (by simp [read, exact_text read])

lemma AggregateFunction.text_of_ofToken? {token : String} {f : AggregateFunction}
    (h : ofToken? token = some f) : f.text = token := by
  simpa using List.find?_some h

lemma AggregateColumn.text_of_ofToken? {token : String} {c : AggregateColumn}
    (h : ofToken? token = some c) : c.text = token := by
  simpa using List.find?_some h

/-! ## The tables -/

/-- What the stored tables have to provide.  Nothing is said of a number of assets. -/
structure Sql.Schema.Stores (schema : Schema) : Prop where
  field : ∀ field : Field, field.name ∈ schema "Sales" ∨ field.name ∈ schema "blocks"
  assets : "asset_ids" ∈ schema "Sales"
  blockOfSale : "block_id" ∈ schema "Sales"
  block : "block_id" ∈ schema "blocks"
  time : "timestamp" ∈ schema "blocks"

namespace Sales

/-- The sales as they are stored. -/
def stored : Source :=
  .table "Sales" (some "s")

/-- The sales with the number of their assets. -/
def counted : Source :=
  .subquery
    [.wildcard, .renamed (.call "length" [.column { name := "asset_ids" }]) "total_asset_ids"]
    (.table "Sales" none) {} "s"

lemma withBlocks_injective {a b : Source} (h : withBlocks a = withBlocks b) : a = b := by
  injection h

lemma stored_ne_counted : stored ≠ counted := by
  nofun

end Sales

namespace Summary

/-! ## What is chosen -/

/-- The aggregated column, unless rows are counted. -/
def Choice.aggregated? (choice : Choice) : Option AggregateColumn :=
  if choice.countsRows then none else some choice.column

namespace Choice

variable {choice : Choice}

/-- The argument of the aggregate is the aggregated column. -/
lemma argument_eq_map (choice : Choice) :
    choice.argument = choice.aggregated?.map fun column => { name := column.text } := by
  unfold argument aggregated?
  split <;> rfl

/-- The aggregated column is the column of the choice. -/
lemma column_of_aggregated? {column : AggregateColumn} (h : choice.aggregated? = some column) :
    choice.column = column := by
  unfold aggregated? at h
  split at h
  · cases h
  · exact Option.some.inj h

/-- The number of assets is aggregated whenever it is the column of the choice, since `countsRows`
leaves it out. -/
lemma aggregated?_eq_totalAssetIds :
    choice.aggregated? = some .totalAssetIds ↔ choice.column = .totalAssetIds := by
  refine ⟨column_of_aggregated?, fun computed => ?_⟩
  simp [aggregated?, countsRows, computed, AggregateColumn.isComputed]

/-- Rows are counted by `count` without a column in the request, unless the default column is the
number of assets. -/
lemma aggregated?_eq_none : choice.aggregated? = none
    ↔ choice.function = .count ∧ choice.columnGiven = false ∧ choice.column ≠ .totalAssetIds := by
  have computed : choice.column.isComputed = false ↔ choice.column ≠ .totalAssetIds := by
    cases choice.column <;> decide
  simp [aggregated?, countsRows, computed, and_assoc]

end Choice

/-- A choice as `resolve` makes it: function and column are given or the default, and `saleId` is
counted only. -/
structure Choice.Made (request : Request) (settings : Settings) (choice : Choice) : Prop where
  function : IsGivenOr AggregateFunction.text (request.given? "aggregate_function")
    settings.aggregateFunction choice.function
  column : IsGivenOr AggregateColumn.text (request.given? "aggregate_column")
    settings.aggregateColumn choice.column
  columnGiven : choice.columnGiven = (request.given? "aggregate_column").isSome
  identifier : choice.column = .saleId → choice.function = .count

/-- `checkAggregatePair` lets identifiers be counted only. -/
lemma checkAggregatePair_eq_ok {f : AggregateFunction} {column : AggregateColumn}
    (h : checkAggregatePair f column = .ok ()) (identifier : column = .saleId) : f = .count := by
  subst identifier
  by_contra other
  simp [checkAggregatePair, other, AggregateColumn.isIdentifier] at h

/-- What `resolve` returns is a choice as `Choice.Made` describes it. -/
lemma made_of_resolve {request : Request} {settings : Settings} {choice : Choice}
    (resolved : resolve request settings = .ok choice) : choice.Made request settings := by
  unfold resolve at resolved
  split at resolved
  · cases resolved
  · cases resolved
  · rename_i function column
    obtain ⟨⟨⟩, pair, rfl⟩ := map_eq_ok.1 resolved
    exact {
      function := isGivenOr_getD AggregateFunction.text_of_ofToken? function _
      column := isGivenOr_getD AggregateColumn.text_of_ofToken? column _
      columnGiven := rfl
      identifier := checkAggregatePair_eq_ok pair }

/-- Rows are counted by `count` if the request has no column and the default one is stored. -/
lemma Choice.Made.aggregated?_eq_none {request : Request} {settings : Settings} {choice : Choice}
    (made : choice.Made request settings) : choice.aggregated? = none
      ↔ choice.function = .count ∧ request.given? "aggregate_column" = none
        ∧ settings.aggregateColumn ≠ .totalAssetIds := by
  rw [Choice.aggregated?_eq_none, made.columnGiven, Option.isSome_eq_false_iff,
    Option.isNone_iff_eq_none]
  refine and_congr_right fun _ => and_congr_right fun absent => ?_
  obtain given | ⟨-, default⟩ := made.column
  · rw [absent] at given
    cases given
  · rw [default]

/-! ## The source -/

/-- The number of assets is read from sales that are `counted`. -/
lemma source_of_computed {column : AggregateColumn} (h : column = .totalAssetIds) :
    source column = Sales.withBlocks Sales.counted := by
  subst h
  rfl

/-- All other columns are read from the sales as they are `stored`. -/
lemma source_of_stored {column : AggregateColumn} (h : column ≠ .totalAssetIds) :
    source column = Sales.withBlocks Sales.stored := by
  cases column with
  | totalAssetIds => exact absurd rfl h
  | saleId | listingPriceAmount | listingPriceValue => rfl

/-- The source has `counted` sales for the number of assets and for no other column. -/
lemma source_eq_counted {column : AggregateColumn} :
    source column = Sales.withBlocks Sales.counted ↔ column = .totalAssetIds := by
  refine ⟨fun same => ?_, source_of_computed⟩
  by_contra other
  exact Sales.stored_ne_counted
    (Sales.withBlocks_injective ((source_of_stored other).symm.trans same))

lemma source_eq_stored {column : AggregateColumn} :
    source column = Sales.withBlocks Sales.stored ↔ column ≠ .totalAssetIds := by
  refine ⟨fun same computed => ?_, source_of_stored⟩
  exact Sales.stored_ne_counted
    (Sales.withBlocks_injective (same.symm.trans (source_of_computed computed)))

lemma hasSubquery_source {column : AggregateColumn} :
    (source column).hasSubquery = true ↔ column = .totalAssetIds := by
  cases column <;> decide

/-! ## Columns in scope -/

section Scope

variable {schema : Schema}

lemma relations_withBlocks (sales : Source) :
    (Sales.withBlocks sales).relations schema
      = sales.relations schema ++ [{ name := "blocks", columns := schema "blocks" }] :=
  rfl

lemma relations_stored :
    Sales.stored.relations schema = [{ name := "s", columns := schema "Sales" }] :=
  rfl

lemma relations_counted : Sales.counted.relations schema
    = [{ name := "s", columns := schema "Sales" ++ ["total_asset_ids"] }] := by
  simp [Sales.counted, Source.relations, Clauses.joined, SelectItem.outputName]

/-- Both sources have a relation `s` with every stored column, and the blocks beside it. -/
lemma exists_sales (schema : Schema) (column : AggregateColumn) :
    ∃ columns, schema "Sales" ⊆ columns
      ∧ (source column).relations schema = [{ name := "s", columns },
          { name := "blocks", columns := schema "blocks" }] := by
  by_cases computed : column = .totalAssetIds
  · refine ⟨schema "Sales" ++ ["total_asset_ids"], List.subset_append_left _ _, ?_⟩
    rw [source_of_computed computed, relations_withBlocks, relations_counted]
    rfl
  · refine ⟨schema "Sales", List.Subset.refl _, ?_⟩
    rw [source_of_stored computed, relations_withBlocks, relations_stored]
    rfl

/-- A stored column of the sales is in scope, whichever source there is. -/
lemma isOf_of_sales (column : AggregateColumn) {c : Column} (named : c.table = "" ∨ c.table = "s")
    (stored : c.name ∈ schema "Sales") : c.IsOf ((source column).relations schema) := by
  obtain ⟨columns, subset, relations⟩ := exists_sales schema column
  rw [relations]
  exact ⟨_, List.mem_cons_self, named, subset stored⟩

/-- A column of the blocks is in scope, whichever source there is. -/
lemma isOf_of_blocks (column : AggregateColumn) {c : Column}
    (named : c.table = "" ∨ c.table = "blocks") (stored : c.name ∈ schema "blocks") :
    c.IsOf ((source column).relations schema) := by
  obtain ⟨columns, -, relations⟩ := exists_sales schema column
  rw [relations]
  exact ⟨_, List.mem_cons_of_mem _ List.mem_cons_self, named, stored⟩

variable (stores : schema.Stores)
include stores

lemma isOf_field (column : AggregateColumn) (field : Field) :
    Column.IsOf ((source column).relations schema) { name := field.name } := by
  rcases stores.field field with sale | block
  · exact isOf_of_sales column (.inl rfl) sale
  · exact isOf_of_blocks column (.inl rfl) block

lemma isOf_time (column : AggregateColumn) :
    Sales.blockTimestamp.IsOf ((source column).relations schema) :=
  isOf_of_blocks column (.inr rfl) stores.time

/-- The aggregated column is in scope, the number of assets because its source computes it. -/
lemma isOf_aggregated (column : AggregateColumn) :
    Column.IsOf ((source column).relations schema) { name := column.text } := by
  cases column with
  | totalAssetIds =>
      rw [source_of_computed rfl, relations_withBlocks, relations_counted]
      exact ⟨_, List.mem_cons_self, .inl rfl, List.mem_append_right _ List.mem_cons_self⟩
  | saleId => exact isOf_field stores _ .saleId
  | listingPriceAmount => exact isOf_field stores _ .listingPriceAmount
  | listingPriceValue => exact isOf_field stores _ .listingPriceValue

/-- The subquery of `counted` finds what it selects. -/
lemma scoped_counted : Sales.counted.Scoped schema := by
  refine ⟨trivial, .of_isOf rfl ?_ (fun _ member => absurd member List.not_mem_nil)⟩
  intro item member c refers
  rcases List.mem_cons.1 member with rfl | member
  · exact refers.elim
  · obtain rfl := List.mem_singleton.1 member
    obtain rfl : c = { name := "asset_ids" } := by simpa [SelectItem.Refers] using refers
    exact ⟨_, List.mem_cons_self, .inl rfl, stores.assets⟩

/-- The join of a source finds both columns of its condition. -/
lemma scoped_source (column : AggregateColumn) : (source column).Scoped schema := by
  have block : Column.IsOf ((source column).relations schema)
      { table := "blocks", name := "block_id" } := isOf_of_blocks column (.inr rfl) stores.block
  have block_of_sale : Column.IsOf ((source column).relations schema)
      { table := "s", name := "block_id" } :=
    isOf_of_sales column (.inr rfl) stores.blockOfSale
  by_cases computed : column = .totalAssetIds
  · rw [source_of_computed computed] at *
    exact ⟨scoped_counted stores, trivial, List.forall_mem_singleton.2 ⟨block, block_of_sale⟩⟩
  · rw [source_of_stored computed] at *
    exact ⟨trivial, trivial, List.forall_mem_singleton.2 ⟨block, block_of_sale⟩⟩

/-- The column of a `Formed` condition is in scope. -/
lemma isOf_condition (column : AggregateColumn) {p : Predicate} (formed : p.Formed) :
    p.column.IsOf ((source column).relations schema) := by
  cases formed with
  | @compare field _ _ _ _ => exact isOf_field stores column field
  | contains _ _ => exact isOf_field stores column .assetIds
  | window _ => exact isOf_time stores column

/-- Every column that the aggregate needs is in scope. -/
lemma isOf_expr (choice : Choice) {c : Column} (refers : choice.expr.Refers c) :
    c.IsOf ((source choice.column).relations schema) := by
  rw [Choice.expr, Expr.refers_aggregate, Choice.argument_eq_map] at refers
  obtain ⟨column, aggregated, rfl⟩ := Option.map_eq_some_iff.1 refers
  rw [Choice.column_of_aggregated? aggregated]
  exact isOf_aggregated stores column

/-- Every column that a history selects beside the aggregate is in scope. -/
lemma isOf_historyKeys (column : AggregateColumn) {item : SelectItem} (member : item ∈ historyKeys)
    {c : Column} (refers : item.Refers c) : c.IsOf ((source column).relations schema) := by
  simp only [historyKeys, List.mem_cons, List.not_mem_nil, or_false] at member
  rcases member with rfl | rfl | rfl
  · obtain rfl : c = { name := "chain" } := by simpa [SelectItem.Refers] using refers
    exact isOf_field stores column .chain
  · obtain rfl : c = { name := "listing_price_symcode" } := by
      simpa [SelectItem.Refers] using refers
    exact isOf_field stores column .listingPriceSymcode
  · obtain rfl : c = Sales.blockTimestamp := by simpa [SelectItem.Refers, day] using refers
    exact isOf_time stores column

/-- **Over tables that have what `Schema.Stores` asks for, every column of a summary is in
scope.** -/
theorem scoped_shape (mode : AggregateMode) (choice : Choice) {filter : List Predicate}
    (formed : ∀ p ∈ filter, p.Formed) (window : Option (Int × Int)) :
    (shape mode choice filter window).Scoped schema := by
  have conditions : ∀ p ∈ (shape mode choice filter window).clauses.filter,
      p.column.IsOf ((source choice.column).relations schema) := fun p member =>
    isOf_condition stores _ (formed_shape formed mode choice window p member)
  cases mode with
  | point =>
      refine ⟨scoped_source stores _, .of_isOf rfl ?_ conditions⟩
      intro item member c refers
      obtain rfl := List.mem_singleton.1 member
      exact isOf_expr stores choice refers
  | history =>
      refine ⟨scoped_source stores _, .of_isOf rfl ?_ conditions⟩
      intro item member c refers
      have parts : item ∈ historyKeys ++ [.renamed choice.expr "value"] := member
      rcases List.mem_append.1 parts with key | value
      · exact isOf_historyKeys stores _ key refers
      · obtain rfl := List.mem_singleton.1 value
        exact isOf_expr stores choice refers

end Scope

end Summary

end SaleSearch

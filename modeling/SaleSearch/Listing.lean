import SaleSearch.Filter
import SaleSearch.Rejection
import SaleSearch.Settings
import SaleSearch.Sql.Emission

/-!
# Listings

The statement that lists matching sales: one row for each asset of a sale, with the asset and the
block of the sale, sorted by the sale and cut off after a page.

* `Listing.statement` is the statement of given conditions, direction and limit.
* `Listing.compile` takes these from a request and the settings.
-/

namespace SaleSearch

open Sql

/-- How filter values are passed is a matter of the settings. -/
def Settings.passing (settings : Settings) : Passing :=
  if settings.bindValues then .bound else .inline

namespace Sales

/-- The name under which the sales stand in every statement. -/
def shortName : String := "s"

/-- When the block of a sale was produced. -/
def blockTimestamp : Column := { table := "blocks", name := "timestamp" }

/-- Sales, under their short name, with the block of each. -/
def withBlocks (sales : Source) : Source :=
  .join sales (.table "blocks" none)
    [{ left := { table := "blocks", name := "block_id" }
       right := { table := shortName, name := "block_id" } }]

end Sales

namespace Listing

/-- The columns in front of the collection, which more than one joined table has. -/
def leadingColumns : List String :=
  ["sale_id", "trx_id", "asset_ids", "listing_price_amount", "listing_price_precision",
    "listing_price_symcode", "listing_price_value"]

/-- The columns behind the collection. -/
def trailingColumns : List String :=
  ["template_id", "block_number", "timestamp", "chain"]

/-- A column without its table, under its own name. -/
def plainColumn (name : String) : SelectItem :=
  .expr (.column { name })

/-- The columns of a listing. That of the collection is taken from the sales. -/
def select : List SelectItem :=
  leadingColumns.map plainColumn
    ++ .renamed (.column { table := Sales.shortName, name := "collection_name" }) "collection_name"
    :: trailingColumns.map plainColumn

/-- One row for each asset of each sale. -/
def perAsset : Source :=
  .subquery [.wildcard] (.table "Sales" none)
    { arrayJoin := some { column := "asset_ids", name := "asset_id" } } Sales.shortName

/-- The sales by asset, with their assets and their blocks. -/
def source : Source :=
  Sales.withBlocks <|
    .join perAsset (.table "Assets" (some "a"))
      [{ left := { table := "a", name := "asset_id" }
         right := { table := Sales.shortName, name := "asset_id" } },
       { left := { table := "a", name := "collection_name" }
         right := { table := Sales.shortName, name := "collection_name" } }]

/-- The statement of given conditions, direction and limit. -/
def statement (filter : List Predicate) (direction : SortDirection) (limit : Nat) : Statement where
  select := select
  source := source
  clauses := { filter, orderBy := some { column := "sale_id", direction }, limit := some limit }

/-- The direction that a request asks for, or that of the settings. -/
def direction (request : Request) (settings : Settings) : SortDirection :=
  Grammar.sortDirection (request.get? "sort_by") settings.sortDirection

/-- The page size that a request asks for, within the bounds of the settings. -/
def limit (request : Request) (settings : Settings) : Nat :=
  Grammar.pageSize (request.get? "limit") settings.maxLimit

/-- The listing of a request. It fails if a timestamp is malformed. -/
def compile (request : Request) (settings : Settings) : Except Rejection Compiled := do
  let filter ← (Filter.assemble request .records).mapError .invalidTimestamp
  let statement := statement filter (direction request settings) (limit request settings)
  (statement.compile settings.passing).mapError .internal

end Listing

end SaleSearch

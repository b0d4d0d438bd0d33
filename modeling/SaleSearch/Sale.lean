/-!
# Sales

The attributes by which sales can be searched, and the comparisons that a request can ask for.

* `Field.name` is both the column and the parameter of an attribute.
* `Comparison.parameter` names the parameter that compares an attribute: `sale_id` for equality,
  `greater_by_block_number` for a range.
-/

namespace SaleSearch

/-- The attributes of a sale that a request can be about. -/
inductive Field where
  | collectionName
  | chain
  | saleId
  | blockNumber
  | timestamp
  | listingPriceAmount
  | listingPriceValue
  | listingPriceSymcode
  | trxId
  | assetIds
  deriving DecidableEq, Repr

namespace Field

/-- The attribute as a column of the stored tables and as a parameter. -/
def name : Field → String
  | .collectionName => "collection_name"
  | .chain => "chain"
  | .saleId => "sale_id"
  | .blockNumber => "block_number"
  | .timestamp => "timestamp"
  | .listingPriceAmount => "listing_price_amount"
  | .listingPriceValue => "listing_price_value"
  | .listingPriceSymcode => "listing_price_symcode"
  | .trxId => "trx_id"
  | .assetIds => "asset_ids"

/-- All attributes. -/
def all : List Field :=
  [.collectionName, .chain, .saleId, .blockNumber, .timestamp, .listingPriceAmount,
    .listingPriceValue, .listingPriceSymcode, .trxId, .assetIds]

/-- The attribute of a column. -/
def ofName? (name : String) : Option Field :=
  all.find? fun field => field.name = name

/-- The attributes that have an order, as a statement lists them. -/
def ranged : List Field :=
  [.blockNumber, .timestamp, .listingPriceAmount, .listingPriceValue]

/-- The attributes that can be asked for exactly, as a statement lists them. -/
def exact : List Field :=
  [.collectionName, .chain, .saleId, .blockNumber, .timestamp, .listingPriceAmount,
    .listingPriceValue, .listingPriceSymcode, .trxId]

/-- `ofName?` reads what `name` writes. -/
theorem ofName?_name (f : Field) : ofName? f.name = some f := by
  cases f <;> decide

end Field

/-- The comparisons that a request can ask for. -/
inductive Comparison where
  | equal
  | greater
  | greaterOrEqual
  | less
  | lessOrEqual
  deriving DecidableEq, Repr

namespace Comparison

/-- The operator of a comparison in a statement. -/
def symbol : Comparison → String
  | .equal => "=="
  | .greater => ">"
  | .greaterOrEqual => ">="
  | .less => "<"
  | .lessOrEqual => "<="

/-- What the parameter of a range comparison starts with. -/
def family : Comparison → Option String
  | .equal => none
  | .greater => some "greater"
  | .greaterOrEqual => some "greater_or_equals"
  | .less => some "less"
  | .lessOrEqual => some "less_or_equals"

/-- The range comparisons, as a statement lists them. -/
def ranges : List Comparison :=
  [.greaterOrEqual, .greater, .lessOrEqual, .less]

/-- The parameter that compares an attribute, as in `greater_by_block_number`. For equality it is
the name of the attribute. -/
def parameter (comparison : Comparison) (field : Field) : String :=
  match comparison.family with
  | none => field.name
  | some family => family ++ "_by_" ++ field.name

end Comparison

end SaleSearch

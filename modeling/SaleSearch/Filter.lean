import SaleSearch.Grammar.Code
import SaleSearch.Grammar.Quantity
import SaleSearch.Grammar.Timestamp
import SaleSearch.Request
import SaleSearch.Sql.Statement

/-!
# Filters

A request has twenty-six places for a filter, each with a parameter of its own. They are gone
through in one fixed order, in which also the conditions of a statement stand: the ranges by
comparison and then by attribute, containment of an asset, and equality by attribute. A place whose
parameter is absent or does not fit its grammar gives no condition; a malformed timestamp fails.

* `Slot` is a place, and `Slot.all` the order.
* `Slot.read` gives the condition of one place.
* `Filter.assemble` goes through the places that a `Scope` includes.
-/

namespace SaleSearch

open Grammar Sql

/-- What the conditions are for. A history takes its bounds in time from a range, so that conditions
on the timestamp do not apply to it. -/
inductive Scope where
  | records
  | aggregate
  | history
  deriving DecidableEq, Repr

/-- Does the scope have conditions on an attribute? -/
def Scope.includes (scope : Scope) (field : Field) : Bool :=
  !(scope = .history && field = .timestamp)

/-- A place for a condition, by what the condition does with which attribute. -/
inductive Slot where
  | compare (comparison : Comparison) (field : Field)
  | containsAsset
  deriving DecidableEq, Repr

namespace Slot

/-- The attribute that the place is about. -/
def field : Slot → Field
  | .compare _ field => field
  | .containsAsset => .assetIds

/-- The name of the parameter that fills the place. -/
def parameter : Slot → String
  | .compare comparison field => comparison.parameter field
  | .containsAsset => "asset_id_in_asset_ids"

/-- The twenty-six places in their order: ranges by comparison, then containment, then equality. -/
def all : List Slot :=
  Comparison.ranges.flatMap (fun comparison => Field.ranged.map (.compare comparison))
    ++ .containsAsset :: Field.exact.map (.compare .equal)

/-- The condition that a place states about a value. -/
def predicate (slot : Slot) (value : Value) : Predicate :=
  match slot with
  | .compare comparison field => .compare field comparison value
  | .containsAsset => .contains .assetIds value

end Slot

namespace Filter

/-- What a parameter says about an attribute, by the attribute's grammar. -/
def value? (field : Field) (raw : Option String) : Except MalformedTimestamp (Option Value) :=
  match field with
  | .collectionName => .ok ((raw.bind collectionName?).map .string)
  | .chain => .ok ((raw.bind chain?).map .string)
  | .listingPriceSymcode => .ok ((raw.bind symbolCode?).map .string)
  | .trxId => .ok ((raw.bind transactionHash?).map .string)
  | .saleId | .blockNumber | .listingPriceAmount | .assetIds =>
      .ok ((positiveInteger raw).value?.map .unsigned)
  | .listingPriceValue => .ok ((positiveDecimal raw).value?.map .float)
  | .timestamp => (timestamp raw).map fun seconds => seconds.map .signed

end Filter

/-- The condition of a place, if its parameter gives one. -/
def Slot.read (slot : Slot) (request : Request) : Except MalformedTimestamp (Option Predicate) :=
  (Filter.value? slot.field (request.get? slot.parameter)).map fun value =>
    value.map slot.predicate

namespace Filter

/-- The conditions of some places in their order, or the first failure among them. -/
def collect (request : Request) : List Slot → Except MalformedTimestamp (List Predicate)
  | [] => .ok []
  | slot :: rest =>
      match slot.read request with
      | .error e => .error e
      | .ok found => (collect request rest).map fun others => found.toList ++ others

/-- The places of a scope in their order. -/
def slots (scope : Scope) : List Slot :=
  Slot.all.filter fun slot => scope.includes slot.field

/-- The conditions of a request in a scope, or the first malformed timestamp. -/
def assemble (request : Request) (scope : Scope) : Except MalformedTimestamp (List Predicate) :=
  collect request (slots scope)

end Filter

end SaleSearch

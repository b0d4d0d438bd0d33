import SaleSearch.Grammar.Timestamp
import SaleSearch.Sql.Statement
import SaleSearch.Token

/-!
# Rejections

Why a request is not answered, with the class and the status under which that is reported.
-/

namespace SaleSearch

/-- The reasons for which a request is refused, each with the text that it is about. -/
inductive Rejection where
  | invalidCollectionName (name : String)
  | collectionNotFound (name : String)
  | invalidSymbolCode (code : String)
  | symbolCodeNotFound (code : String)
  | invalidChain (chain : String)
  | chainNotFound (chain : String)
  | invalidTimeRange (range : String)
  | invalidAggregateFunction (function : String)
  | invalidAggregateColumn (column : String)
  /-- Identifiers can only be counted. -/
  | illegalAggregate (function : AggregateFunction) (column : AggregateColumn)
  | invalidTimestamp (cause : Grammar.MalformedTimestamp)
  /-- A statement came out defective. -/
  | internal (cause : Sql.Defect)
  deriving DecidableEq, Repr

/-- The classes under which refusals are reported. -/
inductive RejectionClass where
  | badRequest
  | notFound
  | internal
  deriving DecidableEq, Repr

/-- The status of the response. -/
def RejectionClass.status : RejectionClass → Nat
  | .badRequest => 400
  | .notFound => 404
  | .internal => 500

namespace Rejection

/-- The class of a rejection. What is not known is not found, and everything else that a request can
cause is a bad request. -/
def kind : Rejection → RejectionClass
  | .collectionNotFound _ | .symbolCodeNotFound _ | .chainNotFound _ => .notFound
  | .internal _ => .internal
  | _ => .badRequest

/-- The status under which a rejection is reported. -/
def status (r : Rejection) : Nat :=
  r.kind.status

/-- The message of a rejection, with the text that it is about. -/
def message : Rejection → String
  | .invalidCollectionName name => "Invalid EOSIO name type: " ++ name
  | .collectionNotFound name => "Collection not found: " ++ name
  | .invalidSymbolCode code => "Invalid EOSIO Symbol code: " ++ code
  | .symbolCodeNotFound code => "Symbol code not found: " ++ code
  | .invalidChain chain => "Invalid chain name: " ++ chain
  | .chainNotFound chain => "Chain not found: " ++ chain
  | .invalidTimeRange range => "Invalid time range: " ++ range
  | .invalidAggregateFunction function => "Invalid aggregate function: " ++ function
  | .invalidAggregateColumn column => "Invalid aggregate column: " ++ column
  | .illegalAggregate function column =>
      "Invalid aggregate column: " ++ column.text ++ " for aggregate function: " ++ function.text
  | .invalidTimestamp cause => cause.message
  | .internal cause => "Failed to build query: " ++ cause.message

/-- The text of the failure that a rejection passes on, if it passes one on. -/
def cause? : Rejection → Option String
  | .invalidTimestamp cause => some cause.message
  | .internal cause => some cause.message
  | _ => none

end Rejection

end SaleSearch

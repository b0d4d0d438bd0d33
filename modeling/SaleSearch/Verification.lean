import SaleSearch.Catalog.Session
import SaleSearch.Settings
import SaleSearch.Summary

/-!
# Verification

Before a request is compiled it can be checked as a whole: its names against their grammars and
against what is known to exist, and its tokens against each other. The checks of a request are a
list, gone through until one fails; parameters that are empty or absent are not checked.

* `Check` is a condition that is settled already, or membership in a known set.
* `Verification.checks` lists the checks of a request.
* `Verification.decide` settles them by given sets, and `Verification.inSession` by lookups in a
  session.
-/

namespace SaleSearch

open Catalog

/-- A condition that is settled already, or a value that has to be in a known set. Each comes with
the rejection if it fails. -/
inductive Check where
  | condition (holds : Bool) (rejection : Rejection)
  | membership (kind : Kind) (value : String) (rejection : Rejection)
  deriving DecidableEq, Repr

namespace Verification

/-- The checks of a parameter, if it is given. -/
def whenGiven (raw : Option String) (checks : String → List Check) : List Check :=
  match raw with
  | none => []
  | some value => checks value

/-- The name has to be of its grammar, and then it has to be known. -/
def collectionChecks (name : String) : List Check :=
  [.condition (Grammar.collectionName? name).isSome (.invalidCollectionName name),
    .membership .collectionNames name (.collectionNotFound name)]

/-- The code has to be of its grammar, and then it has to be known. -/
def symbolCodeChecks (code : String) : List Check :=
  [.condition (Grammar.symbolCode? code).isSome (.invalidSymbolCode code),
    .membership .symbolCodes code (.symbolCodeNotFound code)]

/-- The name has to be of its grammar, and then it has to be known. -/
def chainChecks (chain : String) : List Check :=
  [.condition (Grammar.chain? chain).isSome (.invalidChain chain),
    .membership .chains chain (.chainNotFound chain)]

/-- The range has to be one that a request may name. -/
def rangeChecks (settings : Settings) (range : String) : List Check :=
  [.condition (Grammar.timeRange? (some range) settings.timeRange).isSome (.invalidTimeRange range)]

/-- The function has to exist. -/
def functionChecks (function : String) : List Check :=
  [.condition (AggregateFunction.ofToken? function).isSome (.invalidAggregateFunction function)]

/-- The column has to exist. -/
def columnChecks (column : String) : List Check :=
  [.condition (AggregateColumn.ofToken? column).isSome (.invalidAggregateColumn column)]

/-- A pair is only checked if the request asks for an aggregate; the settings complete it. -/
def pairChecks (request : Request) (settings : Settings) : List Check :=
  let function := Summary.function request settings
  let column := Summary.column request settings
  if (request.given? "aggregate_function").isSome || (request.given? "aggregate_column").isSome then
    [.condition (function = .count || !column.isIdentifier) (.illegalAggregate function column)]
  else []

/-- The checks of a request: names, range, function, column, and then function and column
together. -/
def checks (request : Request) (settings : Settings) : List Check :=
  whenGiven (request.given? "collection_name") collectionChecks
    ++ whenGiven (request.given? "listing_price_symcode") symbolCodeChecks
    ++ whenGiven (request.given? "chain") chainChecks
    ++ whenGiven (request.given? "range") (rangeChecks settings)
    ++ whenGiven (request.given? "aggregate_function") functionChecks
    ++ whenGiven (request.given? "aggregate_column") columnChecks
    ++ pairChecks request settings

/-- The first check that fails, by sets that are known. -/
def decide (sets : Kind → List String) : List Check → Except Rejection Unit
  | [] => .ok ()
  | .condition holds rejection :: rest => if holds then decide sets rest else .error rejection
  | .membership kind value rejection :: rest =>
      if value ∈ sets kind then decide sets rest else .error rejection

/-- The first check that fails, by lookups that are made only when their turn comes. There is no
verdict if a lookup has to wait. -/
def inSession (session : Session) :
    List Check → Option (Except Rejection Unit) × Session × List Occurrence
  | [] => (some (.ok ()), session, [])
  | .condition holds rejection :: rest =>
      if holds then inSession session rest else (some (.error rejection), session, [])
  | .membership kind value rejection :: rest =>
      match session.ask kind (.member value) with
      | (none, session, seen) => (none, session, seen)
      | (some set, session, seen) =>
          if value ∈ set then
            let (verdict, session, more) := inSession session rest
            (verdict, session, seen ++ more)
          else (some (.error rejection), session, seen)

end Verification

end SaleSearch

import SaleSearch.Json.Value
import SaleSearch.Sql.Statement

/-!
# Emission

A statement is written out in one pass from left to right. The values that are sent beside it are
collected on the way, and each takes the next free number.

* `Emission.value`, `Emission.predicate`, `Emission.source` and `Emission.statement` write the parts
  of a statement.
* A statement that selects nothing and a join without a condition end the pass. An outer defect is
  found before an inner one, and a left one before a right one.
* `Statement.compile` gives what is sent to the store: the text, the values that go beside it, and a
  description of the result.
-/

namespace SaleSearch.Sql

/-- How filter values reach the store. -/
inductive Passing where
  | inline
  | bound
  deriving DecidableEq, Repr

/-- A pass over a part of a statement, which carries the bindings made so far. -/
abbrev Emission := StateT (List Binding) (Except Defect)

namespace Emission

/-- What is written for a value: the value itself, or the placeholder of a new binding. -/
def value (passing : Passing) (v : Value) : Emission String :=
  match passing with
  | .inline => return v.literal
  | .bound => do
      let binding : Binding := { index := (← get).length, value := v }
      modify fun bindings => bindings ++ [binding]
      return binding.placeholder

/-- A condition, in which values are written from left to right. -/
def predicate (passing : Passing) : Predicate → Emission String
  | .compare field comparison v => do
      let v ← value passing v
      return operand field ++ " " ++ comparison.symbol ++ " " ++ v
  | .contains field v => do
      let v ← value passing v
      return "has(" ++ field.name ++ ", " ++ v ++ ")"
  | .window column low high => do
      let low ← value passing low
      let high ← value passing high
      return inSeconds column.qualified ++ " BETWEEN " ++ low ++ " AND " ++ high

/-- The clause of all conditions, with a blank in front, or nothing if there are none. -/
def filter (passing : Passing) (predicates : List Predicate) : Emission String :=
  if predicates = [] then return ""
  else do
    let parts ← predicates.mapM (predicate passing)
    return " WHERE (" ++ " AND ".intercalate parts ++ ")"

/-- A statement around its source. An empty select list is found before the defects of the
source. -/
def select (passing : Passing) (items : List SelectItem) (source : Emission String)
    (clauses : Clauses) : Emission String :=
  if items.isEmpty then throw .emptySelect
  else do
    let source ← source
    let filter ← filter passing clauses.filter
    return "SELECT " ++ selectText items ++ " FROM " ++ source ++ clauses.arrayJoinText ++ filter
      ++ clauses.groupByText ++ clauses.orderByText ++ clauses.limitText

/-- A source. A join without a condition is found before the defects of its two sides. -/
def source (passing : Passing) : Source → Emission String
  | .table name none => return name
  | .table name (some rename) => return name ++ " AS " ++ rename
  | .subquery items inner clauses name => do
      let inner ← select passing items (source passing inner) clauses
      return "(" ++ inner ++ ") AS " ++ name
  | .join left right on =>
      if on.isEmpty then throw .emptyJoinCondition
      else do
        let left ← source passing left
        let right ← source passing right
        return left ++ " JOIN " ++ right ++ joinText on

/-- A whole statement. -/
def statement (passing : Passing) (s : Statement) : Emission String :=
  select passing s.select (source passing s.source) s.clauses

end Emission

/-! ## Compiled statements -/

/-- What is sent to the store, and what is known of the result. -/
structure Compiled where
  sql : String
  /-- The values beside the text in the order of their placeholders; none if values are inline. -/
  bindings : List Binding
  columns : List String
  usesSubquery : Bool
  deriving DecidableEq, Repr

/-- Write a statement out, and describe its result. -/
def Statement.compile (s : Statement) (passing : Passing) : Except Defect Compiled :=
  (Emission.statement passing s []).map fun written =>
    { sql := written.1
      bindings := written.2
      columns := s.outputNames
      usesSubquery := s.hasSubquery }

/-! ### As JSON -/

/-- A value as JSON. -/
def Value.toJson : Value → Json
  | .unsigned n => .integer n
  | .signed n => .integer n
  | .float x => .float x
  | .string s => .string s

/-- A binding as JSON, with its name, type and value. -/
def Binding.toJson (b : Binding) : Json :=
  .object [
    ("name", .string b.name),
    ("type", .string b.value.typeName),
    ("value", b.value.toJson)]

/-- A compiled statement as JSON. -/
def Compiled.toJson (c : Compiled) : Json :=
  .object [
    ("sql", .string c.sql),
    ("params", .array (c.bindings.map Binding.toJson)),
    ("columns", .array (c.columns.map .string)),
    ("uses_subquery", .bool c.usesSubquery)]

end SaleSearch.Sql

import SaleSearch.Sale
import SaleSearch.Sql.Expr
import SaleSearch.Sql.Value
import SaleSearch.Token

/-!
# Statements

A SELECT statement as a tree. Statements nest only through their sources, so a source holds the
parts of a nested statement and every recursion runs over sources.

* `Defect` is why a statement cannot be written out: it selects nothing, or a join has no condition.
* `Statement.outputNames` and `Statement.hasSubquery` describe the result.
-/

namespace SaleSearch.Sql

/-- A condition on rows. -/
inductive Predicate where
  | compare (field : Field) (comparison : Comparison) (value : Value)
  | contains (field : Field) (value : Value)
  | window (column : Column) (low high : Value)
  deriving DecidableEq, Repr

/-- Times are stored as dates and compared as seconds. -/
def inSeconds (column : String) : String :=
  "toUnixTimestamp(" ++ column ++ ")"

/-- An attribute as a condition compares it. -/
def operand (field : Field) : String :=
  if field = .timestamp then inSeconds field.name else field.name

/-- Two columns that a join makes equal. -/
structure JoinCondition where
  left : Column
  right : Column
  deriving DecidableEq, Repr

/-- The condition as it is written. -/
def JoinCondition.text (c : JoinCondition) : String :=
  c.left.qualified ++ " = " ++ c.right.qualified

/-- One row for each element of an array column. -/
structure ArrayJoin where
  column : String
  name : String
  deriving DecidableEq, Repr

/-- The column by which the rows are sorted, and the direction. -/
structure OrderBy where
  column : String
  direction : SortDirection
  deriving DecidableEq, Repr

/-- What may follow the source of a statement. -/
structure Clauses where
  arrayJoin : Option ArrayJoin := none
  /-- The conditions that all have to hold. -/
  filter : List Predicate := []
  groupBy : List String := []
  orderBy : Option OrderBy := none
  limit : Option Nat := none
  deriving DecidableEq, Repr

/-- Where rows come from. A subquery is a nested statement, given by its parts. -/
inductive Source where
  | table (name : String) (rename : Option String)
  | subquery (select : List SelectItem) (source : Source) (clauses : Clauses) (name : String)
  | join (left right : Source) (on : List JoinCondition)

/-- A SELECT statement. -/
structure Statement where
  select : List SelectItem
  source : Source
  clauses : Clauses := {}

/-- Why a statement cannot be written out. -/
inductive Defect where
  | emptySelect
  | emptyJoinCondition
  deriving DecidableEq, Repr

/-- The message of the rejection that a defect becomes. -/
def Defect.message : Defect → String
  | .emptySelect => "Statement has an empty select list"
  | .emptyJoinCondition => "Join has no ON condition"

/-! ## The text of the parts that hold no value -/

namespace Clauses

/-- The clause that multiplies rows, with a blank in front, or nothing. -/
def arrayJoinText (c : Clauses) : String :=
  match c.arrayJoin with
  | none => ""
  | some join => " ARRAY JOIN " ++ join.column ++ " AS " ++ join.name

/-- The clause that groups rows, with a blank in front, or nothing. -/
def groupByText (c : Clauses) : String :=
  if c.groupBy = [] then "" else " GROUP BY " ++ ", ".intercalate c.groupBy

/-- The clause that sorts rows, with a blank in front, or nothing. -/
def orderByText (c : Clauses) : String :=
  match c.orderBy with
  | none => ""
  | some order => " ORDER BY " ++ order.column ++ " " ++ order.direction.text

/-- The clause that cuts off after a page, with a blank in front, or nothing. -/
def limitText (c : Clauses) : String :=
  match c.limit with
  | none => ""
  | some n => " LIMIT " ++ n.repr

end Clauses

/-- A select list as it is written. -/
def selectText (select : List SelectItem) : String :=
  ", ".intercalate (select.map SelectItem.text)

/-- The conditions of a join as they are written, with a blank in front. -/
def joinText (on : List JoinCondition) : String :=
  " ON " ++ " AND ".intercalate (on.map JoinCondition.text)

/-! ## What a statement returns -/

/-- Is a subquery among the sources that are joined? Those inside a subquery do not matter any
more. -/
def Source.hasSubquery : Source → Bool
  | .table .. => false
  | .subquery .. => true
  | .join left right _ => left.hasSubquery || right.hasSubquery

namespace Statement

/-- Does the statement read from a subquery? -/
def hasSubquery (s : Statement) : Bool :=
  s.source.hasSubquery

/-- The names of the columns that the statement returns. -/
def outputNames (s : Statement) : List String :=
  s.select.map SelectItem.outputName

end Statement

end SaleSearch.Sql

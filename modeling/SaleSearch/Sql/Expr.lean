/-!
# Expressions

Columns, function calls and aggregates, which make up select lists. An expression has a text, and an
output name under which its column is returned; the two differ in that the name leaves out the table
of a column, also inside the arguments of a call, but not inside an aggregate.
-/

namespace SaleSearch.Sql

/-- A column, of a named table or of none in particular. -/
structure Column where
  table : String := ""
  name : String
  deriving DecidableEq, Repr

/-- A column as it is written, with its table in front if it has one. -/
def Column.qualified (c : Column) : String :=
  if c.table = "" then c.name else c.table ++ "." ++ c.name

/-- An expression of a select list. The argument of an aggregate may be missing, as in `count()`. -/
inductive Expr where
  | column (c : Column)
  | call (function : String) (arguments : List Expr)
  | aggregate (function : String) (argument : Option Column)

/-- A function applied to a list of texts. -/
def application (function : String) (arguments : List String) : String :=
  function ++ "(" ++ ", ".intercalate arguments ++ ")"

namespace Expr

mutual

/-- The expression as it is written. -/
def text : Expr → String
  | .column c => c.qualified
  | .call function arguments => application function (texts arguments)
  | .aggregate function argument => application function (argument.toList.map Column.qualified)

def texts : List Expr → List String
  | [] => []
  | e :: rest => e.text :: texts rest

end

mutual

/-- The name under which the column of an expression is returned. It leaves out the table of a
column at any depth of calls, but not inside an aggregate. -/
def outputName : Expr → String
  | .column c => c.name
  | .call function arguments => application function (outputNames arguments)
  | .aggregate function argument => application function (argument.toList.map Column.qualified)

def outputNames : List Expr → List String
  | [] => []
  | e :: rest => e.outputName :: outputNames rest

end

end Expr

/-- An entry of a select list. -/
inductive SelectItem where
  | wildcard
  | expr (e : Expr)
  | renamed (e : Expr) (name : String)

namespace SelectItem

/-- The entry as it is written. -/
def text : SelectItem → String
  | .wildcard => "*"
  | .expr e => e.text
  | .renamed e name => e.text ++ " AS " ++ name

/-- The name under which the column of an entry is returned. -/
def outputName : SelectItem → String
  | .wildcard => "*"
  | .expr e => e.outputName
  | .renamed _ name => name

end SelectItem

end SaleSearch.Sql

import Mathlib.Tactic.Common
import SaleSearch.Sql.Statement

/-!
# Columns in scope

Which columns a source provides, and that a statement refers to no others.  The columns of the
stored tables are not written down in a statement, so they are left open as a schema; what a nested
statement provides follows from what it selects.

* `Source.relations` are the relations that a source puts side by side.
* `Column.IsOf` says that one of them has a column, and `Expr.Refers` which columns an expression
  needs.
* `Statement.Scoped` is said of a statement that finds all its columns, with every nested statement
  and every join in its source.
-/

namespace SaleSearch.Sql

/-- The columns of each stored table. -/
abbrev Schema := String → List String

/-- A relation as the rest of a statement sees it: a name and columns. -/
structure Relation where
  name : String
  columns : List String

/-- The relation of an `ARRAY JOIN`: one column, which belongs to no table. -/
def Clauses.joined (c : Clauses) : List Relation :=
  c.arrayJoin.toList.map fun join => { name := "", columns := [join.name] }

/-- The relations that a source puts side by side.  A subquery is one relation under its own name,
with the columns it selects, and a wildcard selects all columns of what it reads. -/
def Source.relations (schema : Schema) : Source → List Relation
  | .table name rename => [{ name := rename.getD name, columns := schema name }]
  | .subquery items source clauses name =>
      let columns : SelectItem → List String
        | .wildcard => (source.relations schema ++ clauses.joined).flatMap Relation.columns
        | item => [item.outputName]
      [{ name, columns := items.flatMap columns }]
  | .join left right _ => left.relations schema ++ right.relations schema

/-- One of the relations has the column.  A column written without a table may be of any of them. -/
def Column.IsOf (relations : List Relation) (c : Column) : Prop :=
  ∃ r ∈ relations, (c.table = "" ∨ c.table = r.name) ∧ c.name ∈ r.columns

lemma Column.IsOf.append_left {relations : List Relation} {c : Column} (h : c.IsOf relations)
    (others : List Relation) : c.IsOf (relations ++ others) := by
  obtain ⟨r, member, has⟩ := h
  exact ⟨r, List.mem_append_left _ member, has⟩

/-- An expression needs a column: it is the column, or a call one of whose arguments needs it, or an
aggregate of it. -/
inductive Expr.Refers (c : Column) : Expr → Prop
  | column : Refers c (.column c)
  | call {function : String} {arguments : List Expr} {e : Expr} (member : e ∈ arguments)
      (refers : Refers c e) : Refers c (.call function arguments)
  | aggregate (function : String) : Refers c (.aggregate function (some c))

/-- An entry of a select list needs the columns of its expression. -/
def SelectItem.Refers (c : Column) : SelectItem → Prop
  | .wildcard => False
  | .expr e | .renamed e _ => e.Refers c

/-- The column that a condition compares. -/
def Predicate.column : Predicate → Column
  | .compare field _ _ | .contains field _ => { name := field.name }
  | .window column _ _ => column

/-- The relations have every column that the `ARRAY JOIN`, the select list and the conditions of a
query need. -/
structure Provided (relations : List Relation) (items : List SelectItem) (clauses : Clauses) :
    Prop where
  arrayJoin : ∀ join ∈ clauses.arrayJoin, Column.IsOf relations { name := join.column }
  selected : ∀ item ∈ items, ∀ c, item.Refers c → c.IsOf (relations ++ clauses.joined)
  filter : ∀ p ∈ clauses.filter, p.column.IsOf (relations ++ clauses.joined)

/-- Every subquery of the source finds its columns in what it reads, and every join finds both
columns of each of its conditions on its two sides. -/
def Source.Scoped (schema : Schema) : Source → Prop
  | .table .. => True
  | .subquery items source clauses _ =>
      source.Scoped schema ∧ Provided (source.relations schema) items clauses
  | .join left right on =>
      left.Scoped schema ∧ right.Scoped schema ∧ ∀ condition ∈ on,
        condition.left.IsOf (left.relations schema ++ right.relations schema)
          ∧ condition.right.IsOf (left.relations schema ++ right.relations schema)

/-- The statement finds all its columns in its source, whose nested statements do the same. -/
def Statement.Scoped (schema : Schema) (s : Statement) : Prop :=
  s.source.Scoped schema ∧ Provided (s.source.relations schema) s.select s.clauses

/-- Without an `ARRAY JOIN` the relations of the source are all there are. -/
lemma Provided.of_isOf {relations : List Relation} {items : List SelectItem} {clauses : Clauses}
    (no_arrayJoin : clauses.arrayJoin = none)
    (selected : ∀ item ∈ items, ∀ c, item.Refers c → c.IsOf relations)
    (filter : ∀ p ∈ clauses.filter, p.column.IsOf relations) :
    Provided relations items clauses where
  arrayJoin join member := by simp [no_arrayJoin] at member
  selected item member c refers := (selected item member c refers).append_left _
  filter p member := (filter p member).append_left _

/-- The names by which a statement groups and sorts. -/
def Clauses.keys (c : Clauses) : List String :=
  c.groupBy ++ c.orderBy.toList.map OrderBy.column

namespace Expr

variable {c : Column}

@[simp] lemma refers_column {d : Column} : Refers c (.column d) ↔ c = d :=
  ⟨fun h => by cases h; rfl, fun h => h ▸ .column⟩

@[simp] lemma refers_call {function : String} {arguments : List Expr} :
    Refers c (.call function arguments) ↔ ∃ e ∈ arguments, e.Refers c :=
  ⟨fun h => by cases h with | call member refers => exact ⟨_, member, refers⟩,
    fun ⟨_, member, refers⟩ => .call member refers⟩

@[simp] lemma refers_aggregate {function : String} {argument : Option Column} :
    Refers c (.aggregate function argument) ↔ argument = some c :=
  ⟨fun h => by cases h; rfl, fun h => h ▸ .aggregate function⟩

end Expr

end SaleSearch.Sql

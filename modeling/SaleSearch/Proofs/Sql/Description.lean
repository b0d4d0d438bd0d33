import Mathlib.Data.List.Forall2
import SaleSearch.Proofs.Sql.Nesting

/-!
# Descriptions of statements

Beside its text, a compiled statement has a description: the names of the columns that come back,
and whether there is a subquery.  Each of the two is found by a recursion of its own, over the
select list and over the source, and here both are compared with what is written.

* `Expr.mapPlain` puts other columns in the place of the plain ones of an expression.
  `Expr.outputName_eq_text` says that an output name is the text of the expression without the
  tables of its plain columns.
* `Source.Joins` is said of a source and of what it is joined from, at any depth.
  `Source.hasSubquery_iff_joins` finds a subquery there, and `Source.hasSubquery_iff_selects` among
  the SELECTs that are written.
* `Statement.Described` puts it together, and `Statement.described` is the result.
-/

namespace SaleSearch.Sql

/-! ## Names of columns -/

/-- The column without its table. -/
def Column.bare (c : Column) : Column :=
  { c with table := "" }

lemma Column.qualified_bare (c : Column) : c.bare.qualified = c.name :=
  if_pos rfl

namespace Expr

mutual

/-- Other columns in the place of the plain ones, at any depth of calls.  The column of an aggregate
is left alone. -/
def mapPlain (f : Column → Column) : Expr → Expr
  | .column c => .column (f c)
  | .call function arguments => .call function (mapPlains f arguments)
  | .aggregate function argument => .aggregate function argument

/-- `mapPlain` for a list of arguments. -/
def mapPlains (f : Column → Column) : List Expr → List Expr
  | [] => []
  | e :: rest => e.mapPlain f :: mapPlains f rest

end

mutual

/-- The output name of an expression is its text with the tables of the plain columns left out. -/
theorem outputName_eq_text : ∀ e : Expr, e.outputName = (e.mapPlain Column.bare).text
  | .column c => c.qualified_bare.symm
  | .call function arguments => by
      rw [outputName, mapPlain, text, outputNames_eq_texts arguments]
  | .aggregate _ _ => rfl

/-- `outputName_eq_text` for a list of arguments. -/
theorem outputNames_eq_texts : ∀ es : List Expr, outputNames es = texts (mapPlains Column.bare es)
  | [] => rfl
  | e :: rest => by
      rw [outputNames, mapPlains, texts, outputName_eq_text e, outputNames_eq_texts rest]

end

end Expr

/-- The name under which an entry of a select list comes back. -/
inductive SelectItem.Names : SelectItem → String → Prop
  | wildcard : Names .wildcard "*"
  | renamed (e : Expr) (name : String) : Names (.renamed e name) name
  | expr (e : Expr) : Names (.expr e) (e.mapPlain Column.bare).text

/-- `SelectItem.outputName` is the name in the sense of `Names`. -/
lemma SelectItem.names_outputName (item : SelectItem) : item.Names item.outputName := by
  cases item with
  | wildcard => exact .wildcard
  | expr e =>
      rw [outputName, e.outputName_eq_text]
      exact .expr e
  | renamed e name => exact .renamed e name

/-! ## Subqueries -/

namespace Source

/-- A source is joined from another one: it is that source, or a join one of whose sides is joined
from it. -/
inductive Joins : Source → Source → Prop
  | self (source : Source) : Joins source source
  | left {left part : Source} (joins : Joins left part) (right : Source) (on : List JoinCondition) :
      Joins (.join left right on) part
  | right {right part : Source} (left : Source) (joins : Joins right part)
      (on : List JoinCondition) : Joins (.join left right on) part

/-- The source is a subquery itself. -/
def IsSubquery : Source → Prop
  | .subquery .. => True
  | _ => False

/-- `Source.hasSubquery` finds a subquery through any number of joins. -/
lemma hasSubquery_iff_joins (source : Source) :
    source.hasSubquery = true ↔ ∃ part, source.Joins part ∧ part.IsSubquery := by
  induction source with
  | table name rename =>
      refine iff_of_false nofun ?_
      rintro ⟨_, ⟨⟩, subquery⟩
      exact subquery
  | subquery items inner clauses name _ => exact iff_of_true rfl ⟨_, .self _, trivial⟩
  | join left right on ihLeft ihRight =>
      rw [hasSubquery, Bool.or_eq_true, ihLeft, ihRight]
      constructor
      · rintro (⟨part, joins, subquery⟩ | ⟨part, joins, subquery⟩)
        · exact ⟨part, .left joins right on, subquery⟩
        · exact ⟨part, .right left joins on, subquery⟩
      · rintro ⟨_, ⟨⟩ | ⟨joins⟩ | ⟨_, joins⟩, subquery⟩
        · exact subquery.elim
        · exact .inl ⟨_, joins, subquery⟩
        · exact .inr ⟨_, joins, subquery⟩

/-- `Source.hasSubquery` is true exactly if the source has a `SELECT` of its own. -/
lemma hasSubquery_iff_selects (source : Source) :
    source.hasSubquery = true ↔ 0 < source.selects := by
  induction source with
  | table name rename => exact iff_of_false nofun (Nat.lt_irrefl 0)
  | subquery items inner clauses name _ => exact iff_of_true rfl (Nat.succ_pos _)
  | join left right on ihLeft ihRight =>
      rw [hasSubquery, Bool.or_eq_true, ihLeft, ihRight, selects, Nat.add_pos_iff_pos_or_pos]

end Source

/-! ## The result -/

namespace Statement

/-- What the columns and the subquery flag of a compiled statement say of the statement and of its
text. -/
structure Described (s : Statement) (passing : Passing) (c : Compiled) : Prop where
  columns : List.Forall₂ SelectItem.Names s.select c.columns
  joined : c.usesSubquery = true ↔ ∃ part, s.source.Joins part ∧ part.IsSubquery
  /-- The recording pass is the one that writes the statement. -/
  plain : (Recording.statement passing s).Erases (Emission.statement passing s)
  /-- It has these SELECTs on its record, the whole one last. -/
  selects : ∃ nested,
    ((Recording.statement passing s).run []).run [] = .ok ((c.sql, nested ++ [c.sql]), c.bindings)
      ∧ (∀ part ∈ nested ++ [c.sql], SelectIn c.sql part)
      ∧ (c.usesSubquery = true ↔ 1 < (nested ++ [c.sql]).length)

/-- **A compiled statement names its columns as they are written, without the tables of plain
ones.**  It has the subquery flag exactly if its source is joined from a subquery, and exactly if
more than one `SELECT` is on the record of the pass that writes it. -/
theorem described {s : Statement} {passing : Passing} {c : Compiled}
    (compiled : s.compile passing = .ok c) : s.Described passing c := by
  obtain ⟨nested, recorded, length, stand⟩ := Recording.recorded_statement compiled
  obtain ⟨_, -, rfl⟩ := map_eq_ok.1 compiled
  refine ⟨?_, s.source.hasSubquery_iff_joins, Recording.erases_statement passing s, nested,
    recorded, stand, ?_⟩
  · exact List.forall₂_map_right_iff.2 (List.forall₂_same.2 fun item _ => item.names_outputName)
  · rw [List.length_append, length, List.length_singleton, Nat.lt_add_left_iff_pos]
    exact s.source.hasSubquery_iff_selects

/-- A subquery within another one, on the right of a join that is itself on the left of one, and an
expression in which plain columns stand beside an aggregate. -/
def nestedSales : Statement where
  select :=
    [.wildcard,
      .expr (.call "if"
        [.call "empty" [.column { table := "s", name := "asset_ids" }],
          .aggregate "max" (some { table := "s", name := "sale_id" }),
          .column { table := "a", name := "asset_id" }]),
      .renamed (.column { table := "blocks", name := "timestamp" }) "time"]
  source :=
    .join
      (.join (.table "blocks" none)
        (.subquery [.wildcard] (.subquery [.wildcard] (.table "Sales" none) {} "sales")
          { filter := [.compare .chain .equal (.string "eos")] } "s")
        [{ left := { table := "blocks", name := "block_id" }
           right := { table := "s", name := "block_id" } }])
      (.table "Assets" (some "a"))
      [{ left := { table := "a", name := "asset_id" }
         right := { table := "s", name := "asset_id" } }]

/-- What `nestedSales` compiles to when values are bound. -/
def nestedSalesCompiled : Compiled where
  sql := "SELECT *, if(empty(s.asset_ids), max(s.sale_id), a.asset_id), blocks.timestamp AS time"
    ++ " FROM blocks JOIN (SELECT * FROM (SELECT * FROM Sales) AS sales"
    ++ " WHERE (chain == \x7bp0:String\x7d)) AS s ON blocks.block_id = s.block_id"
    ++ " JOIN Assets AS a ON a.asset_id = s.asset_id"
  bindings := [{ index := 0, value := .string "eos" }]
  columns := ["*", "if(empty(asset_ids), max(s.sale_id), asset_id)", "time"]
  usesSubquery := true

/-- `nestedSales` has two subqueries, an argument of a call that is a plain column with a table, and
an aggregate that keeps its table. -/
theorem described_nestedSales : nestedSales.compile .bound = .ok nestedSalesCompiled
    ∧ nestedSales.Described .bound nestedSalesCompiled := by
  have compiled : nestedSales.compile .bound = .ok nestedSalesCompiled := by decide +kernel
  exact ⟨compiled, described compiled⟩

end Statement

end SaleSearch.Sql

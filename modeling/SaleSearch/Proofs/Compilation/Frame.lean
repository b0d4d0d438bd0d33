import SaleSearch.Proofs.Outcome
import SaleSearch.Proofs.Sql.Passing
import SaleSearch.Summary

/-!
# Frames

In listings and summaries only the outermost conditions hold values; all that stands around them is
a frame.  This file says what a successful compilation comes to: conditions, and a frame that does
not depend on them.

* `Statement.framed` is a statement as a frame, and `compile_eq_compiled` says when a statement
  compiles to it.
* `Listing.compile_eq_ok` and `Summary.compile_eq_ok` name the parts of a compilation.
* `Summary.front_shape` takes the front of a summary apart.
-/

namespace SaleSearch

open Sql Segment

namespace Sql

/-- The text of a source that holds no values. -/
def Source.text (source : Source) : String :=
  match source.segments with
  | .ok segments => fill .inline 0 segments
  | .error _ => ""

namespace Statement

/-- `SELECT`, the select list and the source: what stands in front of the clauses. -/
def front (s : Statement) : String :=
  "SELECT " ++ (selectText s.select ++ (" FROM " ++ s.source.text))

/-- The segments of a statement whose source holds no values. -/
def framed (s : Statement) : List Segment :=
  .fixed s.front :: s.clauses.segments

/-- What a statement whose source holds no values compiles to. -/
def compiled (s : Statement) (passing : Passing) : Compiled where
  sql := fill passing 0 s.framed
  bindings := bindings passing 0 s.framed
  columns := s.outputNames
  usesSubquery := s.hasSubquery

end Statement

/-- Segments without slots give the same text for every passing and every next number. -/
lemma fill_of_no_slots {segments : List Segment} (h : slots segments = []) (passing : Passing)
    (next : Nat) : fill passing next segments = fill .inline 0 segments := by
  induction segments generalizing next with
  | nil => rfl
  | cons s rest ih =>
      cases s with
      | fixed text => rw [fill, fill, ih h]
      | slot v => cases h

/-- A statement that selects something from a source without values and defects compiles to
`compiled`. -/
theorem Statement.compile_eq_compiled {s : Statement} {inner : List Segment}
    (selects : s.select ≠ []) (source : s.source.segments = .ok inner)
    (no_values : s.source.values = []) (passing : Passing) :
    s.compile passing = .ok (s.compiled passing) := by
  have no_slots : slots inner = [] := by rw [Source.slots_segments source, no_values]
  have segments : s.segments = .ok
      (.fixed ("SELECT " ++ selectText s.select ++ " FROM ") :: inner ++ s.clauses.segments) := by
    rw [Statement.segments, selectSegments, if_neg (by simpa using selects), source]
    rfl
  have front : s.front = "SELECT " ++ selectText s.select ++ " FROM " ++ fill .inline 0 inner := by
    rw [front, Source.text, source]
    simp only [String.append_assoc]
  have sql : fill passing 0
      (.fixed ("SELECT " ++ selectText s.select ++ " FROM ") :: inner ++ s.clauses.segments)
        = fill passing 0 s.framed := by
    rw [framed, front, List.cons_append, fill, fill, fill_append_slots, no_slots,
      fill_of_no_slots no_slots]
    simp only [String.append_assoc, List.length_nil, Nat.zero_add]
  have same_slots : slots
      (.fixed ("SELECT " ++ selectText s.select ++ " FROM ") :: inner ++ s.clauses.segments)
        = slots s.framed := by
    rw [framed, List.cons_append, slots, slots, slots_append, no_slots, List.nil_append]
  rw [compile_eq, segments, Except.map, sql, compiled]
  simp only [bindings, same_slots]

/-- The text of such a statement: `front`, the `ARRAY JOIN`, the conditions and `tailText`. -/
lemma Statement.sql_compiled (s : Statement) (passing : Passing) :
    (s.compiled passing).sql
      = s.front ++ (s.clauses.arrayJoinText
        ++ (fill passing 0 (filterSegments s.clauses.filter) ++ s.clauses.tailText)) := by
  have last (next : Nat) (text : String) : fill passing next [.fixed text] = text := by
    rw [fill, fill, String.append_empty]
  rw [compiled, framed, Clauses.segments, List.cons_append, fill, fill, fill_append_slots, last]

end Sql

lemma passing_of_inline {settings : Settings} (h : settings.bindValues = false) :
    settings.passing = .inline := by
  rw [Settings.passing, h]
  rfl

lemma passing_of_bound {settings : Settings} (h : settings.bindValues = true) :
    settings.passing = .bound := by
  rw [Settings.passing, h]
  rfl

/-! ## Listings -/

namespace Listing

/-- What every listing begins with. -/
def head : String :=
  "SELECT " ++ (selectText select ++ (" FROM " ++ source.text))

lemma front_statement (filter : List Predicate) (direction : SortDirection) (limit : Nat) :
    (statement filter direction limit).front = head :=
  rfl

lemma compile_statement (filter : List Predicate) (direction : SortDirection) (limit : Nat)
    (passing : Passing) : (statement filter direction limit).compile passing
      = .ok ((statement filter direction limit).compiled passing) :=
  Statement.compile_eq_compiled (List.cons_ne_nil _ _) rfl rfl passing

lemma tailText_statement (filter : List Predicate) (direction : SortDirection) (limit : Nat) :
    (statement filter direction limit).clauses.tailText
      = " ORDER BY sale_id " ++ (direction.text ++ (" LIMIT " ++ limit.repr)) := by
  simp [Clauses.tailText, Clauses.groupByText, Clauses.orderByText, Clauses.limitText, statement,
    String.append_assoc]

/-- The text of a listing: `head`, the conditions, and then direction and limit. -/
lemma sql_statement (filter : List Predicate) (direction : SortDirection) (limit : Nat)
    (passing : Passing) : ((statement filter direction limit).compiled passing).sql
      = head ++ (fill passing 0 (filterSegments filter)
        ++ (" ORDER BY sale_id " ++ (direction.text ++ (" LIMIT " ++ limit.repr)))) := by
  have arrayJoin : (statement filter direction limit).clauses.arrayJoinText = "" := rfl
  rw [Statement.sql_compiled, front_statement, tailText_statement, arrayJoin, String.empty_append]
  rfl

/-- A listing compiles to what its statement compiles to, and it fails only where `Filter.assemble`
does. -/
theorem compile_eq_ok {request : Request} {settings : Settings} {c : Compiled} :
    compile request settings = .ok c ↔ ∃ filter, Filter.assemble request .records = .ok filter
      ∧ (statement filter (direction request settings) (limit request settings)).compiled
          settings.passing = c := by
  simp only [compile, bind_eq_ok, mapError_eq_ok, compile_statement, Except.ok.injEq]

end Listing

/-! ## Summaries -/

namespace Summary

/-- The places that a mode asks. -/
def scope : AggregateMode → Scope
  | .point => .aggregate
  | .history => .history

/-- The ends of the time that a summary covers, which only a history has. -/
def ends (request : Request) (mode : AggregateMode) (settings : Settings) (now : Int) :
    Except Rejection (Option (Int × Int)) :=
  match mode with
  | .point => .ok none
  | .history => (range request settings).map fun range => Window.window? range now

/-- The statement of a mode. -/
def shape (mode : AggregateMode) (choice : Choice) (filter : List Predicate)
    (window : Option (Int × Int)) : Statement :=
  match mode with
  | .point => point choice filter
  | .history => history choice filter window

/-- A summary has a statement exactly if its aggregate, its conditions and, for a history, its
window are found. -/
lemma statement_eq_ok {request : Request} {mode : AggregateMode} {settings : Settings} {now : Int}
    {s : Statement} :
    statement request mode settings now = .ok s ↔ ∃ choice filter window,
      resolve request settings = .ok choice
        ∧ Filter.assemble request (scope mode) = .ok filter
        ∧ ends request mode settings now = .ok window ∧ shape mode choice filter window = s := by
  simp only [statement, bind_eq_ok]
  refine exists_congr fun choice => ?_
  cases mode with
  | point =>
      simp only [bind_eq_ok, mapError_eq_ok, pure_eq_ok, ends, shape, scope]
      constructor
      · rintro ⟨resolved, filter, assembled, rfl⟩
        exact ⟨filter, none, resolved, assembled, rfl, rfl⟩
      · rintro ⟨filter, window, resolved, assembled, -, rfl⟩
        exact ⟨resolved, filter, assembled, rfl⟩
  | history =>
      simp only [bind_eq_ok, mapError_eq_ok, pure_eq_ok, map_eq_ok, ends, shape, scope]
      constructor
      · rintro ⟨resolved, range, ranged, filter, assembled, rfl⟩
        exact ⟨filter, _, resolved, assembled, ⟨range, ranged, rfl⟩, rfl⟩
      · rintro ⟨filter, window, resolved, assembled, ⟨range, ranged, rfl⟩, rfl⟩
        exact ⟨resolved, range, ranged, filter, assembled, rfl⟩

lemma exists_source_segments (column : AggregateColumn) :
    ∃ inner, (source column).segments = .ok inner := by
  cases column <;> exact ⟨_, rfl⟩

lemma source_values (column : AggregateColumn) : (source column).values = [] := by
  cases column <;> rfl

/-- The statement of a summary always compiles. -/
lemma compile_shape (mode : AggregateMode) (choice : Choice) (filter : List Predicate)
    (window : Option (Int × Int)) (passing : Passing) :
    (shape mode choice filter window).compile passing
      = .ok ((shape mode choice filter window).compiled passing) := by
  obtain ⟨inner, segments⟩ := exists_source_segments choice.column
  cases mode with
  | point =>
      exact Statement.compile_eq_compiled (List.cons_ne_nil _ _) segments (source_values _) passing
  | history =>
      exact Statement.compile_eq_compiled (List.cons_ne_nil _ _) segments (source_values _) passing

/-- A summary compiles to what the statement of its mode compiles to, and it fails only where
`resolve`, `Filter.assemble` or the range does. -/
theorem compile_eq_ok {request : Request} {mode : AggregateMode} {settings : Settings} {now : Int}
    {c : Compiled} :
    compile request mode settings now = .ok c ↔ ∃ choice filter window,
      resolve request settings = .ok choice
        ∧ Filter.assemble request (scope mode) = .ok filter
        ∧ ends request mode settings now = .ok window
        ∧ (shape mode choice filter window).compiled settings.passing = c := by
  simp only [compile, bind_eq_ok, mapError_eq_ok, statement_eq_ok]
  constructor
  · rintro ⟨_, ⟨choice, filter, window, resolved, assembled, ended, rfl⟩, compiled⟩
    rw [compile_shape] at compiled
    exact ⟨choice, filter, window, resolved, assembled, ended, Except.ok.inj compiled⟩
  · rintro ⟨choice, filter, window, resolved, assembled, ended, rfl⟩
    exact ⟨_, ⟨choice, filter, window, resolved, assembled, ended, rfl⟩, compile_shape ..⟩

/-! ## The frame of a summary

The front depends on what is aggregated, and on that alone; what follows the conditions is fixed. -/

/-- What is aggregated: nothing if rows are counted, else the column. -/
def Choice.argumentText (choice : Choice) : String :=
  if choice.countsRows then "" else choice.column.text

/-- The aggregate is written as its function around the argument. -/
lemma Choice.text_expr (choice : Choice) :
    choice.expr.text = choice.function.text ++ ("(" ++ (choice.argumentText ++ ")")) := by
  unfold Choice.expr Choice.argument Choice.argumentText
  split <;> simp [Expr.text, application, Column.qualified, String.append_assoc]

/-- What a history returns beside the aggregated value. -/
def historyKeys : List SelectItem :=
  [.expr (.column { name := "chain" }),
    .renamed (.column { name := "listing_price_symcode" }) "symbol_code",
    .renamed day "timestamp"]

/-- What stands in front of the aggregate. -/
def lead : AggregateMode → String
  | .point => "SELECT "
  | .history => "SELECT " ++ (selectText historyKeys ++ ", ")

/-- What stands between the aggregate and the source. -/
def turn : AggregateMode → String
  | .point => " FROM "
  | .history => " AS value FROM "

/-- The front of a summary is `lead`, the aggregate, `turn` and the source of its column. -/
lemma front_shape (mode : AggregateMode) (choice : Choice) (filter : List Predicate)
    (window : Option (Int × Int)) :
    (shape mode choice filter window).front
      = lead mode ++ (choice.expr.text ++ (turn mode ++ (source choice.column).text)) := by
  cases mode with
  | point => simp [shape, point, Statement.front, selectText, SelectItem.text, lead, turn]
  | history =>
      have select : selectText (historySelect choice)
          = selectText historyKeys ++ (", " ++ (choice.expr.text ++ " AS value")) := by
        rw [show historySelect choice = historyKeys ++ [.renamed choice.expr "value"] from rfl,
          selectText, selectText, List.map_append,
          String.intercalate_append_of_ne_nil (by simp [historyKeys]) (by simp)]
        simp [SelectItem.text, String.append_assoc]
      simp only [shape, history, Statement.front, select, lead, turn, String.append_assoc]
      rfl

/-- What follows the conditions of a summary. -/
def closing : AggregateMode → String
  | .point => ""
  | .history => " GROUP BY chain, symbol_code, timestamp ORDER BY timestamp ASC"

/-- `closing` is the tail of the statement of each mode. -/
lemma tailText_shape (mode : AggregateMode) (choice : Choice) (filter : List Predicate)
    (window : Option (Int × Int)) :
    (shape mode choice filter window).clauses.tailText = closing mode := by
  cases mode <;>
    simp [shape, point, history, Clauses.tailText, Clauses.groupByText, Clauses.orderByText,
      Clauses.limitText, closing, SortDirection.text]

end Summary

end SaleSearch

import SaleSearch.Proofs.Sql.Segment
import SaleSearch.Sql.Emission

/-!
# Statements as text with slots

The segments of a statement are defined over its parts, without any state.  `Emits` ties a pass to
the segments it stands for: whatever bindings there are already, the pass writes the segments filled
from the next free number on, and appends the bindings of their slots.

* `run_value`, `run_predicate`, `run_filter`, `emits_select` and `emits_source` go through the parts
  of a statement.
* `compile_eq` is what compiling a statement comes to: its segments, filled from zero.
-/

namespace SaleSearch.Sql

open Segment

/-! ## The segments of a statement -/

/-- The segments of one condition: `compare` and `contains` have one slot, `window` has one for each
bound. -/
def Predicate.segments : Predicate → List Segment
  | .compare field comparison value =>
      [fixed (operand field ++ " " ++ comparison.symbol ++ " "), slot value]
  | .contains field value => [fixed ("has(" ++ field.name ++ ", "), slot value, fixed ")"]
  | .window column low high =>
      [fixed (inSeconds column.qualified ++ " BETWEEN "), slot low, fixed " AND ", slot high]

/-- The conditions after the first one. -/
def furtherSegments (predicates : List Predicate) : List Segment :=
  predicates.flatMap fun p => .fixed " AND " :: p.segments

/-- The segments of a `WHERE` clause, which is left out where there are no conditions. -/
def filterSegments : List Predicate → List Segment
  | [] => []
  | p :: rest => .fixed " WHERE (" :: (p.segments ++ furtherSegments rest) ++ [.fixed ")"]

/-- What follows the conditions: grouping, order and limit, which hold no values. -/
def Clauses.tailText (c : Clauses) : String :=
  c.groupByText ++ c.orderByText ++ c.limitText

/-- The segments of the clauses of one query: `ARRAY JOIN`, the conditions and the tail. -/
def Clauses.segments (c : Clauses) : List Segment :=
  .fixed c.arrayJoinText :: filterSegments c.filter ++ [.fixed c.tailText]

/-- The segments of one query, given those of its source.  A query that selects nothing is a
`Defect`, whatever its source is. -/
def selectSegments (items : List SelectItem) (source : Except Defect (List Segment))
    (clauses : Clauses) : Except Defect (List Segment) :=
  if items.isEmpty then .error .emptySelect
  else source.map fun inner =>
    .fixed ("SELECT " ++ selectText items ++ " FROM ") :: inner ++ clauses.segments

/-- The segments of a source, or the first `Defect` in it in the order in which `Emission.source`
goes through it. -/
def Source.segments : Source → Except Defect (List Segment)
  | .table name none => .ok [.fixed name]
  | .table name (some rename) => .ok [.fixed (name ++ " AS " ++ rename)]
  | .subquery items inner clauses name =>
      (selectSegments items inner.segments clauses).map fun segments =>
        .fixed "(" :: segments ++ [.fixed (") AS " ++ name)]
  | .join left right on =>
      if on.isEmpty then .error .emptyJoinCondition
      else left.segments.bind fun l => right.segments.map fun r =>
        l ++ .fixed " JOIN " :: r ++ [.fixed (joinText on)]

/-- The segments of a statement, or the first `Defect` in it. -/
def Statement.segments (s : Statement) : Except Defect (List Segment) :=
  selectSegments s.select s.source.segments s.clauses

/-! ## Passes -/

/-- What a pass over segments returns and leaves as its state: their text, and the bindings with
those of the slots appended. -/
def written (passing : Passing) (earlier : List Binding) (segments : List Segment) :
    String × List Binding :=
  (fill passing earlier.length segments, earlier ++ bindings passing earlier.length segments)

/-- Whatever bindings there are before, the pass writes the segments of `result`, or stops at its
defect. -/
def Emits (passing : Passing) (pass : Emission String) (result : Except Defect (List Segment)) :
    Prop :=
  ∀ earlier, pass.run earlier = result.map (written passing earlier)

/-- Two lists of segments are written one after the other, the second over the bindings of the
first. -/
lemma written_append (passing : Passing) (earlier : List Binding) (a b : List Segment) :
    written passing earlier (a ++ b)
      = ((written passing earlier a).1 ++ (written passing (written passing earlier a).2 b).1,
          (written passing (written passing earlier a).2 b).2) := by
  simp only [written, fill_append, bindings_append]

lemma written_nil (passing : Passing) (earlier : List Binding) :
    written passing earlier [] = ("", earlier) := by
  cases passing <;> simp [written, fill, bindings, slots, numbered]

lemma written_fixed (passing : Passing) (earlier : List Binding) (text : String) :
    written passing earlier [.fixed text] = (text, earlier) := by
  cases passing <;> simp [written, fill, bindings, slots, numbered]

lemma written_fixed_cons (passing : Passing) (earlier : List Binding) (text : String)
    (rest : List Segment) :
    written passing earlier (.fixed text :: rest)
      = (text ++ (written passing earlier rest).1, (written passing earlier rest).2) := by
  cases passing <;> rfl

/-- A pass goes on with the result and the bindings of its first step. -/
lemma run_bind_of_ok {α β : Type} {pass : Emission α} {next : α → Emission β}
    {earlier : List Binding} {result : α × List Binding} (h : pass.run earlier = .ok result) :
    (pass >>= next).run earlier = (next result.1).run result.2 := by
  rw [StateT.run_bind, h]
  rfl

/-- A pass whose first step finds a defect finds that defect. -/
lemma run_bind_of_error {α β : Type} {pass : Emission α} {next : α → Emission β} {d : Defect}
    {earlier : List Binding} (h : pass.run earlier = .error d) :
    (pass >>= next).run earlier = .error d := by
  rw [StateT.run_bind, h]
  rfl

/-- `Emission.value` writes one slot. -/
lemma run_value (passing : Passing) (v : Value) (earlier : List Binding) :
    (Emission.value passing v).run earlier = .ok (written passing earlier [.slot v]) := by
  cases passing with
  | inline => simp [written, fill, filling, bindings]; rfl
  | bound => simp [written, fill, filling, bindings, slots, numbered]; rfl

/-- `Emission.predicate` writes `Predicate.segments`. -/
lemma run_predicate (passing : Passing) (p : Predicate) (earlier : List Binding) :
    (Emission.predicate passing p).run earlier = .ok (written passing earlier p.segments) := by
  cases p with
  | compare field comparison v =>
      rw [Emission.predicate, run_bind_of_ok (run_value passing v earlier), Predicate.segments,
        written_fixed_cons]
      rfl
  | contains field v =>
      rw [Emission.predicate, run_bind_of_ok (run_value passing v earlier), Predicate.segments,
        written_fixed_cons, show [Segment.slot v, .fixed ")"] = [.slot v] ++ [.fixed ")"] from rfl,
        written_append, written_fixed]
      simp only [← String.append_assoc]
      rfl
  | window column low high =>
      rw [Emission.predicate, run_bind_of_ok (run_value passing low earlier),
        run_bind_of_ok (run_value passing high _), Predicate.segments, written_fixed_cons,
        show [Segment.slot low, .fixed " AND ", .slot high]
          = [.slot low] ++ .fixed " AND " :: [.slot high] from rfl,
        written_append, written_fixed_cons]
      simp only [← String.append_assoc]
      rfl

/-- `mapM` goes through the conditions from left to right, so the bindings of one are there before
the next, and joining the texts by `AND` gives the segments of all of them. -/
lemma run_predicates (passing : Passing) (p : Predicate) (rest : List Predicate)
    (earlier : List Binding) :
    ∃ parts, parts ≠ []
      ∧ ((p :: rest).mapM (Emission.predicate passing)).run earlier
          = .ok (parts, (written passing earlier (p.segments ++ furtherSegments rest)).2)
      ∧ " AND ".intercalate parts
          = (written passing earlier (p.segments ++ furtherSegments rest)).1 := by
  induction rest generalizing p earlier with
  | nil =>
      refine ⟨[(written passing earlier p.segments).1], by simp, ?_, ?_⟩
      · rw [List.mapM_cons, run_bind_of_ok (run_predicate passing p earlier)]
        simp only [furtherSegments, List.flatMap_nil, List.append_nil]
        rfl
      · simp [furtherSegments]
  | cons q rest ih =>
      obtain ⟨parts, nonempty, ran, text⟩ := ih q (written passing earlier p.segments).2
      have further : furtherSegments (q :: rest)
          = .fixed " AND " :: (q.segments ++ furtherSegments rest) := rfl
      refine ⟨(written passing earlier p.segments).1 :: parts, by simp, ?_, ?_⟩
      · rw [List.mapM_cons, run_bind_of_ok (run_predicate passing p earlier), run_bind_of_ok ran,
          further, written_append passing earlier p.segments, written_fixed_cons]
        rfl
      · rw [String.intercalate_cons_of_ne_nil nonempty, text, further,
          written_append passing earlier p.segments, written_fixed_cons, String.append_assoc]

/-- `Emission.filter` writes `filterSegments`. -/
lemma run_filter (passing : Passing) (predicates : List Predicate) (earlier : List Binding) :
    (Emission.filter passing predicates).run earlier
      = .ok (written passing earlier (filterSegments predicates)) := by
  cases predicates with
  | nil =>
      rw [Emission.filter, if_pos rfl, filterSegments, written_nil]
      rfl
  | cons p rest =>
      obtain ⟨parts, -, ran, text⟩ := run_predicates passing p rest earlier
      rw [Emission.filter, if_neg (List.cons_ne_nil p rest), run_bind_of_ok ran, filterSegments,
        List.cons_append, written_fixed_cons, written_append passing earlier (p.segments ++ _),
        written_fixed, text, ← String.append_assoc]
      rfl

lemma emits_pure (passing : Passing) (text : String) :
    Emits passing (pure text) (.ok [.fixed text]) := by
  intro earlier
  rw [Except.map, written_fixed]
  rfl

lemma emits_throw (passing : Passing) (d : Defect) : Emits passing (throw d) (.error d) :=
  fun _ => rfl

/-- `Emission.select` writes `selectSegments` over the segments of its source. -/
lemma emits_select (passing : Passing) (items : List SelectItem) {pass : Emission String}
    {result : Except Defect (List Segment)} (clauses : Clauses) (h : Emits passing pass result) :
    Emits passing (Emission.select passing items pass clauses)
      (selectSegments items result clauses) := by
  unfold Emission.select selectSegments
  split
  · exact emits_throw passing _
  · intro earlier
    cases result with
    | error d => rw [run_bind_of_error (h earlier)]; rfl
    | ok inner =>
        rw [run_bind_of_ok (h earlier), run_bind_of_ok (run_filter passing clauses.filter _),
          Except.map, Except.map, List.cons_append, written_fixed_cons, written_append,
          Clauses.segments, List.cons_append, written_fixed_cons, written_append, written_fixed,
          Clauses.tailText]
        simp only [← String.append_assoc]
        rfl

/-- `Emission.source` writes `Source.segments`, by induction on the source: a subquery keeps its
inner source's bindings, and a join writes its left side before its right. -/
lemma emits_source (passing : Passing) (source : Source) :
    Emits passing (Emission.source passing source) source.segments := by
  induction source with
  | table name rename =>
      cases rename with
      | none => exact emits_pure passing name
      | some rename => exact emits_pure passing (name ++ " AS " ++ rename)
  | subquery items inner clauses name ih =>
      intro earlier
      have selected := emits_select passing items clauses ih earlier
      rw [Emission.source, Source.segments]
      cases found : selectSegments items inner.segments clauses with
      | error d => rw [found] at selected; rw [run_bind_of_error selected]; rfl
      | ok segments =>
          rw [found] at selected
          rw [run_bind_of_ok selected, Except.map, Except.map, List.cons_append,
            written_fixed_cons, written_append, written_fixed]
          simp only [← String.append_assoc]
          rfl
  | join left right on ihLeft ihRight =>
      rw [Emission.source, Source.segments]
      split
      · exact emits_throw passing _
      · intro earlier
        cases foundLeft : left.segments with
        | error d => rw [foundLeft] at ihLeft; rw [run_bind_of_error (ihLeft earlier)]; rfl
        | ok l =>
            rw [foundLeft] at ihLeft
            rw [run_bind_of_ok (ihLeft earlier)]
            cases foundRight : right.segments with
            | error d => rw [foundRight] at ihRight; rw [run_bind_of_error (ihRight _)]; rfl
            | ok r =>
                rw [foundRight] at ihRight
                rw [run_bind_of_ok (ihRight _), Except.bind, Except.map, Except.map,
                  written_append, written_append, written_fixed_cons, written_fixed]
                simp only [← String.append_assoc]
                rfl

/-- **A compiled statement is its segments, filled from zero.** -/
theorem Statement.compile_eq (s : Statement) (passing : Passing) :
    s.compile passing = s.segments.map fun segments =>
      { sql := fill passing 0 segments
        bindings := bindings passing 0 segments
        columns := s.outputNames
        usesSubquery := s.hasSubquery } := by
  have emitted : (Emission.statement passing s).run [] = s.segments.map (written passing []) :=
    emits_select passing s.select s.clauses (emits_source passing s.source) []
  rw [StateT.run] at emitted
  rw [Statement.compile, emitted]
  cases s.segments with
  | error d => rfl
  | ok segments => simp [Except.map, written]

end SaleSearch.Sql

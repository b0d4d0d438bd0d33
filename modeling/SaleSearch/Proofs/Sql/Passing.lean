import SaleSearch.Proofs.Outcome
import SaleSearch.Proofs.Sql.Rendering

/-!
# Two ways of passing values

Whether the values of a statement are written into its text or sent beside it, the text around them
is the same, and they stand in it in one order.

* `Statement.values` is that order, said without any text: the values of a source come before those
  of the statement around it, and of two joined sources the left one comes first.
* `Statement.slots_segments` finds the same order in the segments.
* `Statement.inline_bound_agree` is the agreement of the two ways.
-/

namespace SaleSearch.Sql

open Segment

/-- The values of one condition, in the order in which it is written. -/
def Predicate.values : Predicate → List Value
  | .compare _ _ v => [v]
  | .contains _ v => [v]
  | .window _ low high => [low, high]

/-- The values of the conditions of one query. -/
def Clauses.values (c : Clauses) : List Value :=
  c.filter.flatMap Predicate.values

/-- The values of a source.  A subquery has its own conditions behind those of the source it
reads. -/
def Source.values : Source → List Value
  | .table .. => []
  | .subquery _ source clauses _ => source.values ++ clauses.values
  | .join left right _ => left.values ++ right.values

/-- The values of a statement, in the order in which they are written. -/
def Statement.values (s : Statement) : List Value :=
  s.source.values ++ s.clauses.values

@[simp] lemma Predicate.slots_segments (p : Predicate) : slots p.segments = p.values := by
  cases p <;> rfl

lemma slots_furtherSegments (predicates : List Predicate) :
    slots (furtherSegments predicates) = predicates.flatMap Predicate.values := by
  induction predicates with
  | nil => rfl
  | cons p rest ih =>
      rw [furtherSegments, List.flatMap_cons, ← furtherSegments, slots_append, ih,
        List.flatMap_cons, slots, p.slots_segments]

lemma slots_filterSegments (predicates : List Predicate) :
    slots (filterSegments predicates) = predicates.flatMap Predicate.values := by
  cases predicates with
  | nil => rfl
  | cons p rest => simp [filterSegments, slots, slots_furtherSegments]

lemma Clauses.slots_segments (c : Clauses) : slots c.segments = c.values := by
  simp [Clauses.segments, slots, slots_filterSegments, Clauses.values]

/-- A query that has segments has a source that has them, and its slots are those of the source and
then those of its own conditions. -/
lemma slots_selectSegments {items : List SelectItem} {source : Except Defect (List Segment)}
    {clauses : Clauses} {segments : List Segment}
    (h : selectSegments items source clauses = .ok segments) :
    ∃ inner, source = .ok inner ∧ slots segments = slots inner ++ clauses.values := by
  unfold selectSegments at h
  split at h
  · cases h
  · obtain ⟨inner, source, rfl⟩ := map_eq_ok.1 h
    exact ⟨inner, source, by simp [slots, Clauses.slots_segments]⟩

lemma Source.slots_segments {source : Source} {segments : List Segment}
    (h : source.segments = .ok segments) : slots segments = source.values := by
  induction source generalizing segments with
  | table name rename => cases rename <;> · obtain rfl := Except.ok.inj h; rfl
  | subquery items inner clauses name ih =>
      obtain ⟨selected, found, rfl⟩ := map_eq_ok.1 h
      obtain ⟨rendered, hinner, hslots⟩ := slots_selectSegments found
      simp [slots, hslots, ih hinner, Source.values]
  | join left right on ihLeft ihRight =>
      rw [Source.segments] at h
      split at h
      · cases h
      · obtain ⟨l, foundLeft, h⟩ := bind_eq_ok.1 h
        obtain ⟨r, foundRight, rfl⟩ := map_eq_ok.1 h
        simp [slots, ihLeft foundLeft, ihRight foundRight, Source.values]

lemma Statement.slots_segments {s : Statement} {segments : List Segment}
    (h : s.segments = .ok segments) : slots segments = s.values := by
  obtain ⟨inner, hinner, hslots⟩ := slots_selectSegments h
  rw [hslots, Source.slots_segments hinner, Statement.values]

/-- A literal is the text of a value, between quotes exactly if the value is a string. -/
lemma Value.literal_eq (v : Value) :
    v.literal = if v.typeName = "String" then "'" ++ v.text ++ "'" else v.text := by
  cases v <;> rfl

/-- **The two ways of passing values agree on every statement.**  Both find the same defect, or
there are texts, one more than the statement has values, between which the one puts the
placeholders of its bindings and the other the texts that these bindings have in the pairs sent
beside the statement. -/
theorem Statement.inline_bound_agree (s : Statement) :
    (∃ d, s.compile .inline = .error d ∧ s.compile .bound = .error d)
      ∨ ∃ inline bound texts, s.compile .inline = .ok inline ∧ s.compile .bound = .ok bound
          ∧ texts.length = s.values.length + 1
          ∧ bound.sql = interleave texts
              (bound.bindings.map fun b => "\x7b" ++ b.name ++ ":" ++ b.value.typeName ++ "\x7d")
          ∧ inline.sql = interleave texts
              (bound.bindings.map fun b =>
                if b.value.typeName = "String" then "'" ++ b.httpPair.2 ++ "'" else b.httpPair.2)
          ∧ inline.bindings = []
          ∧ (bound.bindings.map fun b => (b.name, b.value.typeName, b.value))
              = s.values.mapIdx (fun i v => ("p" ++ i.repr, v.typeName, v))
          ∧ inline.columns = bound.columns ∧ inline.usesSubquery = bound.usesSubquery := by
  cases found : s.segments with
  | error d => exact .inl ⟨d, by simp [compile_eq, found, Except.map]⟩
  | ok segments =>
      have compiled : ∀ passing, s.compile passing = .ok
          { sql := fill passing 0 segments
            bindings := bindings passing 0 segments
            columns := s.outputNames
            usesSubquery := s.hasSubquery } := by
        intro passing
        rw [compile_eq, found, Except.map]
      have hslots : slots segments = s.values := slots_segments found
      refine .inr ⟨_, _, texts segments, compiled .inline, compiled .bound, ?_, ?_, ?_, rfl, ?_,
        rfl, rfl⟩
      · rw [length_texts, hslots]
      · exact fill_eq_interleave .bound 0 segments
      · rw [fill_eq_interleave]
        simp only [filling, bindings, Value.literal_eq, Binding.httpPair]
      · simp only [bindings, map_numbered, hslots, Nat.zero_add]
        rfl

end SaleSearch.Sql

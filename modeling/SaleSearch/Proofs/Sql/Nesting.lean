import Mathlib.Data.List.Infix
import SaleSearch.Proofs.Outcome
import SaleSearch.Proofs.Sql.Rendering

/-!
# Nested SELECTs

A statement is written as a SELECT, and each subquery of its source as another one inside of it.
How many there are cannot be read off the text, since a name may hold any word.  So the pass that
writes a statement is made to keep a record: whenever a SELECT is finished, its text goes on it.

* `Recording.source` and `Recording.statement` are the passes with a record, and
  `Recording.erases_source` and `Recording.erases_statement` say that they are the plain ones if the
  record is left out.
* `Source.selects` is the number of SELECTs in a source.
* `Recording.adds_source` and `Recording.recorded_statement` say what is on the record in the end:
  as many SELECTs, each of which stands in the text.
-/

namespace SaleSearch.Sql

/-- The number of `SELECT`s in a source: one for each subquery, at any depth. -/
def Source.selects : Source → ℕ
  | .table .. => 0
  | .subquery _ source _ _ => source.selects + 1
  | .join left right _ => left.selects + right.selects

/-- The part begins with `SELECT`, and it is a part of the whole text. -/
def SelectIn (whole part : String) : Prop :=
  "SELECT ".toList <+: part.toList ∧ part.toList <:+: whole.toList

/-- A longer text has the same parts, and more. -/
lemma SelectIn.wrap {whole part : String} (h : SelectIn whole part) (before after : String) :
    SelectIn (before ++ whole ++ after) part := by
  refine ⟨h.1, h.2.trans ⟨before.toList, after.toList, ?_⟩⟩
  simp only [String.toList_append]

/-- A pass that keeps a record of the SELECTs that it has written. -/
abbrev Recording := StateT (List String) Emission

namespace Recording

/-- `Emission.select` with a recording source, which puts its own text on the record when it is
finished. -/
def select (passing : Passing) (items : List SelectItem) (source : Recording String)
    (clauses : Clauses) : Recording String :=
  if items.isEmpty then throw .emptySelect
  else do
    let inner ← source
    let text ← Emission.select passing items (pure inner) clauses
    modify fun record => record ++ [text]
    return text

/-- `Emission.source` with a record. -/
def source (passing : Passing) : Source → Recording String
  | .table name rename => Emission.source passing (.table name rename)
  | .subquery items inner clauses name => do
      let text ← select passing items (source passing inner) clauses
      return "(" ++ text ++ ") AS " ++ name
  | .join left right on =>
      if on.isEmpty then throw .emptyJoinCondition
      else do
        let left ← source passing left
        let right ← source passing right
        return left ++ " JOIN " ++ right ++ joinText on

/-- `Emission.statement` with a record. -/
def statement (passing : Passing) (s : Statement) : Recording String :=
  select passing s.select (source passing s.source) s.clauses

/-! ## Without the record -/

/-- Whatever is on the record already, the recording pass without its record is the plain pass. -/
def Erases {α : Type} (recording : Recording α) (pass : Emission α) : Prop :=
  ∀ record, Prod.fst <$> recording.run record = pass

lemma erases_pure {α : Type} (a : α) : Erases (pure a) (pure a) :=
  fun _ => rfl

/-- Passes one after the other are erased one after the other. -/
lemma Erases.bind {α β : Type} {recording : Recording α} {pass : Emission α}
    {next : α → Recording β} {plain : α → Emission β} (erases : recording.Erases pass)
    (later : ∀ a, (next a).Erases (plain a)) : (recording >>= next).Erases (pass >>= plain) := by
  intro record
  rw [StateT.run_bind, map_bind, ← erases record, bind_map_left]
  exact bind_congr fun reached => later reached.1 reached.2

/-- `select` without its record is `Emission.select` over the source without its record. -/
lemma erases_select (passing : Passing) (items : List SelectItem) {recording : Recording String}
    {pass : Emission String} (erases : recording.Erases pass) (clauses : Clauses) :
    (select passing items recording clauses).Erases
      (Emission.select passing items pass clauses) := by
  rw [select, Emission.select]
  split
  · exact fun _ => rfl
  · rename_i nonempty
    refine erases.bind fun inner record => ?_
    simp [Emission.select, nonempty]

/-- The recording pass over a source is `Emission.source`, by induction on the source. -/
theorem erases_source (passing : Passing) (source : Source) :
    Erases (Recording.source passing source) (Emission.source passing source) := by
  induction source with
  | table name rename =>
      intro record
      simp [Recording.source]
  | subquery items inner clauses name ih =>
      exact (erases_select passing items ih clauses).bind fun _ => erases_pure _
  | join left right on ihLeft ihRight =>
      rw [Recording.source, Emission.source]
      split
      · exact fun _ => rfl
      · exact ihLeft.bind fun _ => ihRight.bind fun _ => erases_pure _

/-- The recording pass over a statement is `Emission.statement`. -/
theorem erases_statement (passing : Passing) (s : Statement) :
    Erases (statement passing s) (Emission.statement passing s) :=
  erases_select passing s.select (erases_source passing s.source) s.clauses

/-! ## What is on the record -/

lemma run_bind_eq_ok {α β : Type} {recording : Recording α} {next : α → Recording β}
    {record : List String} {earlier : List Binding} {result : (β × List String) × List Binding} :
    ((recording >>= next).run record).run earlier = .ok result
      ↔ ∃ a inside middle, (recording.run record).run earlier = .ok ((a, inside), middle)
        ∧ ((next a).run inside).run middle = .ok result := by
  rw [StateT.run_bind, StateT.run_bind, bind_eq_ok]
  simp only [Prod.exists]

lemma run_lift_eq_ok {α : Type} {pass : Emission α} {record : List String}
    {earlier : List Binding} {result : (α × List String) × List Binding} :
    ((liftM pass : Recording α).run record).run earlier = .ok result
      ↔ ∃ a later, pass.run earlier = .ok (a, later) ∧ ((a, record), later) = result := by
  rw [liftM, StateT.run_monadLift, StateT.run_bind, bind_eq_ok]
  simp only [Prod.exists]
  exact exists₂_congr fun a later => and_congr_right fun _ => pure_eq_ok

/-- A finished run adds `count` texts to the record, each of which is a `SelectIn` of the text that
is written. -/
def Adds (recording : Recording String) (count : ℕ) : Prop :=
  ∀ ⦃record earlier text after later⦄,
    (recording.run record).run earlier = .ok ((text, after), later) →
      ∃ added, after = record ++ added ∧ added.length = count ∧ ∀ part ∈ added, SelectIn text part

/-- The text of a SELECT begins as it should, and its source stands in it. -/
lemma exists_of_select_pure {passing : Passing} {items : List SelectItem} {inner text : String}
    {clauses : Clauses} {earlier later : List Binding} (nonempty : ¬items.isEmpty)
    (ran : (Emission.select passing items (pure inner) clauses).run earlier = .ok (text, later)) :
    ∃ front back, text = "SELECT " ++ front ++ inner ++ back := by
  rw [Emission.select, if_neg nonempty, pure_bind,
    run_bind_of_ok (run_filter passing clauses.filter earlier)] at ran
  obtain ⟨rfl, -⟩ := Prod.mk.inj (Except.ok.inj ran)
  refine ⟨selectText items ++ " FROM ", clauses.arrayJoinText
    ++ (written passing earlier (filterSegments clauses.filter)).1
    ++ clauses.groupByText ++ clauses.orderByText ++ clauses.limitText, ?_⟩
  simp only [String.append_assoc]

section Select

variable {passing : Passing} {items : List SelectItem} {recording : Recording String} {count : ℕ}
  (adds : recording.Adds count) {clauses : Clauses}
include adds

/-- A `SELECT` goes on the record behind those of its source, all of which stand in its text. -/
lemma exists_of_select {record after : List String} {earlier later : List Binding} {text : String}
    (ran : ((select passing items recording clauses).run record).run earlier
      = .ok ((text, after), later)) :
    ∃ nested, after = record ++ (nested ++ [text]) ∧ nested.length = count
      ∧ ∀ part ∈ nested ++ [text], SelectIn text part := by
  rw [select] at ran
  split at ran
  · cases ran
  · rename_i nonempty
    obtain ⟨inner, inside, middle, first, ran⟩ := run_bind_eq_ok.1 ran
    obtain ⟨outer, unchanged, last, lifted, ran⟩ := run_bind_eq_ok.1 ran
    cases ran
    obtain ⟨_, _, second, same⟩ := run_lift_eq_ok.1 lifted
    cases same
    obtain ⟨nested, rfl, length, stand⟩ := adds first
    obtain ⟨front, back, rfl⟩ := exists_of_select_pure nonempty second
    have begins : "SELECT ".toList <+: ("SELECT " ++ front ++ inner ++ back).toList := by
      rw [String.append_assoc, String.append_assoc, String.toList_append]
      exact List.prefix_append _ _
    refine ⟨nested, List.append_assoc .., length, fun part among => ?_⟩
    rcases List.mem_append.1 among with deeper | whole
    · exact (stand part deeper).wrap _ _
    · obtain rfl := List.mem_singleton.1 whole
      exact ⟨begins, List.infix_rfl⟩

/-- A `SELECT` adds one text to those that its source adds. -/
lemma adds_select : Adds (select passing items recording clauses) (count + 1) := by
  intro record earlier text after later ran
  obtain ⟨nested, rfl, length, stand⟩ := exists_of_select adds ran
  exact ⟨nested ++ [text], rfl, by simp [length], stand⟩

end Select

/-- A source adds `Source.selects` texts to the record, by induction on the source. -/
theorem adds_source (passing : Passing) (source : Source) :
    Adds (Recording.source passing source) source.selects := by
  induction source with
  | table name rename =>
      intro record earlier text after later ran
      obtain ⟨_, _, -, same⟩ := run_lift_eq_ok.1 ran
      cases same
      exact ⟨[], (List.append_nil _).symm, rfl, nofun⟩
  | subquery items inner clauses name ih =>
      intro record earlier text after later ran
      obtain ⟨select, inside, middle, first, ran⟩ := run_bind_eq_ok.1 ran
      cases ran
      obtain ⟨added, rfl, length, stand⟩ := adds_select ih first
      refine ⟨added, rfl, length, fun part among => ?_⟩
      rw [String.append_assoc]
      exact (stand part among).wrap "(" (") AS " ++ name)
  | join left right on ihLeft ihRight =>
      intro record earlier text after later ran
      rw [Recording.source] at ran
      split at ran
      · cases ran
      · obtain ⟨l, inside, middle, first, ran⟩ := run_bind_eq_ok.1 ran
        obtain ⟨r, both, last, second, ran⟩ := run_bind_eq_ok.1 ran
        cases ran
        obtain ⟨addedLeft, rfl, lengthLeft, standLeft⟩ := ihLeft first
        obtain ⟨addedRight, rfl, lengthRight, standRight⟩ := ihRight second
        refine ⟨addedLeft ++ addedRight, List.append_assoc .., ?_, fun part among => ?_⟩
        · rw [List.length_append, lengthLeft, lengthRight, Source.selects]
        · rcases List.mem_append.1 among with among | among
          · have stands := (standLeft part among).wrap "" (" JOIN " ++ r ++ joinText on)
            simpa [String.append_assoc] using stands
          · exact (standRight part among).wrap (l ++ " JOIN ") (joinText on)

/-! ## Statements -/

/-- A plain pass has a result exactly if the recording pass has it, with some record, whatever was
on the record before. -/
lemma Erases.run_eq_ok {α : Type} {recording : Recording α} {pass : Emission α}
    (erases : recording.Erases pass) (record : List String) {earlier later : List Binding} {a : α} :
    pass.run earlier = .ok (a, later)
      ↔ ∃ after, (recording.run record).run earlier = .ok ((a, after), later) := by
  rw [← erases record, StateT.run_map, map_eq_pure_bind, bind_eq_ok]
  simp only [pure_eq_ok, Prod.exists, Prod.mk.injEq]
  constructor
  · rintro ⟨_, after, _, ran, rfl, rfl⟩
    exact ⟨after, ran⟩
  · rintro ⟨after, ran⟩
    exact ⟨a, after, later, ran, rfl, rfl⟩

/-- The record of a compiled statement holds the `SELECT`s of its source and at last its whole text,
and all of them stand in that text. -/
theorem recorded_statement {s : Statement} {passing : Passing} {c : Compiled}
    (compiled : s.compile passing = .ok c) :
    ∃ nested, ((statement passing s).run []).run [] = .ok ((c.sql, nested ++ [c.sql]), c.bindings)
      ∧ nested.length = s.source.selects
      ∧ ∀ part ∈ nested ++ [c.sql], SelectIn c.sql part := by
  obtain ⟨⟨text, bindings⟩, emitted, rfl⟩ := map_eq_ok.1 compiled
  obtain ⟨after, ran⟩ := ((erases_statement passing s).run_eq_ok []).1 emitted
  obtain ⟨nested, rfl, length, stand⟩ := exists_of_select (adds_source passing s.source) ran
  exact ⟨nested, ran, length, stand⟩

end Recording

end SaleSearch.Sql

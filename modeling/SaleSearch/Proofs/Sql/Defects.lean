import SaleSearch.Proofs.Outcome
import SaleSearch.Proofs.Sql.Rendering
import SaleSearch.Rejection

/-!
# Defects

Why a statement cannot be written out.  A path leads from a statement to what it is made of, and
`Path.Precedes` is the order in which a reader comes across the parts: a whole before its parts, and
of two joined sources the left one first.

* `Statement.defect?` is what is wrong at the end of a path, if anything.
* `FirstDefect` is said of a defect before which, in that order, there is none.
* `Source.firstDefect_iff` and `Source.sound_iff` find both in the segments, by induction on the
  sources.  An early exit skips what comes later and nothing else, which is what
  `firstDefect_branch` says of one node.
* `Statement.defective` is what follows for compiled statements.
-/

namespace SaleSearch.Sql

/-- From a statement to its source, or from a join to one of its sides. -/
inductive Branch where
  | inner
  | left
  | right

/-- The way from a statement to one of its parts. -/
abbrev Path := List Branch

/-- Pre-order: a statement comes before its source, a join before its sides, and the left side
before the right one. -/
inductive Path.Precedes : Path → Path → Prop
  | outer (branch : Branch) (path : Path) : Precedes [] (branch :: path)
  | sides (path path' : Path) : Precedes (.left :: path) (.right :: path')
  | within (branch : Branch) {path path' : Path} (precedes : Precedes path path') :
      Precedes (branch :: path) (branch :: path')

/-- The defect of the part of a source at the end of a path: `emptySelect` for a subquery that
selects nothing, `emptyJoinCondition` for a join without conditions. -/
def Source.defect? : Source → Path → Option Defect
  | .subquery items _ _ _, [] => if items.isEmpty then some .emptySelect else none
  | .subquery _ source _ _, .inner :: path => source.defect? path
  | .join _ _ on, [] => if on.isEmpty then some .emptyJoinCondition else none
  | .join left _ _, .left :: path => left.defect? path
  | .join _ right _, .right :: path => right.defect? path
  | _, _ => none

/-- The defect of the part of a statement at the end of a path, the statement itself included. -/
def Statement.defect? (s : Statement) : Path → Option Defect
  | [] => if s.select.isEmpty then some .emptySelect else none
  | .inner :: path => s.source.defect? path
  | _ :: _ => none

/-- `d` is the defect at some path, and no earlier path in pre-order has one. -/
def FirstDefect (defect? : Path → Option Defect) (d : Defect) : Prop :=
  ∃ path, defect? path = some d ∧ ∀ earlier, Path.Precedes earlier path → defect? earlier = none

/-! ## One node -/

section Node

variable {defect? : Path → Option Defect} {d : Defect}

/-- A defect of the whole is the first one. -/
lemma firstDefect_root {found : Defect} (root : defect? [] = some found) :
    FirstDefect defect? d ↔ found = d := by
  constructor
  · rintro ⟨path, here, before⟩
    cases path with
    | nil => exact Option.some.inj (root.symm.trans here)
    | cons branch path => simp [before [] (.outer branch path)] at root
  · rintro rfl
    exact ⟨[], root, fun _ precedes => nomatch precedes⟩

/-- If the whole has no defect of its own, the first one lies in one of the parts, and if that is
the right side of a join, the left side has none at all. -/
lemma firstDefect_branch (root : defect? [] = none) :
    FirstDefect defect? d ↔ ∃ branch, FirstDefect (fun path => defect? (branch :: path)) d
      ∧ (branch = .right → ∀ path, defect? (.left :: path) = none) := by
  constructor
  · rintro ⟨path, here, before⟩
    cases path with
    | nil => simp [root] at here
    | cons branch path =>
        refine ⟨branch, ⟨path, here, fun _ precedes => before _ (.within branch precedes)⟩, ?_⟩
        rintro rfl left
        exact before _ (.sides left path)
  · rintro ⟨branch, ⟨path, here, before⟩, left⟩
    refine ⟨branch :: path, here, fun earlier precedes => ?_⟩
    cases precedes with
    | outer => exact root
    | sides other => exact left rfl other
    | within _ precedes => exact before _ precedes

lemma firstDefect_none (none : ∀ path, defect? path = none) : ¬FirstDefect defect? d := by
  rintro ⟨path, here, -⟩
  simp [none path] at here

end Node

/-! ## Sources -/

/-- An empty select list is found before the source is looked at. -/
lemma failure?_selectSegments (items : List SelectItem) (source : Except Defect (List Segment))
    (clauses : Clauses) : failure? (selectSegments items source clauses)
      = if items.isEmpty then some .emptySelect else failure? source := by
  unfold selectSegments
  split
  · rfl
  · exact failure?_map _ _

namespace Source

lemma failure?_subquery (items : List SelectItem) (source : Source) (clauses : Clauses)
    (name : String) : failure? (subquery items source clauses name).segments
      = if items.isEmpty then some .emptySelect else failure? source.segments := by
  rw [segments, failure?_map, failure?_selectSegments]

lemma failure?_join (left right : Source) (on : List JoinCondition) :
    failure? (join left right on).segments
      = if on.isEmpty then some .emptyJoinCondition
        else (failure? left.segments).or (failure? right.segments) := by
  rw [segments]
  split
  · rfl
  · exact failure?_bind fun l _ => failure?_map _ _

/-- A source has segments exactly if no part of it has a defect, by induction on the source. -/
theorem sound_iff (source : Source) :
    (∀ path, source.defect? path = none) ↔ failure? source.segments = none := by
  induction source with
  | table name rename => cases rename <;> exact ⟨fun _ => rfl, fun _ path => by cases path <;> rfl⟩
  | subquery items source clauses name ih =>
      rw [failure?_subquery]
      cases items with
      | nil => exact iff_of_false (fun sound => nomatch sound []) nofun
      | cons item items =>
          refine Iff.trans ⟨fun none path => none (.inner :: path), fun none path => ?_⟩ ih
          rcases path with _ | ⟨_ | _ | _, path⟩
          · rfl
          · exact none path
          · rfl
          · rfl
  | join left right on ihLeft ihRight =>
      rw [failure?_join]
      cases on with
      | nil => exact iff_of_false (fun sound => nomatch sound []) nofun
      | cons condition on =>
          rw [if_neg (by simp), Option.or_eq_none_iff, ← ihLeft, ← ihRight]
          refine ⟨fun none => ⟨fun path => none (.left :: path), fun path => none (.right :: path)⟩,
            fun none path => ?_⟩
          rcases path with _ | ⟨_ | _ | _, path⟩
          · rfl
          · rfl
          · exact none.1 path
          · exact none.2 path

/-- **The first defect of a source in pre-order is the one that `Source.segments` finds.** -/
theorem firstDefect_iff (source : Source) (d : Defect) :
    FirstDefect source.defect? d ↔ failure? source.segments = some d := by
  induction source with
  | table name rename =>
      have none : ∀ path, (table name rename).defect? path = none := by
        intro path
        cases path <;> rfl
      exact iff_of_false (firstDefect_none none) (by cases rename <;> exact nofun)
  | subquery items source clauses name ih =>
      rw [failure?_subquery]
      cases items with
      | nil => exact (firstDefect_root rfl).trans Option.some_inj.symm
      | cons item items =>
          rw [firstDefect_branch rfl, if_neg (by simp), ← ih]
          constructor
          · rintro ⟨_ | _ | _, first, -⟩
            · exact first
            · exact absurd first (firstDefect_none fun _ => rfl)
            · exact absurd first (firstDefect_none fun _ => rfl)
          · exact fun first => ⟨.inner, first, nofun⟩
  | join left right on ihLeft ihRight =>
      rw [failure?_join]
      cases on with
      | nil => exact (firstDefect_root rfl).trans Option.some_inj.symm
      | cons condition on =>
          rw [firstDefect_branch rfl, if_neg (by simp), Option.or_eq_some_iff, ← ihLeft, ← ihRight,
            ← sound_iff]
          constructor
          · rintro ⟨_ | _ | _, first, earlier⟩
            · exact absurd first (firstDefect_none fun _ => rfl)
            · exact .inl first
            · exact .inr ⟨earlier rfl, first⟩
          · rintro (first | ⟨earlier, first⟩)
            · exact ⟨.left, first, nofun⟩
            · exact ⟨.right, first, fun _ => earlier⟩

end Source

/-! ## Statements -/

namespace Statement

/-- A statement has the defects of a subquery with the same parts. -/
lemma defect?_eq (s : Statement) :
    s.defect? = (Source.subquery s.select s.source s.clauses "").defect? := by
  funext path
  rcases path with _ | ⟨_ | _ | _, path⟩ <;> rfl

/-- Compiling a statement fails as the segments of that subquery do, however values are passed. -/
lemma failure?_compile (s : Statement) (passing : Passing) : failure? (s.compile passing)
    = failure? (Source.subquery s.select s.source s.clauses "").segments := by
  rw [compile_eq, failure?_map, Source.failure?_subquery, Statement.segments,
    failure?_selectSegments]

/-- Compiling fails with `d` exactly if `d` is the first defect of the statement. -/
lemma compile_eq_error_iff (s : Statement) (passing : Passing) (d : Defect) :
    s.compile passing = .error d ↔ FirstDefect s.defect? d := by
  rw [← failure?_eq_some, failure?_compile, defect?_eq, Source.firstDefect_iff]

lemma compile_eq_ok_iff (s : Statement) (passing : Passing) :
    (∃ c, s.compile passing = .ok c) ↔ ∀ path, s.defect? path = none := by
  rw [← failure?_eq_none, failure?_compile, defect?_eq, Source.sound_iff]

/-- When `compile` fails and with which defect, the same for both passings, and the rejection made
of it. -/
structure Defective (s : Statement) : Prop where
  fails_iff : ∀ passing,
    (∃ d, s.compile passing = .error d) ↔ ∃ path d, s.defect? path = some d
  fails_with : ∀ passing d, s.compile passing = .error d ↔ FirstDefect s.defect? d
  same : ∀ d, s.compile .inline = .error d ↔ s.compile .bound = .error d
  rejected : ∀ passing r, (s.compile passing).mapError Rejection.internal = .error r
    ↔ ∃ d, FirstDefect s.defect? d ∧ r = .internal d
  status : ∀ passing r, (s.compile passing).mapError Rejection.internal = .error r →
    r.kind = .internal ∧ r.status = 500

/-- **`compile` fails exactly for statements with a defect, with the first one in pre-order.**  It
does so for both passings, and the rejection is `internal`. -/
theorem defective (s : Statement) : s.Defective := by
  have rejected : ∀ passing r, (s.compile passing).mapError Rejection.internal = .error r
      ↔ ∃ d, FirstDefect s.defect? d ∧ r = .internal d := by
    intro passing r
    rw [← failure?_eq_some, failure?_mapError, Option.map_eq_some_iff]
    simp only [failure?_eq_some, compile_eq_error_iff, eq_comm (b := r)]
  refine ⟨fun passing => ?_, s.compile_eq_error_iff, fun d => ?_, rejected,
    fun passing r refused => ?_⟩
  · cases found : s.compile passing with
    | ok c =>
        have sound := (s.compile_eq_ok_iff passing).1 ⟨c, found⟩
        exact iff_of_false nofun fun ⟨path, d, defect⟩ => nomatch (sound path).symm.trans defect
    | error d =>
        obtain ⟨path, defect, -⟩ := (s.compile_eq_error_iff passing d).1 found
        exact iff_of_true ⟨d, rfl⟩ ⟨path, d, defect⟩
  · rw [compile_eq_error_iff, compile_eq_error_iff]
  · obtain ⟨d, -, rfl⟩ := (rejected passing r).1 refused
    exact ⟨rfl, rfl⟩

/-- A join is looked at before its sides. -/
example : Statement.compile
    { select := [.wildcard]
      source := .join (.subquery [] (.table "Sales" none) {} "s") (.table "blocks" none) [] }
    .inline = .error .emptyJoinCondition :=
  rfl

end Statement

end SaleSearch.Sql

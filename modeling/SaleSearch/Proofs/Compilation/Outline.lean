import Mathlib.Data.List.Forall2
import SaleSearch.Proofs.Compilation.Agreement
import SaleSearch.Proofs.Text.Alphabet

/-!
# What values sent beside a statement leave in it

If values are sent beside a statement, its text shows where they belong and of which type they are,
but not what they are.

* `Segment.SameOutline` relates segments that show the same, and `fill_bound_of_outline` says that
  nothing else gets into the text.
* `outline_filterSegments` compares the conditions of two requests.
* `bound_independent` is the result for listings and summaries, and for the time at which a summary
  is compiled.
-/

namespace SaleSearch

open Sql Segment Text

namespace Sql

/-- Fixed texts that are equal, or values of one type. -/
inductive Segment.SameOutline : Segment → Segment → Prop where
  | fixed (text : String) : SameOutline (.fixed text) (.fixed text)
  | slot {v w : Value} (type : v.typeName = w.typeName) : SameOutline (.slot v) (.slot w)

/-- Lists of segments that have the same outline one by one. -/
abbrev SameOutlines : List Segment → List Segment → Prop :=
  List.Forall₂ SameOutline

/-- Segments of one outline have the same text with `Passing.bound`, since a placeholder shows the
number and the type of its value only. -/
lemma fill_bound_of_outline {a b : List Segment} (h : SameOutlines a b) (next : Nat) :
    fill .bound next a = fill .bound next b := by
  induction h generalizing next with
  | nil => rfl
  | cons first _ ih =>
      cases first with
      | fixed text => rw [fill, fill, ih]
      | slot type =>
          rw [fill, fill, ih, filling, filling, Binding.placeholder, Binding.placeholder, type]
          rfl

/-- The name and the type of a binding. -/
def Binding.signature (b : Binding) : String × String :=
  (b.name, b.value.typeName)

/-- Segments of one outline have bindings with the same names and types. -/
lemma signatures_of_outline {a b : List Segment} (h : SameOutlines a b) (next : Nat) :
    (numbered next (slots a)).map Binding.signature
      = (numbered next (slots b)).map Binding.signature := by
  induction h generalizing next with
  | nil => rfl
  | cons first _ ih =>
      cases first with
      | fixed text => exact ih next
      | slot type =>
          rw [slots, slots, numbered, numbered, List.map_cons, List.map_cons, ih, Binding.signature,
            Binding.signature, type]
          rfl

lemma over_placeholder (b : Binding) : Over (allBut '\'') b.placeholder := by
  have index : Over (allBut '\'') b.index.repr := (framed_repr _).allBut (by decide)
  have type : Over (allBut '\'') b.value.typeName := by
    cases b.value <;> simp only [Value.typeName] <;> decide
  simp only [Binding.placeholder, Binding.name, over_append, index, type, and_true]
  decide

/-- The text of sound segments with `Passing.bound` has no quotes. -/
lemma quote_notMem_fill_bound {segments : List Segment} (sound : ∀ s ∈ segments, s.Sound)
    (next : Nat) : '\'' ∉ (fill .bound next segments).toList := by
  have unquoted : Over (allBut '\'') (fill .bound next segments) := by
    induction segments generalizing next with
    | nil => exact over_empty _
    | cons s rest ih =>
        have over_rest := ih fun t ht => sound t (by simp [ht])
        cases s with
        | fixed text =>
            have framed : Framed text := sound (.fixed text) (by simp)
            exact over_append.2 ⟨framed.allBut (by decide), over_rest next⟩
        | slot v => exact over_append.2 ⟨over_placeholder _, over_rest (next + 1)⟩
  intro h
  exact absurd (over_iff.1 unquoted _ h) (by decide)

/-! ## Conditions -/

/-- Conditions of one kind over one field, with any values. -/
abbrev Predicate.SameShape : Predicate → Predicate → Prop :=
  Predicate.Like fun _ _ => True

/-- `Formed` conditions of one shape have segments of one outline, since the field decides the type
of the value. -/
lemma outline_segments {p q : Predicate} (formed_p : p.Formed) (formed_q : q.Formed)
    (like : p.SameShape q) : SameOutlines p.segments q.segments := by
  cases like with
  | compare field comparison _ =>
      cases formed_p with
      | compare _ type =>
          cases formed_q with
          | compare _ type' => exact .cons (.fixed _) (.cons (.slot (type.trans type'.symm)) .nil)
  | contains field _ =>
      cases formed_p with
      | contains _ type =>
          cases formed_q with
          | contains _ type' =>
              exact .cons (.fixed _)
                (.cons (.slot (type.trans type'.symm)) (.cons (.fixed _) .nil))
  | window column _ _ =>
      cases formed_p with
      | window bounds =>
          cases formed_q with
          | window bounds' =>
              exact .cons (.fixed _) (.cons (.slot rfl) (.cons (.fixed _) (.cons (.slot rfl) .nil)))

lemma outline_furtherSegments {ps qs : List Predicate} (formed_p : ∀ p ∈ ps, p.Formed)
    (formed_q : ∀ q ∈ qs, q.Formed) (likes : List.Forall₂ Predicate.SameShape ps qs) :
    SameOutlines (furtherSegments ps) (furtherSegments qs) := by
  induction likes with
  | nil => exact .nil
  | cons like _ ih =>
      refine .cons (.fixed _) (List.rel_append
        (outline_segments (formed_p _ (by simp)) (formed_q _ (by simp)) like) ?_)
      exact ih (fun p hp => formed_p p (by simp [hp])) fun q hq => formed_q q (by simp [hq])

/-- `outline_segments` for all conditions of a query. -/
lemma outline_filterSegments {ps qs : List Predicate} (formed_p : ∀ p ∈ ps, p.Formed)
    (formed_q : ∀ q ∈ qs, q.Formed) (likes : List.Forall₂ Predicate.SameShape ps qs) :
    SameOutlines (filterSegments ps) (filterSegments qs) := by
  cases likes with
  | nil => exact .nil
  | cons like likes =>
      have first := outline_segments (formed_p _ (by simp)) (formed_q _ (by simp)) like
      have further := outline_furtherSegments (fun p hp => formed_p p (by simp [hp]))
        (fun q hq => formed_q q (by simp [hq])) likes
      exact .cons (.fixed _) (List.rel_append (List.rel_append first further)
        (.cons (.fixed _) .nil))

/-! ## Statements -/

/-- Compiled statements that may differ in the values sent beside them, and in nothing else. -/
structure Compiled.SameOutline (c c' : Compiled) : Prop where
  sql : c.sql = c'.sql
  signatures : c.bindings.map (fun b => (b.name, b.value.typeName))
    = c'.bindings.map fun b => (b.name, b.value.typeName)
  columns : c.columns = c'.columns
  usesSubquery : c.usesSubquery = c'.usesSubquery

/-- Statements that agree in everything but the values of their conditions have one outline. -/
theorem Statement.sameOutline_compiled {s s' : Statement} (front : s.front = s'.front)
    (arrayJoin : s.clauses.arrayJoinText = s'.clauses.arrayJoinText)
    (tail : s.clauses.tailText = s'.clauses.tailText)
    (formed : ∀ p ∈ s.clauses.filter, p.Formed) (formed' : ∀ p ∈ s'.clauses.filter, p.Formed)
    (likes : List.Forall₂ Predicate.SameShape s.clauses.filter s'.clauses.filter)
    (columns : s.outputNames = s'.outputNames) (usesSubquery : s.hasSubquery = s'.hasSubquery) :
    (s.compiled .bound).SameOutline (s'.compiled .bound) := by
  have outlines : SameOutlines s.framed s'.framed := by
    rw [framed, framed, Clauses.segments, Clauses.segments, front, arrayJoin, tail]
    refine .cons (.fixed _) (.cons (.fixed _) (List.rel_append ?_ (.cons (.fixed _) .nil)))
    exact outline_filterSegments formed formed' likes
  exact ⟨fill_bound_of_outline outlines 0, signatures_of_outline outlines 0, columns, usesSubquery⟩

end Sql

/-! ## Compilations -/

lemma Listing.sameOutline {filter filter' : List Predicate} (formed : ∀ p ∈ filter, p.Formed)
    (formed' : ∀ p ∈ filter', p.Formed)
    (likes : List.Forall₂ Predicate.SameShape filter filter') (direction : SortDirection)
    (limit : Nat) : ((statement filter direction limit).compiled .bound).SameOutline
      ((statement filter' direction limit).compiled .bound) :=
  Statement.sameOutline_compiled rfl rfl rfl formed formed' likes rfl rfl

namespace Summary

/-- The windows of two histories are conditions of one shape. -/
lemma sameShape_windows {window window' : Option (Int × Int)} (h : window.isSome = window'.isSome) :
    List.Forall₂ Predicate.SameShape (window.toList.map windowPredicate)
      (window'.toList.map windowPredicate) := by
  cases window with
  | none =>
      cases window' with
      | none => exact .nil
      | some bounds' => cases h
  | some bounds =>
      cases window' with
      | none => cases h
      | some bounds' => exact .cons (.window _ trivial trivial) .nil

/-- Summaries of one mode that aggregate the same, over conditions of one shape, have one
outline. -/
lemma sameOutline (mode : AggregateMode) {choice choice' : Choice} {filter filter' : List Predicate}
    {window window' : Option (Int × Int)} (formed : ∀ p ∈ filter, p.Formed)
    (formed' : ∀ p ∈ filter', p.Formed) (function : choice.function = choice'.function)
    (argument : choice.argument = choice'.argument)
    (likes : List.Forall₂ Predicate.SameShape filter filter')
    (windows : window.isSome = window'.isSome) :
    ((shape mode choice filter window).compiled .bound).SameOutline
      ((shape mode choice' filter' window').compiled .bound) := by
  have expr : choice.expr = choice'.expr := by
    rw [Choice.expr, Choice.expr, function, argument]
  have sources := source_of_argument argument
  refine Statement.sameOutline_compiled ?_ ?_ ?_ (formed_shape formed mode choice window)
    (formed_shape formed' mode choice' window') ?_ ?_ ?_
  · rw [front_shape, front_shape, expr, sources]
  · cases mode <;> rfl
  · rw [tailText_shape, tailText_shape]
  · cases mode with
    | point => exact likes
    | history => exact List.rel_append likes (sameShape_windows windows)
  · cases mode with
    | point => exact congrArg (fun e : Expr => [e.outputName]) expr
    | history =>
        show (historySelect choice).map _ = (historySelect choice').map _
        rw [historySelect, historySelect, expr]
  · cases mode <;> exact congrArg Source.hasSubquery sources

lemma isSome_window? (range : TimeRange) (now now' : Int) :
    (Window.window? range now).isSome = (Window.window? range now').isSome := by
  cases range <;> rfl

/-- With values bound, the text of a summary depends on whether there is a window, and not on the
window. -/
lemma sql_of_isSome (mode : AggregateMode) (choice : Choice) {filter : List Predicate}
    (formed : ∀ p ∈ filter, p.Formed) {window window' : Option (Int × Int)}
    (h : window.isSome = window'.isSome) :
    ((shape mode choice filter window).compiled .bound).sql
      = ((shape mode choice filter window').compiled .bound).sql := by
  have likes : List.Forall₂ Predicate.SameShape filter filter :=
    List.forall₂_same.2 fun p _ => .refl (fun _ => trivial) p
  exact (sameOutline mode formed formed rfl rfl likes h).sql

/-- With values bound, the text of a summary does not depend on the time. -/
lemma map_sql_compile (request : Request) (mode : AggregateMode) {settings : Settings}
    (passing : settings.passing = .bound) (now now' : Int) :
    (compile request mode settings now).map Compiled.sql
      = (compile request mode settings now').map Compiled.sql := by
  cases mode with
  | point => rfl
  | history =>
      unfold compile statement
      -- what can fail does so without a look at the clock
      cases resolve request settings with
      | error e => rfl
      | ok choice =>
          cases range request settings with
          | error e => rfl
          | ok range =>
              cases assembled : Filter.assemble request .history with
              | error e => rfl
              | ok filter =>
                  show (((shape .history choice filter _).compile _).mapError _).map _
                    = (((shape .history choice filter _).compile _).mapError _).map _
                  rw [compile_shape, compile_shape, passing]
                  exact congrArg Except.ok (sql_of_isSome .history choice
                    (Filter.formed_of_assemble assembled) (isSome_window? range now now'))

end Summary

/-- **With values sent beside it, a text tells nothing about them.**  If two requests agree up to
the values of their conditions and the place of their windows, what they are compiled to differs in
the bound values alone, and there is no quote in it.  Nor does a text depend on when it was
compiled. -/
theorem bound_independent (request request' : Request) (settings settings' : Settings)
    (bound : settings.bindValues = true) (bound' : settings'.bindValues = true) :
    (∀ c c', Listing.compile request settings = .ok c →
        Listing.compile request' settings' = .ok c' →
          Listing.Agree (fun _ _ => True) request request' settings settings' →
            c.SameOutline c' ∧ '\'' ∉ c.sql.toList)
      ∧ (∀ mode now now' c c', Summary.compile request mode settings now = .ok c →
        Summary.compile request' mode settings' now' = .ok c' →
          Summary.Agree (fun _ _ => True) (fun window window' => window.isSome = window'.isSome)
            mode request request' settings settings' now now' →
            c.SameOutline c' ∧ '\'' ∉ c.sql.toList)
      ∧ ∀ mode now now', (Summary.compile request mode settings now).map Compiled.sql
        = (Summary.compile request mode settings now').map Compiled.sql := by
  have passing := passing_of_bound bound
  have passing' := passing_of_bound bound'
  refine ⟨?_, ?_, fun mode now now' => Summary.map_sql_compile request mode passing now now'⟩
  · rintro c c' compiled compiled' ⟨filter, filter', assembled, assembled', likes, direction, limit⟩
    obtain ⟨_, found, rfl⟩ := Listing.compile_eq_ok.1 compiled
    obtain ⟨_, found', rfl⟩ := Listing.compile_eq_ok.1 compiled'
    obtain rfl := Except.ok.inj (assembled.symm.trans found)
    obtain rfl := Except.ok.inj (assembled'.symm.trans found')
    have formed := Filter.formed_of_assemble assembled
    have formed' := Filter.formed_of_assemble assembled'
    rw [passing, passing', ← direction, ← limit]
    exact ⟨Listing.sameOutline formed formed' likes _ _,
      quote_notMem_fill_bound (Listing.sound_framed formed _ _) 0⟩
  · rintro mode now now' c c' compiled compiled' ⟨choice, choice', filter, filter', window, window',
      resolved, resolved', assembled, assembled', ended, ended', function, argument, likes, windows⟩
    obtain ⟨_, _, _, chosen, found, closed, rfl⟩ := Summary.compile_eq_ok.1 compiled
    obtain ⟨_, _, _, chosen', found', closed', rfl⟩ := Summary.compile_eq_ok.1 compiled'
    obtain rfl := Except.ok.inj (resolved.symm.trans chosen)
    obtain rfl := Except.ok.inj (resolved'.symm.trans chosen')
    obtain rfl := Except.ok.inj (assembled.symm.trans found)
    obtain rfl := Except.ok.inj (assembled'.symm.trans found')
    obtain rfl := Except.ok.inj (ended.symm.trans closed)
    obtain rfl := Except.ok.inj (ended'.symm.trans closed')
    have formed := Filter.formed_of_assemble assembled
    have formed' := Filter.formed_of_assemble assembled'
    rw [passing, passing']
    exact ⟨Summary.sameOutline mode formed formed' function argument likes windows,
      quote_notMem_fill_bound (Summary.sound_framed formed mode choice window) 0⟩

/-- One collection over seven days. -/
def weekOfHeroes : Request :=
  .ofPairs [("collection_name", "heroes"), ("range", "7d")]

/-- Another collection over thirty days, which agrees with `weekOfHeroes` up to values. -/
def monthOfVillains : Request :=
  .ofPairs [("collection_name", "villains"), ("range", "30d")]

/-- `weekOfHeroes` and `monthOfVillains` compile to the same texts, with other values bound. -/
theorem bound_independent_weekOfHeroes :
    ∃ listing listing' summary summary',
      Listing.compile weekOfHeroes { bindValues := true } = .ok listing
        ∧ Listing.compile monthOfVillains { bindValues := true } = .ok listing'
        ∧ listing.SameOutline listing' ∧ '\'' ∉ listing.sql.toList
        ∧ Summary.compile weekOfHeroes .history { bindValues := true } 1700000000 = .ok summary
        ∧ Summary.compile monthOfVillains .history { bindValues := true } 1800000000 = .ok summary'
        ∧ summary.SameOutline summary' ∧ '\'' ∉ summary.sql.toList
        ∧ (Summary.compile weekOfHeroes .history { bindValues := true } 1900000000).map Compiled.sql
          = .ok summary.sql := by
  have asked : ∀ scope, Filter.assemble weekOfHeroes scope
      = .ok [.compare .collectionName .equal (.string "heroes")] := by
    intro scope
    cases scope <;> decide +kernel
  have asked' : ∀ scope, Filter.assemble monthOfVillains scope
      = .ok [.compare .collectionName .equal (.string "villains")] := by
    intro scope
    cases scope <;> decide +kernel
  obtain ⟨listing, listed⟩ : ∃ c, Listing.compile weekOfHeroes { bindValues := true } = .ok c :=
    ⟨_, Listing.compile_eq_ok.2 ⟨_, asked _, rfl⟩⟩
  obtain ⟨listing', listed'⟩ : ∃ c,
      Listing.compile monthOfVillains { bindValues := true } = .ok c :=
    ⟨_, Listing.compile_eq_ok.2 ⟨_, asked' _, rfl⟩⟩
  have week : Summary.ends weekOfHeroes .history { bindValues := true } 1700000000
      = .ok (some (1699315200, 1699920000)) := by decide +kernel
  have month : Summary.ends monthOfVillains .history { bindValues := true } 1800000000
      = .ok (some (1797379200, 1799971200)) := by decide +kernel
  obtain ⟨summary, summed⟩ : ∃ c,
      Summary.compile weekOfHeroes .history { bindValues := true } 1700000000 = .ok c :=
    ⟨_, Summary.compile_eq_ok.2 ⟨_, _, _, rfl, asked _, week, rfl⟩⟩
  obtain ⟨summary', summed'⟩ : ∃ c,
      Summary.compile monthOfVillains .history { bindValues := true } 1800000000 = .ok c :=
    ⟨_, Summary.compile_eq_ok.2 ⟨_, _, _, rfl, asked' _, month, rfl⟩⟩
  obtain ⟨forListings, forSummaries, forClock⟩ := bound_independent weekOfHeroes monthOfVillains
    { bindValues := true } { bindValues := true } rfl rfl
  obtain ⟨sameListing, quoteListing⟩ := forListings _ _ listed listed'
    ⟨_, _, asked _, asked' _, .cons (.compare _ _ trivial) .nil, rfl, rfl⟩
  obtain ⟨sameSummary, quoteSummary⟩ := forSummaries .history _ _ _ _ summed summed'
    ⟨_, _, _, _, _, _, rfl, rfl, asked _, asked' _, week, month, rfl, rfl,
      .cons (.compare _ _ trivial) .nil, rfl⟩
  have later := forClock .history 1900000000 1700000000
  rw [summed] at later
  exact ⟨listing, listing', summary, summary', listed, listed', sameListing, quoteListing, summed,
    summed', sameSummary, quoteSummary, later⟩

end SaleSearch

import SaleSearch.Proofs.Compilation.Sound

/-!
# Agreement of compilations

What two requests may have in common: the conditions up to their values, and everything else that
goes into a statement.

* `Listing.Agree` and `Summary.Agree` leave open how values and windows are related.
* `Summary.source_of_argument` shows that what is aggregated decides the source.
-/

namespace SaleSearch

open Sql

namespace Listing

/-- Two listings have conditions with related values, one direction and one limit. -/
def Agree (related : Value → Value → Prop) (request request' : Request)
    (settings settings' : Settings) : Prop :=
  ∃ filter filter', Filter.assemble request .records = .ok filter
    ∧ Filter.assemble request' .records = .ok filter'
    ∧ List.Forall₂ (Predicate.Like related) filter filter'
    ∧ direction request settings = direction request' settings'
    ∧ limit request settings = limit request' settings'

end Listing

lemma AggregateColumn.text_injective {c c' : AggregateColumn} (h : c.text = c'.text) : c = c' :=
  Option.some.inj ((ofToken?_text c).symm.trans (h ▸ ofToken?_text c'))

lemma AggregateColumn.text_ne_empty (c : AggregateColumn) : c.text ≠ "" := by
  cases c <;> decide

namespace Summary

/-- Two summaries of one mode aggregate the same, over conditions with related values and over
related windows. -/
def Agree (related : Value → Value → Prop)
    (windows : Option (Int × Int) → Option (Int × Int) → Prop) (mode : AggregateMode)
    (request request' : Request) (settings settings' : Settings) (now now' : Int) : Prop :=
  ∃ choice choice' filter filter' window window', resolve request settings = .ok choice
    ∧ resolve request' settings' = .ok choice'
    ∧ Filter.assemble request (scope mode) = .ok filter
    ∧ Filter.assemble request' (scope mode) = .ok filter'
    ∧ ends request mode settings now = .ok window
    ∧ ends request' mode settings' now' = .ok window'
    ∧ choice.function = choice'.function ∧ choice.argument = choice'.argument
    ∧ List.Forall₂ (Predicate.Like related) filter filter'
    ∧ windows window window'

/-- Rows are counted over the sales as they are stored. -/
lemma source_of_countsRows {choice : Choice} (h : choice.countsRows = true) :
    source choice.column = source .saleId := by
  simp only [Choice.countsRows, Bool.and_eq_true, Bool.not_eq_true'] at h
  rw [source, if_neg (by simp [h.2])]
  rfl

/-- Choices with one argument have one source: without an argument rows are counted, and else the
argument is the column. -/
lemma source_of_argument {choice choice' : Choice} (h : choice.argument = choice'.argument) :
    source choice.column = source choice'.column := by
  unfold Choice.argument at h
  split at h <;> split at h
  · rename_i rows rows'
    rw [source_of_countsRows rows, source_of_countsRows rows']
  · cases h
  · cases h
  · rw [AggregateColumn.text_injective (congrArg Column.name (Option.some.inj h))]

/-- The written argument decides the argument, since no column has an empty name. -/
lemma argument_of_argumentText {choice choice' : Choice}
    (h : choice.argumentText = choice'.argumentText) : choice.argument = choice'.argument := by
  unfold Choice.argumentText at h
  unfold Choice.argument
  split at h <;> split at h
  · rename_i rows rows'
    rw [if_pos rows, if_pos rows']
  · exact absurd h.symm (AggregateColumn.text_ne_empty _)
  · exact absurd h (AggregateColumn.text_ne_empty _)
  · rename_i named named'
    rw [if_neg named, if_neg named', h]

end Summary

end SaleSearch

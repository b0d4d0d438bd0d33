import SaleSearch.Proofs.Compilation.Frame
import SaleSearch.Proofs.Filter.Formed

/-!
# Sound statements

All segments of a compiled statement are sound: the frame is of the alphabet around values, and the
values are plain.

* `Source.framed_text` decides it for a source.
* `Listing.sound_framed` and `Summary.sound_framed` are the two kinds of statements.
-/

namespace SaleSearch

open Sql Segment Text

namespace Sql

/-- A fixed text that is `Framed`, decided. -/
def Segment.isFramed : Segment → Bool
  | .fixed text => decide (Framed text)
  | .slot _ => false

/-- The source has segments, all of them fixed texts that are `Framed`. -/
def Source.isFramed (source : Source) : Bool :=
  match source.segments with
  | .ok segments => segments.all Segment.isFramed
  | .error _ => false

/-- Framed segments hold no values, so their text is framed for every passing. -/
lemma framed_fill {segments : List Segment} (h : segments.all Segment.isFramed = true)
    (passing : Passing) (next : Nat) : Framed (fill passing next segments) := by
  induction segments generalizing next with
  | nil => rfl
  | cons s rest ih =>
      simp only [List.all_cons, Bool.and_eq_true] at h
      cases s with
      | fixed text => exact over_append.2 ⟨of_decide_eq_true h.1, ih h.2 next⟩
      | slot v => cases h.1

/-- The text of a source with framed segments is framed. -/
lemma Source.framed_text {source : Source} (h : source.isFramed = true) : Framed source.text := by
  cases found : source.segments with
  | error d => simp [Source.isFramed, found] at h
  | ok segments =>
      simp only [Source.isFramed, found] at h
      simp only [Source.text, found]
      exact framed_fill h .inline 0

lemma framed_selectText {items : List SelectItem} (h : ∀ item ∈ items, Framed item.text) :
    Framed (selectText items) := by
  refine over_intercalate (by decide) fun text htext => ?_
  obtain ⟨item, hitem, rfl⟩ := List.mem_map.1 htext
  exact h item hitem

/-- The segments of a statement with framed texts and `Formed` conditions are sound. -/
lemma Statement.sound_framed {s : Statement} (front : Framed s.front)
    (arrayJoin : Framed s.clauses.arrayJoinText) (tail : Framed s.clauses.tailText)
    (formed : ∀ p ∈ s.clauses.filter, p.Formed) : ∀ segment ∈ s.framed, segment.Sound := by
  intro segment h
  simp only [Statement.framed, Clauses.segments, List.cons_append, List.mem_cons, List.mem_append,
    List.not_mem_nil, or_false] at h
  rcases h with rfl | rfl | h | rfl
  · exact front
  · exact arrayJoin
  · exact sound_filterSegments formed segment h
  · exact tail

end Sql

lemma framed_repr (n : Nat) : Framed n.repr :=
  over_iff.2 fun _ hc => isFrame_of_isCode (isCode_of_mem_repr hc)

namespace Listing

lemma framed_head : Framed head := by
  have framed_select : Framed (selectText select) := framed_selectText (by decide +kernel)
  have framed_source : Framed source.text := Source.framed_text (by decide +kernel)
  simp only [head, over_append, framed_select, framed_source]
  decide

/-- The segments of a listing over `Formed` conditions are sound. -/
theorem sound_framed {filter : List Predicate} (formed : ∀ p ∈ filter, p.Formed)
    (direction : SortDirection) (limit : Nat) :
    ∀ s ∈ (statement filter direction limit).framed, s.Sound := by
  refine Statement.sound_framed framed_head (over_empty _) ?_ formed
  have framed_direction : Framed direction.text := by cases direction <;> decide
  rw [tailText_statement]
  simp only [over_append, framed_direction, framed_repr, true_and, and_true]
  decide

end Listing

namespace Summary

lemma Choice.framed_expr (choice : Choice) : Framed choice.expr.text := by
  have framed_function : Framed choice.function.text := by cases choice.function <;> decide
  have framed_argument : Framed choice.argumentText := by
    unfold Choice.argumentText
    split
    · decide
    · cases choice.column <;> decide
  rw [text_expr]
  simp only [over_append, framed_function, framed_argument, true_and]
  decide

lemma framed_lead (mode : AggregateMode) : Framed (lead mode) := by
  cases mode with
  | point => decide
  | history =>
      have framed_keys : Framed (selectText historyKeys) := framed_selectText (by decide +kernel)
      simp only [lead, over_append, framed_keys, true_and]
      decide

lemma framed_turn (mode : AggregateMode) : Framed (turn mode) := by
  cases mode <;> decide

lemma framed_source (column : AggregateColumn) : Framed (source column).text :=
  Source.framed_text (by cases column <;> decide +kernel)

/-- The window that a history adds to its conditions is `Formed` like the others. -/
lemma formed_shape {filter : List Predicate} (formed : ∀ p ∈ filter, p.Formed)
    (mode : AggregateMode) (choice : Choice) (window : Option (Int × Int)) :
    ∀ p ∈ (shape mode choice filter window).clauses.filter, p.Formed := by
  intro p hp
  cases mode with
  | point => exact formed p hp
  | history =>
      rcases List.mem_append.1 hp with hp | hp
      · exact formed p hp
      · obtain ⟨bounds, -, rfl⟩ := List.mem_map.1 hp
        exact .window bounds

/-- The segments of a summary over `Formed` conditions are sound. -/
theorem sound_framed {filter : List Predicate} (formed : ∀ p ∈ filter, p.Formed)
    (mode : AggregateMode) (choice : Choice) (window : Option (Int × Int)) :
    ∀ s ∈ (shape mode choice filter window).framed, s.Sound := by
  have front : Framed (shape mode choice filter window).front := by
    rw [front_shape]
    simp only [over_append, framed_lead, Choice.framed_expr, framed_turn, framed_source, and_self]
  have arrayJoin : Framed (shape mode choice filter window).clauses.arrayJoinText := by
    cases mode <;> exact over_empty _
  have tail : Framed (shape mode choice filter window).clauses.tailText := by
    rw [tailText_shape]
    cases mode <;> decide
  exact Statement.sound_framed front arrayJoin tail (formed_shape formed mode choice window)

end Summary

end SaleSearch

import SaleSearch.Proofs.Filter.Assembled
import SaleSearch.Proofs.Sql.Rendering
import SaleSearch.Summary

/-!
# Well-formed conditions

The conditions that can stand in a compiled statement: those that places of a request give, and the
condition that the window of a history adds.

* `Predicate.Formed` says so of one condition, and `Filter.formed_of_assemble` of all that a request
  gives.
* `Predicate.Formed.sound` is what the text of such a condition is made of.
* `Predicate.Like` relates conditions that may differ in their values only.
-/

namespace SaleSearch

open Sql Text

namespace Sql.Predicate

/-- The conditions of compiled statements: a plain value of the type of its attribute, or the window
of a history. -/
inductive Formed : Predicate → Prop where
  | compare {field : Field} {comparison : Comparison} {v : Value} (plain : v.Plain)
      (type : v.typeName = field.typeName) : Formed (.compare field comparison v)
  | contains {v : Value} (plain : v.Plain) (type : v.typeName = Field.assetIds.typeName) :
      Formed (.contains .assetIds v)
  | window (bounds : Int × Int) : Formed (Summary.windowPredicate bounds)

/-- A condition of a place, and not of a window. -/
def IsAsked : Predicate → Prop
  | .compare .. | .contains .. => True
  | .window .. => False

/-- Conditions that differ in their values only, and in these by a relation. -/
inductive Like (related : Value → Value → Prop) : Predicate → Predicate → Prop where
  | compare (field : Field) (comparison : Comparison) {v w : Value} (values : related v w) :
      Like related (.compare field comparison v) (.compare field comparison w)
  | contains (field : Field) {v w : Value} (values : related v w) :
      Like related (.contains field v) (.contains field w)
  | window (column : Column) {low low' high high' : Value} (lows : related low low')
      (highs : related high high') :
      Like related (.window column low high) (.window column low' high')

/-- Every condition is like itself if every value is related to itself. -/
lemma Like.refl {related : Value → Value → Prop} (h : ∀ v, related v v) (p : Predicate) :
    p.Like related p := by
  cases p with
  | compare field comparison v => exact .compare field comparison (h v)
  | contains field v => exact .contains field (h v)
  | window column low high => exact .window column (h low) (h high)

lemma Like.isAsked_iff {related : Value → Value → Prop} {p q : Predicate} (h : p.Like related q) :
    p.IsAsked ↔ q.IsAsked := by
  cases h <;> rfl

end Sql.Predicate

/-- A slot makes a `Formed` condition of a plain value of its type. -/
lemma Slot.formed_predicate {slot : Slot} {v : Value} (plain : v.Plain)
    (type : v.typeName = slot.field.typeName) : (slot.predicate v).Formed := by
  cases slot with
  | compare comparison field => exact .compare plain type
  | containsAsset => exact .contains plain type

lemma Slot.isAsked_predicate (slot : Slot) (v : Value) : (slot.predicate v).IsAsked := by
  cases slot <;> trivial

namespace Filter

/-- All assembled conditions are `Formed`. -/
theorem formed_of_assemble {request : Request} {scope : Scope} {filter : List Predicate}
    (h : assemble request scope = .ok filter) : ∀ p ∈ filter, p.Formed := by
  intro p hp
  obtain ⟨slot, -, v, hv, rfl⟩ := exists_slot_of_mem_assemble h hp
  exact slot.formed_predicate (plain_of_value? hv) (typeName_of_value? hv)

/-- No assembled condition is a window. -/
theorem isAsked_of_assemble {request : Request} {scope : Scope} {filter : List Predicate}
    (h : assemble request scope = .ok filter) : ∀ p ∈ filter, p.IsAsked := by
  intro p hp
  obtain ⟨slot, -, v, -, rfl⟩ := exists_slot_of_mem_assemble h hp
  exact slot.isAsked_predicate v

end Filter

/-! ## What their text is made of -/

lemma framed_operand (field : Field) : Framed (operand field) := by
  cases field <;> decide

lemma framed_symbol (comparison : Comparison) : Framed comparison.symbol := by
  cases comparison <;> decide

namespace Sql

open Segment

lemma sound_fixed {text : String} (framed : Framed text) : (Segment.fixed text).Sound :=
  framed

/-- The segments of a `Formed` condition are sound. -/
lemma Predicate.Formed.sound {p : Predicate} (formed : p.Formed) : ∀ s ∈ p.segments, s.Sound := by
  cases formed with
  | @compare field comparison v plain type =>
      have front : Framed (operand field ++ " " ++ comparison.symbol ++ " ") := by
        simp only [over_append, framed_operand, framed_symbol, true_and, and_true]
        decide
      exact List.forall_mem_cons.2 ⟨front, List.forall_mem_singleton.2 plain⟩
  | contains plain type =>
      have front : Framed ("has(" ++ Field.assetIds.name ++ ", ") := by decide
      have back : Framed ")" := by decide
      exact List.forall_mem_cons.2
        ⟨front, List.forall_mem_cons.2 ⟨plain, List.forall_mem_singleton.2 back⟩⟩
  | window bounds =>
      have front : Framed (inSeconds Sales.blockTimestamp.qualified ++ " BETWEEN ") := by decide
      have middle : Framed " AND " := by decide
      exact List.forall_mem_cons.2 ⟨front, List.forall_mem_cons.2
        ⟨trivial, List.forall_mem_cons.2 ⟨middle, List.forall_mem_singleton.2 trivial⟩⟩⟩

lemma sound_furtherSegments {predicates : List Predicate} (formed : ∀ p ∈ predicates, p.Formed) :
    ∀ s ∈ furtherSegments predicates, s.Sound := by
  intro s hs
  obtain ⟨p, hp, hs⟩ := List.mem_flatMap.1 hs
  rcases List.mem_cons.1 hs with rfl | hs
  · exact sound_fixed (by decide)
  · exact (formed p hp).sound s hs

lemma sound_filterSegments {predicates : List Predicate} (formed : ∀ p ∈ predicates, p.Formed) :
    ∀ s ∈ filterSegments predicates, s.Sound := by
  cases predicates with
  | nil => simp [filterSegments]
  | cons p rest =>
      intro s hs
      simp only [filterSegments, List.cons_append, List.mem_cons, List.mem_append,
        List.not_mem_nil, or_false] at hs
      rcases hs with rfl | (hs | hs) | rfl
      · exact sound_fixed (by decide)
      · exact (formed p (by simp)).sound s hs
      · exact sound_furtherSegments (fun q hq => formed q (by simp [hq])) s hs
      · exact sound_fixed (by decide)

end Sql

end SaleSearch

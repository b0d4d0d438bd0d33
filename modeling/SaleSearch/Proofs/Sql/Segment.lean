import Mathlib.Tactic.Common
import SaleSearch.Sql.Emission

/-!
# Text with slots

A pass over a statement threads a list of bindings through its text.  Here the text is taken apart
from the passing of values: a list of segments is fixed text with slots, and only `fill` decides
what stands in a slot.

* `fill` is the text, `slots` are the values in the order of the text, and `bindings` are the ones
  sent beside it.
* `fill_append` and `bindings_append` say that two lists filled one after the other, the second with
  the numbers that the first has left, are filled as one.
* `interleave` is the view of a filled list as texts and insertions, `fill_eq_interleave`.
-/

namespace SaleSearch.Sql

/-- A piece of a statement's text: words that are written as they are, or the place of one value. -/
inductive Segment where
  | fixed (text : String)
  | slot (value : Value)

namespace Segment

/-- The values of the slots of a list of segments, from left to right. -/
def slots : List Segment → List Value
  | [] => []
  | .fixed _ :: rest => slots rest
  | .slot v :: rest => v :: slots rest

/-- What a pass writes into the slot of `v` when `next` is the next free number: the literal with
`Passing.inline`, the placeholder of binding number `next` with `Passing.bound`. -/
def filling : Passing → Nat → Value → String
  | .inline, _, v => v.literal
  | .bound, next, v => Binding.placeholder { index := next, value := v }

/-- The text of the segments, with the slots numbered from `next` on. -/
def fill (passing : Passing) (next : Nat) : List Segment → String
  | [] => ""
  | .fixed text :: rest => text ++ fill passing next rest
  | .slot v :: rest => filling passing next v ++ fill passing (next + 1) rest

/-- The bindings of some values, numbered one after the other from `next` on. -/
def numbered (next : Nat) : List Value → List Binding
  | [] => []
  | v :: rest => { index := next, value := v } :: numbered (next + 1) rest

/-- The bindings that a pass over the segments appends to those it is given: none with
`Passing.inline`, those of all slots with `Passing.bound`. -/
def bindings (passing : Passing) (next : Nat) (segments : List Segment) : List Binding :=
  match passing with
  | .inline => []
  | .bound => numbered next (slots segments)

@[simp] lemma slots_append (a b : List Segment) : slots (a ++ b) = slots a ++ slots b := by
  induction a with
  | nil => rfl
  | cons s rest ih => cases s <;> simp [slots, ih]

/-- With `Passing.inline` the text does not depend on the next free number. -/
lemma fill_inline_next (n m : Nat) (segments : List Segment) :
    fill .inline n segments = fill .inline m segments := by
  induction segments generalizing n m with
  | nil => rfl
  | cons s rest ih =>
      cases s with
      | fixed text => rw [fill, fill, ih n m]
      | slot v => rw [fill, fill, ih (n + 1) (m + 1)]; rfl

/-- The second of two lists of segments is filled from the number behind the slots of the first. -/
lemma fill_append_slots (passing : Passing) (next : Nat) (a b : List Segment) :
    fill passing next (a ++ b)
      = fill passing next a ++ fill passing (next + (slots a).length) b := by
  induction a generalizing next with
  | nil => simp [fill, slots]
  | cons s rest ih =>
      cases s with
      | fixed text => simp [fill, slots, ih, String.append_assoc]
      | slot v =>
          have shift : next + 1 + (slots rest).length = next + ((slots rest).length + 1) := by omega
          simp [fill, slots, ih, String.append_assoc, shift]

@[simp] lemma length_numbered (next : Nat) (values : List Value) :
    (numbered next values).length = values.length := by
  induction values generalizing next with
  | nil => rfl
  | cons v rest ih => simp [numbered, ih]

/-- The second of two lists of values is numbered from where the first one ends. -/
lemma numbered_append (next : Nat) (a b : List Value) :
    numbered next (a ++ b) = numbered next a ++ numbered (next + a.length) b := by
  induction a generalizing next with
  | nil => simp [numbered]
  | cons v rest ih =>
      have shift : next + 1 + rest.length = next + (rest.length + 1) := by omega
      simp [numbered, ih, shift]

/-- The binding at place `i` has the number `next + i` and the value at place `i`. -/
lemma map_numbered {α : Type} (f : Binding → α) (next : Nat) (values : List Value) :
    (numbered next values).map f
      = values.mapIdx fun i v => f { index := next + i, value := v } := by
  induction values generalizing next with
  | nil => rfl
  | cons v rest ih =>
      rw [numbered, List.map_cons, ih, List.mapIdx_cons]
      simp [Nat.add_assoc, Nat.add_comm 1]

section Append

variable (passing : Passing) (earlier : List Binding) (a b : List Segment)

/-- `fill_append_slots` in terms of the bindings a pass has made: their count is the next free
number. -/
lemma fill_append :
    fill passing earlier.length (a ++ b)
      = fill passing earlier.length a
        ++ fill passing (earlier ++ bindings passing earlier.length a).length b := by
  rw [fill_append_slots]
  cases passing with
  | inline => exact congrArg (fill .inline earlier.length a ++ ·) (fill_inline_next _ _ b)
  | bound => simp [bindings]

/-- The bindings of two lists of segments are made in two runs, the second of which starts with
those of the first. -/
lemma bindings_append :
    earlier ++ bindings passing earlier.length (a ++ b)
      = earlier ++ bindings passing earlier.length a
        ++ bindings passing (earlier ++ bindings passing earlier.length a).length b := by
  cases passing with
  | inline => simp [bindings]
  | bound => simp [bindings, numbered_append]

end Append

/-! ## Texts and insertions -/

/-- Texts with one insertion between every two of them. -/
def interleave : List String → List String → String
  | [], _ => ""
  | text :: _, [] => text
  | text :: texts, insertion :: insertions => text ++ insertion ++ interleave texts insertions

/-- The texts around the slots: one more than there are slots. -/
def texts : List Segment → List String
  | [] => [""]
  | .fixed text :: rest => (texts rest).modifyHead (text ++ ·)
  | .slot _ :: rest => "" :: texts rest

@[simp] lemma length_texts (segments : List Segment) :
    (texts segments).length = (slots segments).length + 1 := by
  induction segments with
  | nil => rfl
  | cons s rest ih => cases s <;> simp [texts, slots, ih]

lemma interleave_modifyHead (text : String) {texts insertions : List String} (h : texts ≠ []) :
    interleave (texts.modifyHead (text ++ ·)) insertions = text ++ interleave texts insertions := by
  cases texts with
  | nil => exact absurd rfl h
  | cons first rest => cases insertions <;> simp [interleave, String.append_assoc]

/-- There is always a text in front of the first slot, if only the empty one. -/
lemma texts_ne_nil (segments : List Segment) : texts segments ≠ [] := by
  intro h
  simpa [h] using length_texts segments

/-- A filled list is its `texts` with the fillings of its numbered slots in between. -/
lemma fill_eq_interleave (passing : Passing) (next : Nat) (segments : List Segment) :
    fill passing next segments
      = interleave (texts segments)
          ((numbered next (slots segments)).map fun b => filling passing b.index b.value) := by
  induction segments generalizing next with
  | nil => rfl
  | cons s rest ih =>
      cases s with
      | fixed text => rw [fill, texts, interleave_modifyHead _ (texts_ne_nil rest), ih]; rfl
      | slot v => rw [fill, texts, slots, numbered, List.map_cons, interleave, ih]; rfl

end Segment

end SaleSearch.Sql

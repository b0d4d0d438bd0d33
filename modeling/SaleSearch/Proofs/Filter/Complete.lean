import SaleSearch.Proofs.Filter.Assembled

/-!
# Complete conditions

Nothing that a request asks for is lost: if its conditions can be assembled at all, then they are
those of all of its places, in their order.

* `Filter.eq_filterMap_of_assemble` says so.
* `Filter.on` picks the conditions on an attribute, which are those of the places for it
  (`Filter.on_assemble`).
-/

namespace SaleSearch

open Sql

/-- The attribute that a condition is on; a window is not on an attribute of a sale. -/
def Sql.Predicate.field? : Predicate → Option Field
  | .compare field _ _ | .contains field _ => some field
  | .window .. => none

namespace Slot

/-- The condition of a slot, if its parameter has a value. -/
def condition? (request : Request) (slot : Slot) : Option Predicate :=
  match slot.read request with
  | .ok found => found
  | .error _ => none

lemma condition?_eq_some {request : Request} {slot : Slot} {p : Predicate} :
    slot.condition? request = some p ↔ slot.read request = .ok (some p) := by
  unfold condition?
  cases slot.read request <;> simp

/-- The condition of a slot is on the attribute of the slot. -/
lemma field?_condition {request : Request} {slot : Slot} {p : Predicate}
    (h : slot.condition? request = some p) : p.field? = some slot.field := by
  obtain ⟨v, -, rfl⟩ := Filter.exists_value_of_read (condition?_eq_some.1 h)
  cases slot <;> rfl

end Slot

namespace Filter

/-- If no slot fails, `collect` returns the conditions of all slots in their order. -/
lemma eq_filterMap_of_collect {request : Request} {slots : List Slot} {filter : List Predicate}
    (h : collect request slots = .ok filter) :
    filter = slots.filterMap (Slot.condition? request) := by
  induction slots generalizing filter with
  | nil => exact (Except.ok.inj h).symm
  | cons slot rest ih =>
      rw [collect] at h
      cases read : slot.read request with
      | error cause =>
          rw [read] at h
          cases h
      | ok found =>
          rw [read] at h
          obtain ⟨others, collected, rfl⟩ := map_eq_ok.1 h
          have condition : slot.condition? request = found := by rw [Slot.condition?, read]
          rw [List.filterMap_cons, condition, ← ih collected]
          cases found <;> rfl

/-- `collect` depends on what is read at its slots only. -/
lemma collect_congr_read {a b : Request} {slots : List Slot}
    (same : ∀ slot ∈ slots, slot.read a = slot.read b) : collect a slots = collect b slots := by
  induction slots with
  | nil => rfl
  | cons slot rest ih =>
      obtain ⟨here, later⟩ := List.forall_mem_cons.1 same
      rw [collect, collect, here, ih later]

/-- **If no slot fails, `assemble` returns the conditions of all slots of the scope in their
order.** -/
theorem eq_filterMap_of_assemble {request : Request} {scope : Scope} {filter : List Predicate}
    (h : assemble request scope = .ok filter) :
    filter = (slots scope).filterMap (Slot.condition? request) :=
  eq_filterMap_of_collect h

/-- The conditions on an attribute. -/
def on (field : Field) (filter : List Predicate) : List Predicate :=
  filter.filter fun p => p.field? = some field

/-- The conditions on some attributes are the conditions of the slots for these attributes. -/
lemma filter_filterMap_condition? (picks : Option Field → Bool) (request : Request)
    (slots : List Slot) :
    (slots.filterMap (Slot.condition? request)).filter (fun p => picks p.field?)
      = (slots.filter fun slot => picks (some slot.field)).filterMap (Slot.condition? request) := by
  rw [List.filter_filterMap, List.filterMap_filter]
  refine List.filterMap_congr fun slot _ => ?_
  cases condition : slot.condition? request with
  | none => simp
  | some p => simp [Slot.field?_condition condition, Option.filter_some]

/-- `filter_filterMap_condition?` for one attribute. -/
lemma on_filterMap (field : Field) (request : Request) (slots : List Slot) :
    on field (slots.filterMap (Slot.condition? request))
      = (slots.filter fun slot => slot.field = field).filterMap (Slot.condition? request) := by
  rw [on, filter_filterMap_condition? fun found => found = some field]
  simp only [Option.some.injEq]

/-- The assembled conditions on an attribute are those of the slots for it. -/
theorem on_assemble {request : Request} {scope : Scope} {filter : List Predicate}
    (h : assemble request scope = .ok filter) (field : Field) :
    on field filter = ((slots scope).filter fun slot => slot.field = field).filterMap
      (Slot.condition? request) := by
  rw [eq_filterMap_of_assemble h, on_filterMap]

end Filter

end SaleSearch

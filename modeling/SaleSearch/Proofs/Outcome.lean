import Mathlib.Tactic.Common

/-!
# Outcomes

When a computation that may fail succeeds, in terms of the computations it is made of, and how it
fails, if it does.  Of computations in a row it is the first failure that counts, so that the
failure of a whole is put together with `Option.or` from those of its parts.

* `bind_eq_ok` and its companions take a success apart.
* `failure?` is the failure of a computation, and `failure?_bind` the failure of two in a row.
-/

namespace SaleSearch

variable {ε ε' α β : Type}

/-! ## Success -/

/-- Two computations in a row succeed if the first does and then the second. -/
@[simp] lemma bind_eq_ok {x : Except ε α} {f : α → Except ε β} {b : β} :
    (x >>= f) = .ok b ↔ ∃ a, x = .ok a ∧ f a = .ok b := by
  cases x <;> simp [bind, Except.bind]

@[simp] lemma pure_eq_ok {a b : α} : (pure a : Except ε α) = .ok b ↔ a = b := by
  simp [pure, Except.pure]

@[simp] lemma map_eq_ok {x : Except ε α} {f : α → β} {b : β} :
    x.map f = .ok b ↔ ∃ a, x = .ok a ∧ f a = b := by
  cases x <;> simp [Except.map]

/-- `Except.mapError` keeps successes as they are. -/
@[simp] lemma mapError_eq_ok {x : Except ε α} {f : ε → ε'} {a : α} :
    x.mapError f = .ok a ↔ x = .ok a := by
  cases x <;> simp [Except.mapError]

/-! ## Failure -/

/-- The error of a computation, unless it succeeds. -/
def failure? : Except ε α → Option ε
  | .ok _ => none
  | .error e => some e

@[simp] lemma failure?_ok (a : α) : failure? (.ok a : Except ε α) = none :=
  rfl

@[simp] lemma failure?_error (e : ε) : failure? (.error e : Except ε α) = some e :=
  rfl

lemma failure?_eq_some {x : Except ε α} {e : ε} : failure? x = some e ↔ x = .error e := by
  cases x <;> simp

lemma failure?_eq_none {x : Except ε α} : failure? x = none ↔ ∃ a, x = .ok a := by
  cases x <;> simp

@[simp] lemma failure?_map (x : Except ε α) (f : α → β) : failure? (x.map f) = failure? x := by
  cases x <;> rfl

@[simp] lemma failure?_mapError (x : Except ε α) (f : ε → ε') :
    failure? (x.mapError f) = (failure? x).map f := by
  cases x <;> rfl

/-- Two computations in a row fail as the first does, or else as the second, which fails in one way
whatever the first one gives. -/
lemma failure?_bind {x : Except ε α} {f : α → Except ε β} {second : Option ε}
    (h : ∀ a, x = .ok a → failure? (f a) = second) :
    failure? (x >>= f) = (failure? x).or second := by
  cases x with
  | ok a => exact h a rfl
  | error e => rfl

/-- If the second of two computations never fails, both fail as the first does. -/
lemma failure?_bind_of_none {x : Except ε α} {f : α → Except ε β}
    (h : ∀ a, x = .ok a → failure? (f a) = none) : failure? (x >>= f) = failure? x := by
  rw [failure?_bind h, Option.or_none]

/-- `List.findSome?` over a list with a head, as an `Option.or`. -/
lemma findSome?_cons_or (f : α → Option β) (a : α) (rest : List α) :
    (a :: rest).findSome? f = (f a).or (rest.findSome? f) := by
  rw [List.findSome?_cons]
  cases f a <;> rfl

end SaleSearch

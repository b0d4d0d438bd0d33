import SaleSearch.Proofs.Catalog.Tracking

/-!
# Retired generations

A generation is retired once its kind has been invalidated after it.  No lookup joins it any more,
so that nothing but a reply to its fetch or a cancellation of one of its lookups can reach it; and
as long as neither comes, the rest of the session goes on as if the generation were in another
state.

* `Generation.Ignores` says of an action that it passes a generation by.
* `Session.step_put` and `Session.run_put`: to replace the state of a retired generation and to go
  on come to the same in either order, as long as both states ignore what is done.
* `Session.sameFuture_put` is what can be seen of that.
-/

namespace SaleSearch.Catalog

/-- The action does not reach the generation, unless it is a lookup that joins it. -/
def Generation.Ignores (g : Generation) : Action → Prop
  | .cancel lookup => g.has lookup = false
  | .answer fetch _ => g.awaits fetch = false
  | _ => True

/-- An answered generation is passed by whatever is done. -/
lemma Generation.ignores_answered (set : List String) (action : Action) :
    (Generation.answered set).Ignores action := by
  cases action with
  | cancel | answer => rfl
  | hold | gate | start | invalidate => trivial

namespace Session

/-- The kind has been invalidated since the generation was the current one. -/
def IsRetired (s : Session) (e : Edition) : Prop :=
  e.number < s.invalidations e.kind

variable {s : Session} {e : Edition} {g : Generation}

lemma put_self : s.put e (s.generations e) = s := by
  have same : (fun e' => if e' = e then s.generations e else s.generations e')
      = s.generations := by
    funext e'
    split
    · rename_i here
      rw [here]
    · rfl
  rw [put, same]

lemma put_put {g' : Generation} : (s.put e g).put e g' = s.put e g' := by
  have same : (fun e' => if e' = e then g' else (s.put e g).generations e')
      = fun e' => if e' = e then g' else s.generations e' := by
    funext e'
    split
    · rfl
    · rename_i other
      exact put_generations_of_ne other
  rw [put, same]
  rfl

/-- The states of two generations can be replaced in either order. -/
lemma put_comm {e' : Edition} {g' : Generation} (other : e' ≠ e) :
    (s.put e g).put e' g' = (s.put e' g').put e g := by
  have same : (fun i => if i = e' then g' else (s.put e g).generations i)
      = fun i => if i = e then g else (s.put e' g').generations i := by
    funext i
    by_cases here : i = e
    · rw [if_pos here, here, if_neg (Ne.symm other), put_generations_self]
    · rw [if_neg here, put_generations_of_ne here]
      rfl
  rw [put, same]
  rfl

/-- A retired generation is not the current one of any kind. -/
lemma IsRetired.ne_edition (h : s.IsRetired e) (kind : Kind) : s.edition kind ≠ e := by
  rintro rfl
  exact Nat.lt_irrefl _ h

lemma isLoaded_put (retired : s.IsRetired e) (kind : Kind) :
    (s.put e g).isLoaded kind = s.isLoaded kind :=
  congrArg Generation.isAnswered (put_generations_of_ne (retired.ne_edition kind))

/-! ## Steps -/

/-- A change of one generation and the replacement of another come to the same in either order. -/
lemma commit_put {e' : Edition} (other : e' ≠ e) (changed : Generation × List Event) :
    (s.put e g).commit e' changed = ((s.commit e' changed).1.put e g, (s.commit e' changed).2) := by
  have replied : (s.put e g).reply e'.kind changed = s.reply e'.kind changed := rfl
  rcases shown : s.reply e'.kind changed with ⟨h, events⟩
  rw [commit_of_reply (replied.trans shown), commit_of_reply shown, put_comm other]
  rfl

/-- The same for a change that picks neither the old state of the replaced generation nor the new
one. -/
lemma change_put {picks : Generation → Bool} {how : Generation → Generation × List Event}
    (before : picks (s.generations e) = false) (after : picks g = false) :
    (s.put e g).change picks how
      = ((s.change picks how).1.put e g, (s.change picks how).2) := by
  have same : (fun e' => picks ((s.put e g).generations e'))
      = fun e' => picks (s.generations e') := by
    funext e'
    by_cases here : e' = e
    · rw [here, put_generations_self, after, before]
    · rw [put_generations_of_ne here]
  have editions : (s.put e g).editions = s.editions := rfl
  rw [change, change, same, editions]
  cases found : s.editions.find? fun e' => picks (s.generations e') with
  | none => rfl
  | some e' =>
      have other : e' ≠ e := by
        rintro rfl
        have holds : picks (s.generations e') = true := by simpa using List.find?_some found
        simp [before] at holds
      simp only [put_generations_of_ne other]
      exact commit_put other _

/-- A step and the replacement of a retired generation that ignores it come to the same in either
order. -/
theorem step_put (retired : s.IsRetired e) {action : Action}
    (before : (s.generations e).Ignores action) (after : g.Ignores action) :
    (s.put e g).step action = ((s.step action).1.put e g, (s.step action).2) := by
  cases action with
  | hold | gate | invalidate => rfl
  | start kind question =>
      have other := retired.ne_edition kind
      rw [step, step, start, start, ← commit_put other]
      show _ = ({ s with lookups := s.lookups + 1 }.put e g).commit (s.edition kind) _
      rw [← put_generations_of_ne (g := g) other]
      rfl
  | cancel lookup => exact change_put before after
  | answer fetch reply => exact change_put before after

/-- A retired generation that ignores an action stays as it is. -/
lemma generations_step (retired : s.IsRetired e) {action : Action}
    (ignores : (s.generations e).Ignores action) :
    (s.step action).1.generations e = s.generations e := by
  have same := step_put retired ignores ignores
  rw [put_self] at same
  rw [same, put_generations_self]

/-- A change of a generation invalidates nothing. -/
lemma change_invalidations (picks : Generation → Bool)
    (how : Generation → Generation × List Event) :
    (s.change picks how).1.invalidations = s.invalidations := by
  rcases s.change_cases picks how with unchanged | ⟨e, -, changed⟩
  · rw [unchanged]
  · rw [changed]
    rfl

/-- The count of a kind only changes by an invalidation of that kind. -/
lemma invalidations_step {action : Action} {kind : Kind} (other : action ≠ .invalidate kind) :
    (s.step action).1.invalidations kind = s.invalidations kind := by
  cases action with
  | hold | gate | start => rfl
  | invalidate kind' =>
      have different : kind ≠ kind' := fun same => other (by rw [same])
      simp [step, invalidate, different]
  | cancel lookup => rw [step, cancel, change_invalidations]
  | answer fetch reply => rw [step, answer, change_invalidations]

lemma invalidations_run {actions : List Action} {kind : Kind}
    (quiet : .invalidate kind ∉ actions) :
    (s.run actions).1.invalidations kind = s.invalidations kind := by
  induction actions generalizing s with
  | nil => rfl
  | cons action rest ih =>
      obtain ⟨other, later⟩ := not_or.1 (List.mem_cons.not.1 quiet)
      exact (ih later).trans (invalidations_step (Ne.symm other))

lemma IsRetired.step (h : s.IsRetired e) (action : Action) : (s.step action).1.IsRetired e := by
  by_cases again : action = .invalidate e.kind
  · subst again
    exact Nat.lt_of_lt_of_le h (Nat.le_add_right _ _)
  · rw [IsRetired, invalidations_step again]
    exact h

/-! ## Runs -/

/-- A run and the replacement of a retired generation that ignores its actions come to the same in
either order. -/
theorem run_put (retired : s.IsRetired e) {actions : List Action}
    (before : ∀ action ∈ actions, (s.generations e).Ignores action)
    (after : ∀ action ∈ actions, g.Ignores action) :
    (s.put e g).run actions = ((s.run actions).1.put e g, (s.run actions).2) := by
  induction actions generalizing s with
  | nil => rfl
  | cons action rest ih =>
      obtain ⟨here, before⟩ := List.forall_mem_cons.1 before
      obtain ⟨there, after⟩ := List.forall_mem_cons.1 after
      rw [← generations_step retired here] at before
      simp only [run, step_put retired here there, ih (retired.step action) before after]

lemma IsRetired.run (h : s.IsRetired e) (actions : List Action) :
    (s.run actions).1.IsRetired e := by
  induction actions generalizing s with
  | nil => exact h
  | cons action rest ih => exact ih (h.step action)

/-- The same is seen of two sessions in the course of some actions, and then the same is loaded. -/
def SameFuture (s s' : Session) (actions : List Action) : Prop :=
  (s'.run actions).2 = (s.run actions).2
    ∧ ∀ kind, (s'.run actions).1.isLoaded kind = (s.run actions).1.isLoaded kind

/-- The state of a retired generation is of no consequence to a run that passes it by. -/
theorem sameFuture_put (retired : s.IsRetired e) {actions : List Action}
    (before : ∀ action ∈ actions, (s.generations e).Ignores action)
    (after : ∀ action ∈ actions, g.Ignores action) : s.SameFuture (s.put e g) actions := by
  rw [SameFuture, run_put retired before after]
  exact ⟨rfl, isLoaded_put (retired.run actions)⟩

end Session

end SaleSearch.Catalog

import SaleSearch.Proofs.Catalog.Part

/-!
# Kinds do not interfere

What is done to one kind is not noticed by the others, and what becomes of a kind does not depend on
them.  An action that does not concern a kind leaves its part as it is; one that does is an action
of the part alone.  So the observations of a kind are those of a session in which nothing but its
own actions happen, in the numbers that lookups and fetches have within the kind.

* `Record.concerns` says which kinds an action concerns.
* `Tracks.untouched_step` and `Tracks.step_part` are the two halves of the argument for a step, and
  `Tracks.outcomes_part` is their induction over a run.
* `KindsApart` says all that of the session after some actions, and `kindsApart` is the result.
-/

namespace SaleSearch.Catalog

/-! ## Actions that concern a kind -/

/-- Does an action concern a kind?  An answer concerns the kind that was fetched, a cancellation the
one that was looked up, and a gate all of them. -/
def Record.concerns (r : Record) (kind : Kind) : Action → Bool
  | .hold k _ | .start k _ | .invalidate k => k = kind
  | .gate _ => true
  | .answer fetch _ => kind.owns r.served fetch
  | .cancel lookup => kind.owns r.joined lookup

/-- Only a gate concerns more than one kind. -/
lemma Record.concerns_unique {r : Record} {kind kind' : Kind} {action : Action}
    (one : ∀ on, action ≠ .gate on) (h : r.concerns kind action = true)
    (h' : r.concerns kind' action = true) : kind' = kind := by
  cases action with
  | gate on => exact absurd rfl (one on)
  | hold k reply | start k question | invalidate k =>
      exact (of_decide_eq_true h').symm.trans (of_decide_eq_true h)
  | answer fetch reply => exact Kind.owns_unique h h'
  | cancel lookup => exact Kind.owns_unique h h'

/-- The numbers keep apart the lookups and the fetches of a kind. -/
structure Numbering.Separates (ν : Numbering) (kind : Kind) (r : Record) : Prop where
  lookups : ∀ i j, kind.owns r.joined i = true → kind.owns r.joined j = true →
    ν.lookup i = ν.lookup j → i = j
  fetches : ∀ i j, kind.owns r.served i = true → kind.owns r.served j = true →
    ν.fetch i = ν.fetch j → i = j

namespace Tracks

variable {r : Record} {s : Session} {ν : Numbering} {kind : Kind} {action : Action}

/-- What is seen of an action is seen of a kind that it concerns. -/
lemma concerns_of_seen (h : Tracks r s) (coherent : Coherent r) {o : Occurrence}
    (seen : o ∈ (s.step action).2) : r.concerns o.edition.kind action = true := by
  cases action with
  | hold | gate | invalidate => cases seen
  | start k question =>
      rw [(Session.mem_commit.1 seen).1]
      exact decide_eq_true rfl
  | answer fetch reply =>
      have issued := h.served_of_awaits coherent (Session.mem_change seen).1
      exact Kind.owns_iff.2 ⟨o.edition, issued, rfl⟩
  | cancel lookup =>
      have begun := h.joined_of_has coherent (Session.mem_change seen).1
      exact Kind.owns_iff.2 ⟨o.edition, begun, rfl⟩

/-- What does not concern a kind leaves it untouched. -/
theorem untouched_step (h : Tracks r s) (coherent : Coherent r)
    (other : r.concerns kind action = false) : s.Untouched kind (s.step action).1 := by
  cases action with
  | hold k reply =>
      have different : ¬kind = k := fun same => by simp [Record.concerns, same] at other
      exact ⟨fun _ _ => rfl, rfl, if_neg different, rfl⟩
  | gate on => cases other
  | start k question =>
      exact Session.untouched_start (by simpa [Record.concerns] using other) question
  | answer fetch reply =>
      refine Session.untouched_change fun e here => ?_
      rw [Record.concerns, Kind.owns_eq (h.served_of_awaits coherent here)] at other
      exact of_decide_eq_false other
  | cancel lookup =>
      refine Session.untouched_change fun e here => ?_
      rw [Record.concerns, Kind.owns_eq (h.joined_of_has coherent here)] at other
      exact of_decide_eq_false other
  | invalidate k =>
      have different : ¬kind = k := fun same => by simp [Record.concerns, same] at other
      exact ⟨fun _ _ => rfl, by simp [Session.step, Session.invalidate, different], rfl, rfl⟩

/-- For what concerns a kind, to take its part and to go on come to the same in either order. -/
theorem step_part (h : Tracks r s) (coherent : Coherent r) (apart : ν.Separates kind r)
    (own : r.concerns kind action = true)
    (lookups : ν.lookup (s.step action).1.lookups
      = ν.lookup s.lookups + (r.begins action).length)
    (fetches : ν.fetch (s.step action).1.fetches
      = ν.fetch s.fetches + (fetchesSeen (s.step action).2).length) :
    (s.part ν kind).step (action.renumber ν)
      = ((s.step action).1.part ν kind, (s.step action).2.map (Occurrence.renumber ν)) := by
  cases action with
  | hold k reply =>
      obtain rfl : k = kind := by simpa [Record.concerns] using own
      exact Prod.ext Session.hold_part rfl
  | gate on => rfl
  | start k question =>
      obtain rfl : k = kind := by simpa [Record.concerns] using own
      exact Session.start_part lookups fetches
  | answer fetch reply =>
      refine Session.change_part rfl ?_ ?_ ?_ ?_ ?_ fetches
      · exact fun e here => Session.mem_editions.2 (h.begun (p := fun g => g.awaits fetch) rfl here)
      · exact fun e e' here there => h.eq_of_awaits coherent here there
      · intro e here
        rw [Record.concerns, Kind.owns_eq (h.served_of_awaits coherent here)] at own
        exact of_decide_eq_true own
      · intro e mine
        refine Generation.awaits_renumber fun f awaits => ?_
        exact apart.fetches f fetch
          (Kind.owns_iff.2 ⟨e, h.served_of_awaits coherent awaits, mine⟩) own
      · exact fun e mine => Generation.answer_renumber _
  | cancel lookup =>
      have distinct : ∀ e : Edition, e.kind = kind → ∀ l, (s.generations e).has l = true →
          ν.lookup l = ν.lookup lookup → l = lookup := fun e mine l has =>
        apart.lookups l lookup (Kind.owns_iff.2 ⟨e, h.joined_of_has coherent has, mine⟩) own
      refine Session.change_part rfl ?_ ?_ ?_ ?_ ?_ fetches
      · exact fun e here => Session.mem_editions.2 (h.begun (p := fun g => g.has lookup) rfl here)
      · exact fun e e' here there => h.eq_of_has coherent here there
      · intro e here
        rw [Record.concerns, Kind.owns_eq (h.joined_of_has coherent here)] at own
        exact of_decide_eq_true own
      · exact fun e mine => Generation.has_renumber (distinct e mine)
      · exact fun e mine => Generation.drop_renumber (distinct e mine) s.fetches
  | invalidate k =>
      obtain rfl : k = kind := by simpa [Record.concerns] using own
      exact Prod.ext Session.invalidate_part rfl

end Tracks

/-! ## In the numbers of the kind -/

namespace Record.Extends

variable {r r' : Record} {kind : Kind}

/-- The numbers within a kind of a later record keep apart what was there before. -/
lemma separates (h : r.Extends r') (kind : Kind) : (r'.numbering kind).Separates kind r where
  lookups := by
    intro i j hi hj same
    rw [h.lookup_eq (Nat.le_of_lt (Kind.lt_of_owns hi)),
      h.lookup_eq (Nat.le_of_lt (Kind.lt_of_owns hj))] at same
    exact Kind.rank_inj hi hj same
  fetches := by
    intro i j hi hj same
    rw [h.fetch_eq (Nat.le_of_lt (Kind.lt_of_owns hi)),
      h.fetch_eq (Nat.le_of_lt (Kind.lt_of_owns hj))] at same
    exact Kind.rank_inj hi hj same

/-- What concerns a kind is numbered as before. -/
lemma renumber_eq (h : r.Extends r') {action : Action} (own : r.concerns kind action = true) :
    action.renumber (r'.numbering kind) = action.renumber (r.numbering kind) := by
  cases action with
  | hold | gate | start | invalidate => rfl
  | answer fetch reply =>
      exact congrArg (Action.answer · reply) (h.fetch_eq (Nat.le_of_lt (Kind.lt_of_owns own)))
  | cancel lookup =>
      exact congrArg Action.cancel (h.lookup_eq (Nat.le_of_lt (Kind.lt_of_owns own)))

end Record.Extends

namespace Tracks

variable {r : Record} {s : Session} {kind : Kind} {action : Action}

/-- What is in a generation is numbered as before. -/
lemma generations_eq (h : Tracks r s) (coherent : Coherent r) {r' : Record} (grown : r.Extends r')
    (e : Edition) : (s.generations e).renumber (r'.numbering kind)
      = (s.generations e).renumber (r.numbering kind) := by
  refine Generation.renumber_congr (fun l has => ?_) fun f awaits => ?_
  · have begun := h.joined_of_has coherent has
    exact grown.lookup_eq (Nat.le_of_lt (List.getElem?_eq_some_iff.1 begun).1)
  · have issued := h.served_of_awaits coherent awaits
    exact grown.fetch_eq (Nat.le_of_lt (List.getElem?_eq_some_iff.1 issued).1)

/-- The part of a kind is the same in the numbers of a later record. -/
lemma part_eq (h : Tracks r s) (coherent : Coherent r) {r' : Record} (grown : r.Extends r') :
    s.part (r'.numbering kind) kind = s.part (r.numbering kind) kind :=
  Session.part_eq_part (fun e _ => h.generations_eq coherent grown e) rfl rfl rfl
    (grown.lookup_eq (Nat.le_of_eq h.length_joined.symm))
    (grown.fetch_eq (Nat.le_of_eq h.length_served.symm))

/-- An action that concerns a kind begins lookups of that kind only. -/
lemma begins_of_concerns (own : r.concerns kind action = true) :
    (r.begins action).countP (fun e => e.kind = kind) = (r.begins action).length := by
  rw [List.countP_eq_length]
  intro e he
  cases action with
  | start k question =>
      obtain rfl := List.mem_singleton.1 he
      exact own
  | hold | gate | answer | cancel | invalidate => cases he

/-- An action that does not concern a kind begins none of its lookups. -/
lemma begins_of_not_concerns (other : r.concerns kind action = false) :
    (r.begins action).countP (fun e => e.kind = kind) = 0 := by
  rw [List.countP_eq_zero]
  intro e he
  cases action with
  | start k question =>
      obtain rfl := List.mem_singleton.1 he
      exact ne_true_of_eq_false other
  | hold | gate | answer | cancel | invalidate => cases he

/-- All that is seen of an action that concerns a kind is seen of that kind. -/
lemma kind_of_seen (h : Tracks r s) (coherent : Coherent r) (own : r.concerns kind action = true)
    {o : Occurrence} (seen : o ∈ (s.step action).2) : o.edition.kind = kind := by
  refine Record.concerns_unique (fun on gate => ?_) own (h.concerns_of_seen coherent seen)
  subst gate
  cases seen

/-- `step_part` in the numbers that the record tells. -/
theorem step_part_numbering (h : Tracks r s) (coherent : Coherent r)
    (own : r.concerns kind action = true) :
    let ν := (r.next s action).numbering kind
    (s.part (r.numbering kind) kind).step (action.renumber (r.numbering kind))
      = ((s.step action).1.part ν kind, (s.step action).2.map (Occurrence.renumber ν)) := by
  have grown := r.extends_next s action
  have all_own : (fetchesSeen (s.step action).2).countP (fun o => o.edition.kind = kind)
      = (fetchesSeen (s.step action).2).length :=
    List.countP_eq_length.2 fun o ho =>
      decide_eq_true (h.kind_of_seen coherent own (List.mem_of_mem_filter ho))
  have lookups := h.lookups_next coherent kind action
  have fetches := h.fetches_next coherent kind action
  rw [begins_of_concerns own] at lookups
  rw [all_own] at fetches
  rw [← h.part_eq coherent grown, ← grown.renumber_eq own]
  exact h.step_part coherent (grown.separates kind) own lookups fetches

/-- An action that does not concern a kind leaves its part as it is, also in the new numbers. -/
theorem part_step_eq (h : Tracks r s) (coherent : Coherent r)
    (other : r.concerns kind action = false) :
    (s.step action).1.part ((r.next s action).numbering kind) kind
      = s.part (r.numbering kind) kind := by
  have untouched := h.untouched_step coherent other
  have none_own : (fetchesSeen (s.step action).2).countP (fun o => o.edition.kind = kind) = 0 := by
    rw [List.countP_eq_zero]
    intro o ho here
    have concerns := h.concerns_of_seen coherent (List.mem_of_mem_filter ho)
    rw [of_decide_eq_true here, other] at concerns
    cases concerns
  have lookups := h.lookups_next coherent kind action
  have fetches := h.fetches_next coherent kind action
  rw [begins_of_not_concerns other] at lookups
  rw [none_own] at fetches
  refine (Session.part_eq_part (fun e own => ?_) untouched.invalidations untouched.reply
    untouched.gated lookups fetches).trans (h.part_eq coherent (r.extends_next s action))
  rw [untouched.generations e own]

end Tracks

/-! ## Runs -/

/-- What somebody sees of an action who knows of one kind only: what comes of it, and whether the
kind is loaded then. -/
structure Observation where
  action : Action
  seen : List Occurrence
  loaded : Bool

namespace Session

/-- What is seen of a kind in the course of some actions, in the numbers of the kind. -/
def observe (kind : Kind) (r : Record) (s : Session) : List Action → List Observation
  | [] => []
  | action :: rest =>
      let after := (s.step action).1
      let later := after.observe kind (r.next s action) rest
      if r.concerns kind action then
        { action := action.renumber (r.numbering kind)
          seen := (s.step action).2.map (Occurrence.renumber ((r.next s action).numbering kind))
          loaded := after.isLoaded kind } :: later
      else later

/-- The observations of a kind in a session from its beginning. -/
def observations (kind : Kind) (actions : List Action) : List Observation :=
  ({} : Session).observe kind {} actions

/-- What comes of some actions that are all there are. -/
def outcomes (kind : Kind) (s : Session) : List Action → List Observation
  | [] => []
  | action :: rest =>
      { action, seen := (s.step action).2, loaded := (s.step action).1.isLoaded kind }
        :: (s.step action).1.outcomes kind rest

end Session

/-- By induction on the actions: one that concerns the kind is an action of its part, and any other
leaves the part as it is. -/
theorem Tracks.outcomes_part {r : Record} {s : Session} (h : Tracks r s) (coherent : Coherent r)
    (kind : Kind) (actions : List Action) :
    (s.part (r.numbering kind) kind).outcomes kind
        ((s.observe kind r actions).map Observation.action)
      = s.observe kind r actions := by
  induction actions generalizing r s with
  | nil => rfl
  | cons action rest ih =>
      have later := ih (h.next coherent action) (h.coherent_next coherent action)
      rw [Session.observe]
      cases own : r.concerns kind action with
      | true =>
          have step := h.step_part_numbering coherent own
          rw [if_pos rfl, List.map_cons, Session.outcomes, step, later, Session.isLoaded_part]
      | false =>
          rw [if_neg Bool.false_ne_true, ← h.part_step_eq coherent own]
          exact later

/-! ## The result -/

/-- The numbers keep the lookups and the fetches of a kind apart, and go on from there one by
one. -/
structure Numbering.Fits (ν : Numbering) (kind : Kind) (r : Record) : Prop
    extends ν.Separates kind r where
  lookups_from : ∀ n, ν.lookup (r.lookups.length + n) = ν.lookup r.lookups.length + n
  fetches_from : ∀ n, ν.fetch (r.fetches.length + n) = ν.fetch r.fetches.length + n

/-- Nothing happens to a kind. -/
structure Session.Undisturbed (kind : Kind) (s : Session) (after : Session × List Occurrence) :
    Prop where
  untouched : s.Untouched kind after.1
  loaded : after.1.isLoaded kind = s.isLoaded kind
  unseen : ∀ o ∈ after.2, o.edition.kind ≠ kind

/-- The same happens to a kind, but for the numbers. -/
structure Session.SameEffect (kind : Kind) (ν μ : Numbering)
    (after after' : Session × List Occurrence) : Prop where
  seen : after.2.map (Occurrence.renumber ν) = after'.2.map (Occurrence.renumber μ)
  part : after.1.part ν kind = after'.1.part μ kind
  loaded : after.1.isLoaded kind = after'.1.isLoaded kind

/-- What a kind has to do with the others in the session after some actions: steps on others leave
it `Undisturbed`, and steps on it have the `SameEffect` wherever its own part is the same. -/
structure KindsApart (actions : List Action) (kind : Kind) : Prop where
  single : ∀ action other, (∀ on, action ≠ .gate on) →
    (Session.recorded actions).concerns kind action = true →
      (Session.recorded actions).concerns other action = true → other = kind
  /-- What does not concern a kind is not noticed there. -/
  undisturbed : ∀ action, (Session.recorded actions).concerns kind action = false →
    (Session.after actions).Undisturbed kind ((Session.after actions).step action)
  /-- The effect depends on nothing but the part of the kind, in whatever numbers. -/
  determined : ∀ others (ν μ : Numbering), ν.Fits kind (Session.recorded actions) →
    μ.Fits kind (Session.recorded others) →
      (Session.after actions).part ν kind = (Session.after others).part μ kind →
        ∀ action action', (Session.recorded actions).concerns kind action = true →
          (Session.recorded others).concerns kind action' = true →
            action.renumber ν = action'.renumber μ →
              Session.SameEffect kind ν μ ((Session.after actions).step action)
                ((Session.after others).step action')
  /-- Without the actions of the other kinds the same is observed. -/
  alone : ({} : Session).outcomes kind
      ((Session.observations kind actions).map Observation.action)
    = Session.observations kind actions
  /-- With other actions of the other kinds the same is observed. -/
  mixed : ∀ others, (Session.observations kind others).map Observation.action
      = (Session.observations kind actions).map Observation.action →
    Session.observations kind others = Session.observations kind actions
  /-- Invalidating all kinds is invalidating each of them, in any order. -/
  invalidate_all : ∀ kinds : List Kind, kinds.Perm Kind.all →
    (Session.after actions).run (kinds.map .invalidate)
        = (Session.after actions).run Action.invalidateAll
      ∧ (Session.after actions).run Action.invalidateAll
        = ({ Session.after actions with
              invalidations := fun k => (Session.after actions).invalidations k + 1 }, [])

namespace Session

lemma part_empty (kind : Kind) :
    ({} : Session).part (({} : Record).numbering kind) kind = {} := by
  have idle : (fun e : Edition => if e.kind = kind
      then Generation.idle.renumber (({} : Record).numbering kind) else .idle)
        = fun _ => .idle := by
    funext e
    split <;> rfl
  simp only [part, ite_self, idle]
  rfl

/-- Each kind is invalidated as often as it occurs. -/
lemma run_invalidate (s : Session) (kinds : List Kind) :
    s.run (kinds.map .invalidate)
      = ({ s with invalidations := fun k => s.invalidations k + kinds.count k }, []) := by
  induction kinds generalizing s with
  | nil => rfl
  | cons kind rest ih =>
      have counted : (fun k => (s.invalidate kind).invalidations k + rest.count k)
          = fun k => s.invalidations k + (kind :: rest).count k := by
        funext k
        simp only [invalidate, List.count_cons, beq_iff_eq, eq_comm (a := kind)]
        omega
      have later := ih (s.invalidate kind)
      rw [counted] at later
      simp only [List.map_cons, run, step, later, List.nil_append]
      rfl

end Session

/-- `Tracks.step_part` in any numbers that go on one by one. -/
lemma Tracks.step_fits {r : Record} {s : Session} (h : Tracks r s) (coherent : Coherent r)
    {ν : Numbering} {kind : Kind} (fits : ν.Fits kind r) {action : Action}
    (own : r.concerns kind action = true) :
    (s.part ν kind).step (action.renumber ν)
      = ((s.step action).1.part ν kind, (s.step action).2.map (Occurrence.renumber ν)) := by
  have lookups := (h.next coherent action).length_joined
  have fetches := (h.next coherent action).length_served
  rw [r.joined_next s action, List.length_append, r.length_joined] at lookups
  rw [r.served_next s action, List.length_append, r.length_served, List.length_map] at fetches
  refine h.step_part coherent fits.toSeparates own ?_ ?_
  · rw [← lookups, ← h.lookups, fits.lookups_from]
  · rw [← fetches, ← h.fetches, fits.fetches_from]

/-- A step has the same effect on two sessions whose parts are the same. -/
lemma Tracks.sameEffect {r r' : Record} {s s' : Session} (h : Tracks r s) (h' : Tracks r' s')
    (coherent : Coherent r) (coherent' : Coherent r') {ν μ : Numbering} {kind : Kind}
    (fits : ν.Fits kind r) (fits' : μ.Fits kind r') (same : s.part ν kind = s'.part μ kind)
    {action action' : Action} (own : r.concerns kind action = true)
    (own' : r'.concerns kind action' = true) (actions : action.renumber ν = action'.renumber μ) :
    Session.SameEffect kind ν μ (s.step action) (s'.step action') := by
  have step := h.step_fits coherent fits own
  rw [same, actions, h'.step_fits coherent' fits' own'] at step
  obtain ⟨parts, seen⟩ := Prod.mk.inj step
  refine ⟨seen.symm, parts.symm, ?_⟩
  have loaded := congrArg (Session.isLoaded · kind) parts
  rwa [Session.isLoaded_part, Session.isLoaded_part, eq_comm] at loaded

/-- A session in which only the actions of a kind happen shows what is observed of that kind. -/
lemma Session.outcomes_observations (kind : Kind) (actions : List Action) :
    ({} : Session).outcomes kind ((observations kind actions).map Observation.action)
      = observations kind actions := by
  have whole := Tracks.empty.outcomes_part Coherent.empty kind actions
  rwa [part_empty] at whole

/-- **The observations of a kind depend on its own actions only**, up to the numbers of lookups and
fetches.  `Session.part` is what of a session belongs to a kind, and `part_step_eq` says which steps
change it. -/
theorem kindsApart (actions : List Action) (kind : Kind) : KindsApart actions kind where
  single _ _ one here there := Record.concerns_unique one here there
  undisturbed := by
    intro action other
    have tracks := Session.tracks_after actions
    have coherent := Session.coherent_recorded actions
    have untouched := tracks.untouched_step coherent other
    refine ⟨untouched, untouched.isLoaded_eq, fun o seen here => ?_⟩
    have concerns := tracks.concerns_of_seen coherent seen
    rw [here, other] at concerns
    cases concerns
  determined others _ _ fits fits' same _ _ own own' renumbered :=
    (Session.tracks_after actions).sameEffect (Session.tracks_after others)
      (Session.coherent_recorded actions) (Session.coherent_recorded others) fits fits' same own
      own' renumbered
  alone := Session.outcomes_observations kind actions
  mixed others same := by
    rw [← Session.outcomes_observations kind others, same, Session.outcomes_observations]
  invalidate_all kinds perm := by
    have once : ∀ k, Kind.all.count k = 1 := fun k => by cases k <;> rfl
    have counts : ∀ k, kinds.count k = 1 := fun k => (perm.count_eq k).trans (once k)
    simp only [Action.invalidateAll, Session.run_invalidate, once, counts, and_self]

/-- The fetch numbered 1 of the session is the first of its kind. -/
example : (Session.observations .chains [.gate true, .start .symbolCodes .all, .start .chains .all,
      .cancel 0, .answer 1 (.values ["wax"])]).map Observation.seen
    = [[], [⟨⟨.chains, 0⟩, .fetch 0 ⟨0, .all⟩⟩], [⟨⟨.chains, 0⟩, .finish ⟨0, .all⟩ ["wax"]⟩]] :=
  rfl

end SaleSearch.Catalog

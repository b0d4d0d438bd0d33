import SaleSearch.Proofs.Catalog.Issuers

/-!
# Sessions that can be reached

A session that has come about somehow agrees with a record, and goes on agreeing with one.  That is
all that is asked of the session in which a verification begins: what is seen from then on of a
lookup is seen of the generation that it joined, it issues one fetch at most, and it is given the
set that its generation is left with.

* `Record.after` goes on with a record, and `Record.extends_after` says that it only grows.
* `Tracks.joined_of_seen_run` and `Tracks.issuers_nodup` are told by the record.
* `Session.Tracked` says that there is one, and `Session.tracked_after` that there is one for each
  session from its beginning.
* `Session.Tracked.answered_of_given`: a lookup that was given a set leaves its generation answered.
-/

namespace SaleSearch.Catalog

/-! ## Records that go on -/

/-- The record after some actions and all that is seen of them. -/
def Record.after (r : Record) (s : Session) (actions : List Action) : Record :=
  r.noteAll (s.moments actions)

namespace Record

lemma after_cons (r : Record) (s : Session) (action : Action) (rest : List Action) :
    r.after s (action :: rest) = (r.next s action).after (s.step action).1 rest :=
  noteAll_append ..

lemma extends_after (r : Record) (s : Session) (actions : List Action) :
    r.Extends (r.after s actions) := by
  induction actions generalizing r s with
  | nil => exact .refl r
  | cons action rest ih =>
      rw [after_cons]
      exact (r.extends_next s action).trans (ih (r.next s action) (s.step action).1)

/-- The fetches that are seen go behind those that were issued before. -/
lemma issues_after (r : Record) (s : Session) (actions : List Action) :
    (r.after s actions).issues
      = r.issues ++ (fetchesSeen (s.run actions).2).map Occurrence.issue := by
  induction actions generalizing r s with
  | nil => exact (List.append_nil _).symm
  | cons action rest ih =>
      rw [after_cons, ih, issues_next, List.append_assoc, ← List.map_append, fetchesSeen,
        fetchesSeen, ← List.filter_append]
      rfl

end Record

/-- What is seen of a lookup is seen of the generation that it joined. -/
lemma Coherent.joined_of_allowed {r : Record} (h : Coherent r) {seen : List Occurrence}
    (allowed : r.AllowsAll (seen.map .saw)) {o : Occurrence} (ho : o ∈ seen) :
    r.joined[o.event.lookup.number]? = some o.edition := by
  induction seen generalizing r with
  | nil => cases ho
  | cons first rest ih =>
      obtain ⟨now, later⟩ := allowed
      rcases List.mem_cons.1 ho with rfl | ho
      · obtain ⟨e, event⟩ := o
        cases event with
        | fetch number issuer => exact h.joined_of_underway now.2.1
        | finish lookup set => exact h.joined_of_underway now.1
      · have joined := ih (h.note now) later ho
        rwa [Record.note, Record.joined_see] at joined

namespace Tracks

variable {r : Record} {s : Session}

lemma after (h : Tracks r s) (coherent : Coherent r) (actions : List Action) :
    Tracks (r.after s actions) (s.run actions).1 :=
  (h.run coherent actions).2

lemma coherent_after (h : Tracks r s) (coherent : Coherent r) (actions : List Action) :
    Coherent (r.after s actions) :=
  coherent.noteAll (h.run coherent actions).1

/-- What is seen of a lookup in a step is seen of the generation that it joined. -/
lemma joined_of_seen (h : Tracks r s) (coherent : Coherent r) {action : Action} {o : Occurrence}
    (seen : o ∈ (s.step action).2) :
    (r.next s action).joined[o.event.lookup.number]? = some o.edition := by
  rw [Record.next, Record.joined_seeEach]
  exact (coherent.act action).joined_of_allowed (h.step coherent action).1 seen

/-- What is seen of a lookup in a run is seen of the generation that it joined. -/
theorem joined_of_seen_run (h : Tracks r s) (coherent : Coherent r) {actions : List Action}
    {o : Occurrence} (seen : o ∈ (s.run actions).2) :
    (r.after s actions).joined[o.event.lookup.number]? = some o.edition := by
  induction actions generalizing r s with
  | nil => cases seen
  | cons action rest ih =>
      rw [Record.after_cons]
      rcases List.mem_append.1 seen with now | later
      · exact (Record.extends_after ..).joined_eq (h.joined_of_seen coherent now)
      · exact ih (h.next coherent action) (h.coherent_next coherent action) later

/-- A lookup of which something is seen has begun. -/
lemma number_lt_of_seen_run (h : Tracks r s) (coherent : Coherent r) {actions : List Action}
    {o : Occurrence} (seen : o ∈ (s.run actions).2) :
    o.event.lookup.number < (s.run actions).1.lookups := by
  rw [← (h.after coherent actions).length_joined]
  exact (List.getElem?_eq_some_iff.1 (h.joined_of_seen_run coherent seen)).1

/-- A lookup issues one fetch at most. -/
theorem issuers_nodup (h : Tracks r s) (coherent : Coherent r) (actions : List Action) :
    ((fetchesSeen (s.run actions).2).map fun o => o.event.lookup.number).Nodup := by
  have nodup := (h.coherent_after coherent actions).issuers_nodup
  rw [← Record.map_issues_snd, Record.issues_after, List.map_append, List.map_map] at nodup
  exact (List.nodup_append.1 nodup).2.1

/-- A lookup joins the generation that is current when it begins. -/
lemma joined_start (h : Tracks r s) (kind : Kind) (question : Question) :
    (r.next s (.start kind question)).joined[s.lookups]? = some (s.edition kind) := by
  have current : r.edition kind = s.edition kind := by
    rw [Record.edition, Session.edition, h.invalidations]
  rw [Record.joined_next, Record.begins, ← h.length_joined, List.getElem?_concat_length, current]

end Tracks

/-! ## Sessions that can be reached -/

/-- The session agrees with a record of what was done and seen. -/
def Session.Tracked (s : Session) : Prop :=
  ∃ r, Tracks r s ∧ Coherent r

namespace Session

/-- Every session from its beginning is tracked. -/
lemma tracked_after (actions : List Action) : (after actions).Tracked :=
  ⟨recorded actions, tracks_after actions, coherent_recorded actions⟩

namespace Tracked

variable {s : Session} {actions : List Action} {o o' : Occurrence}

/-- A tracked session stays so. -/
lemma run (h : s.Tracked) (actions : List Action) : (s.run actions).1.Tracked := by
  obtain ⟨r, tracks, coherent⟩ := h
  exact ⟨r.after s actions, tracks.after coherent actions, tracks.coherent_after coherent actions⟩

/-- The numbers of lookups only go up. -/
lemma lookups_le (h : s.Tracked) (actions : List Action) :
    s.lookups ≤ (s.run actions).1.lookups := by
  obtain ⟨r, tracks, coherent⟩ := h
  rw [← tracks.length_joined, ← (tracks.after coherent actions).length_joined]
  exact (r.extends_after s actions).joined.length_le

lemma number_lt (h : s.Tracked) (seen : o ∈ (s.run actions).2) :
    o.event.lookup.number < (s.run actions).1.lookups := by
  obtain ⟨r, tracks, coherent⟩ := h
  exact tracks.number_lt_of_seen_run coherent seen

lemma issuers_nodup (h : s.Tracked) (actions : List Action) :
    ((fetchesSeen (s.run actions).2).map fun o => o.event.lookup.number).Nodup := by
  obtain ⟨r, tracks, coherent⟩ := h
  exact tracks.issuers_nodup coherent actions

/-- What is seen of a lookup from its beginning is seen of the generation that it joined. -/
lemma edition_of_seen (h : s.Tracked) {kind : Kind} {question : Question}
    (seen : o ∈ (s.run (.start kind question :: actions)).2)
    (own : o.event.lookup.number = s.lookups) : o.edition = s.edition kind := by
  obtain ⟨r, tracks, coherent⟩ := h
  have joined := tracks.joined_of_seen_run coherent seen
  have began := tracks.joined_start kind question
  rw [own, Record.after_cons, (Record.extends_after ..).joined_eq began] at joined
  exact (Option.some.inj joined).symm

end Tracked

/-- A lookup was given a set if it finished with it. -/
lemma exists_finish_of_given? {lookup : Nat} {seen : List Occurrence} {set : List String}
    (given : given? lookup seen = some set) :
    ∃ e l, ⟨e, .finish l set⟩ ∈ seen ∧ l.number = lookup := by
  obtain ⟨⟨l, known⟩, finished, same⟩ := List.exists_of_findSome?_eq_some given
  obtain ⟨⟨e, event⟩, mem, shown⟩ := List.mem_filterMap.1 finished
  cases event with
  | fetch number issuer => cases shown
  | finish lookup' known' =>
      obtain ⟨rfl, rfl⟩ := Prod.mk.inj (Option.some.inj shown)
      split at same
      · rename_i number
        obtain rfl := Option.some.inj same
        exact ⟨e, lookup', mem, number⟩
      · cases same

/-- The generation of a lookup that was given a set is answered with it. -/
theorem Tracked.answered_of_given {s : Session} (h : s.Tracked) {kind : Kind} {question : Question}
    {actions : List Action} {set : List String}
    (given : given? s.lookups (s.run (.start kind question :: actions)).2 = some set) :
    (s.run (.start kind question :: actions)).1.generations (s.edition kind) = .answered set := by
  obtain ⟨e, l, finish, own⟩ := exists_finish_of_given? given
  obtain rfl : e = s.edition kind := h.edition_of_seen finish own
  exact answered_of_finish_run finish

end Session

end SaleSearch.Catalog

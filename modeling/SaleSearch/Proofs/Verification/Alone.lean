import SaleSearch.Proofs.Catalog.Part
import SaleSearch.Proofs.Verification.Fetches

/-!
# Stages on the spot

If nobody else does anything, the stages of a verification are about different kinds and do not
interfere: each finds its kind as it was when the verification began.

* `interlude_of_alone`: in the stages of such a verification nobody else does anything.
* `Linked.untouched` says that a stage finds its kind as it was, and `Stage.editions_of_alone` that
  so it fetches what was lacking then.
* `Linked.answered_iff`: what no stage has to fetch is neither remembered nor forgotten.
-/

namespace SaleSearch

open Catalog

lemma Catalog.Session.Untouched.lacks_iff {kind : Kind} {s s' : Session}
    (h : s.Untouched kind s') : s'.Lacks kind ↔ s.Lacks kind := by
  rw [Session.lacks_iff, Session.lacks_iff, h.edition_eq, h.generations (s.edition kind) rfl]

namespace Verification

/-- Where nobody else does anything, nobody does in any stage. -/
lemma interlude_of_alone (session : Session) (checks : List Check) :
    ∀ st ∈ stages session [] checks, st.interlude = {} := by
  induction checks generalizing session with
  | nil => exact List.forall_mem_nil _
  | cons check rest ih =>
      cases check with
      | condition holds rejection =>
          cases holds with
          | true => exact ih session
          | false => exact List.forall_mem_nil _
      | membership kind value rejection =>
          rw [stages]
          refine List.forall_mem_cons.2 ⟨rfl, ?_⟩
          split
          · exact List.forall_mem_nil _
          · split
            · exact ih _
            · exact List.forall_mem_nil _

namespace Stage

variable {st : Stage}

lemma seen_of_alone (alone : st.interlude = {}) :
    st.seen = (st.found.start st.kind st.lookup.question).2 := by
  rw [seen_eq, alone]
  exact List.append_nil _

lemma after_of_alone (alone : st.interlude = {}) :
    st.after = (st.found.start st.kind st.lookup.question).1 := by
  rw [after, window, alone]
  rfl

lemma found_of_alone {session : Session} (alone : st.interlude = {})
    (found : st.found = (session.run st.interlude.before).1) : st.found = session := by
  rw [found, alone]
  rfl

/-- What is fetched is what was lacking in the beginning. -/
lemma editions_of_alone {session : Session} (alone : st.interlude = {})
    (untouched : session.Untouched st.kind st.found) :
    (fetchesSeen st.seen).map Occurrence.edition
      = if session.Lacks st.kind then [session.edition st.kind] else [] := by
  rw [seen_of_alone alone]
  split
  · rename_i lacks
    rw [Session.fetchesSeen_start (untouched.lacks_iff.2 lacks), ← untouched.edition_eq]
    rfl
  · rename_i has
    rw [Session.fetchesSeen_start_of_not_lacks (mt untouched.lacks_iff.1 has)]
    rfl

end Stage

namespace Linked

variable {session : Session} {stages : List Stage}

lemma fetchesSeen_eq (h : Linked session stages) (alone : ∀ st ∈ stages, st.interlude = {}) :
    fetchesSeen (session.run (done stages)).2 = stages.flatMap fun st => fetchesSeen st.seen := by
  induction h with
  | nil => rfl
  | @cons session stage rest found returned later ih =>
      obtain ⟨first, others⟩ := List.forall_mem_cons.1 alone
      rw [run_done_cons found, first, List.flatMap_cons, ← ih others, fetchesSeen,
        List.filter_append]
      rfl

/-- Each kind is found as it was in the beginning. -/
lemma untouched (h : Linked session stages) (alone : ∀ st ∈ stages, st.interlude = {})
    (nodup : (stages.map Stage.kind).Nodup) :
    ∀ st ∈ stages, session.Untouched st.kind st.found := by
  induction h with
  | nil => exact List.forall_mem_nil _
  | @cons session stage rest found returned later ih =>
      obtain ⟨first, others⟩ := List.forall_mem_cons.1 alone
      obtain ⟨fresh, nodup⟩ := List.nodup_cons.1 nodup
      obtain rfl := Stage.found_of_alone first found
      refine List.forall_mem_cons.2 ⟨.refl stage.kind stage.found, fun st hst => ?_⟩
      -- the kinds of the stages differ, so that this one leaves those of the later ones alone
      have other : stage.kind ≠ st.kind := fun same => fresh (same ▸ List.mem_map_of_mem hst)
      refine Session.Untouched.trans ?_ (ih others nodup st hst)
      rw [Stage.after_of_alone first]
      exact Session.untouched_start other _

lemma answered_iff (h : Linked session stages) (alone : ∀ st ∈ stages, st.interlude = {})
    {e : Edition} (free : ∀ st ∈ stages, e = st.edition → ¬st.found.Lacks st.kind)
    (set : List String) : (session.run (done stages)).1.generations e = .answered set
      ↔ session.generations e = .answered set := by
  induction h with
  | nil => exact Iff.rfl
  | @cons session stage rest found returned later ih =>
      obtain ⟨first, others⟩ := List.forall_mem_cons.1 alone
      obtain ⟨free, freeOthers⟩ := List.forall_mem_cons.1 free
      rw [run_done_cons found]
      obtain rfl := Stage.found_of_alone first found
      rw [ih others freeOthers, Stage.after_of_alone first]
      exact Session.answered_start_iff free stage.lookup.question set

end Linked

lemma not_invalidate_mem_done {stages : List Stage} (alone : ∀ st ∈ stages, st.interlude = {})
    (kind : Kind) : .invalidate kind ∉ done stages := by
  intro mem
  obtain ⟨st, hst, mem⟩ := List.mem_flatMap.1 mem
  rw [Stage.window, alone st hst] at mem
  simp at mem

end Verification

end SaleSearch

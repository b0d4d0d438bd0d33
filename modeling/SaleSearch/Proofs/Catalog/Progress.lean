import SaleSearch.Proofs.Catalog.Tracking

/-!
# No lookup is left waiting

In every state that a session can reach, a generation that has unfinished lookups has exactly one
that runs a fetch, and the session waits for the reply.  The fetch is never lost: if its lookup is
cancelled, the oldest of the others issues the next one.  This is so for the current generation of a
kind and for all earlier ones.

* `NeverStranded` says it of one generation, and `neverStranded` is the result.
-/

namespace SaleSearch.Catalog

/-- The unfinished lookups of a generation that run a fetch. -/
def Record.runners (r : Record) (e : Edition) : List Lookup :=
  (r.underway e).filter fun l => (r.pending e).any fun f => f.issuer = l.number

/-- The unfinished lookups of a generation but one, the oldest first. -/
def Record.others (r : Record) (e : Edition) (lookup : Nat) : List Lookup :=
  (r.underway e).filter fun l => l.number ≠ lookup

/-- The fetches among what is seen. -/
def fetchesSeen (seen : List Occurrence) : List Occurrence :=
  seen.filter fun o => o.event.isFetch

/-- Unless it is answered, a generation with unfinished lookups has one pending fetch, run by one of
them.  If that one is cancelled, the oldest of the others issues a fetch; if another one is, nobody
does. -/
structure NeverStranded (r : Record) (s : Session) (e : Edition) : Prop where
  loaded : (s.generations e).isAnswered = true → r.underway e = []
  served : (s.generations e).isAnswered = false → r.underway e ≠ [] →
    ∃ runner fetch, r.runners e = [runner] ∧ r.pending e = [fetch] ∧ fetch.issuer = runner.number
      ∧ s.awaits fetch.number = true
  /-- The oldest of the others takes over, and nobody else. -/
  handed_over : ∀ runner ∈ r.runners e, ∀ oldest later,
    r.others e runner.number = oldest :: later →
      fetchesSeen (s.step (.cancel runner.number)).2 = [⟨e, .fetch r.fetches.length oldest⟩]
        ∧ ∀ l ∈ later, oldest.number < l.number
  /-- A lookup that only waits leaves nothing to be taken over. -/
  unmoved : ∀ l ∈ r.underway e, l ∉ r.runners e → fetchesSeen (s.step (.cancel l.number)).2 = []

/-! ## The fetches that a session shows -/

namespace Session

variable {s : Session}

lemma filter_isFetch_finishes (lookups : List Lookup) (set : List String) :
    (lookups.map fun lookup => Event.finish lookup set).filter Event.isFetch = [] := by
  simp [List.filter_eq_nil_iff, Event.isFetch]

/-- An answer of the source adds no fetches to those that there are. -/
lemma filter_isFetch_reply (kind : Kind) (changed : Generation × List Event) :
    (s.reply kind changed).2.filter Event.isFetch = changed.2.filter Event.isFetch := by
  unfold reply
  split
  · simp [Generation.answer, filter_isFetch_finishes]
  · rfl

/-- The fetches that are seen of a commit are those of the change. -/
lemma fetchesSeen_commit (e : Edition) (changed : Generation × List Event) :
    fetchesSeen (s.commit e changed).2
      = (changed.2.filter Event.isFetch).map fun event => ⟨e, event⟩ := by
  rw [commit, fetchesSeen, List.filter_map, ← filter_isFetch_reply (s := s) e.kind changed]
  rfl

end Session

/-! ## What a record tells of a fetch under way -/

namespace Record

variable {r : Record} {e : Edition} {runner : Lookup} {fetch : Nat} {waiting : List Lookup}

/-- The lookups beside the one that runs the fetch are those that wait. -/
lemma Accounts.others_eq (coherent : Coherent r)
    (h : r.Accounts e (.fetching runner fetch waiting)) : r.others e runner.number = waiting := by
  rw [others, h.1]
  exact coherent.underway_tail h.1

/-- The lookup that runs the fetch is the only one that runs any. -/
lemma Accounts.runners_eq (coherent : Coherent r)
    (h : r.Accounts e (.fetching runner fetch waiting)) : r.runners e = [runner] := by
  have later := (List.pairwise_cons.1 (h.1 ▸ coherent.underway_sorted e)).1
  have none_waiting : (waiting.filter fun l => runner.number = l.number) = [] := by
    rw [List.filter_eq_nil_iff]
    intro l hl
    simpa using Nat.ne_of_lt (later l hl)
  rw [runners, h.pending_eq, h.1]
  simpa using none_waiting

end Record

namespace Tracks

variable {r : Record} {s : Session}

/-- A generation with unfinished lookups is fetching. -/
lemma fetching_of_underway (h : Tracks r s) {e : Edition} {l : Lookup} (hl : l ∈ r.underway e) :
    ∃ runner fetch waiting, s.generations e = .fetching runner fetch waiting := by
  have unfinished := (h.accounts e).underway_eq
  cases state : s.generations e with
  | idle | answered => simp [state, Generation.unfinished, unfinished] at hl
  | fetching runner fetch waiting => exact ⟨runner, fetch, waiting, rfl⟩

/-- Where record and session agree, `NeverStranded` holds of every generation. -/
theorem progress (h : Tracks r s) (coherent : Coherent r) (e : Edition) :
    NeverStranded r s e where
  loaded answered := h.underway_of_isAnswered answered
  served := by
    intro _ some_underway
    obtain ⟨l, hl⟩ := List.exists_mem_of_ne_nil _ some_underway
    obtain ⟨runner, fetch, waiting, state⟩ := h.fetching_of_underway hl
    have accounts := state ▸ h.accounts e
    have waits : (s.generations e).awaits fetch = true := by simp [state, Generation.awaits]
    have now := Session.mem_editions.2 (h.begun (p := fun g => g.awaits fetch) rfl waits)
    exact ⟨runner, _, accounts.runners_eq coherent, accounts.pending_eq, rfl,
      List.any_eq_true.2 ⟨e, now, waits⟩⟩
  handed_over := by
    intro runner runs oldest later rest
    obtain ⟨runner', fetch, waiting, state⟩ := h.fetching_of_underway (List.mem_filter.1 runs).1
    have accounts := state ▸ h.accounts e
    obtain rfl : runner = runner' := by simpa [accounts.runners_eq coherent] using runs
    obtain rfl : waiting = oldest :: later := (accounts.others_eq coherent).symm.trans rest
    have here : (s.generations e).has runner.number = true := by
      simp [state, Generation.has, Generation.unfinished]
    refine ⟨?_, ?_⟩
    · rw [Session.step, h.cancel_eq coherent here, Session.fetchesSeen_commit, state,
        Generation.drop, if_pos rfl, h.fetches]
      rfl
    · have sorted := accounts.1 ▸ coherent.underway_sorted e
      exact (List.pairwise_cons.1 (List.pairwise_cons.1 sorted).2).1
  unmoved := by
    intro l hl waits
    obtain ⟨runner, fetch, waiting, state⟩ := h.fetching_of_underway hl
    have accounts := state ▸ h.accounts e
    have here : (s.generations e).has l.number = true :=
      (h.accounts e).has_iff.2 ⟨l, hl, rfl⟩
    have other : runner.number ≠ l.number := by
      intro same
      refine waits (List.mem_filter.2 ⟨hl, ?_⟩)
      simp [accounts.pending_eq, same]
    rw [Session.step, h.cancel_eq coherent here, Session.fetchesSeen_commit, state,
      Generation.drop, if_neg other]
    rfl

end Tracks

/-- **No lookup of any generation waits without a pending fetch**, after any actions.  A generation
may be the current one of its kind or may have been invalidated. -/
theorem neverStranded (actions : List Action) (e : Edition) :
    NeverStranded (Session.recorded actions) (Session.after actions) e :=
  (Session.tracks_after actions).progress (Session.coherent_recorded actions) e

/-- Of three lookups the second and then the first are cancelled. -/
example : fetchesSeen (Session.run {} [.gate true, .start .chains .all, .start .chains .all,
      .start .chains .all, .cancel 1, .cancel 0]).2
    = [⟨⟨.chains, 0⟩, .fetch 0 ⟨0, .all⟩⟩, ⟨⟨.chains, 0⟩, .fetch 1 ⟨2, .all⟩⟩] :=
  rfl

end SaleSearch.Catalog

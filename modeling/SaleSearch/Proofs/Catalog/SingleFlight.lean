import Mathlib.Data.List.Perm.Subperm
import SaleSearch.Proofs.Catalog.Tracking

/-!
# One fetch for all lookups

However lookups, replies, cancellations and invalidations follow on each other, the lookups of a
generation share what is fetched for them: there is never more than one fetch that waits for its
reply, the first reply is the last one, and every lookup that is finished was given its strings.

* `Record.SharesFetches` is what this says of a record, and `SingleFlight` what it says of all that
  happens in the course of some actions.
* `singleFlight` is the result for every session.
-/

namespace SaleSearch.Catalog

/-- What a reply brings; a failure brings nothing. -/
def Reply.strings : Reply → List String
  | .values list => list
  | .failure _ => []

/-- The set that is remembered of a reply holds its strings. -/
lemma Reply.mem_known (reply : Reply) (value : String) :
    value ∈ reply.known ↔ value ∈ reply.strings := by
  cases reply with
  | values list => exact Catalog.mem_known
  | failure reason => rfl

lemma Reply.nodup_known (reply : Reply) : reply.known.Nodup := by
  cases reply with
  | values list =>
      refine (pairwise_known list).imp ?_
      rintro value other less rfl
      exact String.lt_irrefl value less
  | failure reason => exact List.nodup_nil

/-- What a lookup returned, if it is finished. -/
def Inquiry.finding? (i : Inquiry) : Option Finding :=
  match i.fate with
  | .finished set => some (i.lookup.question.answer set)
  | .underway | .cancelled => none

namespace Record

/-- Was the lookup cancelled while it ran a fetch? -/
def gaveUp (r : Record) (i : Inquiry) : Bool :=
  i.fate = .cancelled && r.fetches.any fun f => f.issuer = i.lookup.number && f.isAbandoned

/-- What a record says of the fetches of one generation: its own lookups issued them, one is pending
at most, there is at most one more than lookups gave up, and all finished lookups have the one set
that was answered. -/
structure SharesFetches (r : Record) (e : Edition) : Prop where
  /-- The fetches of a generation are issued by lookups of that generation. -/
  own : ∀ f ∈ r.fetchesOf e, ∃ i ∈ r.lookupsOf e, i.lookup.number = f.issuer
  one_pending : (r.pending e).length ≤ 1
  few : (r.fetchesOf e).length ≤ 1 + (r.lookupsOf e).countP r.gaveUp
  /-- A finished lookup was given the strings of the one reply that there was. -/
  given : ∀ i ∈ r.lookupsOf e, ∀ set, i.fate = .finished set →
    ∃ f reply, (r.fetchesOf e).filter Fetch.isAnswered = [f] ∧ f.course = .answered reply
      ∧ set.Nodup ∧ (∀ value, value ∈ set ↔ value ∈ reply.strings)
      ∧ ∀ value, i.lookup.question = .member value →
        i.finding? = some (.member (value ∈ reply.strings))
  same : ∀ i ∈ r.lookupsOf e, ∀ j ∈ r.lookupsOf e, ∀ set other,
    i.fate = .finished set → j.fate = .finished other → set = other

end Record

/-- `SharesFetches` at every time in the course of some actions; after an answer no fetch is issued,
and no lookup is unfinished in the end. -/
structure SingleFlight (actions : List Action) (e : Edition) : Prop where
  shares : ∀ past, past <+: Session.history actions → (Record.of past).SharesFetches e
  /-- After a reply nothing is fetched any more, even if it was a failure. -/
  settled : ∀ past later, past ++ later <+: Session.history actions →
    (∃ f ∈ (Record.of past).fetchesOf e, f.isAnswered) →
      (Record.of (past ++ later)).fetchesOf e = (Record.of past).fetchesOf e
  /-- Nor has any lookup to wait any longer. -/
  finish : (∃ f ∈ (Session.recorded actions).fetchesOf e, f.isAnswered) →
    (Session.recorded actions).underway e = []

/-! ## In a coherent record -/

namespace Coherent

variable {r : Record}

/-- A fetch of a generation was issued by a lookup of that generation. -/
lemma own (h : Coherent r) {e : Edition} {f : Fetch} (hf : f ∈ r.fetchesOf e) :
    ∃ i ∈ r.lookupsOf e, f.IssuedBy i := by
  obtain ⟨hf, place⟩ := Record.mem_fetchesOf.1 hf
  obtain ⟨i, hi, issued⟩ := h.issued f hf
  exact ⟨i, Record.mem_lookupsOf.2 ⟨hi, issued.edition.trans place⟩, issued⟩

/-- No two fetches of a generation wait for their reply at the same time. -/
lemma one_pending (h : Coherent r) (e : Edition) : (r.pending e).length ≤ 1 := by
  rw [Record.pending_eq]
  exact Nat.le_trans (List.length_filter_le _ _) (h.live_le_one e)

/-- There are not more abandoned fetches than lookups that gave one up. -/
lemma abandoned_le (h : Coherent r) (e : Edition) :
    ((r.fetchesOf e).filter Fetch.isAbandoned).length ≤ (r.lookupsOf e).countP r.gaveUp := by
  have nodup : (((r.fetchesOf e).filter Fetch.isAbandoned).map Fetch.issuer).Nodup :=
    h.issuers_nodup.sublist ((List.filter_sublist.trans List.filter_sublist).map _)
  have subset : ((r.fetchesOf e).filter Fetch.isAbandoned).map Fetch.issuer
      ⊆ ((r.lookupsOf e).filter r.gaveUp).map fun i => i.lookup.number := by
    intro number mem
    obtain ⟨f, hf, rfl⟩ := List.mem_map.1 mem
    obtain ⟨hf, abandoned⟩ := List.mem_filter.1 hf
    obtain ⟨i, hi, issued⟩ := h.own hf
    have course : f.course = .abandoned := by simpa [Fetch.isAbandoned] using abandoned
    have gaveUp : r.gaveUp i = true := by
      simp only [Record.gaveUp, Bool.and_eq_true, decide_eq_true_eq, List.any_eq_true]
      exact ⟨issued.abandoned course, f, (Record.mem_fetchesOf.1 hf).1, issued.number.symm,
        abandoned⟩
    exact List.mem_map.2 ⟨i, List.mem_filter.2 ⟨hi, gaveUp⟩, issued.number⟩
  simpa [List.countP_eq_length_filter] using (nodup.subperm subset).length_le

/-- There is one fetch more than lookups that gave one up, at most. -/
lemma few (h : Coherent r) (e : Edition) :
    (r.fetchesOf e).length ≤ 1 + (r.lookupsOf e).countP r.gaveUp := by
  calc (r.fetchesOf e).length
      = ((r.fetchesOf e).filter Fetch.isAbandoned).length + (r.live e).length :=
        List.length_eq_length_filter_add Fetch.isAbandoned
    _ ≤ (r.lookupsOf e).countP r.gaveUp + 1 :=
        Nat.add_le_add (h.abandoned_le e) (h.live_le_one e)
    _ = 1 + (r.lookupsOf e).countP r.gaveUp := Nat.add_comm _ _

/-- A finished lookup was given the set of the one answered fetch. -/
lemma answered_of_finished (h : Coherent r) {e : Edition} {i : Inquiry} (hi : i ∈ r.lookupsOf e)
    {set : List String} (finished : i.fate = .finished set) :
    ∃ f reply, (r.fetchesOf e).filter Fetch.isAnswered = [f] ∧ f.course = .answered reply
      ∧ reply.known = set := by
  obtain ⟨begun, rfl⟩ := Record.mem_lookupsOf.1 hi
  obtain ⟨f, hf, reply, answered, known⟩ := h.finished i begun set finished
  refine ⟨f, reply, ?_, answered, known⟩
  have alive : ∀ f : Fetch, f.isAnswered = true → f.isAbandoned = false := by
    intro f answered
    obtain ⟨reply, course⟩ := Fetch.isAnswered_iff.1 answered
    simp [Fetch.isAbandoned, course]
  rw [Record.filter_fetchesOf alive, h.live_eq_singleton hf]
  simp [Fetch.isAnswered, answered]

/-- In a coherent record the lookups of a generation share its fetches. -/
theorem sharesFetches (h : Coherent r) (e : Edition) : r.SharesFetches e where
  own := by
    intro f hf
    obtain ⟨i, hi, issued⟩ := h.own hf
    exact ⟨i, hi, issued.number⟩
  one_pending := h.one_pending e
  few := h.few e
  given := by
    intro i hi set finished
    obtain ⟨f, reply, only, answered, rfl⟩ := h.answered_of_finished hi finished
    refine ⟨f, reply, only, answered, reply.nodup_known, reply.mem_known, ?_⟩
    intro value asked
    simp [Inquiry.finding?, finished, asked, Question.answer, reply.mem_known]
  same := by
    intro i hi j hj set other finished finished'
    obtain ⟨f, reply, only, answered, rfl⟩ := h.answered_of_finished hi finished
    obtain ⟨f', reply', only', answered', rfl⟩ := h.answered_of_finished hj finished'
    obtain rfl : f = f' := by simpa [only] using only'
    obtain rfl : reply = reply' := by simpa [answered] using answered'
    rfl

end Coherent

/-- **One fetch serves all lookups of a generation**, unless it is abandoned with its lookup and
replaced.  By coherence of the record of any list of actions. -/
theorem singleFlight (actions : List Action) (e : Edition) : SingleFlight actions e where
  shares past h := (Session.coherent_of_history h).sharesFetches e
  settled := by
    intro past later h answered
    obtain ⟨f, hf, answered⟩ := answered
    exact Session.fetchesOf_of_history h hf answered
  finish answered :=
    have tracks := Session.tracks_after actions
    tracks.underway_of_isAnswered ((tracks.isAnswered_iff e).2 answered)

end SaleSearch.Catalog

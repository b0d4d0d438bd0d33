import Mathlib.Data.List.Nodup
import SaleSearch.Proofs.Catalog.Record

/-!
# Coherent records

Two rules on what may be seen of a session are enough for everything that is said of its fetches: a
fetch is only issued by an unfinished lookup of a generation whose earlier fetches were all given
up, and a lookup is only finished with the set of a fetch that was answered.

* `Record.Allows` are the two rules, on top of what has been recorded.
* `Coherent` is what they keep true of a record, and `Coherent.note` that they do.
* `Coherent.fetchesOf_noteAll`: after an answer nothing is fetched for a generation any more.
-/

namespace SaleSearch.Catalog

namespace Record

/-- There is an answer to a fetch of the generation, and the set is what became of it. -/
def Knows (r : Record) (e : Edition) (set : List String) : Prop :=
  ∃ f ∈ r.live e, ∃ reply, f.course = .answered reply ∧ reply.known = set

/-- What may be seen of a generation next.  A fetch takes the next number and is issued by a lookup
underway if no earlier one is live, and a lookup underway ends with a set that is known. -/
def AllowsEvent (r : Record) (e : Edition) : Event → Prop
  | .fetch number issuer => number = r.fetches.length ∧ issuer ∈ r.underway e ∧ r.live e = []
  | .finish lookup set => lookup ∈ r.underway e ∧ r.Knows e set

/-- Any action is allowed, and of the occurrences those that `AllowsEvent` allows. -/
def Allows (r : Record) : Moment → Prop
  | .did _ => True
  | .saw occurrence => r.AllowsEvent occurrence.edition occurrence.event

/-- Each of some moments is allowed after those before it. -/
def AllowsAll (r : Record) : List Moment → Prop
  | [] => True
  | moment :: rest => r.Allows moment ∧ (r.note moment).AllowsAll rest

lemma allowsAll_append (r : Record) (first second : List Moment) :
    r.AllowsAll (first ++ second) ↔ r.AllowsAll first ∧ (r.noteAll first).AllowsAll second := by
  induction first generalizing r with
  | nil => simp [AllowsAll, noteAll]
  | cons moment rest ih =>
      rw [List.cons_append, AllowsAll, AllowsAll, ih, and_assoc]
      rfl

section Members

variable {r : Record} {e : Edition}

lemma mem_underway {l : Lookup} :
    l ∈ r.underway e ↔ ∃ i ∈ r.lookups, i.edition = e ∧ i.fate = .underway ∧ i.lookup = l := by
  simp only [underway, lookupsOf, Inquiry.isUnderway, List.mem_map, List.mem_filter,
    decide_eq_true_eq, and_assoc]

lemma mem_live {f : Fetch} :
    f ∈ r.live e ↔ f ∈ r.fetches ∧ f.edition = e ∧ f.course ≠ .abandoned := by
  simp [live, fetchesOf, Fetch.isAbandoned, and_comm]

lemma mem_fetchesOf {f : Fetch} : f ∈ r.fetchesOf e ↔ f ∈ r.fetches ∧ f.edition = e := by
  simp [fetchesOf]

lemma mem_lookupsOf {i : Inquiry} : i ∈ r.lookupsOf e ↔ i ∈ r.lookups ∧ i.edition = e := by
  simp [lookupsOf]

/-- A property that no abandoned fetch has can be looked for among the live ones. -/
lemma filter_fetchesOf {p : Fetch → Bool} (alive : ∀ f, p f = true → f.isAbandoned = false) :
    (r.fetchesOf e).filter p = (r.live e).filter p := by
  rw [live, List.filter_filter]
  refine List.filter_congr fun f _ => ?_
  cases holds : p f with
  | false => rfl
  | true => simp [alive f holds]

lemma pending_eq : r.pending e = (r.live e).filter Fetch.isPending := by
  refine filter_fetchesOf fun f pending => ?_
  have course : f.course = .pending := by simpa [Fetch.isPending] using pending
  simp [Fetch.isAbandoned, course]

end Members

end Record

/-- The entry of the lookup that issued a fetch, and how its fate goes with that of the fetch. -/
structure Fetch.IssuedBy (f : Fetch) (i : Inquiry) : Prop where
  number : i.lookup.number = f.issuer
  edition : i.edition = f.edition
  pending : f.course = .pending → i.fate = .underway
  abandoned : f.course = .abandoned → i.fate = .cancelled

namespace Fetch.IssuedBy

variable {f : Fetch} {i : Inquiry}

/-- A reply keeps a fetch with its lookup. -/
lemma answer (h : f.IssuedBy i) (number : Nat) (reply : Reply) :
    (f.answer number reply).IssuedBy i := by
  unfold Fetch.answer
  split
  · exact ⟨h.number, h.edition, nofun, nofun⟩
  · exact h

/-- A cancellation keeps a fetch with its lookup: a pending one is abandoned. -/
lemma cancel (h : f.IssuedBy i) (lookup : Nat) :
    (f.abandon lookup).IssuedBy (i.cancel lookup) := by
  refine ⟨by simpa using h.number, by simpa using h.edition, ?_, ?_⟩
  · intro pending
    cases run : f.isRunBy lookup with
    | true => simp [Fetch.abandon, run] at pending
    | false =>
        rw [Fetch.abandon_of_not_isRunBy run] at pending
        have other : i.lookup.number ≠ lookup := by
          rintro rfl
          simp [Fetch.isRunBy, Fetch.isPending, pending, h.number] at run
        rw [Inquiry.cancel, if_neg fun both => other both.1]
        exact h.pending pending
  · intro abandoned
    cases run : f.isRunBy lookup with
    | true =>
        simp only [Fetch.isRunBy, Fetch.isPending, Bool.and_eq_true, decide_eq_true_eq] at run
        rw [Inquiry.cancel, if_pos ⟨h.number.trans run.1, h.pending run.2⟩]
    | false =>
        rw [Fetch.abandon_of_not_isRunBy run] at abandoned
        have ended : i.fate = .cancelled := h.abandoned abandoned
        rw [Inquiry.cancel, if_neg fun both => by simp [ended] at both]
        exact ended

/-- The end of a lookup keeps its fetch with it, if the fetch has been answered. -/
lemma finish (h : f.IssuedBy i) {lookup : Nat} (set : List String)
    (answered : i.lookup.number = lookup → f.course ≠ .pending ∧ f.course ≠ .abandoned) :
    f.IssuedBy (i.finish lookup set) := by
  unfold Inquiry.finish
  split
  · rename_i same
    exact ⟨h.number, h.edition, fun pending => absurd pending (answered same).1,
      fun abandoned => absurd abandoned (answered same).2⟩
  · exact h

end Fetch.IssuedBy

/-- The invariant of records whose moments are allowed: lookups and fetches are numbered in their
order, a generation has one live fetch at most, a finished lookup was given the answer of its
generation, and each fetch was issued by a lookup, no two by the same one. -/
structure Coherent (r : Record) : Prop where
  lookup_numbers : r.lookups.map (fun i => i.lookup.number) = List.range r.lookups.length
  fetch_numbers : r.fetches.map Fetch.number = List.range r.fetches.length
  live_le_one : ∀ e, (r.live e).length ≤ 1
  finished : ∀ i ∈ r.lookups, ∀ set, i.fate = .finished set → r.Knows i.edition set
  issued : ∀ f ∈ r.fetches, ∃ i ∈ r.lookups, f.IssuedBy i
  issuers_nodup : (r.fetches.map Fetch.issuer).Nodup
  begun : ∀ i ∈ r.lookups, i.edition.number ≤ r.invalidations i.edition.kind

namespace Coherent

variable {r : Record}

lemma empty : Coherent {} := by
  refine ⟨rfl, rfl, fun _ => Nat.zero_le 1, ?_, ?_, List.nodup_nil, ?_⟩
  · intro i h
    cases h
  · intro f h
    cases h
  · intro i h
    cases h

lemma eq_of_number (h : Coherent r) {i j : Inquiry} (hi : i ∈ r.lookups) (hj : j ∈ r.lookups)
    (same : i.lookup.number = j.lookup.number) : i = j := by
  have nodup : (r.lookups.map fun i => i.lookup.number).Nodup :=
    h.lookup_numbers ▸ List.nodup_range
  exact List.inj_on_of_nodup_map nodup hi hj same

lemma eq_of_fetch_number (h : Coherent r) {f g : Fetch} (hf : f ∈ r.fetches) (hg : g ∈ r.fetches)
    (same : f.number = g.number) : f = g := by
  have nodup : (r.fetches.map Fetch.number).Nodup := h.fetch_numbers ▸ List.nodup_range
  exact List.inj_on_of_nodup_map nodup hf hg same

/-- A live fetch is the only one of its generation. -/
lemma live_eq_singleton (h : Coherent r) {e : Edition} {f : Fetch} (hf : f ∈ r.live e) :
    r.live e = [f] := by
  have short := h.live_le_one e
  match r.live e, short, hf with
  | [_], _, hf => rw [List.mem_singleton.1 hf]

lemma eq_of_mem_live (h : Coherent r) {e : Edition} {f g : Fetch} (hf : f ∈ r.live e)
    (hg : g ∈ r.live e) : f = g := by
  rw [h.live_eq_singleton hg] at hf
  exact List.mem_singleton.1 hf

/-- A number belongs to a lookup of one generation only. -/
lemma edition_eq_of_underway (h : Coherent r) {e e' : Edition} {l l' : Lookup}
    (hl : l ∈ r.underway e) (hl' : l' ∈ r.underway e') (same : l.number = l'.number) : e = e' := by
  obtain ⟨i, hi, rfl, -, rfl⟩ := Record.mem_underway.1 hl
  obtain ⟨j, hj, rfl, -, rfl⟩ := Record.mem_underway.1 hl'
  rw [h.eq_of_number hi hj same]

/-! ### What is done -/

/-- A new lookup keeps a record coherent. -/
lemma start (h : Coherent r) (kind : Kind) (question : Question) :
    Coherent (r.act (.start kind question)) where
  lookup_numbers := by simp [Record.act, h.lookup_numbers, List.range_succ]
  fetch_numbers := h.fetch_numbers
  live_le_one := h.live_le_one
  finished := by
    intro i hi set fate
    rcases List.mem_append.1 hi with hi | hi
    · exact h.finished i hi set fate
    · obtain rfl := List.mem_singleton.1 hi
      cases fate
  issued := by
    intro f hf
    obtain ⟨i, hi, issued⟩ := h.issued f hf
    exact ⟨i, List.mem_append_left _ hi, issued⟩
  issuers_nodup := h.issuers_nodup
  begun := by
    intro i hi
    rcases List.mem_append.1 hi with hi | hi
    · exact h.begun i hi
    · obtain rfl := List.mem_singleton.1 hi
      exact Nat.le_refl _

/-- A reply keeps a record coherent. -/
lemma answer (h : Coherent r) (fetch : Nat) (reply : Reply) :
    Coherent (r.act (.answer fetch reply)) where
  lookup_numbers := h.lookup_numbers
  fetch_numbers := by simpa [Record.act, Function.comp_def] using h.fetch_numbers
  live_le_one := by
    intro e
    rw [Record.live_answer, List.length_map]
    exact h.live_le_one e
  finished := by
    intro i hi set fate
    obtain ⟨f, hf, given, answered, known⟩ := h.finished i hi set fate
    have settled : f.answer fetch reply = f :=
      Fetch.answer_of_not_pending (by simp [Fetch.isPending, answered]) fetch reply
    refine ⟨f, ?_, given, answered, known⟩
    rw [Record.live_answer]
    exact List.mem_map.2 ⟨f, hf, settled⟩
  issued := by
    intro f hf
    obtain ⟨g, hg, rfl⟩ := List.mem_map.1 hf
    obtain ⟨i, hi, issued⟩ := h.issued g hg
    exact ⟨i, hi, issued.answer fetch reply⟩
  issuers_nodup := by simpa [Record.act, Function.comp_def] using h.issuers_nodup
  begun := h.begun

/-- A cancellation keeps a record coherent. -/
lemma cancel (h : Coherent r) (lookup : Nat) : Coherent (r.act (.cancel lookup)) where
  lookup_numbers := by simpa [Record.act, Function.comp_def] using h.lookup_numbers
  fetch_numbers := by simpa [Record.act, Function.comp_def] using h.fetch_numbers
  live_le_one := by
    intro e
    rw [Record.live_cancel]
    exact Nat.le_trans (List.length_filter_le _ _) (h.live_le_one e)
  finished := by
    intro i hi set fate
    obtain ⟨j, hj, rfl⟩ := List.mem_map.1 hi
    have fate' : j.fate = .finished set := by
      unfold Inquiry.cancel at fate
      split at fate
      · cases fate
      · exact fate
    obtain ⟨f, hf, given, answered, known⟩ := h.finished j hj set fate'
    refine ⟨f, ?_, given, answered, known⟩
    rw [Inquiry.edition_cancel, Record.live_cancel]
    exact List.mem_filter.2 ⟨hf, by simp [Fetch.isRunBy, Fetch.isPending, answered]⟩
  issued := by
    intro f hf
    obtain ⟨g, hg, rfl⟩ := List.mem_map.1 hf
    obtain ⟨i, hi, issued⟩ := h.issued g hg
    exact ⟨i.cancel lookup, List.mem_map_of_mem hi, issued.cancel lookup⟩
  issuers_nodup := by simpa [Record.act, Function.comp_def] using h.issuers_nodup
  begun := by
    intro i hi
    obtain ⟨j, hj, rfl⟩ := List.mem_map.1 hi
    rw [Inquiry.edition_cancel]
    exact h.begun j hj

/-- An invalidation keeps a record coherent, as it touches neither lookups nor fetches. -/
lemma invalidate (h : Coherent r) (kind : Kind) : Coherent (r.act (.invalidate kind)) :=
  { h with begun := fun i hi => Nat.le_trans (h.begun i hi) (Nat.le_add_right _ _) }

/-- **Whatever is done keeps a record coherent.** -/
theorem act (h : Coherent r) (action : Action) : Coherent (r.act action) := by
  cases action with
  | hold kind reply => exact { h with }
  | gate on => exact { h with }
  | start kind question => exact h.start kind question
  | answer fetch reply => exact h.answer fetch reply
  | cancel lookup => exact h.cancel lookup
  | invalidate kind => exact h.invalidate kind

/-! ### What is seen -/

/-- An unfinished lookup of a generation whose fetches were all given up has issued none. -/
lemma issuer_ne (h : Coherent r) {e : Edition} {l : Lookup} (underway : l ∈ r.underway e)
    (dead : r.live e = []) {f : Fetch} (hf : f ∈ r.fetches) : f.issuer ≠ l.number := by
  intro same
  obtain ⟨i, hi, place, fate, rfl⟩ := Record.mem_underway.1 underway
  obtain ⟨j, hj, issued⟩ := h.issued f hf
  obtain rfl := h.eq_of_number hj hi (issued.number.trans same)
  -- the fetch is one of the same generation, so it was abandoned, and its lookup cancelled
  have abandoned : f.course = .abandoned := by
    by_contra alive
    have live : f ∈ r.live e := Record.mem_live.2 ⟨hf, issued.edition.symm.trans place, alive⟩
    simp [dead] at live
  simp [issued.abandoned abandoned] at fate

/-- A fetch that is allowed keeps a record coherent. -/
lemma fetch (h : Coherent r) {e : Edition} {issuer : Lookup} (underway : issuer ∈ r.underway e)
    (dead : r.live e = []) : Coherent (r.see ⟨e, .fetch r.fetches.length issuer⟩) where
  lookup_numbers := h.lookup_numbers
  fetch_numbers := by simp [Record.see, Record.issue, h.fetch_numbers, List.range_succ]
  live_le_one := by
    intro e'
    rw [Record.live_fetch]
    split
    · rename_i here
      subst here
      simp [dead]
    · simpa using h.live_le_one e'
  finished := by
    intro i hi set fate
    obtain ⟨f, hf, known⟩ := h.finished i hi set fate
    refine ⟨f, ?_, known⟩
    rw [Record.live_fetch]
    exact List.mem_append_left _ hf
  issued := by
    intro f hf
    rcases List.mem_append.1 hf with hf | hf
    · exact h.issued f hf
    · obtain rfl := List.mem_singleton.1 hf
      obtain ⟨i, hi, place, fate, rfl⟩ := Record.mem_underway.1 underway
      refine ⟨i, hi, rfl, place, fun _ => fate, fun abandoned => ?_⟩
      simp only [Record.issue] at abandoned
      split at abandoned <;> cases abandoned
  issuers_nodup := by
    simp only [Record.see, List.map_append, List.map_cons, List.map_nil, Record.issue]
    refine List.nodup_append.2 ⟨h.issuers_nodup, List.nodup_singleton _, ?_⟩
    intro number hnumber other hother same
    obtain ⟨f, hf, rfl⟩ := List.mem_map.1 hnumber
    exact h.issuer_ne underway dead hf (same.trans (List.mem_singleton.1 hother))
  begun := h.begun

/-- The end of a lookup that is allowed keeps a record coherent. -/
lemma finish (h : Coherent r) {e : Edition} {lookup : Lookup} {set : List String}
    (underway : lookup ∈ r.underway e) (knows : r.Knows e set) :
    Coherent (r.see ⟨e, .finish lookup set⟩) where
  lookup_numbers := by simpa [Record.see, Function.comp_def] using h.lookup_numbers
  fetch_numbers := h.fetch_numbers
  live_le_one := h.live_le_one
  finished := by
    intro i hi other fate
    obtain ⟨j, hj, rfl⟩ := List.mem_map.1 hi
    rw [Inquiry.edition_finish]
    unfold Inquiry.finish at fate
    split at fate
    · rename_i same
      obtain ⟨k, hk, rfl, -, rfl⟩ := Record.mem_underway.1 underway
      obtain rfl := h.eq_of_number hj hk same
      obtain rfl := Fate.finished.inj fate
      exact knows
    · exact h.finished j hj other fate
  issued := by
    intro f hf
    obtain ⟨i, hi, issued⟩ := h.issued f hf
    refine ⟨i.finish lookup.number set, List.mem_map_of_mem hi, issued.finish set fun same => ?_⟩
    obtain ⟨j, hj, place, fate, rfl⟩ := Record.mem_underway.1 underway
    obtain rfl := h.eq_of_number hi hj same
    have alive : f.course ≠ .abandoned := fun abandoned => by
      simp [issued.abandoned abandoned] at fate
    -- the fetch is not given up, so it is the one that was answered
    obtain ⟨g, hg, reply, answered, -⟩ := knows
    have live : f ∈ r.live e := Record.mem_live.2 ⟨hf, issued.edition.symm.trans place, alive⟩
    obtain rfl := h.eq_of_mem_live live hg
    exact ⟨by simp [answered], alive⟩
  issuers_nodup := h.issuers_nodup
  begun := by
    intro i hi
    obtain ⟨j, hj, rfl⟩ := List.mem_map.1 hi
    rw [Inquiry.edition_finish]
    exact h.begun j hj

/-- Whatever is allowed keeps a record coherent. -/
theorem note (h : Coherent r) {moment : Moment} (allowed : r.Allows moment) :
    Coherent (r.note moment) := by
  cases moment with
  | did action => exact h.act action
  | saw occurrence =>
      obtain ⟨e, event⟩ := occurrence
      cases event with
      | fetch number issuer =>
          obtain ⟨rfl, underway, dead⟩ := allowed
          exact h.fetch underway dead
      | finish lookup set => exact h.finish allowed.1 allowed.2

/-- **Moments that are allowed one after another keep a record coherent.** -/
theorem noteAll (h : Coherent r) {moments : List Moment} (allowed : r.AllowsAll moments) :
    Coherent (r.noteAll moments) := by
  induction moments generalizing r with
  | nil => exact h
  | cons moment rest ih => exact ih (h.note allowed.1) allowed.2

/-! ### After an answer -/

/-- Beside an answered fetch no fetch of a generation is pending. -/
lemma not_pending_of_answered (h : Coherent r) {e : Edition} {f g : Fetch} {reply : Reply}
    (hf : f ∈ r.fetchesOf e) (answered : f.course = .answered reply) (hg : g ∈ r.fetchesOf e) :
    g.isPending = false := by
  simp only [Record.fetchesOf, List.mem_filter, decide_eq_true_eq] at hf hg
  by_contra pending
  have pending : g.course = .pending := by simpa [Fetch.isPending] using pending
  have same : g = f := h.eq_of_mem_live
    (Record.mem_live.2 ⟨hg.1, hg.2, by simp [pending]⟩)
    (Record.mem_live.2 ⟨hf.1, hf.2, by simp [answered]⟩)
  simp [same, answered] at pending

/-- Once a fetch of a generation is answered, its fetches stay what they are. -/
lemma fetchesOf_note (h : Coherent r) {e : Edition} {f : Fetch} {reply : Reply}
    (hf : f ∈ r.fetchesOf e) (answered : f.course = .answered reply) {moment : Moment}
    (allowed : r.Allows moment) : (r.note moment).fetchesOf e = r.fetchesOf e := by
  have settled := fun g (hg : g ∈ r.fetchesOf e) => h.not_pending_of_answered hf answered hg
  cases moment with
  | did action =>
      cases action with
      | answer fetch other =>
          show (r.fetches.map (Fetch.answer fetch other)).filter _ = _
          rw [List.filter_map]
          simp only [Function.comp_def, Fetch.edition_answer]
          exact (List.map_congr_left fun g hg =>
            Fetch.answer_of_not_pending (settled g hg) fetch other).trans (List.map_id _)
      | cancel lookup =>
          show (r.fetches.map (Fetch.abandon lookup)).filter _ = _
          rw [List.filter_map]
          simp only [Function.comp_def, Fetch.edition_abandon]
          exact (List.map_congr_left fun g hg =>
            Fetch.abandon_of_not_isRunBy (by simp [Fetch.isRunBy, settled g hg])).trans
              (List.map_id _)
      | hold | gate | start | invalidate => rfl
  | saw occurrence =>
      obtain ⟨e', event⟩ := occurrence
      cases event with
      | finish lookup set => rfl
      | fetch number issuer =>
          have other : e' ≠ e := by
            rintro rfl
            simp only [Record.fetchesOf, List.mem_filter, decide_eq_true_eq] at hf
            have live : f ∈ r.live e' := Record.mem_live.2 ⟨hf.1, hf.2, by simp [answered]⟩
            simp [allowed.2.2] at live
          simp [Record.note, Record.see, Record.fetchesOf, Record.issue, other]

/-- Once a fetch of a generation is answered, no moments that are allowed change its fetches. -/
theorem fetchesOf_noteAll (h : Coherent r) {e : Edition} {f : Fetch} {reply : Reply}
    (hf : f ∈ r.fetchesOf e) (answered : f.course = .answered reply) {moments : List Moment}
    (allowed : r.AllowsAll moments) : (r.noteAll moments).fetchesOf e = r.fetchesOf e := by
  induction moments generalizing r with
  | nil => rfl
  | cons moment rest ih =>
      have same := h.fetchesOf_note hf answered allowed.1
      exact (ih (h.note allowed.1) (same ▸ hf) allowed.2).trans same

end Coherent

end SaleSearch.Catalog

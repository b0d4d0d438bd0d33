import SaleSearch.Proofs.Catalog.Retired

/-!
# Clean invalidations

An invalidation separates the lookups of a kind.  Those that begin later are only given what a
lookup of their own side fetched; those that wait already are given the reply to their own fetch,
and that reply is of no consequence for anybody else.

* `CleanInvalidation` says all that of the state after some actions, and `cleanInvalidation` is the
  result.
* `Record.Divided` is what keeps the two sides apart.
* That a late reply has no further consequence is `Session.run_put`: the reply to the fetch of a
  retired generation only replaces the state of that generation.
-/

namespace SaleSearch.Catalog

/-- The lookups of a kind from this one on were given nothing that an earlier one fetched. -/
structure Record.FreshSince (r : Record) (kind : Kind) (lookup : Nat) : Prop where
  fetched : ∀ i ∈ r.lookups, i.edition.kind = kind → lookup ≤ i.lookup.number →
    ∀ f ∈ r.fetchesOf i.edition, lookup ≤ f.issuer
  given : ∀ i ∈ r.lookups, i.edition.kind = kind → lookup ≤ i.lookup.number →
    ∀ set, i.fate = .finished set → ∃ f ∈ r.fetchesOf i.edition, ∃ reply,
      lookup ≤ f.issuer ∧ f.course = .answered reply ∧ reply.known = set

/-- A reply finishes exactly the lookups underway in the generation of its fetch, and one to a
retired generation loads nothing and makes no difference to what is observed later. -/
structure RepliesStayApart (r : Record) (s : Session) : Prop where
  /-- The lookups that wait for a fetch, and they only, are given the reply to it. -/
  given : ∀ e, ∀ f ∈ r.pending e, ∀ reply,
    (s.step (.answer f.number reply)).2
      = (r.underway e).map fun lookup => ⟨e, .finish lookup reply.known⟩
  /-- A reply that comes after an invalidation loads nothing. -/
  late : ∀ e, s.IsRetired e → ∀ f ∈ r.pending e, ∀ reply kind,
    (s.step (.answer f.number reply)).1.isLoaded kind = s.isLoaded kind
  /-- Nobody can tell later on which reply it was. -/
  late_unread : ∀ e, s.IsRetired e → ∀ f ∈ r.pending e, ∀ reply other actions,
    (s.step (.answer f.number reply)).1.SameFuture (s.step (.answer f.number other)).1 actions
  /-- Nor whether it came at all, if nothing else is done to that fetch and its lookups. -/
  late_unseen : ∀ e, s.IsRetired e → ∀ f ∈ r.pending e, ∀ reply actions,
    (∀ other, .answer f.number other ∉ actions) →
      (∀ l ∈ r.underway e, .cancel l.number ∉ actions) →
        s.SameFuture (s.step (.answer f.number reply)).1 actions

/-- What `invalidate` and `invalidateAll` mean for a session after some actions: lookups since then
get nothing that was fetched before, earlier ones get the reply to a fetch of their own generation,
and `isLoaded` is about the current generation. -/
structure CleanInvalidation (actions : List Action) : Prop where
  /-- What began after an invalidation is given nothing that was fetched by what began before. -/
  fresh : ∀ past kind later,
    past ++ .did (.invalidate kind) :: later <+: Session.history actions →
      (Record.of (past ++ .did (.invalidate kind) :: later)).FreshSince kind
        (Record.of past).lookups.length
  fresh_all : ∀ past later kind,
    past ++ Action.invalidateAll.map .did ++ later <+: Session.history actions →
      (Record.of (past ++ Action.invalidateAll.map .did ++ later)).FreshSince kind
        (Record.of past).lookups.length
  /-- Whoever is finished was given the reply to a fetch of his own generation. -/
  own : ∀ i ∈ (Session.recorded actions).lookups, ∀ set, i.fate = .finished set →
    ∃ f ∈ (Session.recorded actions).fetchesOf i.edition, ∃ reply,
      f.course = .answered reply ∧ reply.known = set
  replies : RepliesStayApart (Session.recorded actions) (Session.after actions)
  loaded : ∀ kind, (Session.after actions).isLoaded kind = true ↔
    ∃ f ∈ (Session.recorded actions).fetchesOf ((Session.after actions).edition kind), f.isAnswered
  /-- What is loaded now and was not before has been answered in between. -/
  turned_on : ∀ action kind, (Session.after actions).isLoaded kind = false →
    (Session.after (actions ++ [action])).isLoaded kind = true →
      ∃ f ∈ (Session.recorded (actions ++ [action])).fetches,
        f.edition = (Session.after actions).edition kind ∧ f.isAnswered
          ∧ ∀ g ∈ (Session.recorded actions).fetches, g.number = f.number → !g.isAnswered
  turned_off : ∀ action kind, (Session.after actions).isLoaded kind = true →
    (Session.after (actions ++ [action])).isLoaded kind = false → action = .invalidate kind
  cleared : ∀ kind, (Session.after (actions ++ [.invalidate kind])).isLoaded kind = false

/-! ## The two sides of an invalidation -/

/-- A finished lookup was given the reply to a fetch of its generation. -/
lemma Coherent.given {r : Record} (h : Coherent r) (i : Inquiry) (hi : i ∈ r.lookups)
    {set : List String} (finished : i.fate = .finished set) :
    ∃ f ∈ r.fetchesOf i.edition, ∃ reply, f.course = .answered reply ∧ reply.known = set := by
  obtain ⟨f, hf, known⟩ := h.finished i hi set finished
  exact ⟨f, List.mem_of_mem_filter hf, known⟩

/-- From the lookup numbered so on, the lookups of a kind are of the generation numbered so or of a
later one, and those before are not. -/
structure Record.Divided (r : Record) (kind : Kind) (lookup generation : Nat) : Prop where
  lookups : lookup ≤ r.lookups.length
  invalidations : generation ≤ r.invalidations kind
  sides : ∀ i ∈ r.lookups, i.edition.kind = kind →
    (lookup ≤ i.lookup.number ↔ generation ≤ i.edition.number)

namespace Record.Divided

variable {r : Record} {kind : Kind} {lookup generation : Nat}

/-- Entries of lookups that stay in their generation stay on their side. -/
lemma map (h : r.Divided kind lookup generation) {g : Inquiry → Inquiry}
    (same_edition : ∀ i, (g i).edition = i.edition) (same_lookup : ∀ i, (g i).lookup = i.lookup)
    {fetches : List Fetch} :
    ({ r with lookups := r.lookups.map g, fetches } : Record).Divided kind lookup generation where
  lookups := by simpa using h.lookups
  invalidations := h.invalidations
  sides := by
    intro i hi
    obtain ⟨j, hj, rfl⟩ := List.mem_map.1 hi
    rw [same_edition, same_lookup]
    exact h.sides j hj

/-- A new lookup is on the later side, as it joins the current generation. -/
lemma start (h : r.Divided kind lookup generation) (kind' : Kind) (question : Question) :
    (r.act (.start kind' question)).Divided kind lookup generation where
  lookups := by
    simp only [Record.act, List.length_append]
    exact Nat.le_trans h.lookups (Nat.le_add_right _ _)
  invalidations := h.invalidations
  sides := by
    intro i hi same
    rcases List.mem_append.1 hi with hi | hi
    · exact h.sides i hi same
    · obtain rfl := List.mem_singleton.1 hi
      obtain rfl : kind' = kind := same
      exact iff_of_true h.lookups h.invalidations

/-- No moment moves a lookup to the other side. -/
lemma note (h : r.Divided kind lookup generation) (moment : Moment) :
    (r.note moment).Divided kind lookup generation := by
  cases moment with
  | did action =>
      cases action with
      | hold | gate | answer => exact ⟨h.lookups, h.invalidations, h.sides⟩
      | start kind' question => exact h.start kind' question
      | cancel number =>
          exact h.map (Inquiry.edition_cancel number) (Inquiry.lookup_cancel number)
      | invalidate kind' =>
          exact ⟨h.lookups, Nat.le_trans h.invalidations (Nat.le_add_right _ _), h.sides⟩
  | saw occurrence =>
      obtain ⟨e, event⟩ := occurrence
      cases event with
      | fetch number issuer => exact ⟨h.lookups, h.invalidations, h.sides⟩
      | finish l set =>
          exact h.map (Inquiry.edition_finish l.number set) (Inquiry.lookup_finish l.number set)

lemma noteAll (h : r.Divided kind lookup generation) (moments : List Moment) :
    (r.noteAll moments).Divided kind lookup generation := by
  induction moments generalizing r with
  | nil => exact h
  | cons moment rest ih => exact ih (h.note moment)

/-- The lookups on the later side were given nothing that was fetched on the earlier one, since a
generation and the lookups that fetch for it are on one side. -/
theorem freshSince (h : r.Divided kind lookup generation) (coherent : Coherent r) :
    r.FreshSince kind lookup := by
  have fetched : ∀ i ∈ r.lookups, i.edition.kind = kind → lookup ≤ i.lookup.number →
      ∀ f ∈ r.fetchesOf i.edition, lookup ≤ f.issuer := by
    intro i hi same later f hf
    obtain ⟨hf, place⟩ := Record.mem_fetchesOf.1 hf
    obtain ⟨j, hj, issued⟩ := coherent.issued f hf
    have together : j.edition = i.edition := issued.edition.trans place
    have side := h.sides j hj (by rw [together, same])
    rw [← issued.number, side, together, ← h.sides i hi same]
    exact later
  refine ⟨fetched, ?_⟩
  intro i hi same later set finished
  obtain ⟨f, hf, reply, answered, known⟩ := coherent.given i hi finished
  exact ⟨f, hf, reply, fetched i hi same later f hf, answered, known⟩

end Record.Divided

/-- An invalidation divides the lookups of its kind. -/
lemma Coherent.divided {r : Record} (h : Coherent r) (kind : Kind) :
    (r.act (.invalidate kind)).Divided kind r.lookups.length (r.invalidations kind + 1) where
  lookups := Nat.le_refl _
  invalidations := by simp [Record.act]
  sides := by
    intro i hi same
    have earlier : i.lookup.number < r.lookups.length := by
      rw [← List.mem_range, ← h.lookup_numbers]
      exact List.mem_map_of_mem hi
    have begun := same ▸ h.begun i hi
    omega

/-- Invalidations begin no lookups. -/
lemma Record.lookups_noteAll_invalidate (r : Record) (kinds : List Kind) :
    (r.noteAll (kinds.map fun kind => .did (.invalidate kind))).lookups = r.lookups := by
  induction kinds generalizing r with
  | nil => rfl
  | cons kind rest ih => exact ih (r.act (.invalidate kind))

/-! ## Retired generations and late replies -/

namespace Tracks

variable {r : Record} {s : Session}

/-- A kind is not loaded when it has just been invalidated. -/
lemma isLoaded_invalidate (h : Tracks r s) (kind : Kind) :
    (s.invalidate kind).isLoaded kind = false := by
  have unknown : s.generations ((s.invalidate kind).edition kind) = .idle := by
    refine h.future _ ?_
    simp [Session.edition, Session.invalidate]
  show (s.generations ((s.invalidate kind).edition kind)).isAnswered = false
  rw [unknown]
  rfl

/-- The reply to a pending fetch ends the lookups underway in its generation and fills that; nothing
else changes. -/
lemma step_answer (h : Tracks r s) (coherent : Coherent r) {e : Edition} {f : Fetch}
    (hf : f ∈ r.pending e) (reply : Reply) :
    s.step (.answer f.number reply)
      = (s.put e (.answered reply.known),
        (r.underway e).map fun lookup => ⟨e, .finish lookup reply.known⟩) := by
  have here := ((h.accounts e).awaits_iff hf).2 rfl
  rw [Session.step, h.answer_eq coherent here, (h.accounts e).underway_eq, Generation.answer,
    Session.commit_of_reply (Session.reply_finishes ..), Session.countP_isFetch_finishes,
    List.map_map]
  rfl

/-- Where record and session agree and the record is coherent, `RepliesStayApart` holds. -/
theorem repliesStayApart (h : Tracks r s) (coherent : Coherent r) : RepliesStayApart r s where
  given := by
    intro e f hf reply
    rw [h.step_answer coherent hf]
  late := by
    intro e retired f hf reply kind
    rw [h.step_answer coherent hf]
    exact Session.isLoaded_put retired kind
  late_unread := by
    intro e retired f hf reply other actions
    rw [h.step_answer coherent hf, h.step_answer coherent hf]
    show (s.put e (.answered reply.known)).SameFuture (s.put e (.answered other.known)) actions
    have again : s.put e (.answered other.known)
        = (s.put e (.answered reply.known)).put e (.answered other.known) := Session.put_put.symm
    rw [again]
    have still : (s.put e (.answered reply.known)).IsRetired e := retired
    refine Session.sameFuture_put still ?_ fun action _ => Generation.ignores_answered _ action
    intro action _
    rw [Session.put_generations_self]
    exact Generation.ignores_answered _ action
  late_unseen := by
    intro e retired f hf reply actions unanswered uncancelled
    rw [h.step_answer coherent hf]
    refine Session.sameFuture_put retired ?_ fun action _ => Generation.ignores_answered _ action
    intro action mem
    cases action with
    | hold | gate | start | invalidate => trivial
    | cancel lookup =>
        by_contra here
        obtain ⟨l, hl, rfl⟩ := (h.accounts e).has_iff.1 (by simpa [Generation.Ignores] using here)
        exact uncancelled l hl mem
    | answer fetch other =>
        by_contra here
        have same := ((h.accounts e).awaits_iff hf).1 (by simpa [Generation.Ignores] using here)
        exact unanswered other (same ▸ mem)

end Tracks

/-! ## The result -/

namespace Session

/-- A kind is loaded if a fetch of its current generation has been answered. -/
lemma isLoaded_iff (actions : List Action) (kind : Kind) :
    (after actions).isLoaded kind = true ↔
      ∃ f ∈ (recorded actions).fetchesOf ((after actions).edition kind), f.isAnswered :=
  (tracks_after actions).isAnswered_iff _

/-- An invalidation at the end leaves the kind not loaded. -/
lemma isLoaded_concat_invalidate (actions : List Action) (kind : Kind) :
    (after (actions ++ [.invalidate kind])).isLoaded kind = false := by
  rw [after_concat]
  exact (tracks_after actions).isLoaded_invalidate kind

/-- Only an invalidation of a kind changes its current generation. -/
lemma edition_concat (actions : List Action) {action : Action} {kind : Kind}
    (other : action ≠ .invalidate kind) :
    (after (actions ++ [action])).edition kind = (after actions).edition kind := by
  rw [after_concat, edition, edition, invalidations_step other]

/-- One more action leaves the fetches of an answered generation as they are. -/
lemma fetchesOf_concat (actions : List Action) (action : Action) {e : Edition} {f : Fetch}
    (hf : f ∈ (recorded actions).fetchesOf e) (answered : f.isAnswered = true) :
    (recorded (actions ++ [action])).fetchesOf e = (recorded actions).fetchesOf e := by
  have whole : history actions ++ (after actions).moments [action]
      <+: history (actions ++ [action]) :=
    ⟨[], by rw [List.append_nil, history_append]⟩
  rw [recorded, recorded, history_append]
  exact fetchesOf_of_history whole hf answered

lemma mem_fetches_concat (actions : List Action) (action : Action) {f : Fetch}
    (hf : f ∈ (recorded actions).fetches) (answered : f.isAnswered = true) :
    f ∈ (recorded (actions ++ [action])).fetches := by
  have place : f ∈ (recorded actions).fetchesOf f.edition := Record.mem_fetchesOf.2 ⟨hf, rfl⟩
  rw [← fetchesOf_concat actions action place answered] at place
  exact (Record.mem_fetchesOf.1 place).1

end Session

/-- After an invalidation in a history the lookups that began since are fresh. -/
lemma freshSince_of_history {actions : List Action} {past later : List Moment} {kind : Kind}
    (h : past ++ .did (.invalidate kind) :: later <+: Session.history actions) :
    (Record.of (past ++ .did (.invalidate kind) :: later)).FreshSince kind
      (Record.of past).lookups.length := by
  have before := Session.coherent_of_history ((List.prefix_append past _).trans h)
  have divided := (before.divided kind).noteAll later
  have whole := Session.coherent_of_history h
  rw [Record.of, Record.noteAll_append] at whole ⊢
  exact divided.freshSince whole

/-- The same after all kinds have been invalidated, among them this one. -/
lemma freshSince_invalidateAll {actions : List Action} {past later : List Moment} {kind : Kind}
    (h : past ++ Action.invalidateAll.map .did ++ later <+: Session.history actions) :
    (Record.of (past ++ Action.invalidateAll.map .did ++ later)).FreshSince kind
      (Record.of past).lookups.length := by
  obtain ⟨before, after, all⟩ := List.append_of_mem kind.mem_all
  have moments : past ++ Action.invalidateAll.map .did ++ later
      = (past ++ before.map fun kind => .did (.invalidate kind)) ++ .did (.invalidate kind)
        :: ((after.map fun kind => .did (.invalidate kind)) ++ later) := by
    simp [Action.invalidateAll, all, Function.comp_def]
  have begun : (Record.of (past ++ before.map fun kind => .did (.invalidate kind))).lookups
      = (Record.of past).lookups := by
    rw [Record.of, Record.noteAll_append, Record.lookups_noteAll_invalidate]
    rfl
  rw [moments] at h ⊢
  rw [← begun]
  exact freshSince_of_history h

/-- **An invalidation separates the lookups before it from those after it.**  By `Session.history`,
for every list of actions; `freshSince_of_history` carries it through what happens later. -/
theorem cleanInvalidation (actions : List Action) : CleanInvalidation actions where
  fresh past kind later h := freshSince_of_history h
  fresh_all past later kind h := freshSince_invalidateAll h
  own i hi set finished := (Session.coherent_recorded actions).given i hi finished
  replies := (Session.tracks_after actions).repliesStayApart (Session.coherent_recorded actions)
  loaded := Session.isLoaded_iff actions
  turned_on := by
    intro action kind off on
    have other : action ≠ .invalidate kind := by
      rintro rfl
      simp [Session.isLoaded_concat_invalidate] at on
    obtain ⟨f, hf, answered⟩ := (Session.isLoaded_iff _ kind).1 on
    obtain ⟨hf, place⟩ := Record.mem_fetchesOf.1 hf
    rw [Session.edition_concat actions other] at place
    refine ⟨f, hf, place, answered, fun g hg same => ?_⟩
    -- a fetch that had been answered before would be the same one, and the kind loaded already
    by_contra before
    have before : g.isAnswered = true := by simpa using before
    have kept := Session.mem_fetches_concat actions action hg before
    obtain rfl := (Session.coherent_recorded _).eq_of_fetch_number kept hf same
    have loaded := (Session.isLoaded_iff actions kind).2
      ⟨g, Record.mem_fetchesOf.2 ⟨hg, place⟩, before⟩
    simp [loaded] at off
  turned_off := by
    intro action kind on off
    by_contra other
    obtain ⟨f, hf, answered⟩ := (Session.isLoaded_iff actions kind).1 on
    have stays := Session.fetchesOf_concat actions action hf answered
    have still : (Session.after (actions ++ [action])).isLoaded kind = true := by
      rw [Session.isLoaded_iff, Session.edition_concat actions other, stays]
      exact ⟨f, hf, answered⟩
    simp [still] at off
  cleared := Session.isLoaded_concat_invalidate actions

/-- The first fetch is answered last, for the lookup that waited for it. -/
example : (Session.run {} [.gate true, .start .chains .all, .invalidate .chains,
      .start .chains .all, .answer 1 (.values ["wax"]), .answer 0 (.failure "late")]).2.filterMap
        Occurrence.finished? = [(⟨1, .all⟩, ["wax"]), (⟨0, .all⟩, [])] :=
  rfl

end SaleSearch.Catalog

import SaleSearch.Proofs.Catalog.Numbering

/-!
# The part of a session that belongs to a kind

A session is three machines side by side, one for each kind, that share a source and the numbers of
their lookups and fetches.  The part of a kind is the session in which nothing else has ever
happened, with numbers of its own.

* `Generation.join_renumber`, `Generation.drop_renumber` and `Generation.answer_renumber`: other
  numbers make no difference to what happens to a generation, if they keep its lookups apart.
* `Session.part` is the part of a kind, and `Session.Untouched` says that nothing of a kind is
  different.
* `Session.commit_part` and `Session.change_part`: a change of a generation of the kind is one of
  the part.  `Session.untouched_commit`: any other is none of it.
-/

namespace SaleSearch.Catalog

/-! ## Other numbers -/

/-- A lookup with another number. -/
def Lookup.renumber (ν : Numbering) (l : Lookup) : Lookup :=
  { l with number := ν.lookup l.number }

@[simp] lemma Lookup.number_renumber (ν : Numbering) (l : Lookup) :
    (l.renumber ν).number = ν.lookup l.number :=
  rfl

/-- An event in other numbers. -/
def Event.renumber (ν : Numbering) : Event → Event
  | .fetch number issuer => .fetch (ν.fetch number) (issuer.renumber ν)
  | .finish lookup set => .finish (lookup.renumber ν) set

/-- An occurrence in other numbers. -/
def Occurrence.renumber (ν : Numbering) (o : Occurrence) : Occurrence :=
  { o with event := o.event.renumber ν }

/-- An action in other numbers, which only a reply and a cancellation mention. -/
def Action.renumber (ν : Numbering) : Action → Action
  | .answer fetch reply => .answer (ν.fetch fetch) reply
  | .cancel lookup => .cancel (ν.lookup lookup)
  | action => action

/-- A generation in other numbers. -/
def Generation.renumber (ν : Numbering) : Generation → Generation
  | .idle => .idle
  | .fetching runner fetch waiting =>
      .fetching (runner.renumber ν) (ν.fetch fetch) (waiting.map (Lookup.renumber ν))
  | .answered set => .answered set

/-- A changed generation and what was seen of it, in other numbers. -/
def Numbering.change (ν : Numbering) (changed : Generation × List Event) :
    Generation × List Event :=
  (changed.1.renumber ν, changed.2.map (Event.renumber ν))

@[simp] lemma Event.isFetch_renumber (ν : Numbering) (event : Event) :
    (event.renumber ν).isFetch = event.isFetch := by
  cases event <;> rfl

namespace Generation

variable {ν : Numbering} {g : Generation}

@[simp] lemma isAnswered_renumber : (g.renumber ν).isAnswered = g.isAnswered := by
  cases g <;> rfl

@[simp] lemma unfinished_renumber :
    (g.renumber ν).unfinished = g.unfinished.map (Lookup.renumber ν) := by
  cases g <;> rfl

lemma has_of_mem {l : Lookup} (hl : l ∈ g.unfinished) : g.has l.number = true :=
  List.any_eq_true.2 ⟨l, hl, by simp⟩

/-- A generation has the same lookups in other numbers, if these keep them apart. -/
lemma has_renumber {lookup : Nat}
    (apart : ∀ l, g.has l = true → ν.lookup l = ν.lookup lookup → l = lookup) :
    (g.renumber ν).has (ν.lookup lookup) = g.has lookup := by
  have same : ∀ l ∈ g.unfinished, (l.renumber ν).number = ν.lookup lookup ↔ l.number = lookup :=
    fun l hl => ⟨apart l.number (has_of_mem hl), congrArg ν.lookup⟩
  rw [Bool.eq_iff_iff]
  simp only [has, unfinished_renumber, List.any_map, List.any_eq_true, Function.comp_apply,
    decide_eq_true_eq]
  exact exists_congr fun l => and_congr_right (same l)

/-- A generation waits for the same fetch in other numbers, if these keep it apart. -/
lemma awaits_renumber {fetch : Nat}
    (apart : ∀ f, g.awaits f = true → ν.fetch f = ν.fetch fetch → f = fetch) :
    (g.renumber ν).awaits (ν.fetch fetch) = g.awaits fetch := by
  cases g with
  | idle | answered => rfl
  | fetching runner number waiting =>
      exact decide_eq_decide.2 ⟨apart number (decide_eq_true rfl), congrArg ν.fetch⟩

/-- A lookup that begins does the same in other numbers. -/
lemma join_renumber (next : Nat) (lookup : Lookup) :
    (g.renumber ν).join (ν.fetch next) (lookup.renumber ν) = ν.change (g.join next lookup) := by
  cases g with
  | idle | answered => rfl
  | fetching => simp [renumber, join, Numbering.change]

lemma handOver_renumber (next : Nat) (waiting : List Lookup) :
    handOver (ν.fetch next) (waiting.map (Lookup.renumber ν))
      = ν.change (handOver next waiting) := by
  cases waiting <;> rfl

/-- A lookup that is given up does the same in other numbers, if these keep it apart. -/
lemma drop_renumber {lookup : Nat}
    (apart : ∀ l, g.has l = true → ν.lookup l = ν.lookup lookup → l = lookup) (next : Nat) :
    (g.renumber ν).drop (ν.fetch next) (ν.lookup lookup) = ν.change (g.drop next lookup) := by
  cases g with
  | idle | answered => rfl
  | fetching runner fetch waiting =>
      have same : ∀ l ∈ runner :: waiting,
          ν.lookup l.number = ν.lookup lookup ↔ l.number = lookup :=
        fun l hl => ⟨apart l.number (has_of_mem hl), congrArg ν.lookup⟩
      have runs := same runner List.mem_cons_self
      simp only [renumber, drop, Lookup.number_renumber, runs, List.filter_map]
      split
      · exact handOver_renumber next waiting
      · have kept : waiting.filter (fun l => decide (ν.lookup l.number ≠ ν.lookup lookup))
            = waiting.filter fun l => decide (l.number ≠ lookup) :=
          List.filter_congr fun l hl =>
            decide_eq_decide.2 (not_congr (same l (List.mem_cons_of_mem _ hl)))
        have changed := congrArg
          (fun rest => Generation.fetching (runner.renumber ν) (ν.fetch fetch)
            (rest.map (Lookup.renumber ν))) kept
        exact congrArg (·, []) changed

/-- What a generation is in other numbers depends on its own lookups and fetch only. -/
lemma renumber_congr {μ : Numbering} (lookups : ∀ l, g.has l = true → ν.lookup l = μ.lookup l)
    (fetches : ∀ f, g.awaits f = true → ν.fetch f = μ.fetch f) : g.renumber ν = g.renumber μ := by
  cases g with
  | idle | answered => rfl
  | fetching runner fetch waiting =>
      have same : ∀ l ∈ runner :: waiting, l.renumber ν = l.renumber μ := fun l hl => by
        rw [Lookup.renumber, lookups l.number (has_of_mem hl), Lookup.renumber]
      obtain ⟨first, others⟩ := List.forall_mem_cons.1 same
      rw [renumber, renumber, first, fetches fetch (decide_eq_true rfl),
        List.map_congr_left others]

lemma answer_renumber (set : List String) :
    (g.renumber ν).answer set = ν.change (g.answer set) := by
  rw [answer, unfinished_renumber, answer, Numbering.change, List.map_map, List.map_map]
  rfl

end Generation

/-! ## The part of a kind -/

namespace Session

/-- The session as if nothing had happened to the other kinds, in other numbers. -/
def part (s : Session) (ν : Numbering) (kind : Kind) : Session where
  generations e := if e.kind = kind then (s.generations e).renumber ν else .idle
  invalidations k := if k = kind then s.invalidations k else 0
  source :=
    { gated := s.source.gated
      replies := fun k => if k = kind then s.source.replies k else .values [] }
  lookups := ν.lookup s.lookups
  fetches := ν.fetch s.fetches

/-- The parts are the same if all that belongs to the kind is. -/
lemma part_eq_part {s s' : Session} {ν μ : Numbering} {kind : Kind}
    (generations : ∀ e, e.kind = kind →
      (s'.generations e).renumber ν = (s.generations e).renumber μ)
    (invalidations : s'.invalidations kind = s.invalidations kind)
    (reply : s'.source.replies kind = s.source.replies kind)
    (gated : s'.source.gated = s.source.gated) (lookups : ν.lookup s'.lookups = μ.lookup s.lookups)
    (fetches : ν.fetch s'.fetches = μ.fetch s.fetches) : s'.part ν kind = s.part μ kind := by
  simp only [part, lookups, fetches, gated, mk.injEq, Source.mk.injEq, true_and, and_true]
  refine ⟨funext fun e => ?_, funext fun k => ?_, funext fun k => ?_⟩
  · exact ite_congr rfl (generations e) fun _ => rfl
  · exact ite_congr rfl (fun own => own ▸ invalidations) fun _ => rfl
  · exact ite_congr rfl (fun own => own ▸ reply) fun _ => rfl

/-- Two sessions agree on the generations of a kind, on how often it was invalidated, on what the
source holds for it, and on whether the source is gated. -/
structure Untouched (kind : Kind) (s s' : Session) : Prop where
  generations : ∀ e, e.kind = kind → s'.generations e = s.generations e
  invalidations : s'.invalidations kind = s.invalidations kind
  reply : s'.source.replies kind = s.source.replies kind
  gated : s'.source.gated = s.source.gated

variable {s s' : Session} {ν : Numbering} {kind : Kind} {e : Edition}

/-- The generations of the part are those of the kind in other numbers. -/
lemma part_generations (own : e.kind = kind) :
    (s.part ν kind).generations e = (s.generations e).renumber ν :=
  if_pos own

lemma part_generations_of_ne (other : e.kind ≠ kind) : (s.part ν kind).generations e = .idle :=
  if_neg other

lemma part_edition : (s.part ν kind).edition kind = s.edition kind := by
  simp [part, edition]

/-- The kind is loaded in the part if it is. -/
lemma isLoaded_part : (s.part ν kind).isLoaded kind = s.isLoaded kind := by
  have own : (s.edition kind).kind = kind := rfl
  rw [isLoaded, part_edition, part_generations own, Generation.isAnswered_renumber, isLoaded]

/-- The generations of the kind that have begun are those of the part. -/
lemma mem_editions_part (own : e.kind = kind) : e ∈ (s.part ν kind).editions ↔ e ∈ s.editions := by
  have same : (s.part ν kind).invalidations e.kind = s.invalidations e.kind := if_pos own
  rw [mem_editions, mem_editions, same]

namespace Untouched

lemma refl (kind : Kind) (s : Session) : s.Untouched kind s :=
  ⟨fun _ _ => rfl, rfl, rfl, rfl⟩

lemma trans {s'' : Session} (h : s.Untouched kind s') (h' : s'.Untouched kind s'') :
    s.Untouched kind s'' where
  generations e own := (h'.generations e own).trans (h.generations e own)
  invalidations := h'.invalidations.trans h.invalidations
  reply := h'.reply.trans h.reply
  gated := h'.gated.trans h.gated

lemma edition_eq (h : s.Untouched kind s') : s'.edition kind = s.edition kind := by
  rw [edition, edition, h.invalidations]

lemma isLoaded_eq (h : s.Untouched kind s') : s'.isLoaded kind = s.isLoaded kind := by
  rw [isLoaded, isLoaded, h.edition_eq, h.generations (s.edition kind) rfl]

end Untouched

/-! ### Changes -/

lemma part_reply (changed : Generation × List Event) :
    (s.part ν kind).reply kind (ν.change changed) = ν.change (s.reply kind changed) := by
  have fetches : (ν.change changed).2.any Event.isFetch = changed.2.any Event.isFetch := by
    simp [Numbering.change, Function.comp_def]
  have replies : (s.part ν kind).source.replies kind = s.source.replies kind := if_pos rfl
  have gated : (s.part ν kind).source.gated = s.source.gated := rfl
  unfold reply
  rw [fetches, replies, gated]
  split
  · simp [Numbering.change, Generation.answer_renumber]
  · rfl

/-- A generation of the kind can be replaced before or after its part is taken. -/
lemma part_put (own : e.kind = kind) {g : Generation} :
    (s.put e g).part ν kind = (s.part ν kind).put e (g.renumber ν) := by
  have same : (fun e' : Edition =>
        if e'.kind = kind then ((s.put e g).generations e').renumber ν else .idle)
      = fun e' => if e' = e then g.renumber ν else (s.part ν kind).generations e' := by
    funext e'
    by_cases here : e' = e
    · subst here
      rw [if_pos own, put_generations_self, if_pos rfl]
    · rw [if_neg here, put_generations_of_ne here]
      rfl
  exact congrArg (fun generations => { s.part ν kind with generations }) same

lemma length_fetchesSeen (e : Edition) (events : List Event) :
    (fetchesSeen (events.map fun event => ⟨e, event⟩)).length = events.countP Event.isFetch := by
  rw [fetchesSeen, List.filter_map, List.length_map, List.countP_eq_length_filter]
  rfl

/-- A change of a generation of the kind is a change of the part. -/
lemma commit_part (own : e.kind = kind) {changed : Generation × List Event}
    (next : ν.fetch (s.commit e changed).1.fetches
      = ν.fetch s.fetches + (fetchesSeen (s.commit e changed).2).length) :
    (s.part ν kind).commit e (ν.change changed)
      = ((s.commit e changed).1.part ν kind,
          (s.commit e changed).2.map (Occurrence.renumber ν)) := by
  subst own
  rcases shown : s.reply e.kind changed with ⟨g, events⟩
  have replied : (s.part ν e.kind).reply e.kind (ν.change changed) = _ := part_reply changed
  rw [shown] at replied
  rw [commit_of_reply shown, length_fetchesSeen] at next
  rw [commit_of_reply shown, commit_of_reply replied]
  have count : (events.map (Event.renumber ν)).countP Event.isFetch
      = events.countP Event.isFetch := by
    simp [List.countP_map, Function.comp_def]
  refine Prod.ext ?_ ?_
  · show ({ (s.part ν e.kind).put e (g.renumber ν) with
        fetches := ν.fetch s.fetches
          + (events.map (Event.renumber ν)).countP Event.isFetch } : Session)
      = { (s.put e g).part ν e.kind with
        fetches := ν.fetch (s.fetches + events.countP Event.isFetch) }
    rw [count, ← next, part_put rfl]
  · simp [Occurrence.renumber]

/-- A change of a generation of another kind is none of the part. -/
lemma untouched_commit (other : e.kind ≠ kind) (changed : Generation × List Event) :
    s.Untouched kind (s.commit e changed).1 where
  generations _ own := put_generations_of_ne fun here => other (here ▸ own)
  invalidations := rfl
  reply := rfl
  gated := rfl

/-- A lookup of another kind leaves this one untouched. -/
lemma untouched_start {k : Kind} (other : k ≠ kind) (question : Question) :
    s.Untouched kind (s.start k question).1 :=
  have untouched := untouched_commit (s := { s with lookups := s.lookups + 1 })
    (e := s.edition k) other ((s.generations (s.edition k)).join s.fetches ⟨s.lookups, question⟩)
  { untouched with }

lemma hold_part {reply : Reply} :
    (s.part ν kind).hold kind reply = (s.hold kind reply).part ν kind := by
  have same : (fun k => if k = kind then reply else (s.part ν kind).source.replies k)
      = ((s.hold kind reply).part ν kind).source.replies := by
    funext k
    by_cases here : k = kind <;> simp [part, hold, here]
  rw [hold, same]
  rfl

lemma invalidate_part :
    (s.part ν kind).invalidate kind = (s.invalidate kind).part ν kind := by
  have same : (fun k => (s.part ν kind).invalidations k + if k = kind then 1 else 0)
      = ((s.invalidate kind).part ν kind).invalidations := by
    funext k
    by_cases here : k = kind <;> simp [part, invalidate, here]
  rw [invalidate, same]
  rfl

/-- A lookup of the kind is a lookup of the part, if the next free numbers go on by one. -/
lemma start_part {question : Question}
    (lookups : ν.lookup (s.start kind question).1.lookups = ν.lookup s.lookups + 1)
    (fetches : ν.fetch (s.start kind question).1.fetches
      = ν.fetch s.fetches + (fetchesSeen (s.start kind question).2).length) :
    (s.part ν kind).start kind question
      = ((s.start kind question).1.part ν kind,
          (s.start kind question).2.map (Occurrence.renumber ν)) := by
  have own : (s.edition kind).kind = kind := rfl
  have begun : ({ s with lookups := s.lookups + 1 } : Session).part ν kind
      = { s.part ν kind with lookups := ν.lookup s.lookups + 1 } := by
    rw [← lookups]
    rfl
  rw [start, part_edition, part_generations own]
  show Session.commit { s.part ν kind with lookups := ν.lookup s.lookups + 1 } (s.edition kind)
    ((Generation.renumber ν _).join (ν.fetch s.fetches)
      (Lookup.renumber ν ⟨s.lookups, question⟩)) = _
  rw [← begun, Generation.join_renumber]
  exact commit_part own fetches

section Changes

variable {picks picks' : Generation → Bool} {how how' : Generation → Generation × List Event}

/-- A change that picks generations of other kinds only leaves this one untouched. -/
lemma untouched_change (others : ∀ e, picks (s.generations e) = true → e.kind ≠ kind) :
    s.Untouched kind (s.change picks how).1 := by
  rcases s.change_cases picks how with unchanged | ⟨e, here, changed⟩
  · rw [unchanged]
    exact .refl kind s
  · rw [changed]
    exact untouched_commit (others e here) _

/-- A change that picks generations of the kind only is a change of the part, if it picks the same
ones and does the same in other numbers. -/
lemma change_part (idle : picks' .idle = false)
    (now : ∀ e, picks (s.generations e) = true → e ∈ s.editions)
    (unique : ∀ e e', picks (s.generations e) = true → picks (s.generations e') = true → e' = e)
    (own : ∀ e, picks (s.generations e) = true → e.kind = kind)
    (same : ∀ e, e.kind = kind → picks' ((s.generations e).renumber ν) = picks (s.generations e))
    (changes : ∀ e, e.kind = kind →
      how' ((s.generations e).renumber ν) = ν.change (how (s.generations e)))
    (next : ν.fetch (s.change picks how).1.fetches
      = ν.fetch s.fetches + (fetchesSeen (s.change picks how).2).length) :
    (s.part ν kind).change picks' how'
      = ((s.change picks how).1.part ν kind,
          (s.change picks how).2.map (Occurrence.renumber ν)) := by
  have picked : ∀ e, picks' ((s.part ν kind).generations e) = true →
      e.kind = kind ∧ picks (s.generations e) = true := by
    intro e here
    by_cases mine : e.kind = kind
    · rw [part_generations mine, same e mine] at here
      exact ⟨mine, here⟩
    · rw [part_generations_of_ne mine, idle] at here
      cases here
  by_cases somewhere : ∃ e, picks (s.generations e) = true
  -- what is picked in the session is of the kind, so that the part picks the same generation
  · obtain ⟨e, here⟩ := somewhere
    have mine := own e here
    have there : picks' ((s.part ν kind).generations e) = true := by
      rw [part_generations mine, same e mine, here]
    rw [change_eq (now e here) here fun e' => unique e e' here] at next ⊢
    rw [change_eq ((mem_editions_part mine).2 (now e here)) there fun e' there' =>
      unique e e' here (picked e' there').2, part_generations mine, changes e mine]
    exact commit_part mine next
  · have nowhere : ∀ e, picks (s.generations e) = false := by simpa using somewhere
    rw [change_elsewhere nowhere, change_elsewhere fun e => ?_]
    · rfl
    · by_contra here
      exact absurd (picked e (by simpa using here)).2 (by simp [nowhere e])

end Changes

end Session

end SaleSearch.Catalog

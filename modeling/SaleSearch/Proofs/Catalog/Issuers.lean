import SaleSearch.Proofs.Catalog.Numbering

/-!
# Who fetches

A fetch is issued for one of two reasons: a lookup begins and finds that its kind is neither loaded
nor being fetched, or the lookup that ran a fetch is given up and the oldest that waits takes over.
For what is answered there is neither.

* `Session.Lacks` says that a lookup of a kind has to fetch, and `Session.fetchesSeen_start` that
  then it does.
* `Session.fetch_step` is the list of the two reasons.
* `Session.answered_run`: an answered generation stays as it is, and
  `Session.edition_ne_of_answered_run`: it is not fetched again.
* `Session.answered_of_finish_run`: a lookup that is finished leaves its generation answered.
-/

namespace SaleSearch.Catalog

/-! ## What a change of a generation shows -/

namespace Generation

variable {g : Generation} {next number : Nat} {issuer lookup l : Lookup} {set : List String}

lemma isAnswered_iff : g.isAnswered = true ↔ ∃ set, g = .answered set := by
  cases g <;> simp [isAnswered]

lemma isAnswered_congr {g' : Generation}
    (same : ∀ set, g = .answered set ↔ g' = .answered set) : g.isAnswered = g'.isAnswered := by
  rw [Bool.eq_iff_iff, isAnswered_iff, isAnswered_iff]
  exact exists_congr same

/-- Whoever finishes by the change is given the set that the generation is left with, and nothing is
fetched then. -/
def Settles (changed : Generation × List Event) : Prop :=
  ∀ l set, .finish l set ∈ changed.2 →
    changed.1 = .answered set ∧ changed.2.any Event.isFetch = false

lemma settles_join : Settles (g.join next lookup) := by
  intro l set finish
  cases g with
  | idle | fetching => simp [join] at finish
  | answered known =>
      simp only [join, List.mem_singleton, Event.finish.injEq] at finish
      rw [finish.2]
      exact ⟨rfl, rfl⟩

lemma settles_drop {n : Nat} : Settles (g.drop next n) := by
  intro l set finish
  cases g with
  | idle | answered => cases finish
  | fetching runner fetch waiting =>
      rw [drop] at finish
      split at finish
      · cases waiting <;> simp [handOver] at finish
      · cases finish

lemma settles_answer (known : List String) : Settles (g.answer known) := by
  intro l set finish
  obtain ⟨l', -, same⟩ := List.mem_map.1 finish
  obtain ⟨-, rfl⟩ := Event.finish.inj same
  refine ⟨rfl, ?_⟩
  simp [answer, Event.isFetch]

/-- A lookup that begins fetches if the generation is idle. -/
lemma fetch_join (fetch : .fetch number issuer ∈ (g.join next lookup).2) :
    g = .idle ∧ number = next ∧ issuer = lookup := by
  cases g with
  | idle =>
      obtain ⟨rfl, rfl⟩ := Event.fetch.inj (List.mem_singleton.1 fetch)
      exact ⟨rfl, rfl, rfl⟩
  | fetching | answered => simp [join] at fetch

/-- A lookup that is given up makes the oldest of the others fetch, if it ran the fetch. -/
lemma fetch_drop {n : Nat} (fetch : .fetch number issuer ∈ (g.drop next n).2) :
    ∃ runner running others, g = .fetching runner running (issuer :: others)
      ∧ runner.number = n := by
  cases g with
  | idle | answered => cases fetch
  | fetching runner running waiting =>
      rw [drop] at fetch
      split at fetch
      · rename_i same
        cases waiting with
        | nil => cases fetch
        | cons oldest others =>
            obtain ⟨-, rfl⟩ := Event.fetch.inj (List.mem_singleton.1 fetch)
            exact ⟨runner, running, others, rfl, same⟩
      · cases fetch

lemma not_fetch_answer : .fetch number issuer ∉ (g.answer set).2 := by
  simp [answer]

end Generation

namespace Session

variable {s : Session} {kind : Kind} {e : Edition} {set : List String} {l : Lookup}

/-- The answer of a source that is not gated settles as well. -/
lemma finish_reply {changed : Generation × List Event} (settles : Generation.Settles changed)
    (finish : .finish l set ∈ (s.reply kind changed).2) :
    (s.reply kind changed).1 = .answered set := by
  unfold reply at finish ⊢
  split
  · rename_i fetched
    rw [if_pos fetched] at finish
    rcases List.mem_append.1 finish with earlier | now
    · simp [(settles l set earlier).2] at fetched
    · exact (Generation.settles_answer _ l set now).1
  · rename_i silent
    rw [if_neg silent] at finish
    exact (settles l set finish).1

/-- The source issues no fetch of its own. -/
lemma fetch_reply {changed : Generation × List Event} {number : Nat}
    (fetch : .fetch number l ∈ (s.reply kind changed).2) : .fetch number l ∈ changed.2 := by
  have seen : .fetch number l ∈ (s.reply kind changed).2.filter Event.isFetch :=
    List.mem_filter.2 ⟨fetch, rfl⟩
  rw [filter_isFetch_reply] at seen
  exact List.mem_of_mem_filter seen

/-! ## Steps -/

/-- The kind is not loaded, and no fetch is under way that would load it. -/
def Lacks (s : Session) (kind : Kind) : Prop :=
  s.isLoaded kind = false ∧ ∀ fetch, (s.generations (s.edition kind)).awaits fetch = false

/-- A kind lacks its set if its current generation is idle. -/
lemma lacks_iff : s.Lacks kind ↔ s.generations (s.edition kind) = .idle := by
  unfold Lacks isLoaded
  cases s.generations (s.edition kind) with
  | idle => simp [Generation.isAnswered, Generation.awaits]
  | fetching runner fetch waiting => simp [Generation.awaits]
  | answered known => simp [Generation.isAnswered]

instance (s : Session) (kind : Kind) : Decidable (s.Lacks kind) :=
  decidable_of_iff _ lacks_iff.symm

/-- A lookup of a kind that lacks its set fetches it. -/
lemma fetchesSeen_start (lacks : s.Lacks kind) (question : Question) :
    fetchesSeen (s.start kind question).2
      = [⟨s.edition kind, .fetch s.fetches ⟨s.lookups, question⟩⟩] := by
  rw [start, fetchesSeen_commit, lacks_iff.1 lacks]
  rfl

lemma fetchesSeen_start_of_not_lacks (has : ¬s.Lacks kind) (question : Question) :
    fetchesSeen (s.start kind question).2 = [] := by
  rw [lacks_iff] at has
  rw [start, fetchesSeen_commit]
  cases state : s.generations (s.edition kind) with
  | idle => exact absurd state has
  | fetching | answered => rfl

/-- **A fetch is issued by a lookup that begins or by one that takes over.** -/
theorem fetch_step {action : Action} {number : Nat}
    (seen : ⟨e, .fetch number l⟩ ∈ (s.step action).2) :
    (∃ kind question, action = .start kind question ∧ e = s.edition kind
        ∧ l = ⟨s.lookups, question⟩ ∧ s.Lacks kind)
      ∨ ∃ runner running others, action = .cancel runner.number
        ∧ s.generations e = .fetching runner running (l :: others) := by
  cases action with
  | hold | gate | invalidate => cases seen
  | start kind question =>
      obtain ⟨rfl, fetch⟩ := mem_commit.1 seen
      obtain ⟨idle, -, rfl⟩ := Generation.fetch_join (fetch_reply fetch)
      exact .inl ⟨kind, question, rfl, rfl, rfl, lacks_iff.2 idle⟩
  | answer fetch reply =>
      obtain ⟨-, changed⟩ := mem_change seen
      rw [step, answer, changed, mem_commit] at seen
      exact absurd (fetch_reply seen.2) Generation.not_fetch_answer
  | cancel lookup =>
      obtain ⟨-, changed⟩ := mem_change seen
      rw [step, cancel, changed, mem_commit] at seen
      obtain ⟨runner, running, others, state, rfl⟩ := Generation.fetch_drop (fetch_reply seen.2)
      exact .inr ⟨runner, running, others, rfl, state⟩

/-! ## Answered generations -/

/-- A change that does not pick answered generations leaves them as they are. -/
lemma answered_change {picks : Generation → Bool} {how : Generation → Generation × List Event}
    (passes : picks (.answered set) = false) (answered : s.generations e = .answered set) :
    (s.change picks how).1.generations e = .answered set := by
  rcases s.change_cases picks how with unchanged | ⟨e', here, changed⟩
  · rw [unchanged, answered]
  · have other : e ≠ e' := by
      rintro rfl
      rw [answered, passes] at here
      cases here
    rw [changed, ← answered]
    exact put_generations_of_ne other

/-- A lookup in an answered generation ends at once with its set, and changes nothing. -/
lemma start_of_answered (answered : s.generations (s.edition kind) = .answered set)
    (question : Question) :
    (s.start kind question).2 = [⟨s.edition kind, .finish ⟨s.lookups, question⟩ set⟩]
      ∧ (s.start kind question).1.generations (s.edition kind) = .answered set := by
  let started : Session := { s with lookups := s.lookups + 1 }
  have finishes : started.reply kind (.answered set, [.finish ⟨s.lookups, question⟩ set])
      = (.answered set, [.finish ⟨s.lookups, question⟩ set]) :=
    started.reply_finishes kind _ [⟨s.lookups, question⟩] set
  rw [start, answered, Generation.join, commit_of_reply (e := s.edition kind) finishes]
  exact ⟨rfl, put_generations_self⟩

/-- A lookup that does not fetch answers no generation and leaves those that are answered. -/
lemma answered_start_iff (free : e = s.edition kind → ¬s.Lacks kind) (question : Question)
    (set : List String) : (s.start kind question).1.generations e = .answered set
      ↔ s.generations e = .answered set := by
  by_cases here : e = s.edition kind
  · subst here
    cases state : s.generations (s.edition kind) with
    | idle => exact absurd (lacks_iff.2 state) (free rfl)
    | fetching runner fetch waiting =>
        have after : (s.start kind question).1.generations (s.edition kind)
            = .fetching runner fetch (waiting ++ [⟨s.lookups, question⟩]) := by
          rw [start, state]
          exact put_generations_self
        simp [after]
    | answered known => rw [(start_of_answered state question).2]
  · exact iff_of_eq (congrArg (· = _) (put_generations_of_ne here))

/-- An answered generation stays as it is in every step. -/
theorem answered_step (answered : s.generations e = .answered set) (action : Action) :
    (s.step action).1.generations e = .answered set := by
  cases action with
  | hold | gate | invalidate => exact answered
  | start kind question =>
      by_cases here : e = s.edition kind
      · subst here
        exact (start_of_answered answered question).2
      · rw [← answered]
        exact put_generations_of_ne here
  | answer fetch reply => exact answered_change rfl answered
  | cancel lookup => exact answered_change rfl answered

/-- An answered generation stays as it is in every run. -/
theorem answered_run (answered : s.generations e = .answered set) (actions : List Action) :
    (s.run actions).1.generations e = .answered set := by
  induction actions generalizing s with
  | nil => exact answered
  | cons action rest ih => exact ih (answered_step answered action)

/-- No step fetches for an answered generation. -/
lemma edition_ne_of_answered (answered : s.generations e = .answered set) {action : Action}
    {o : Occurrence} (seen : o ∈ fetchesSeen (s.step action).2) : o.edition ≠ e := by
  obtain ⟨seen, fetch⟩ := List.mem_filter.1 seen
  obtain ⟨e', event⟩ := o
  rintro rfl
  cases event with
  | finish lookup known => cases fetch
  | fetch number issuer =>
      rcases fetch_step seen with ⟨kind, question, -, rfl, -, lacks⟩ | ⟨_, _, _, -, state⟩
      · simp [lacks_iff.1 lacks] at answered
      · simp [state] at answered

lemma edition_ne_of_answered_run (answered : s.generations e = .answered set)
    {actions : List Action} {o : Occurrence} (seen : o ∈ fetchesSeen (s.run actions).2) :
    o.edition ≠ e := by
  induction actions generalizing s with
  | nil => cases seen
  | cons action rest ih =>
      rw [run, fetchesSeen, List.filter_append] at seen
      rcases List.mem_append.1 seen with now | later
      · exact edition_ne_of_answered answered now
      · exact ih (answered_step answered action) later

/-- The generation of a lookup that finishes by a change is left answered. -/
lemma answered_commit {changed : Generation × List Event} (settles : Generation.Settles changed)
    {e' : Edition} (seen : ⟨e', .finish l set⟩ ∈ (s.commit e changed).2) :
    (s.commit e changed).1.generations e' = .answered set := by
  obtain ⟨rfl, finish⟩ := mem_commit.1 seen
  rw [← finish_reply settles finish]
  exact put_generations_self

/-- A step in which a lookup finishes leaves its generation answered with the same set. -/
theorem answered_of_finish {action : Action} (seen : ⟨e, .finish l set⟩ ∈ (s.step action).2) :
    (s.step action).1.generations e = .answered set := by
  cases action with
  | hold | gate | invalidate => cases seen
  | start kind question => exact answered_commit Generation.settles_join seen
  | answer fetch reply =>
      obtain ⟨-, changed⟩ := mem_change seen
      rw [step, answer, changed] at seen ⊢
      exact answered_commit (Generation.settles_answer _) seen
  | cancel lookup =>
      obtain ⟨-, changed⟩ := mem_change seen
      rw [step, cancel, changed] at seen ⊢
      exact answered_commit Generation.settles_drop seen

/-- A run in which a lookup finishes leaves its generation answered with the same set. -/
theorem answered_of_finish_run {actions : List Action}
    (seen : ⟨e, .finish l set⟩ ∈ (s.run actions).2) :
    (s.run actions).1.generations e = .answered set := by
  induction actions generalizing s with
  | nil => cases seen
  | cons action rest ih =>
      rcases List.mem_append.1 seen with now | later
      · exact answered_run (answered_of_finish now) rest
      · exact ih later

end Session

end SaleSearch.Catalog

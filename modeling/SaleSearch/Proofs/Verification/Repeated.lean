import SaleSearch.Proofs.Catalog.Retired
import SaleSearch.Proofs.Verification.Fetches

/-!
# Verification once more

What a verification was told stays known: an answered generation is never answered otherwise, and it
is the current one until its kind is invalidated.  A second verification of the same checks is told
the same by it, and so comes to the same verdict without a fetch.

* `amid_again`: two verifications that are told the same come to the same verdict, each in its own
  session.
* `Linked.answered` says that the answers stay, and `answered_again` that they are found again.
* `verdict_again` is the result, and `age_of_quiet` says when it applies.
-/

namespace SaleSearch

open Catalog

namespace Verification

/-! ## The same answers -/

/-- In a verification that has come to a verdict all lookups are answered. -/
lemma Conduct.answered {checks : List Check} {verdict : Option (Except Rejection Unit)}
    {consulted : List Consultation} (h : Conduct checks verdict consulted)
    (finished : verdict.isSome = true) : ∀ c ∈ consulted, ∃ set, c.answer = some set := by
  induction h with
  | accepted | fails => exact List.forall_mem_nil _
  | holds _ ih => exact ih finished
  | waits => cases finished
  | @found _ _ _ _ set _ _ _ _ ih => exact List.forall_mem_cons.2 ⟨⟨set, rfl⟩, ih finished⟩
  | @missing _ _ _ _ set => exact List.forall_mem_singleton.2 ⟨set, rfl⟩

lemma nextStage_mem (session : Session) (interludes : List Interlude) (kind : Kind)
    (value : String) (rejection : Rejection) (rest : List Check) :
    nextStage session interludes kind value
      ∈ stages session interludes (.membership kind value rejection :: rest) := by
  rw [stages]
  exact List.mem_cons_self

/-- **Two verifications of the same checks that get the same answers come to the same verdict.** -/
theorem amid_again {session second : Session} {interludes again : List Interlude}
    {checks : List Check} {verdict : Except Rejection Unit}
    (finished : (amid session interludes checks).verdict = some verdict)
    (told : ∀ st ∈ stages session interludes checks, ∀ st' ∈ stages second again checks,
      st'.kind = st.kind → ∀ set, st.consultation.answer = some set →
        st'.consultation.answer = some set) :
    (amid second again checks).verdict = some verdict
      ∧ (amid second again checks).consulted = (amid session interludes checks).consulted := by
  induction checks generalizing session second interludes again with
  | nil => exact ⟨finished, rfl⟩
  | cons check rest ih =>
      cases check with
      | condition holds rejection =>
          cases holds with
          | true => exact ih finished told
          | false => exact ⟨finished, rfl⟩
      | membership kind value rejection =>
          have here := told _ (nextStage_mem session interludes kind value rejection rest) _
            (nextStage_mem second again kind value rejection rest) rfl
          cases answer : (nextStage session interludes kind value).consultation.answer with
          | none =>
              rw [amid_waiting rejection rest (askAmid_of_answer answer)] at finished
              cases finished
          | some set =>
              have answer' := here set answer
              have asked := askAmid_of_answer answer
              have asked' := askAmid_of_answer answer'
              by_cases mem : value ∈ set
              · rw [amid_found rejection rest asked mem] at finished ⊢
                rw [amid_found rejection rest asked' mem]
                rw [stages_found rejection rest answer mem,
                  stages_found rejection rest answer' mem] at told
                obtain ⟨same, consulted⟩ := ih finished fun st hst st' hst' =>
                  told st (List.mem_cons_of_mem _ hst) st' (List.mem_cons_of_mem _ hst')
                exact ⟨same, congrArg (_ :: ·) consulted⟩
              · rw [amid_missing rejection rest asked mem] at finished ⊢
                rw [amid_missing rejection rest asked' mem]
                exact ⟨finished, rfl⟩

/-! ## Answers that last -/

/-- A lookup in an answered generation returns its set at once. -/
lemma Stage.answer_of_answered {st : Stage} {set : List String}
    (answered : st.found.generations st.edition = .answered set) :
    st.consultation.answer = some set := by
  have shown := (Session.start_of_answered answered st.lookup.question).1
  rw [Stage.consultation, Stage.seen_eq, shown]
  simp [Session.given?, Occurrence.finished?, Stage.lookup]

namespace Linked

variable {session : Session} {stages : List Stage}

/-- What a stage was told stays the answer of its generation. -/
lemma answered (h : Linked session stages) (tracked : session.Tracked) :
    ∀ st ∈ stages, ∀ set, st.consultation.answer = some set →
      (session.run (done stages)).1.generations st.edition = .answered set := by
  induction h with
  | nil => exact List.forall_mem_nil _
  | @cons session stage rest found returned later ih =>
      have began : stage.found.Tracked := found ▸ tracked.run _
      rw [run_done_cons found]
      refine List.forall_mem_cons.2 ⟨fun set given => ?_, ih (began.run stage.window)⟩
      exact Session.answered_run (Stage.answered began given) (done rest)

lemma exists_prefix (h : Linked session stages) :
    ∀ st ∈ stages, ∃ past, past <+: done stages ∧ st.found = (session.run past).1 := by
  induction h with
  | nil => exact List.forall_mem_nil _
  | @cons session stage rest found returned later ih =>
      have whole :
          done (stage :: rest) = stage.interlude.before ++ (stage.window ++ done rest) := by
        rw [done, List.flatMap_cons, List.append_assoc]
        rfl
      rw [whole]
      refine List.forall_mem_cons.2 ⟨⟨_, List.prefix_append .., found⟩, fun st hst => ?_⟩
      obtain ⟨past, before, began⟩ := ih st hst
      refine ⟨stage.interlude.before ++ (stage.window ++ past),
        (List.prefix_append_right_inj _).2 ((List.prefix_append_right_inj _).2 before), ?_⟩
      rw [Session.run_append, Session.run_append, ← found, began]
      rfl

end Linked

/-! ## The second verification -/

section Again

variable {session : Session} {interludes again : List Interlude} {between : List Action}
  {checks : List Check} {verdict : Except Rejection Unit}

/-- What was looked up once is known as long as its kind is not invalidated. -/
lemma answered_again (tracked : session.Tracked) {st st' : Stage} {set : List String}
    (hst : st ∈ stages session interludes checks)
    (hst' : st' ∈ stages ((amid session interludes checks).after.run between).1 again checks)
    (same : st'.kind = st.kind)
    (age : st'.found.invalidations st.kind = st.found.invalidations st.kind)
    (given : st.consultation.answer = some set) :
    st'.found.generations st'.edition = .answered set := by
  have passes := passes_amid session interludes checks
  have place : st'.edition = st.edition := by
    rw [Stage.edition, Session.edition, same, age]
    rfl
  have known := passes.linked.answered tracked st hst set given
  rw [← passes.after_eq] at known
  obtain ⟨past, -, began⟩ := (passes_amid _ again checks).linked.exists_prefix st' hst'
  rw [place, began]
  exact Session.answered_run (Session.answered_run known between) past

/-- **A second verification comes to the same verdict and finds everything loaded**, if no kind has
been invalidated since it was looked up. -/
theorem verdict_again (tracked : session.Tracked)
    (finished : (amid session interludes checks).verdict = some verdict)
    (age : ∀ st ∈ stages session interludes checks,
      ∀ st' ∈ stages ((amid session interludes checks).after.run between).1 again checks,
        st'.kind = st.kind → st'.found.invalidations st.kind = st.found.invalidations st.kind) :
    (amid ((amid session interludes checks).after.run between).1 again checks).verdict
        = some verdict
      ∧ ∀ st' ∈ stages ((amid session interludes checks).after.run between).1 again checks,
        ∃ set, st'.found.generations st'.edition = .answered set := by
  have held : ∀ st ∈ stages session interludes checks,
      ∀ st' ∈ stages ((amid session interludes checks).after.run between).1 again checks,
        st'.kind = st.kind → ∀ set, st.consultation.answer = some set →
          st'.found.generations st'.edition = .answered set :=
    fun st hst st' hst' same _ => answered_again tracked hst hst' same (age st hst st' hst' same)
  obtain ⟨verdicts, consulted⟩ := amid_again finished fun st hst st' hst' same set given =>
    Stage.answer_of_answered (held st hst st' hst' same set given)
  refine ⟨verdicts, fun st' hst' => ?_⟩
  rw [(passes_amid _ again checks).consulted, (passes_amid session interludes checks).consulted]
    at consulted
  -- the same has been looked up by some stage of the first verification
  have mem : st'.consultation ∈ (stages session interludes checks).map Stage.consultation :=
    consulted ▸ List.mem_map_of_mem hst'
  obtain ⟨st, hst, same⟩ := List.mem_map.1 mem
  have answered := (conduct_amid session interludes checks).answered (finished ▸ rfl)
  rw [(passes_amid session interludes checks).consulted] at answered
  obtain ⟨set, given⟩ := answered _ (List.mem_map_of_mem hst)
  exact ⟨set, held st hst st' hst' (congrArg Consultation.kind same).symm set given⟩

/-- A kind that nobody invalidates keeps its number of invalidations. -/
lemma age_of_quiet {st st' : Stage} (hst : st ∈ stages session interludes checks)
    (hst' : st' ∈ stages ((amid session interludes checks).after.run between).1 again checks)
    {kind : Kind} (first : .invalidate kind ∉ done (stages session interludes checks))
    (quiet : .invalidate kind ∉ between)
    (second : .invalidate kind
      ∉ done (stages ((amid session interludes checks).after.run between).1 again checks)) :
    st'.found.invalidations kind = st.found.invalidations kind := by
  have passes := passes_amid session interludes checks
  obtain ⟨past, before, began⟩ := passes.linked.exists_prefix st hst
  obtain ⟨past', before', began'⟩ := (passes_amid _ again checks).linked.exists_prefix st' hst'
  rw [began, began', Session.invalidations_run fun mem => second (before'.subset mem),
    Session.invalidations_run quiet, passes.after_eq, Session.invalidations_run first,
    Session.invalidations_run fun mem => first (before.subset mem)]

end Again

end Verification

end SaleSearch

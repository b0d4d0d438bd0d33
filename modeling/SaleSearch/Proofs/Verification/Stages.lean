import SaleSearch.Proofs.Catalog.Reachable
import SaleSearch.Proofs.Verification.Course

/-!
# The stages of a verification

In a shared session a verification is hard to tell from what others do: it begins a lookup, waits,
and begins the next.  Its stages are those lookups, each with the session that it begins in and with
what others do until it returns.

* `Stage` is a lookup with its surroundings, and `stages` are those of a verification.
* `Linked` says that stages follow one another, and that all but the last have returned.
* `done` is everything that is done in the course of some stages, as a list of actions, so that what
  is known of runs is known of verifications.
* `passes_amid`: the course of a verification is the run of what is done in its stages.
-/

namespace SaleSearch

open Catalog

namespace Verification

/-- A lookup of a verification, with what others do around it and the session that it begins in. -/
structure Stage where
  kind : Kind
  value : String
  interlude : Interlude
  found : Session

namespace Stage

/-- The lookup that the stage begins: it takes the next number of the session. -/
def lookup (st : Stage) : Lookup where
  number := st.found.lookups
  question := .member st.value

/-- The generation that is current when the lookup begins. -/
def edition (st : Stage) : Edition :=
  st.found.edition st.kind

/-- What is done from the beginning of the lookup until verification goes on. -/
def window (st : Stage) : List Action :=
  .start st.kind st.lookup.question :: st.interlude.meanwhile

/-- The session in which verification goes on. -/
def after (st : Stage) : Session :=
  (st.found.run st.window).1

/-- All that is seen from the beginning of the lookup until verification goes on. -/
def seen (st : Stage) : List Occurrence :=
  (st.found.run st.window).2

/-- The lookup as the course records it, with its answer if there is one. -/
def consultation (st : Stage) : Consultation where
  kind := st.kind
  value := st.value
  answer := Session.given? st.lookup.number st.seen

/-- The fetches that are issued by the lookup. -/
def fetches (st : Stage) : List Occurrence :=
  (fetchesSeen st.seen).filter fun o => o.event.lookup.number = st.lookup.number

end Stage

/-- The stage of the lookup that comes next. -/
def nextStage (session : Session) (interludes : List Interlude) (kind : Kind) (value : String) :
    Stage where
  kind := kind
  value := value
  interlude := interludes.headD {}
  found := (session.run (interludes.headD {}).before).1

/-- The stages that a verification comes to. -/
def stages (session : Session) (interludes : List Interlude) : List Check → List Stage
  | [] => []
  | .condition holds _ :: rest => if holds then stages session interludes rest else []
  | .membership kind value _ :: rest =>
      let stage := nextStage session interludes kind value
      stage :: match stage.consultation.answer with
        | none => []
        | some set => if value ∈ set then stages stage.after interludes.tail rest else []

/-- Stages one after another, of which only the last may still wait. -/
inductive Linked : Session → List Stage → Prop
  | nil (session : Session) : Linked session []
  | cons {session : Session} {stage : Stage} {rest : List Stage}
      (found : stage.found = (session.run stage.interlude.before).1)
      (returned : rest ≠ [] → ∃ set, stage.consultation.answer = some set)
      (later : Linked stage.after rest) : Linked session (stage :: rest)

/-- A stage that nothing follows. -/
lemma Linked.single {session : Session} {stage : Stage}
    (found : stage.found = (session.run stage.interlude.before).1) : Linked session [stage] :=
  .cons found (absurd rfl) (.nil _)

lemma Stage.consultation_eq {st : Stage} {answer : Option (List String)}
    (given : st.consultation.answer = answer) :
    st.consultation = { kind := st.kind, value := st.value, answer } := by
  rw [← given]
  rfl

/-- All that is done in the course of some stages. -/
def done (stages : List Stage) : List Action :=
  stages.flatMap fun st => st.interlude.before ++ st.window

/-- A course consults what the stages look up, and its session is the run of what is done in
them. -/
structure Course.Passes (course : Course) (session : Session) (stages : List Stage) : Prop where
  consulted : course.consulted = stages.map Stage.consultation
  run : session.run (done stages) = (course.after, course.seen)
  linked : Linked session stages

namespace Course.Passes

variable {course : Course} {session : Session} {stages : List Stage}

lemma after_eq (passes : course.Passes session stages) :
    course.after = (session.run (done stages)).1 :=
  (congrArg Prod.fst passes.run).symm

lemma seen_eq (passes : course.Passes session stages) :
    course.seen = (session.run (done stages)).2 :=
  (congrArg Prod.snd passes.run).symm

lemma tracked_after (passes : course.Passes session stages) (tracked : session.Tracked) :
    course.after.Tracked :=
  passes.after_eq ▸ tracked.run (done stages)

end Course.Passes

/-- What is done in some stages is done in the first one and then in the others. -/
lemma run_done_cons {session : Session} {stage : Stage} {rest : List Stage}
    (found : stage.found = (session.run stage.interlude.before).1) :
    session.run (done (stage :: rest))
      = ((stage.after.run (done rest)).1, (session.run stage.interlude.before).2 ++ stage.seen
          ++ (stage.after.run (done rest)).2) := by
  rw [done, List.flatMap_cons, Session.run_append, Session.run_append, ← found]
  rfl

lemma run_done_singleton {session : Session} {stage : Stage}
    (found : stage.found = (session.run stage.interlude.before).1) :
    session.run (done [stage])
      = (stage.after, (session.run stage.interlude.before).2 ++ stage.seen) := by
  rw [run_done_cons found, show done [] = [] from rfl, Session.run, List.append_nil]

section Lookup

variable {session : Session} {interludes : List Interlude} {kind : Kind} {value : String}
  {set : List String} (rejection : Rejection) (rest : List Check)

/-- A lookup that still waits is the last stage. -/
lemma stages_waiting
    (waits : (nextStage session interludes kind value).consultation.answer = none) :
    stages session interludes (.membership kind value rejection :: rest)
      = [nextStage session interludes kind value] := by
  rw [stages, waits]

/-- After a lookup that found its value come the stages of the other checks. -/
lemma stages_found
    (answered : (nextStage session interludes kind value).consultation.answer = some set)
    (found : value ∈ set) :
    stages session interludes (.membership kind value rejection :: rest)
      = nextStage session interludes kind value
        :: stages (nextStage session interludes kind value).after interludes.tail rest := by
  rw [stages, answered]
  exact congrArg _ (if_pos found)

/-- A lookup that missed its value is the last stage. -/
lemma stages_missing
    (answered : (nextStage session interludes kind value).consultation.answer = some set)
    (missing : value ∉ set) :
    stages session interludes (.membership kind value rejection :: rest)
      = [nextStage session interludes kind value] := by
  rw [stages, answered]
  exact congrArg _ (if_neg missing)

/-- `askAmid` returns the answer of the next stage and the session after it. -/
lemma askAmid_of_answer {answer : Option (List String)}
    (given : (nextStage session interludes kind value).consultation.answer = answer) :
    askAmid session (interludes.headD {}) kind value
      = (answer, (nextStage session interludes kind value).after,
          (session.run (interludes.headD {}).before).2
            ++ (nextStage session interludes kind value).seen) := by
  rw [← given]
  rfl

end Lookup

/-- **The course of a verification is the run of what is done in its stages**, by induction on the
checks. -/
theorem passes_amid (session : Session) (interludes : List Interlude) (checks : List Check) :
    (amid session interludes checks).Passes session (stages session interludes checks) := by
  induction checks generalizing session interludes with
  | nil => exact ⟨rfl, rfl, .nil session⟩
  | cons check rest ih =>
      cases check with
      | condition holds rejection =>
          cases holds with
          | true => exact ih session interludes
          | false => exact ⟨rfl, rfl, .nil session⟩
      | membership kind value rejection =>
          have alone : session.run (done [nextStage session interludes kind value]) = _ :=
            run_done_singleton rfl
          cases answer : (nextStage session interludes kind value).consultation.answer with
          | none =>
              rw [amid_waiting rejection rest (askAmid_of_answer answer),
                stages_waiting rejection rest answer]
              exact ⟨(congrArg ([·]) (Stage.consultation_eq answer)).symm, alone, .single rfl⟩
          | some set =>
              have asked := askAmid_of_answer answer
              by_cases mem : value ∈ set
              · obtain ⟨consulted, run, linked⟩ :=
                  ih (nextStage session interludes kind value).after interludes.tail
                rw [amid_found rejection rest asked mem, stages_found rejection rest answer mem]
                refine ⟨?_, ?_, .cons rfl (fun _ => ⟨set, answer⟩) linked⟩
                · rw [List.map_cons, ← consulted, Stage.consultation_eq answer]
                  rfl
                · rw [run_done_cons rfl, run]
                  rfl
              · rw [amid_missing rejection rest asked mem, stages_missing rejection rest answer mem]
                exact ⟨(congrArg ([·]) (Stage.consultation_eq answer)).symm, alone, .single rfl⟩

end Verification

end SaleSearch

import SaleSearch.Proofs.Catalog.Tracking
import SaleSearch.Verification

/-!
# Verdicts

What verification can come to, with as little as possible said about the known values: any lookup
may find its value or miss it.  A law of all verdicts holds for given sets, for every session, and
for lookups that had to wait while the session went on.

* `Verdict` is that relation between checks and their outcome.
* `verdict_decide` and `verdict_of_inSession`: given sets and sessions come to such verdicts.
* `verdict_append`: checks are gone through until one fails.
* `exists_verdict`: a session that answers at once comes to one.
-/

namespace SaleSearch

open Catalog

/-- The rejection with which a check fails. -/
def Check.rejection : Check → Rejection
  | .condition _ rejection => rejection
  | .membership _ _ rejection => rejection

namespace Verification

/-- What checks can come to if any lookup may find its value or miss it. -/
inductive Verdict : List Check → Except Rejection Unit → Prop
  | accepted : Verdict [] (.ok ())
  | holds {rejection : Rejection} {rest : List Check} {verdict : Except Rejection Unit}
      (later : Verdict rest verdict) : Verdict (.condition true rejection :: rest) verdict
  | fails {rejection : Rejection} {rest : List Check} :
      Verdict (.condition false rejection :: rest) (.error rejection)
  | found {kind : Kind} {value : String} {rejection : Rejection} {rest : List Check}
      {verdict : Except Rejection Unit} (later : Verdict rest verdict) :
      Verdict (.membership kind value rejection :: rest) verdict
  | missing {kind : Kind} {value : String} {rejection : Rejection} {rest : List Check} :
      Verdict (.membership kind value rejection :: rest) (.error rejection)

lemma verdict_nil {verdict : Except Rejection Unit} : Verdict [] verdict ↔ verdict = .ok () := by
  constructor
  · rintro ⟨⟩
    rfl
  · rintro rfl
    exact .accepted

lemma verdict_condition {holds : Bool} {rejection : Rejection} {rest : List Check}
    {verdict : Except Rejection Unit} :
    Verdict (.condition holds rejection :: rest) verdict
      ↔ if holds then Verdict rest verdict else verdict = .error rejection := by
  cases holds with
  | true =>
      rw [if_pos rfl]
      exact ⟨fun | .holds later => later, .holds⟩
  | false =>
      rw [if_neg Bool.false_ne_true]
      constructor
      · rintro ⟨⟩
        rfl
      · rintro rfl
        exact .fails

/-- Of two lists of checks the second is gone through if the first is passed. -/
theorem verdict_append {first second : List Check} {verdict : Except Rejection Unit} :
    Verdict (first ++ second) verdict
      ↔ (Verdict first (.ok ()) ∧ Verdict second verdict)
        ∨ ∃ rejection, verdict = .error rejection ∧ Verdict first verdict := by
  constructor
  · intro h
    induction first with
    | nil => exact .inl ⟨.accepted, h⟩
    | cons check rest ih =>
        cases h with
        | holds later =>
            rcases ih later with ⟨passed, second⟩ | ⟨rejection, same, failed⟩
            · exact .inl ⟨.holds passed, second⟩
            · exact .inr ⟨rejection, same, .holds failed⟩
        | found later =>
            rcases ih later with ⟨passed, second⟩ | ⟨rejection, same, failed⟩
            · exact .inl ⟨.found passed, second⟩
            · exact .inr ⟨rejection, same, .found failed⟩
        | fails => exact .inr ⟨_, rfl, .fails⟩
        | missing => exact .inr ⟨_, rfl, .missing⟩
  · rintro (⟨passed, second⟩ | ⟨rejection, rfl, failed⟩)
    · generalize outcome : (Except.ok () : Except Rejection Unit) = accepted at passed
      induction passed with
      | accepted => exact second
      | holds _ ih => exact .holds (ih outcome)
      | found _ ih => exact .found (ih outcome)
      | fails | missing => cases outcome
    · generalize outcome : (Except.error rejection : Except Rejection Unit) = refused at failed ⊢
      induction failed with
      | accepted => cases outcome
      | holds _ ih => exact .holds (ih outcome)
      | found _ ih => exact .found (ih outcome)
      | fails => exact .fails
      | missing => exact .missing

/-- A rejection is that of one of the checks. -/
lemma exists_check_of_verdict {checks : List Check} {rejection : Rejection}
    (h : Verdict checks (.error rejection)) : ∃ check ∈ checks, check.rejection = rejection := by
  generalize outcome : (Except.error rejection : Except Rejection Unit) = refused at h
  induction h with
  | accepted => cases outcome
  | holds _ ih | found _ ih =>
      obtain ⟨check, mem, same⟩ := ih outcome
      exact ⟨check, List.mem_cons_of_mem _ mem, same⟩
  | fails | missing => exact ⟨_, List.mem_cons_self, (Except.error.inj outcome).symm⟩

/-! ## Where verdicts come from -/

theorem verdict_decide (sets : Kind → List String) (checks : List Check) :
    Verdict checks (decide sets checks) := by
  induction checks with
  | nil => exact .accepted
  | cons check rest ih =>
      cases check with
      | condition holds rejection =>
          cases holds with
          | true => exact .holds ih
          | false => exact .fails
      | membership kind value rejection =>
          rw [decide]
          split
          · exact .found ih
          · exact .missing

/-- The verdict of a verification on the spot is a `Verdict`. -/
theorem verdict_of_inSession {session : Session} {checks : List Check}
    {verdict : Except Rejection Unit} (h : (inSession session checks).1 = some verdict) :
    Verdict checks verdict := by
  induction checks generalizing session with
  | nil =>
      obtain rfl := Option.some.inj h
      exact .accepted
  | cons check rest ih =>
      cases check with
      | condition holds rejection =>
          cases holds with
          | true => exact .holds (ih h)
          | false =>
              obtain rfl := Option.some.inj h
              exact .fails
      | membership kind value rejection =>
          rw [inSession] at h
          split at h
          · cases h
          · split at h
            · exact .found (ih h)
            · obtain rfl := Option.some.inj h
              exact .missing

/-! ## Sessions that answer at once -/

/-- The source replies at once, and no lookup has to wait for a fetch of before. -/
def Responsive (s : Session) : Prop :=
  s.source.gated = false ∧ ∀ kind, (s.generations (s.edition kind)).unfinished = []

lemma Responsive.commit {s : Session} (h : Responsive s) {e : Edition}
    {changed : Generation × List Event} {g : Generation} {events : List Event}
    (replied : s.reply e.kind changed = (g, events)) (finished : g.unfinished = []) :
    Responsive (s.commit e changed).1 := by
  rw [Session.commit_of_reply replied]
  refine ⟨h.1, fun kind => ?_⟩
  show (if s.edition kind = e then g else s.generations (s.edition kind)).unfinished = []
  split
  · exact finished
  · exact h.2 kind

/-- A lookup is answered on the spot, by what is known or by a fetch of its own. -/
lemma Responsive.ask {s : Session} (h : Responsive s) (kind : Kind) (question : Question) :
    ∃ set seen s', s.ask kind question = (some set, s', seen) ∧ Responsive s' := by
  let started : Session := { s with lookups := s.lookups + 1 }
  let lookup : Lookup := { number := s.lookups, question }
  have responsive : Responsive started := h
  suffices reply : ∃ set events, started.reply kind
        ((s.generations (s.edition kind)).join s.fetches lookup) = (.answered set, events)
      ∧ Session.given? s.lookups (events.map fun event => ⟨s.edition kind, event⟩) = some set by
    obtain ⟨set, events, replied, given⟩ := reply
    have next : Responsive (s.start kind question).1 :=
      responsive.commit (e := s.edition kind) replied rfl
    have shown : (s.start kind question).2 = events.map fun event => ⟨s.edition kind, event⟩ :=
      congrArg Prod.snd (Session.commit_of_reply (e := s.edition kind) replied)
    rw [← shown] at given
    exact ⟨set, (s.start kind question).2, (s.start kind question).1,
      congrArg (fun found => (found, s.start kind question)) given, next⟩
  have rest := h.2 kind
  cases state : s.generations (s.edition kind) with
  | idle =>
      refine ⟨_, _, Session.reply_fetch h.1 kind lookup s.fetches [], ?_⟩
      simp only [List.map_cons, List.map_nil, Session.given?, List.filterMap, Occurrence.finished?,
        List.findSome?]
      simp [lookup]
  | fetching runner fetch waiting => simp [state, Generation.unfinished] at rest
  | answered set =>
      refine ⟨set, [.finish lookup set], Session.reply_finishes kind _ [lookup] set, ?_⟩
      simp [Session.given?, Occurrence.finished?, lookup]

/-- In a session that answers at once every verification comes to a verdict. -/
theorem exists_verdict {s : Session} (h : Responsive s) (checks : List Check) :
    ∃ verdict, (inSession s checks).1 = some verdict := by
  induction checks generalizing s with
  | nil => exact ⟨_, rfl⟩
  | cons check rest ih =>
      cases check with
      | condition holds rejection =>
          cases holds with
          | true => exact ih h
          | false => exact ⟨_, rfl⟩
      | membership kind value rejection =>
          obtain ⟨set, seen, s', asked, responsive⟩ := h.ask kind (.member value)
          rw [inSession, asked]
          dsimp only
          split
          · exact ih responsive
          · exact ⟨_, rfl⟩

end Verification

end SaleSearch

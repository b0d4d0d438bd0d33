import SaleSearch.Proofs.Verification.Verdict

/-!
# Courses of verification

A lookup may have to wait, and a session is shared: before a lookup of a verification begins and
until it is answered, others may do anything to the session.  A course is a verification with all
that happens around its lookups.

* `Verification.amid` is the course of a verification, given what others do; `inSession_eq_amid`
  says that nobody doing anything gives `Verification.inSession`.
* `Conduct` is what a course comes to with the session left out, and `conduct_amid` says so.
* `verdict_of_returned`: once its lookups have returned, a verification comes to the verdict by the
  sets that they returned.
* `passed_of_accepted`: an accepted request has passed all of its checks, with one lookup for each
  check of membership.
-/

namespace SaleSearch

open Catalog

namespace Verification

/-- What others do around a lookup: before it begins, and from then on until verification goes
on. -/
structure Interlude where
  before : List Action := []
  meanwhile : List Action := []

/-- A lookup of a verification, with the set that it was given unless it still waits. -/
structure Consultation where
  kind : Kind
  value : String
  answer : Option (List String)
  deriving DecidableEq, Repr

/-- The outcome of a verification: the verdict, the lookups it made, and what became of the
session. -/
structure Course where
  /-- The verdict, unless a lookup still waits. -/
  verdict : Option (Except Rejection Unit)
  consulted : List Consultation := []
  after : Session
  /-- Everything that could be seen, of this verification and of others. -/
  seen : List Occurrence := []

/-- A lookup in a shared session. -/
def askAmid (session : Session) (interlude : Interlude) (kind : Kind) (value : String) :
    Option (List String) × Session × List Occurrence :=
  let (ahead, earlier) := session.run interlude.before
  let (begun, first) := ahead.start kind (.member value)
  let (after, later) := begun.run interlude.meanwhile
  (Session.given? ahead.lookups (first ++ later), after, earlier ++ (first ++ later))

/-- The course of a verification.  Each lookup takes the next interlude; without one nobody else
does anything. -/
def amid (session : Session) (interludes : List Interlude) : List Check → Course
  | [] => { verdict := some (.ok ()), after := session }
  | .condition holds rejection :: rest =>
      if holds then amid session interludes rest
      else { verdict := some (.error rejection), after := session }
  | .membership kind value rejection :: rest =>
      match askAmid session (interludes.headD {}) kind value with
      | (none, after, seen) =>
          { verdict := none, consulted := [{ kind, value, answer := none }], after, seen }
      | (some set, after, seen) =>
          let lookup : Consultation := { kind, value, answer := some set }
          if value ∈ set then
            let further := amid after interludes.tail rest
            { further with consulted := lookup :: further.consulted, seen := seen ++ further.seen }
          else { verdict := some (.error rejection), consulted := [lookup], after, seen }

/-- The lookup has returned, and returned one of these sets. -/
def Consultation.Returned (c : Consultation) (sets : Kind → List String) : Prop :=
  ∃ set, c.answer = some set ∧ ∀ value, value ∈ set ↔ value ∈ sets c.kind

/-- All lookups have returned, and returned these sets. -/
def Course.Returned (course : Course) (sets : Kind → List String) : Prop :=
  ∀ c ∈ course.consulted, c.Returned sets

section Lookup

variable {session after : Session} {interludes : List Interlude} {kind : Kind} {value : String}
  {set : List String} {seen : List Occurrence} (rejection : Rejection) (rest : List Check)

lemma amid_waiting
    (asked : askAmid session (interludes.headD {}) kind value = (none, after, seen)) :
    amid session interludes (.membership kind value rejection :: rest)
      = { verdict := none, consulted := [{ kind, value, answer := none }], after, seen } := by
  rw [amid, asked]

lemma amid_found
    (asked : askAmid session (interludes.headD {}) kind value = (some set, after, seen))
    (found : value ∈ set) :
    amid session interludes (.membership kind value rejection :: rest)
      = { amid after interludes.tail rest with
          consulted := { kind, value, answer := some set }
            :: (amid after interludes.tail rest).consulted
          seen := seen ++ (amid after interludes.tail rest).seen } := by
  rw [amid, asked]
  exact if_pos found

lemma amid_missing
    (asked : askAmid session (interludes.headD {}) kind value = (some set, after, seen))
    (missing : value ∉ set) :
    amid session interludes (.membership kind value rejection :: rest)
      = { verdict := some (.error rejection), consulted := [{ kind, value, answer := some set }],
          after, seen } := by
  rw [amid, asked]
  exact if_neg missing

end Lookup

/-! ## Verification on the spot -/

/-- Without an interlude a lookup is `Session.ask`. -/
lemma askAmid_alone (session : Session) (kind : Kind) (value : String) :
    askAmid session {} kind value = session.ask kind (.member value) := by
  simp only [askAmid, Session.run, Session.ask, List.append_nil, List.nil_append]

/-- Verification on the spot is a course during which nobody else does anything. -/
theorem inSession_eq_amid (session : Session) (checks : List Check) :
    inSession session checks = ((amid session [] checks).verdict, (amid session [] checks).after,
      (amid session [] checks).seen) := by
  induction checks generalizing session with
  | nil => rfl
  | cons check rest ih =>
      cases check with
      | condition holds rejection =>
          cases holds with
          | true => exact ih session
          | false => rfl
      | membership kind value rejection =>
          have alone : askAmid session (([] : List Interlude).headD {}) kind value
              = session.ask kind (.member value) := askAmid_alone session kind value
          rcases asked : session.ask kind (.member value) with ⟨_ | set, after, seen⟩
          · rw [inSession, asked, amid_waiting rejection rest (alone.trans asked)]
          · by_cases found : value ∈ set
            · rw [inSession, asked, amid_found rejection rest (alone.trans asked) found]
              dsimp only
              rw [if_pos found, List.tail_nil, ih after]
            · rw [inSession, asked, amid_missing rejection rest (alone.trans asked) found]
              exact if_neg found

/-! ## What became of the checks -/

/-- What the checks came to, by which lookups.  The session that these were made in does not matter
any more. -/
inductive Conduct : List Check → Option (Except Rejection Unit) → List Consultation → Prop
  | accepted : Conduct [] (some (.ok ())) []
  | holds {rejection : Rejection} {rest : List Check} {verdict : Option (Except Rejection Unit)}
      {consulted : List Consultation} (later : Conduct rest verdict consulted) :
      Conduct (.condition true rejection :: rest) verdict consulted
  | fails {rejection : Rejection} {rest : List Check} :
      Conduct (.condition false rejection :: rest) (some (.error rejection)) []
  | waits {kind : Kind} {value : String} {rejection : Rejection} {rest : List Check} :
      Conduct (.membership kind value rejection :: rest) none [{ kind, value, answer := none }]
  | found {kind : Kind} {value : String} {rejection : Rejection} {rest : List Check}
      {set : List String} {verdict : Option (Except Rejection Unit)}
      {consulted : List Consultation} (mem : value ∈ set) (later : Conduct rest verdict consulted) :
      Conduct (.membership kind value rejection :: rest) verdict
        ({ kind, value, answer := some set } :: consulted)
  | missing {kind : Kind} {value : String} {rejection : Rejection} {rest : List Check}
      {set : List String} (notMem : value ∉ set) :
      Conduct (.membership kind value rejection :: rest) (some (.error rejection))
        [{ kind, value, answer := some set }]

/-- A course is the conduct of its checks, by induction on these. -/
theorem conduct_amid (session : Session) (interludes : List Interlude) (checks : List Check) :
    Conduct checks (amid session interludes checks).verdict
      (amid session interludes checks).consulted := by
  induction checks generalizing session interludes with
  | nil => exact .accepted
  | cons check rest ih =>
      cases check with
      | condition holds rejection =>
          cases holds with
          | true => exact .holds (ih session interludes)
          | false => exact .fails
      | membership kind value rejection =>
          rcases asked : askAmid session (interludes.headD {}) kind value with
            ⟨_ | set, after, seen⟩
          · rw [amid_waiting rejection rest asked]
            exact .waits
          · by_cases mem : value ∈ set
            · rw [amid_found rejection rest asked mem]
              exact .found mem (ih after interludes.tail)
            · rw [amid_missing rejection rest asked mem]
              exact .missing mem

/-- If all lookups have returned sets, the verdict is the one that these sets decide. -/
lemma Conduct.verdict_eq {checks : List Check} {verdict : Option (Except Rejection Unit)}
    {consulted : List Consultation} {sets : Kind → List String}
    (h : Conduct checks verdict consulted) (returned : ∀ c ∈ consulted, c.Returned sets) :
    verdict = some (decide sets checks) := by
  induction h with
  | accepted | fails => rfl
  | holds _ ih => exact ih returned
  | waits =>
      obtain ⟨set, given, -⟩ := returned _ List.mem_cons_self
      cases given
  | found mem _ ih =>
      obtain ⟨⟨_, given, same⟩, others⟩ := List.forall_mem_cons.1 returned
      obtain rfl := Option.some.inj given
      rw [decide, if_pos ((same _).1 mem)]
      exact ih others
  | missing notMem =>
      obtain ⟨_, given, same⟩ := returned _ List.mem_cons_self
      obtain rfl := Option.some.inj given
      rw [decide, if_neg fun mem => notMem ((same _).2 mem)]

/-- A verification that waits for nothing has come to the verdict by the sets that its lookups
returned. -/
theorem verdict_of_returned {session : Session} {interludes : List Interlude}
    {sets : Kind → List String} {checks : List Check}
    (returned : (amid session interludes checks).Returned sets) :
    (amid session interludes checks).verdict = some (decide sets checks) :=
  (conduct_amid session interludes checks).verdict_eq returned

/-! ## What is looked up -/

/-- What is looked up if all checks are passed. -/
def lookups (checks : List Check) : List (Kind × String) :=
  checks.filterMap fun
    | .condition .. => none
    | .membership kind value _ => some (kind, value)

lemma lookups_append (first second : List Check) :
    lookups (first ++ second) = lookups first ++ lookups second :=
  List.filterMap_append

/-- What an accepted request has gone through. -/
structure Passed (checks : List Check) (consulted : List Consultation) : Prop where
  held : ∀ holds rejection, Check.condition holds rejection ∈ checks → holds = true
  looked_up : consulted.map (fun c => (c.kind, c.value)) = lookups checks
  found : ∀ c ∈ consulted, ∃ set, c.answer = some set ∧ c.value ∈ set

/-- An accepted conduct has passed all of its checks. -/
lemma Conduct.passed {checks : List Check} {verdict : Option (Except Rejection Unit)}
    {consulted : List Consultation} (h : Conduct checks verdict consulted)
    (accepted : verdict = some (.ok ())) : Passed checks consulted := by
  induction h with
  | accepted => exact ⟨nofun, rfl, nofun⟩
  | holds _ ih =>
      obtain ⟨held, looked_up, found⟩ := ih accepted
      refine ⟨fun holds rejection mem => ?_, looked_up, found⟩
      rcases List.mem_cons.1 mem with same | mem
      · exact (Check.condition.inj same).1
      · exact held holds rejection mem
  | fails | waits | missing => cases accepted
  | @found kind value _ _ set _ _ mem _ ih =>
      obtain ⟨held, looked_up, found⟩ := ih accepted
      refine ⟨fun holds rejection present => ?_, congrArg ((kind, value) :: ·) looked_up,
        List.forall_mem_cons.2 ⟨⟨set, rfl, mem⟩, found⟩⟩
      rcases List.mem_cons.1 present with same | present
      · cases same
      · exact held holds rejection present

/-- An accepted request has passed all of its checks. -/
theorem passed_of_accepted {session : Session} {interludes : List Interlude} {checks : List Check}
    (accepted : (amid session interludes checks).verdict = some (.ok ())) :
    Passed checks (amid session interludes checks).consulted :=
  (conduct_amid session interludes checks).passed accepted

lemma Conduct.mem_lookups {checks : List Check} {verdict : Option (Except Rejection Unit)}
    {consulted : List Consultation} (h : Conduct checks verdict consulted) :
    ∀ c ∈ consulted, (c.kind, c.value) ∈ lookups checks := by
  induction h with
  | accepted | fails => exact nofun
  | holds _ ih => exact ih
  | waits | missing => exact List.forall_mem_singleton.2 List.mem_cons_self
  | found _ _ ih =>
      exact List.forall_mem_cons.2
        ⟨List.mem_cons_self, fun c mem => List.mem_cons_of_mem _ (ih c mem)⟩

end Verification

end SaleSearch

import SaleSearch.Proofs.Verification.Alone
import SaleSearch.Proofs.Verification.Reached
import SaleSearch.Proofs.Verification.Repeated

/-!
# Verification looks up only what it must

A verification fetches the kinds whose names it gets to and that nobody has loaded or is loading, in
their order and each once; nothing else of the session changes.  A second one comes to the same
verdict and fetches nothing, unless a kind has been invalidated since.

* `OnTheSpot` says so of a verification that has the session to itself, where all fetches that are
  seen are its own.
* `Shared` says so of one around whose lookups others do anything.  There it is told lookup by
  lookup what is lacking, since others may load a kind before the lookup begins.
* `Frugal` adds what comes of a second verification, and `frugal` is the result.
-/

namespace SaleSearch

open Catalog

namespace Verification

/-- What a verification does to a session that nobody else uses meanwhile: which kinds it fetches,
in which order, and what stays as it was. -/
structure OnTheSpot (request : Request) (settings : Settings) (session : Session)
    (course : Course) : Prop where
  alone : inSession session (checks request settings)
    = (course.verdict, course.after, course.seen)
  /-- A name is looked up if the verification gets so far. -/
  reached : ∀ kind name, (∃ answer, { kind, value := name, answer } ∈ course.consulted)
    ↔ Reached request course.consulted kind name
  /-- There is no more than one fetch for each kind, and they come in the order of the kinds. -/
  order : ((fetchesSeen course.seen).map Occurrence.edition).Sublist (Kind.all.map session.edition)
  fetched : ∀ kind, session.edition kind ∈ (fetchesSeen course.seen).map Occurrence.edition
    ↔ (∃ name, Reached request course.consulted kind name) ∧ session.Lacks kind
  malformed : ∀ kind name, request.given? kind.field.name = some name →
    kind.grammar.accepts name.toList = false →
      ∀ o ∈ fetchesSeen course.seen, o.edition.kind ≠ kind
  /-- No other set is remembered or forgotten. -/
  cached : ∀ e, (∀ kind, e = session.edition kind →
      (∃ name, Reached request course.consulted kind name) → ¬session.Lacks kind) →
    ∀ set, course.after.generations e = .answered set ↔ session.generations e = .answered set
  loaded : ∀ kind, ¬((∃ name, Reached request course.consulted kind name) ∧ session.Lacks kind) →
    course.after.isLoaded kind = session.isLoaded kind

/-- What a verification does to a session that others use as well, stage by stage. -/
structure Shared (request : Request) (settings : Settings) (session : Session)
    (stages : List Stage) (course : Course) : Prop where
  /-- All that it does itself is to begin its lookups. -/
  passes : course.Passes session stages
  order : (stages.map Stage.kind).Sublist Kind.all
  reached : ∀ kind name, (∃ st ∈ stages, st.kind = kind ∧ st.value = name)
    ↔ Reached request course.consulted kind name
  caused : caused stages course.seen = stages.flatMap Stage.fetches
  /-- Of a kind that is neither loaded nor being fetched there is one fetch, at once. -/
  lacking : ∀ st ∈ stages, st.found.Lacks st.kind →
    st.fetches = [⟨st.edition, .fetch st.found.fetches st.lookup⟩]
      ∧ fetchesSeen (st.found.start st.kind st.lookup.question).2 = st.fetches
  loaded : ∀ st ∈ stages, st.found.isLoaded st.kind = true → st.fetches = []
  /-- A fetch that is under way is shared, and replaced if it is given up. -/
  sharing : ∀ st ∈ stages, ¬st.found.Lacks st.kind →
    fetchesSeen (st.found.start st.kind st.lookup.question).2 = []
      ∧ st.fetches.length ≤ 1 ∧ (st.fetches ≠ [] → st.TakesOver)
  malformed : ∀ kind name, request.given? kind.field.name = some name →
    kind.grammar.accepts name.toList = false →
      ∀ o ∈ Verification.caused stages course.seen, o.edition.kind ≠ kind
  /-- To begin a lookup is to remember no other set and to forget none. -/
  cached : ∀ st ∈ stages, ∀ e, (e = st.edition → ¬st.found.Lacks st.kind) →
    ∀ set, st.begun.generations e = .answered set ↔ st.found.generations e = .answered set
  loaded_as_before : ∀ st ∈ stages, ∀ kind, (kind = st.kind → ¬st.found.Lacks st.kind) →
    st.begun.isLoaded kind = st.found.isLoaded kind

/-- A verification that nobody else interferes with. -/
abbrev spot (request : Request) (settings : Settings) (session : Session) : Course :=
  amid session [] (checks request settings)

/-- What verifying a request fetches, on the spot and in a shared session, and that doing it again
fetches nothing. -/
structure Frugal (request : Request) (settings : Settings) (session : Session) : Prop where
  on_the_spot : OnTheSpot request settings session (spot request settings session)
  shared : ∀ interludes, Shared request settings session
    (stages session interludes (checks request settings))
    (amid session interludes (checks request settings))
  /-- A second verification comes to the same verdict and fetches nothing, whatever others do
  before, between and meanwhile, as long as each kind is as often invalidated when it is looked up
  for the second time as it was when it was looked up first. -/
  stable : ∀ interludes between again verdict,
    let first := amid session interludes (checks request settings)
    let later := (first.after.run between).1
    let second := amid later again (checks request settings)
    first.verdict = some verdict →
      (∀ st ∈ stages session interludes (checks request settings),
        ∀ st' ∈ stages later again (checks request settings), st'.kind = st.kind →
          st'.found.invalidations st.kind = st.found.invalidations st.kind) →
        second.verdict = some verdict
          ∧ caused (stages later again (checks request settings)) second.seen = []
  /-- The same for two verifications on the spot, between which no kind is invalidated that has to
  be looked up. -/
  repeated : ∀ between verdict,
    let first := inSession session (checks request settings)
    let second := inSession (first.2.1.run between).1 (checks request settings)
    first.1 = some verdict →
      (∀ kind, (request.given? kind.field.name).isSome = true → .invalidate kind ∉ between) →
        second.1 = some verdict ∧ fetchesSeen second.2.2 = []

/-! ## Stages and names -/

lemma Course.Passes.exists_stage_iff {course : Course} {session : Session} {stages : List Stage}
    (passes : course.Passes session stages) {kind : Kind} {name : String} :
    (∃ answer, { kind, value := name, answer } ∈ course.consulted)
      ↔ ∃ st ∈ stages, st.kind = kind ∧ st.value = name := by
  rw [passes.consulted]
  constructor
  · rintro ⟨answer, mem⟩
    obtain ⟨st, hst, same⟩ := List.mem_map.1 mem
    exact ⟨st, hst, congrArg Consultation.kind same, congrArg Consultation.value same⟩
  · rintro ⟨st, hst, rfl, rfl⟩
    exact ⟨st.consultation.answer, List.mem_map.2 ⟨st, hst, rfl⟩⟩

section Stages

variable {request : Request} {settings : Settings} {session : Session}
  {interludes : List Interlude}

lemma kinds_sublist (request : Request) (settings : Settings) (session : Session)
    (interludes : List Interlude) :
    ((stages session interludes (checks request settings)).map Stage.kind).Sublist Kind.all := by
  have sublist := (conduct_amid session interludes (checks request settings)).kinds_sublist
  rw [(passes_amid session interludes (checks request settings)).consulted, List.map_map] at sublist
  exact sublist

lemma exists_stage_iff_reached (kind : Kind) (name : String) :
    (∃ st ∈ stages session interludes (checks request settings), st.kind = kind ∧ st.value = name)
      ↔ Reached request (amid session interludes (checks request settings)).consulted kind name :=
  (passes_amid session interludes _).exists_stage_iff.symm.trans
    ((conduct_amid session interludes _).reached_iff kind name)

lemma reached_of_mem_stages {st : Stage}
    (hst : st ∈ stages session interludes (checks request settings)) :
    Reached request (amid session interludes (checks request settings)).consulted st.kind
      st.value :=
  (exists_stage_iff_reached st.kind st.value).1 ⟨st, hst, rfl, rfl⟩

end Stages

/-- A malformed name ends the verification before its kind is looked up. -/
lemma not_reached_of_malformed {request : Request} {consulted : List Consultation} {kind : Kind}
    {name other : String} (given : request.given? kind.field.name = some name)
    (malformed : kind.grammar.accepts name.toList = false) :
    ¬Reached request consulted kind other := by
  intro reached
  obtain rfl := Option.some.inj (given.symm.trans reached.given)
  cases malformed.symm.trans reached.formed

/-! ## On the spot -/

section Spot

variable (request : Request) (settings : Settings) (session : Session)

/-- The stages of a verification that nobody else interferes with. -/
abbrev spotStages : List Stage :=
  stages session [] (checks request settings)

lemma spot_passes :
    (spot request settings session).Passes session (spotStages request settings session) :=
  passes_amid session [] (checks request settings)

lemma spot_alone : ∀ st ∈ spotStages request settings session, st.interlude = {} :=
  interlude_of_alone session (checks request settings)

lemma spot_fetchesSeen : fetchesSeen (spot request settings session).seen
    = (spotStages request settings session).flatMap fun st => fetchesSeen st.seen := by
  rw [(spot_passes request settings session).seen_eq]
  exact (spot_passes request settings session).linked.fetchesSeen_eq
    (spot_alone request settings session)

/-- Each kind is looked up in the state in which it was in the beginning. -/
lemma spot_untouched :
    ∀ st ∈ spotStages request settings session, session.Untouched st.kind st.found :=
  (spot_passes request settings session).linked.untouched (spot_alone request settings session)
    ((kinds_sublist request settings session []).nodup (by decide))

lemma spot_editions : (fetchesSeen (spot request settings session).seen).map Occurrence.edition
    = (spotStages request settings session).flatMap fun st =>
        if session.Lacks st.kind then [session.edition st.kind] else [] := by
  rw [spot_fetchesSeen, List.map_flatMap]
  exact List.flatMap_congr fun st hst => Stage.editions_of_alone
    (spot_alone request settings session st hst) (spot_untouched request settings session st hst)

lemma spot_order : ((fetchesSeen (spot request settings session).seen).map
    Occurrence.edition).Sublist (Kind.all.map session.edition) := by
  have kinds := (kinds_sublist request settings session []).map session.edition
  rw [List.map_map, List.map_eq_flatMap] at kinds
  rw [spot_editions]
  refine (List.Sublist.flatMap_right _ fun st _ => ?_).trans kinds
  split
  · exact List.Sublist.refl _
  · exact List.nil_sublist _

lemma spot_fetched (kind : Kind) :
    session.edition kind ∈ (fetchesSeen (spot request settings session).seen).map Occurrence.edition
      ↔ (∃ name, Reached request (spot request settings session).consulted kind name)
        ∧ session.Lacks kind := by
  rw [spot_editions, List.mem_flatMap]
  constructor
  · rintro ⟨st, hst, mem⟩
    split at mem
    · rename_i lacks
      obtain rfl : kind = st.kind := congrArg Edition.kind (List.mem_singleton.1 mem)
      exact ⟨⟨st.value, reached_of_mem_stages hst⟩, lacks⟩
    · cases mem
  · rintro ⟨⟨name, reached⟩, lacks⟩
    obtain ⟨st, hst, rfl, rfl⟩ := (exists_stage_iff_reached kind name).2 reached
    exact ⟨st, hst, by rw [if_pos lacks]; exact List.mem_singleton_self _⟩

lemma spot_cached {e : Edition} (spared : ∀ kind, e = session.edition kind →
      (∃ name, Reached request (spot request settings session).consulted kind name) →
        ¬session.Lacks kind) (set : List String) :
    (spot request settings session).after.generations e = .answered set
      ↔ session.generations e = .answered set := by
  have passes := spot_passes request settings session
  rw [passes.after_eq]
  refine passes.linked.answered_iff (spot_alone request settings session)
    (fun st hst here lacks => ?_) set
  have same := spot_untouched request settings session st hst
  exact spared st.kind (here.trans same.edition_eq) ⟨st.value, reached_of_mem_stages hst⟩
    (same.lacks_iff.1 lacks)

lemma spot_edition (kind : Kind) :
    (spot request settings session).after.edition kind = session.edition kind := by
  have quiet := not_invalidate_mem_done (spot_alone request settings session) kind
  rw [(spot_passes request settings session).after_eq, Session.edition, Session.edition,
    Session.invalidations_run quiet]

/-- **On the spot a verification fetches exactly the kinds that it reaches and that lack their
sets.** -/
theorem onTheSpot : OnTheSpot request settings session (spot request settings session) where
  alone := inSession_eq_amid session _
  reached := (conduct_amid session [] _).reached_iff
  order := spot_order request settings session
  fetched := spot_fetched request settings session
  malformed := by
    intro kind name given malformed o ho here
    have mem := List.mem_map_of_mem (f := Occurrence.edition) ho
    obtain ⟨k, -, same⟩ := List.mem_map.1 ((spot_order request settings session).subset mem)
    obtain rfl : k = kind := (congrArg Edition.kind same).trans here
    rw [← same] at mem
    obtain ⟨⟨other, reached⟩, -⟩ := (spot_fetched request settings session k).1 mem
    exact not_reached_of_malformed given malformed reached
  cached _ := spot_cached request settings session
  loaded := by
    intro kind spared
    rw [Session.isLoaded, Session.isLoaded, spot_edition]
    refine Generation.isAnswered_congr (spot_cached request settings session ?_)
    intro k same reached lacks
    obtain rfl : kind = k := congrArg Edition.kind same
    exact spared ⟨reached, lacks⟩

end Spot

/-- The collection is looked up, but no verification gets from a malformed currency to the chain. -/
example :
    let request := Request.ofPairs [("collection_name", "pomelo"), ("chain", "wax"),
      ("listing_price_symcode", "not a code")]
    let session := Session.after [.hold .collectionNames (.values ["pomelo"])]
    fetchesSeen (inSession session (checks request {})).2.2
      = [⟨⟨.collectionNames, 0⟩, .fetch 0 ⟨0, .member "pomelo"⟩⟩] := by
  decide +kernel

/-! ## In a shared session -/

/-- **In a shared session each lookup of a verification fetches what is lacking when it begins.** -/
theorem shared (request : Request) (settings : Settings) {session : Session}
    (tracked : session.Tracked) (interludes : List Interlude) :
    Shared request settings session (stages session interludes (checks request settings))
      (amid session interludes (checks request settings)) := by
  have passes := passes_amid session interludes (checks request settings)
  have found := passes.linked.tracked tracked
  have caused := passes.caused_eq tracked
  refine
    { passes
      order := kinds_sublist request settings session interludes
      reached := exists_stage_iff_reached
      caused
      lacking := ?_
      loaded := fun st hst => Stage.fetches_of_isLoaded (found st hst).1
      sharing := ?_
      malformed := ?_
      cached := fun st _ _ free => Session.answered_start_iff free st.lookup.question
      loaded_as_before := ?_ }
  · intro st hst lacks
    have fetches := Stage.fetches_of_lacks (found st hst).1 lacks
    exact ⟨fetches, (Session.fetchesSeen_start lacks st.lookup.question).trans fetches.symm⟩
  · intro st hst has
    refine ⟨Session.fetchesSeen_start_of_not_lacks has st.lookup.question,
      Stage.length_fetches_le (found st hst).1, fun some => ?_⟩
    obtain ⟨o, ho⟩ := List.exists_mem_of_ne_nil _ some
    exact Stage.takesOver_of_mem_fetches (found st hst).1 has ho
  · intro kind name given malformed o ho here
    rw [caused] at ho
    obtain ⟨st, hst, ho⟩ := List.mem_flatMap.1 ho
    obtain rfl : st.kind = kind :=
      (congrArg Edition.kind (Stage.edition_of_mem_fetches (found st hst).1 ho)).symm.trans here
    exact not_reached_of_malformed given malformed (reached_of_mem_stages hst)
  · intro st hst kind free
    have place : st.begun.edition kind = st.found.edition kind := rfl
    rw [Session.isLoaded, Session.isLoaded, place]
    exact Generation.isAnswered_congr
      (Session.answered_start_iff (fun same => free (congrArg Edition.kind same))
        st.lookup.question)

/-! ## The result -/

lemma spot_again {request : Request} {settings : Settings} {session : Session}
    (tracked : session.Tracked) {between : List Action} {verdict : Except Rejection Unit}
    (finished : (spot request settings session).verdict = some verdict)
    (quiet : ∀ kind, (request.given? kind.field.name).isSome = true → .invalidate kind ∉ between) :
    let later := ((spot request settings session).after.run between).1
    (spot request settings later).verdict = some verdict
      ∧ fetchesSeen (spot request settings later).seen = [] := by
  intro later
  have alone := spot_alone request settings
  have age : ∀ st ∈ spotStages request settings session,
      ∀ st' ∈ spotStages request settings later, st'.kind = st.kind →
        st'.found.invalidations st.kind = st.found.invalidations st.kind := by
    intro st hst st' hst' _
    have given := Option.isSome_of_eq_some (reached_of_mem_stages hst).given
    exact age_of_quiet hst hst' (not_invalidate_mem_done (alone session) st.kind)
      (quiet st.kind given)
      (not_invalidate_mem_done (alone later) st.kind)
  obtain ⟨same, known⟩ := verdict_again tracked finished age
  refine ⟨same, ?_⟩
  rw [spot_fetchesSeen, List.flatMap_eq_nil_iff]
  intro st hst
  obtain ⟨set, answered⟩ := known st hst
  rw [Stage.seen_of_alone (alone later st hst), (Session.start_of_answered answered _).1]
  rfl

/-- **A verification fetches only what it reaches and what is lacking, and a second one fetches
nothing** and has the same verdict, as long as no kind is invalidated in between. -/
theorem frugal (request : Request) (settings : Settings) (past : List Action) :
    Frugal request settings (Session.after past) where
  on_the_spot := onTheSpot request settings (Session.after past)
  shared := shared request settings (Session.tracked_after past)
  stable := by
    intro interludes between again verdict first later second finished age
    have tracked := Session.tracked_after past
    obtain ⟨same, known⟩ := verdict_again tracked finished age
    have reachable : later.Tracked :=
      ((passes_amid _ interludes (checks request settings)).tracked_after tracked).run between
    have passes := passes_amid later again (checks request settings)
    refine ⟨same, ?_⟩
    rw [passes.caused_eq reachable, List.flatMap_eq_nil_iff]
    intro st hst
    obtain ⟨set, answered⟩ := known st hst
    exact Stage.fetches_of_answered (passes.linked.tracked reachable st hst).1 answered
  repeated := by
    intro between verdict
    simp only [inSession_eq_amid]
    exact spot_again (Session.tracked_after past)

end Verification

end SaleSearch

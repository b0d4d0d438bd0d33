import SaleSearch.Proofs.Refusal.Ground
import SaleSearch.Proofs.Verification.Course

/-!
# What verification refuses

Verification refuses a request for the first of ten grounds that applies.  Names come first, each
of them by its grammar and then by what is known to exist; then the range, the two tokens of an
aggregate, and the pair that these make.

* `Verification.failure?_decide_checks` is the law of the checks.
* `Verification.Decided` says what a verdict means, without mention of the checks, and
  `Verification.decided_of_returned` that every verification comes to such a verdict once its
  lookups have returned.
-/

namespace SaleSearch

open Catalog

/-- The grounds of verification in their order. -/
def Ground.verification : List Ground :=
  [.malformed .collectionNames, .unknown .collectionNames, .malformed .symbolCodes,
    .unknown .symbolCodes, .malformed .chains, .unknown .chains, .range, .function, .column,
    .askedPair]

lemma Ground.forall_verification {P : Ground → Prop} : (∀ ground ∈ Ground.verification, P ground)
    ↔ (∀ kind, P (.malformed kind) ∧ P (.unknown kind)) ∧ P .range ∧ P .function ∧ P .column
      ∧ P .askedPair := by
  simp only [verification, List.forall_mem_cons, List.not_mem_nil, false_imp_iff, implies_true,
    and_true]
  constructor
  · rintro ⟨collection, knownCollection, code, knownCode, chain, knownChain, tokens⟩
    refine ⟨fun kind => ?_, tokens⟩
    cases kind with
    | collectionNames => exact ⟨collection, knownCollection⟩
    | symbolCodes => exact ⟨code, knownCode⟩
    | chains => exact ⟨chain, knownChain⟩
  · rintro ⟨names, tokens⟩
    exact ⟨(names _).1, (names _).2, (names _).1, (names _).2, (names _).1, (names _).2, tokens⟩

namespace Verification

/-! ## The checks and their grounds -/

/-- The checks of a name are those of its kind. -/
def kindChecks (kind : Kind) (name : String) : List Check :=
  [.condition (kind.grammar.read? name).isSome (kind.malformed name),
    .membership kind name (kind.notFound name)]

lemma nameChecks_eq (request : Request) : nameChecks request
    = whenGiven (request.given? Kind.collectionNames.field.name) (kindChecks .collectionNames)
      ++ whenGiven (request.given? Kind.symbolCodes.field.name) (kindChecks .symbolCodes)
      ++ whenGiven (request.given? Kind.chains.field.name) (kindChecks .chains) :=
  rfl

/-- Of two lists of checks the second is gone through if the first is passed. -/
lemma failure?_decide_append (sets : Kind → List String) (first second : List Check) :
    failure? (decide sets (first ++ second))
      = (failure? (decide sets first)).or (failure? (decide sets second)) := by
  induction first with
  | nil => rfl
  | cons check rest ih =>
      cases check with
      | condition holds rejection =>
          cases holds with
          | true => exact ih
          | false => rfl
      | membership kind value rejection =>
          rw [List.cons_append, decide, decide]
          split
          · exact ih
          · rfl

lemma failure?_decide_token (sets : Kind → List String) (raw : Option String)
    (fits : String → Bool) (rejection : String → Rejection) :
    failure? (decide sets (whenGiven raw fun token => [.condition (fits token) (rejection token)]))
      = unfit raw fits rejection := by
  cases raw with
  | none => rfl
  | some token =>
      rw [whenGiven, decide, unfit, Option.filter_some]
      cases fits token <;> rfl

/-- A name is refused by its grammar first, and then if it is not in the set of its kind. -/
lemma failure?_decide_kindChecks (sets : Kind → List String) (kind : Kind) (raw : Option String) :
    failure? (decide sets (whenGiven raw (kindChecks kind)))
      = (unfit raw (fun name => kind.grammar.accepts name.toList) kind.malformed).or
          (unfit raw (fun name => name ∈ sets kind) kind.notFound) := by
  cases raw with
  | none => rfl
  | some name =>
      rw [whenGiven, kindChecks, decide, unfit, unfit, Option.filter_some, Option.filter_some,
        Grammar.CodeGrammar.read?]
      cases kind.grammar.accepts name.toList with
      | false => rfl
      | true =>
          rw [if_pos rfl, Option.isSome_some, if_pos rfl, decide]
          by_cases known : name ∈ sets kind <;> simp [known, decide]

lemma failure?_decide_pairChecks (sets : Kind → List String) (request : Request)
    (settings : Settings) : failure? (decide sets (pairChecks request settings))
      = Ground.askedPair.refusal? request settings sets := by
  cases asks : request.asksAggregate with
  | false =>
      have unchecked : pairChecks request settings = [] := if_neg (ne_true_of_eq_false asks)
      rw [unchecked, Ground.refusal?, asks]
      rfl
  | true =>
      have checked := (verdict_pair asks).1 (verdict_decide sets (pairChecks request settings))
      rw [checked, failure?_checkAggregatePair, Ground.refusal?, asks, if_pos rfl]

/-- **The checks fail for the first ground that applies.** -/
theorem failure?_decide_checks (request : Request) (settings : Settings)
    (sets : Kind → List String) : failure? (decide sets (checks request settings))
      = Ground.verification.findSome? (Ground.refusal? request settings sets) := by
  have range : failure? (decide sets (whenGiven (request.given? "range") (rangeChecks settings)))
      = Ground.range.refusal? request settings sets := by
    refine (failure?_decide_token sets _ _ _).trans (unfit_congr fun token given => ?_)
    exact isSome_timeRange? (Request.given?_eq_some.1 given).2 settings.timeRange
  have function : failure? (decide sets
      (whenGiven (request.given? "aggregate_function") functionChecks))
        = Ground.function.refusal? request settings sets :=
    (failure?_decide_token sets _ _ _).trans (unfit_congr fun token _ => isSome_function? token)
  have column : failure? (decide sets
      (whenGiven (request.given? "aggregate_column") columnChecks))
        = Ground.column.refusal? request settings sets :=
    (failure?_decide_token sets _ _ _).trans (unfit_congr fun token _ => isSome_column? token)
  rw [checks_eq, nameChecks_eq, tokenChecks]
  simp only [failure?_decide_append, failure?_decide_kindChecks, failure?_decide_pairChecks, range,
    function, column, Option.or_assoc, Ground.verification, findSome?_cons_or, List.findSome?_nil,
    Option.or_none]
  rfl

/-! ## What a verdict means -/

/-- The conditions that an accepted request meets, each for a parameter that is given. -/
structure Acceptable (request : Request) (settings : Settings) (sets : Kind → List String) :
    Prop where
  names : ∀ kind name, request.given? kind.field.name = some name →
    kind.grammar.accepts name.toList = true ∧ name ∈ sets kind
  range : ∀ token, request.given? "range" = some token → token ∈ TimeRange.accepted
  function : ∀ token, request.given? "aggregate_function" = some token →
    ∃ f : AggregateFunction, f.text = token
  column : ∀ token, request.given? "aggregate_column" = some token →
    ∃ c : AggregateColumn, c.text = token
  /-- The settings complete what the request leaves open. -/
  pair : request.asksAggregate = true →
    Summary.function request settings = .count ∨ Summary.column request settings ≠ .saleId

lemma mem_function_texts {token : String} :
    token ∈ AggregateFunction.all.map AggregateFunction.text
      ↔ ∃ f : AggregateFunction, f.text = token := by
  rw [List.mem_map]
  exact exists_congr fun f => and_iff_right (by cases f <;> decide)

lemma mem_column_texts {token : String} :
    token ∈ AggregateColumn.all.map AggregateColumn.text
      ↔ ∃ c : AggregateColumn, c.text = token := by
  rw [List.mem_map]
  exact exists_congr fun c => and_iff_right (by cases c <;> decide)

/-- A request is acceptable if no ground of verification applies. -/
lemma acceptable_iff {request : Request} {settings : Settings} {sets : Kind → List String} :
    Acceptable request settings sets
      ↔ ∀ ground ∈ Ground.verification, ground.refusal? request settings sets = none := by
  have malformed : ∀ kind, (Ground.malformed kind).refusal? request settings sets = none
      ↔ ∀ name, request.given? kind.field.name = some name →
        kind.grammar.accepts name.toList = true :=
    fun kind => unfit_eq_none
  have unknown : ∀ kind, (Ground.unknown kind).refusal? request settings sets = none
      ↔ ∀ name, request.given? kind.field.name = some name → name ∈ sets kind :=
    fun kind => unfit_eq_none.trans (by simp only [decide_eq_true_eq])
  have range : Ground.range.refusal? request settings sets = none
      ↔ ∀ token, request.given? "range" = some token → token ∈ TimeRange.accepted :=
    unfit_eq_none.trans (by simp only [decide_eq_true_eq])
  have function : Ground.function.refusal? request settings sets = none
      ↔ ∀ token, request.given? "aggregate_function" = some token →
        ∃ f : AggregateFunction, f.text = token :=
    unfit_eq_none.trans (by simp only [decide_eq_true_eq, mem_function_texts])
  have column : Ground.column.refusal? request settings sets = none
      ↔ ∀ token, request.given? "aggregate_column" = some token →
        ∃ c : AggregateColumn, c.text = token :=
    unfit_eq_none.trans (by simp only [decide_eq_true_eq, mem_column_texts])
  have pair : Ground.askedPair.refusal? request settings sets = none
      ↔ (request.asksAggregate = true → Summary.function request settings = .count
        ∨ Summary.column request settings ≠ .saleId) := by
    simp [Ground.refusal?, illegalPair?, imp_iff_not_or]
  simp only [Ground.forall_verification, malformed, unknown, range, function, column, pair]
  constructor
  · rintro ⟨names, ranged, functioned, columned, paired⟩
    exact ⟨fun kind => ⟨fun name given => (names kind name given).1,
      fun name given => (names kind name given).2⟩, ranged, functioned, columned, paired⟩
  · rintro ⟨names, ranged, functioned, columned, paired⟩
    exact ⟨fun kind name given => ⟨(names kind).1 name given, (names kind).2 name given⟩, ranged,
      functioned, columned, paired⟩

/-- What else is known to exist does no harm. -/
lemma Acceptable.mono {request : Request} {settings : Settings} {sets larger : Kind → List String}
    (h : Acceptable request settings sets) (enlarged : ∀ kind, sets kind ⊆ larger kind) :
    Acceptable request settings larger where
  names kind name given := (h.names kind name given).imp_right fun mem => enlarged kind mem
  range := h.range
  function := h.function
  column := h.column
  pair := h.pair

/-- What a verdict means, given the sets: accepted requests are `Acceptable`, rejections are those
of the first ground that applies, and an accepted request stays accepted when sets grow. -/
structure Decided (request : Request) (settings : Settings) (sets : Kind → List String)
    (verdict : Except Rejection Unit) : Prop where
  accepted : verdict = .ok () ↔ Acceptable request settings sets
  rejected : ∀ rejection, verdict = .error rejection ↔ ∃ ground,
    Ground.IsFirst Ground.verification request settings sets ground rejection
  /-- Not to be found is one thing, and everything else is a bad request. -/
  status : ∀ ground rejection,
    Ground.IsFirst Ground.verification request settings sets ground rejection →
      rejection.status = if ground.isMembership then 404 else 400
  /-- Timestamps are not looked at, and nothing is compiled. -/
  only : ∀ rejection, verdict = .error rejection →
    (∀ cause, rejection ≠ .invalidTimestamp cause) ∧ ∀ defect, rejection ≠ .internal defect
  /-- An accepted request is still accepted when more exists. -/
  lasting : verdict = .ok () → ∀ larger, (∀ kind, sets kind ⊆ larger kind) →
    ∀ session interludes, (amid session interludes (checks request settings)).Returned larger →
      (amid session interludes (checks request settings)).verdict = some (.ok ())

/-- The checks are passed, given the sets, exactly if the request is `Acceptable`. -/
lemma decide_eq_ok_iff {request : Request} {settings : Settings} {sets : Kind → List String} :
    decide sets (checks request settings) = .ok () ↔ Acceptable request settings sets := by
  rw [acceptable_iff, ← List.findSome?_eq_none_iff, ← failure?_decide_checks, failure?_eq_none]
  exact ⟨fun h => ⟨(), h⟩, fun ⟨_, h⟩ => h⟩

/-- The checks fail, given the sets, for the first ground that applies. -/
lemma decide_eq_error_iff {request : Request} {settings : Settings} {sets : Kind → List String}
    {rejection : Rejection} : decide sets (checks request settings) = .error rejection
      ↔ ∃ ground, Ground.IsFirst Ground.verification request settings sets ground rejection := by
  rw [← failure?_eq_some, failure?_decide_checks, Ground.findSome?_eq_some]

/-- The verdict by given sets has all the properties of `Decided`. -/
theorem decided_decide (request : Request) (settings : Settings) (sets : Kind → List String) :
    Decided request settings sets (decide sets (checks request settings)) where
  accepted := decide_eq_ok_iff
  rejected _ := decide_eq_error_iff
  status := by
    rintro ground rejection ⟨before, after, -, applies, -⟩
    rw [Rejection.status, (Ground.reports_of_refusal? applies).kind]
    cases ground.isMembership <;> rfl
  only := by
    intro rejection refused
    obtain ⟨ground, before, after, order, applies, -⟩ := decide_eq_error_iff.1 refused
    have asked : ground ∈ Ground.verification := order ▸ List.mem_append_right _ List.mem_cons_self
    have reports := Ground.reports_of_refusal? applies
    refine ⟨?_, reports.ne_internal⟩
    rintro cause rfl
    obtain rfl := reports.eq_timestamp
    exact absurd asked (by decide)
  lasting := by
    intro accepted larger enlarged session interludes returned
    rw [verdict_of_returned returned]
    exact congrArg some (decide_eq_ok_iff.2 ((decide_eq_ok_iff.1 accepted).mono enlarged))

/-- **Verification decides by the first of `Ground.verification` that applies**, given the sets that
its lookups returned, and it has a verdict as soon as they all have, whatever others do to the
session. -/
theorem decided_of_returned {request : Request} {settings : Settings} {session : Session}
    {interludes : List Interlude} {sets : Kind → List String}
    (returned : (amid session interludes (checks request settings)).Returned sets) :
    ∃ verdict, (amid session interludes (checks request settings)).verdict = some verdict
      ∧ Decided request settings sets verdict :=
  ⟨_, verdict_of_returned returned, decided_decide request settings sets⟩

/-- A known collection, a chain that has gone, and a range that there is not. -/
def goneChain : Request :=
  .ofPairs [("range", "2w"), ("chain", "telos"), ("collection_name", "pomelo"), ("sale_id", "7")]

/-- Nothing is replied before it is asked for. -/
def gatedSession : Session where
  source := { gated := true }

/-- The collections come late, and someone else looks up all chains meanwhile; the chains that came
in time are then invalidated, and fetching them again fails. -/
def lateReplies : List Interlude :=
  [{ meanwhile := [.start .chains .all, .answer 0 (.values ["pomelo", "alien.worlds"]),
      .answer 1 (.values ["telos"])] },
    { before := [.invalidate .chains], meanwhile := [.answer 2 (.failure "down")] }]

/-- What `lateReplies` return for each kind. -/
def replied : Kind → List String
  | .collectionNames => ["alien.worlds", "pomelo"]
  | .symbolCodes | .chains => []

/-- The collection is found and the chain is not, which is reported before the range is looked
at. -/
theorem decided_of_returned_goneChain :
    (amid gatedSession lateReplies (checks goneChain {})).Returned replied
      ∧ (amid gatedSession lateReplies (checks goneChain {})).verdict
          = some (.error (.chainNotFound "telos"))
      ∧ ∃ verdict, (amid gatedSession lateReplies (checks goneChain {})).verdict = some verdict
          ∧ Decided goneChain {} replied verdict := by
  have consulted : (amid gatedSession lateReplies (checks goneChain {})).consulted
      = [⟨.collectionNames, "pomelo", some ["alien.worlds", "pomelo"]⟩,
          ⟨.chains, "telos", some []⟩] := by
    decide +kernel
  have returned : (amid gatedSession lateReplies (checks goneChain {})).Returned replied := by
    intro c mem
    rw [consulted] at mem
    simp only [List.mem_cons, List.not_mem_nil, or_false] at mem
    rcases mem with rfl | rfl
    · exact ⟨_, rfl, fun _ => Iff.rfl⟩
    · exact ⟨_, rfl, fun _ => Iff.rfl⟩
  exact ⟨returned, by decide +kernel, decided_of_returned returned⟩

end Verification

end SaleSearch

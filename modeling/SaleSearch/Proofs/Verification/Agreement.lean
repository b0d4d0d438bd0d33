import SaleSearch.Proofs.Compilation.Frame
import SaleSearch.Proofs.Verification.Verdict

/-!
# Verification and summaries

A request is verified and then compiled, and the rules about aggregates are checked both times.  The
two never contradict each other: what verification accepts is compiled, but for two faults that it
does not look for; and what both of them look for, they refuse alike.

* `Verification.Agrees` says so for a request and settings, and `verification_agrees` is the result.
* `Verification.verdict_tokens`: the checks of the aggregate come to what `Summary.resolve` comes
  to, if an aggregate was asked for.
* `Filter.assemble_history` and `Filter.assemble_aggregate`: filters are only refused for a
  timestamp.
-/

namespace SaleSearch

open Catalog

/-! ## What is compared -/

/-- The request asks for an aggregate, by a function or by a column. -/
def Request.asksAggregate (request : Request) : Bool :=
  (request.given? "aggregate_function").isSome || (request.given? "aggregate_column").isSome

/-- A function other than counting is applied to the identifiers of sales by default. -/
def Settings.IllegalDefault (settings : Settings) : Prop :=
  settings.aggregateFunction ≠ .count ∧ settings.aggregateColumn = .saleId

/-- A parameter for the timestamp is malformed. -/
def Request.MalformedTimestamp (request : Request) (cause : Grammar.MalformedTimestamp) : Prop :=
  ∃ slot ∈ Slot.all, slot.field = .timestamp
    ∧ Grammar.timestamp (request.get? slot.parameter) = .error cause

/-- The rejection is about an aggregate: its function, its column or the pair of them. -/
def Rejection.isAggregate : Rejection → Bool
  | .invalidAggregateFunction _ | .invalidAggregateColumn _ | .illegalAggregate .. => true
  | _ => false

/-- The faults of a summary that verification looks for. -/
def Rejection.isForeseen (request : Request) : Rejection → Bool
  | .invalidAggregateFunction _ | .invalidAggregateColumn _ | .invalidTimeRange _ => true
  | .illegalAggregate .. => request.asksAggregate
  | _ => false

namespace Verification

/-- What is known when a request is verified.  No kind is looked up twice, so that sets also stand
for lookups that had to wait, each for the set that it was given in the end. -/
inductive Reference where
  | known (sets : Kind → List String)
  | live (session : Session)

/-- The verdict, unless it has to wait for a fetch. -/
def Reference.verdict? (reference : Reference) (request : Request) (settings : Settings) :
    Option (Except Rejection Unit) :=
  match reference with
  | .known sets => some (decide sets (checks request settings))
  | .live session => (inSession session (checks request settings)).1

/-- Nothing has to be waited for. -/
def Reference.IsReady : Reference → Prop
  | .known _ => True
  | .live session => Responsive session

/-- What compiling comes to if verification had no objection. -/
structure Accepted (request : Request) (mode : AggregateMode) (settings : Settings)
    (outcome : Except Rejection Sql.Compiled) : Prop where
  illegal_default : request.asksAggregate = false → settings.IllegalDefault →
    outcome = .error (.illegalAggregate settings.aggregateFunction settings.aggregateColumn)
  malformed : ¬(request.asksAggregate = false ∧ settings.IllegalDefault) → mode = .point →
    (∃ cause, request.MalformedTimestamp cause) →
      ∃ cause, request.MalformedTimestamp cause ∧ outcome = .error (.invalidTimestamp cause)
  compiled : ¬(request.asksAggregate = false ∧ settings.IllegalDefault) →
    ¬(mode = .point ∧ ∃ cause, request.MalformedTimestamp cause) → ∃ c, outcome = .ok c

/-- How the verdicts on a request and the outcomes of `Summary.compile` are related, in both
directions. -/
structure Agrees (request : Request) (settings : Settings) : Prop where
  accepted : ∀ reference : Reference, reference.verdict? request settings = some (.ok ()) →
    ∀ mode now, Accepted request mode settings (Summary.compile request mode settings now)
  /-- A rejection on account of the aggregate is the same one in compilation. -/
  refused : ∀ (reference : Reference) rejection,
    reference.verdict? request settings = some (.error rejection) → rejection.isAggregate →
      ∀ mode now, Summary.compile request mode settings now = .error rejection
  /-- Whatever is known, verification rejects what fails later for a reason that it looks for. -/
  foreseen : ∀ mode now rejection, Summary.compile request mode settings now = .error rejection →
    rejection.isForeseen request → ∀ (reference : Reference) verdict,
      reference.verdict? request settings = some verdict → ∃ other, verdict = .error other
  ready : ∀ reference : Reference, reference.IsReady →
    ∃ verdict, reference.verdict? request settings = some verdict

end Verification

/-! ## Filters -/

/-- A slot fails exactly if it is one for a timestamp and its parameter is malformed. -/
lemma Slot.read_eq_error {slot : Slot} {request : Request} {cause : Grammar.MalformedTimestamp} :
    slot.read request = .error cause ↔ slot.field = .timestamp
      ∧ Grammar.timestamp (request.get? slot.parameter) = .error cause := by
  unfold Slot.read Filter.value?
  cases slot.field with
  | timestamp => cases Grammar.timestamp (request.get? slot.parameter) <;> simp [Except.map]
  | _ => simp [Except.map]

namespace Filter

/-- `collect` returns conditions if no slot fails, and fails as one of its slots does otherwise. -/
lemma collect_outcome (request : Request) (slots : List Slot) :
    (∃ filter, collect request slots = .ok filter ∧ ∀ slot ∈ slots, ∀ cause,
        slot.read request ≠ .error cause)
      ∨ ∃ slot ∈ slots, ∃ cause, slot.read request = .error cause
        ∧ collect request slots = .error cause := by
  induction slots with
  | nil => exact .inl ⟨[], rfl, nofun⟩
  | cons slot rest ih =>
      unfold collect
      cases found : slot.read request with
      | error cause => exact .inr ⟨slot, List.mem_cons_self, cause, found, rfl⟩
      | ok first =>
          rcases ih with ⟨filter, collected, sound⟩ | ⟨other, mem, cause, failed, collected⟩
          · refine .inl ⟨first.toList ++ filter, by rw [collected]; rfl, ?_⟩
            simpa [found] using sound
          · exact .inr ⟨other, List.mem_cons_of_mem _ mem, cause, failed, by rw [collected]; rfl⟩

/-- `assemble` never fails for a history, since it goes through no slot for a timestamp. -/
lemma assemble_history (request : Request) : ∃ filter, assemble request .history = .ok filter := by
  rcases collect_outcome request (slots .history) with
    ⟨filter, assembled, -⟩ | ⟨slot, mem, cause, failed, -⟩
  · exact ⟨filter, assembled⟩
  · have included := (List.mem_filter.1 mem).2
    simp [Scope.includes, (Slot.read_eq_error.1 failed).1] at included

/-- `assemble` fails for a single value exactly if a timestamp is malformed. -/
lemma assemble_aggregate (request : Request) :
    ((∃ filter, assemble request .aggregate = .ok filter)
        ∧ ¬∃ cause, request.MalformedTimestamp cause)
      ∨ ∃ cause, request.MalformedTimestamp cause ∧ assemble request .aggregate = .error cause := by
  have all : slots .aggregate = Slot.all := List.filter_eq_self.2 fun _ _ => rfl
  rw [assemble, all]
  rcases collect_outcome request Slot.all with
    ⟨filter, assembled, sound⟩ | ⟨slot, mem, cause, failed, assembled⟩
  · refine .inl ⟨⟨filter, assembled⟩, ?_⟩
    rintro ⟨cause, slot, mem, malformed⟩
    exact sound slot mem cause (Slot.read_eq_error.2 malformed)
  · exact .inr ⟨cause, ⟨slot, mem, Slot.read_eq_error.1 failed⟩, assembled⟩

end Filter

/-! ## Verdicts on tokens -/

namespace Verification

lemma Reference.verdict {reference : Reference} {request : Request} {settings : Settings}
    {verdict : Except Rejection Unit} (h : reference.verdict? request settings = some verdict) :
    Verdict (checks request settings) verdict := by
  cases reference with
  | known sets =>
      obtain rfl := Option.some.inj h
      exact verdict_decide sets _
  | live session => exact verdict_of_inSession h

/-- A token is refused if it is given and cannot be read. -/
lemma verdict_token {α : Type} (read? : String → Option α) (rejection : String → Rejection)
    {raw : Option String} {verdict : Except Rejection Unit} :
    Verdict (whenGiven raw fun token => [.condition (read? token).isSome (rejection token)]) verdict
      ↔ verdict = match raw.filter fun token => (read? token).isNone with
        | some token => .error (rejection token)
        | none => .ok () := by
  cases raw with
  | none => exact verdict_nil
  | some token =>
      rw [whenGiven, verdict_condition, verdict_nil]
      cases read : read? token <;> simp [Option.filter, read]

lemma verdict_function {raw : Option String} {verdict : Except Rejection Unit} :
    Verdict (whenGiven raw functionChecks) verdict
      ↔ verdict = match Summary.unknownFunction? raw with
        | some token => .error (.invalidAggregateFunction token)
        | none => .ok () :=
  verdict_token AggregateFunction.ofToken? .invalidAggregateFunction

lemma verdict_column {raw : Option String} {verdict : Except Rejection Unit} :
    Verdict (whenGiven raw columnChecks) verdict
      ↔ verdict = match Summary.unknownColumn? raw with
        | some token => .error (.invalidAggregateColumn token)
        | none => .ok () :=
  verdict_token AggregateColumn.ofToken? .invalidAggregateColumn

lemma verdict_range {raw : Option String} {settings : Settings} {verdict : Except Rejection Unit} :
    Verdict (whenGiven raw (rangeChecks settings)) verdict
      ↔ verdict = match raw.filter fun range =>
          (Grammar.timeRange? (some range) settings.timeRange).isNone with
        | some range => .error (.invalidTimeRange range)
        | none => .ok () :=
  verdict_token (fun range => Grammar.timeRange? (some range) settings.timeRange) .invalidTimeRange

/-- If the request asks for an aggregate, the check of the pair is `checkAggregatePair`. -/
lemma verdict_pair {request : Request} {settings : Settings} {verdict : Except Rejection Unit}
    (asks : request.asksAggregate = true) : Verdict (pairChecks request settings) verdict
      ↔ verdict = checkAggregatePair (Summary.function request settings)
          (Summary.column request settings) := by
  have checked : pairChecks request settings = [.condition
      (Summary.function request settings = .count
        || !(Summary.column request settings).isIdentifier)
      (.illegalAggregate (Summary.function request settings) (Summary.column request settings))] :=
    if_pos asks
  rw [checked, verdict_condition, verdict_nil, checkAggregatePair]
  by_cases counts : Summary.function request settings = .count <;>
    cases Summary.column request settings <;> simp [counts, AggregateColumn.isIdentifier]

/-- The checks of names. -/
def nameChecks (request : Request) : List Check :=
  whenGiven (request.given? "collection_name") collectionChecks
    ++ whenGiven (request.given? "listing_price_symcode") symbolCodeChecks
    ++ whenGiven (request.given? "chain") chainChecks

/-- The checks of what is aggregated. -/
def tokenChecks (request : Request) (settings : Settings) : List Check :=
  whenGiven (request.given? "aggregate_function") functionChecks
    ++ (whenGiven (request.given? "aggregate_column") columnChecks
      ++ pairChecks request settings)

/-- The checks in three parts: those of names, of the range, and of the aggregate. -/
lemma checks_eq (request : Request) (settings : Settings) :
    checks request settings
      = nameChecks request ++ (whenGiven (request.given? "range") (rangeChecks settings)
        ++ tokenChecks request settings) := by
  simp only [checks, nameChecks, tokenChecks, List.append_assoc]

/-- If the request asks for an aggregate, its checks come to what `Summary.resolve` comes to. -/
lemma verdict_tokens {request : Request} {settings : Settings} {verdict : Except Rejection Unit}
    (asks : request.asksAggregate = true) : Verdict (tokenChecks request settings) verdict
      ↔ verdict = (Summary.resolve request settings).map fun _ => () := by
  simp only [tokenChecks, verdict_append, verdict_function, verdict_column, verdict_pair asks]
  unfold Summary.resolve
  cases Summary.unknownFunction? (request.given? "aggregate_function") with
  | some token => cases verdict <;> simp [Except.map]
  | none =>
      cases Summary.unknownColumn? (request.given? "aggregate_column") with
      | some token => cases verdict <;> simp [Except.map]
      | none =>
          cases checkAggregatePair (Summary.function request settings)
            (Summary.column request settings) <;> cases verdict <;> simp [Except.map]

lemma given?_of_not_asked {request : Request} (asks : request.asksAggregate = false) :
    request.given? "aggregate_function" = none ∧ request.given? "aggregate_column" = none := by
  obtain ⟨no_function, no_column⟩ := Bool.or_eq_false_iff.1 asks
  rw [Option.isSome_eq_false_iff, Option.isNone_iff_eq_none] at no_function no_column
  exact ⟨no_function, no_column⟩

lemma tokenChecks_of_not_asked {request : Request} (settings : Settings)
    (asks : request.asksAggregate = false) : tokenChecks request settings = [] := by
  have pair : pairChecks request settings = [] := if_neg (ne_true_of_eq_false asks)
  obtain ⟨no_function, no_column⟩ := given?_of_not_asked asks
  rw [tokenChecks, pair, no_function, no_column]
  rfl

lemma exists_of_mem_whenGiven {raw : Option String} {checks : String → List Check} {check : Check}
    (mem : check ∈ whenGiven raw checks) : ∃ value, check ∈ checks value := by
  cases raw with
  | none => cases mem
  | some value => exact ⟨value, mem⟩

/-- The checks of names never reject on account of the aggregate. -/
lemma not_isAggregate_of_names {request : Request} {rejection : Rejection}
    (h : Verdict (nameChecks request) (.error rejection)) : rejection.isAggregate = false := by
  obtain ⟨check, mem, rfl⟩ := exists_check_of_verdict h
  simp only [nameChecks, List.mem_append, or_assoc] at mem
  rcases mem with mem | mem | mem <;> obtain ⟨value, mem⟩ := exists_of_mem_whenGiven mem <;>
    simp only [collectionChecks, symbolCodeChecks, chainChecks, List.mem_cons, List.not_mem_nil,
      or_false] at mem <;>
    rcases mem with rfl | rfl <;> rfl

end Verification

/-! ## Compilation after an accepted verification -/

namespace Summary

variable {request : Request} {settings : Settings}

/-- If `resolve` fails, so does the compilation, in both modes. -/
lemma compile_of_resolve_error {rejection : Rejection}
    (refused : resolve request settings = .error rejection) (mode : AggregateMode) (now : Int) :
    compile request mode settings now = .error rejection := by
  rw [compile, statement, refused]
  rfl

lemma compile_of_assemble_error {choice : Choice}
    (resolved : resolve request settings = .ok choice) {cause : Grammar.MalformedTimestamp}
    (malformed : Filter.assemble request .aggregate = .error cause) (now : Int) :
    compile request .point settings now = .error (.invalidTimestamp cause) := by
  rw [compile, statement, resolved]
  simp only [malformed]
  rfl

/-- If the request does not ask for an aggregate, `resolve` fails exactly for an illegal default. -/
lemma resolve_of_not_asked (settings : Settings) (asks : request.asksAggregate = false) :
    (settings.IllegalDefault ∧ resolve request settings
        = .error (.illegalAggregate settings.aggregateFunction settings.aggregateColumn))
      ∨ ¬settings.IllegalDefault ∧ ∃ choice, resolve request settings = .ok choice := by
  obtain ⟨no_function, no_column⟩ := Verification.given?_of_not_asked asks
  have by_default : resolve request settings
      = (checkAggregatePair settings.aggregateFunction settings.aggregateColumn).map fun _ =>
        { function := settings.aggregateFunction
          column := settings.aggregateColumn
          columnGiven := false } := by
    rw [resolve, function, column, no_function, no_column]
    rfl
  rw [by_default, checkAggregatePair, Settings.IllegalDefault]
  by_cases counts : settings.aggregateFunction = .count <;>
    cases settings.aggregateColumn <;> simp [counts, AggregateColumn.isIdentifier, Except.map]

/-- If the check of the range is passed, `Summary.range` returns a range. -/
lemma range_of_verdict (h : Verification.Verdict (Verification.whenGiven (request.given? "range")
      (Verification.rangeChecks settings)) (.ok ())) :
    ∃ range, Summary.range request settings = .ok range := by
  rw [Verification.verdict_range] at h
  unfold Summary.range
  unfold Request.given? at h
  generalize request.get? "range" = sent at h ⊢
  cases sent with
  | none => exact ⟨_, rfl⟩
  | some raw =>
      by_cases empty : raw = ""
      · subst empty
        exact ⟨_, rfl⟩
      · cases read : Grammar.timeRange? (some raw) settings.timeRange with
        | none => simp [Option.filter, empty, read] at h
        | some range => exact ⟨range, by simp [read]⟩

lemma exists_ends {range : TimeRange} (ranged : Summary.range request settings = .ok range)
    (mode : AggregateMode) (now : Int) : ∃ window, ends request mode settings now = .ok window := by
  cases mode with
  | point => exact ⟨none, rfl⟩
  | history => exact ⟨Window.window? range now, by rw [ends, ranged]; rfl⟩

/-- `assemble` fails for a single value only, and only for a malformed timestamp. -/
lemma exists_filter {mode : AggregateMode}
    (well : ¬(mode = .point ∧ ∃ cause, request.MalformedTimestamp cause)) :
    ∃ filter, Filter.assemble request (scope mode) = .ok filter := by
  cases mode with
  | history => exact Filter.assemble_history request
  | point =>
      rcases Filter.assemble_aggregate request with ⟨assembled, -⟩ | ⟨cause, found, -⟩
      · exact assembled
      · exact absurd ⟨rfl, cause, found⟩ well

end Summary

namespace Verification

variable {request : Request} {settings : Settings}

/-- If the checks of the aggregate are passed, `resolve` fails for an illegal default only. -/
lemma exists_choice (tokens : Verdict (tokenChecks request settings) (.ok ()))
    (legal : ¬(request.asksAggregate = false ∧ settings.IllegalDefault)) :
    ∃ choice, Summary.resolve request settings = .ok choice := by
  cases asks : request.asksAggregate with
  | true =>
      rw [verdict_tokens asks] at tokens
      obtain ⟨choice, resolved, -⟩ := map_eq_ok.1 tokens.symm
      exact ⟨choice, resolved⟩
  | false =>
      rcases Summary.resolve_of_not_asked settings asks with ⟨illegal, -⟩ | ⟨-, resolved⟩
      · exact absurd ⟨asks, illegal⟩ legal
      · exact resolved

/-- What verification accepts is compiled, but for an illegal default and a malformed timestamp. -/
theorem accepted_of_verdict (h : Verdict (checks request settings) (.ok ())) (mode : AggregateMode)
    (now : Int) : Accepted request mode settings (Summary.compile request mode settings now) := by
  rw [checks_eq, verdict_append, verdict_append] at h
  obtain ⟨-, range_checked, tokens⟩ : _
      ∧ Verdict (whenGiven (request.given? "range") (rangeChecks settings)) (.ok ())
      ∧ Verdict (tokenChecks request settings) (.ok ()) := by simpa using h
  refine ⟨?_, ?_, ?_⟩
  · intro asks illegal
    rcases Summary.resolve_of_not_asked settings asks with ⟨-, refused⟩ | ⟨legal, -⟩
    · exact Summary.compile_of_resolve_error refused mode now
    · exact absurd illegal legal
  · rintro legal rfl malformed
    obtain ⟨choice, resolved⟩ := exists_choice tokens legal
    rcases Filter.assemble_aggregate request with ⟨-, well⟩ | ⟨cause, found, failed⟩
    · exact absurd malformed well
    · exact ⟨cause, found, Summary.compile_of_assemble_error resolved failed now⟩
  · intro legal well
    obtain ⟨choice, resolved⟩ := exists_choice tokens legal
    obtain ⟨filter, assembled⟩ := Summary.exists_filter well
    obtain ⟨range, ranged⟩ := Summary.range_of_verdict range_checked
    obtain ⟨window, ended⟩ := Summary.exists_ends ranged mode now
    exact ⟨_, Summary.compile_eq_ok.2 ⟨choice, filter, window, resolved, assembled, ended, rfl⟩⟩

/-- If verification rejects on account of the aggregate, `resolve` fails with the same rejection. -/
theorem resolve_of_verdict {rejection : Rejection}
    (h : Verdict (checks request settings) (.error rejection)) (aggregate : rejection.isAggregate) :
    Summary.resolve request settings = .error rejection := by
  rw [checks_eq, verdict_append, verdict_append] at h
  rcases h with ⟨-, ⟨-, tokens⟩ | ⟨other, same, range⟩⟩ | ⟨other, same, names⟩
  · cases asks : request.asksAggregate with
    | false =>
        rw [tokenChecks_of_not_asked settings asks, verdict_nil] at tokens
        cases tokens
    | true =>
        rw [verdict_tokens asks] at tokens
        cases outcome : Summary.resolve request settings with
        | ok choice => simp [outcome, Except.map] at tokens
        | error found => simpa [outcome, Except.map] using tokens.symm
  · rw [verdict_range] at range
    split at range
    · obtain rfl := Except.error.inj range
      cases aggregate
    · cases range
  · rw [not_isAggregate_of_names names] at aggregate
    cases aggregate

end Verification

/-- **Verification and compilation never contradict each other.** What is accepted is compiled, but
for an illegal default and a malformed timestamp; a rejection on account of the aggregate is also
that of the compilation; and verification rejects whatever fails later for a reason it looks for. -/
theorem verification_agrees (request : Request) (settings : Settings) :
    Verification.Agrees request settings where
  accepted reference h := Verification.accepted_of_verdict (Verification.Reference.verdict h)
  refused reference rejection h aggregate :=
    Summary.compile_of_resolve_error
      (Verification.resolve_of_verdict (Verification.Reference.verdict h) aggregate)
  foreseen := by
    intro mode now rejection refused foreseen reference verdict h
    cases verdict with
    | error other => exact ⟨other, rfl⟩
    | ok =>
        have outcome := Verification.accepted_of_verdict (Verification.Reference.verdict h) mode now
        rw [refused] at outcome
        by_cases illegal : request.asksAggregate = false ∧ settings.IllegalDefault
        · obtain rfl := Except.error.inj (outcome.illegal_default illegal.1 illegal.2)
          simp [Rejection.isForeseen, illegal.1] at foreseen
        · by_cases malformed : mode = .point ∧ ∃ cause, request.MalformedTimestamp cause
          · obtain ⟨cause, -, same⟩ := outcome.malformed illegal malformed.1 malformed.2
            obtain rfl := Except.error.inj same
            cases foreseen
          · obtain ⟨c, compiled⟩ := outcome.compiled illegal malformed
            cases compiled
  ready := by
    intro reference ready
    cases reference with
    | known sets => exact ⟨_, rfl⟩
    | live session => exact Verification.exists_verdict ready _

end SaleSearch

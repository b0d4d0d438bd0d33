import SaleSearch.Proofs.Refusal.Ground

/-!
# What compilation refuses

A listing is refused for a malformed timestamp and for nothing else.  A summary is refused for what
it is asked to aggregate, then a history for its range and a single value for a timestamp.  The
statements themselves are never defective.

* `Listing.failure?_compile` and `Summary.failure?_compile` are the laws of the two compilations.
* `Compilation.Outcomes` says when each of them fails and when it succeeds, and
  `Compilation.outcomes` is the result.
* `paddedTimestamp` is a request whose timestamp is not reported as it was sent.
-/

namespace SaleSearch

open Catalog Sql

/-- The grounds of a summary in their order. -/
def Ground.summary : AggregateMode → List Ground
  | .point => [.function, .column, .pair, .timestamp]
  | .history => [.function, .column, .pair, .range]

/-! ## Listings -/

section Listing

variable (request : Request) (settings : Settings) (sets : Kind → List String)

/-- Assembling conditions fails on the ground of a timestamp. -/
lemma failure?_conditions (scope : Scope) (asks : scope ≠ .history) :
    failure? ((Filter.assemble request scope).mapError Rejection.invalidTimestamp)
      = Ground.timestamp.refusal? request settings sets := by
  rw [failure?_mapError, Filter.failure?_assemble asks, Ground.refusal?, Option.map_map]
  rfl

/-- **Compiling a listing fails exactly for the first malformed timestamp.** -/
theorem Listing.failure?_compile : failure? (compile request settings)
    = Ground.timestamp.refusal? request settings sets := by
  refine (failure?_bind_of_none fun filter _ => ?_).trans
    (failure?_conditions request settings sets .records (by decide))
  dsimp only
  rw [compile_statement]
  rfl

end Listing

/-! ## Summaries -/

namespace Summary

variable (request : Request) (settings : Settings) (sets : Kind → List String)

lemma map_unknownFunction? : (unknownFunction? (request.given? "aggregate_function")).map
    Rejection.invalidAggregateFunction = Ground.function.refusal? request settings sets := by
  rw [Ground.refusal?, ← unfit_congr fun token _ => isSome_function? token]
  simp only [unknownFunction?, unfit, Option.not_isSome]

lemma map_unknownColumn? : (unknownColumn? (request.given? "aggregate_column")).map
    Rejection.invalidAggregateColumn = Ground.column.refusal? request settings sets := by
  rw [Ground.refusal?, ← unfit_congr fun token _ => isSome_column? token]
  simp only [unknownColumn?, unfit, Option.not_isSome]

/-- `resolve` fails for the function, the column and the pair, in this order. -/
lemma failure?_resolve : failure? (resolve request settings)
    = [Ground.function, .column, .pair].findSome? (Ground.refusal? request settings sets) := by
  have pair : Ground.pair.refusal? request settings sets = illegalPair? request settings := rfl
  simp only [findSome?_cons_or, List.findSome?_nil, Option.or_none,
    ← map_unknownFunction? request settings sets, ← map_unknownColumn? request settings sets,
    pair, ← failure?_checkAggregatePair]
  unfold resolve
  cases unknownFunction? (request.given? "aggregate_function") with
  | some token => rfl
  | none =>
      cases unknownColumn? (request.given? "aggregate_column") with
      | some token => rfl
      | none => exact failure?_map _ _

lemma failure?_range : failure? (range request settings)
    = Ground.range.refusal? request settings sets := by
  have given : request.given? "range" = (request.get? "range").filter (· ≠ "") := rfl
  rw [Ground.refusal?, given, range]
  cases request.get? "range" with
  | none => rfl
  | some token =>
      by_cases sent : token = ""
      · subst sent
        rfl
      · have readable := isSome_timeRange? sent settings.timeRange
        rw [Option.filter_some, if_pos (by simpa using sent), unfit, Option.filter_some,
          ← readable]
        cases Grammar.timeRange? (some token) settings.timeRange <;> rfl

lemma failure?_statement (mode : AggregateMode) (now : Int) :
    failure? (statement request mode settings now)
      = (Ground.summary mode).findSome? (Ground.refusal? request settings sets) := by
  have resolved := failure?_resolve request settings sets
  simp only [findSome?_cons_or, List.findSome?_nil, Option.or_none] at resolved
  cases mode with
  | point =>
      have later := failure?_conditions request settings sets .aggregate (by decide)
      refine (failure?_bind fun choice _ => (failure?_bind_of_none fun filter _ => rfl).trans
        later).trans ?_
      simp only [resolved, Ground.summary, findSome?_cons_or, List.findSome?_nil, Option.or_none,
        Option.or_assoc]
  | history =>
      have later := failure?_range request settings sets
      refine (failure?_bind fun choice _ => (failure?_bind_of_none fun range _ =>
        (failure?_bind_of_none fun filter _ => rfl).trans ?_).trans later).trans ?_
      · rw [failure?_mapError, Filter.failure?_assemble_history]
        rfl
      · simp only [resolved, Ground.summary, findSome?_cons_or, List.findSome?_nil, Option.or_none,
          Option.or_assoc]

/-- **A summary fails for the first of its grounds that applies.** -/
theorem failure?_compile (mode : AggregateMode) (now : Int) :
    failure? (compile request mode settings now)
      = (Ground.summary mode).findSome? (Ground.refusal? request settings sets) := by
  refine (failure?_bind_of_none fun s stated => ?_).trans
    (failure?_statement request settings sets mode now)
  obtain ⟨choice, filter, window, -, -, -, rfl⟩ := statement_eq_ok.1 stated
  rw [compile_shape]
  rfl

end Summary

/-! ## When compilation fails -/

namespace Compilation

/-- When the compilations of a request fail and with which rejection, and when they succeed. -/
structure Outcomes (request : Request) (settings : Settings) : Prop where
  listing_refused : ∀ rejection, Listing.compile request settings = .error rejection ↔
    ∃ text, request.FirstMalformed text
      ∧ rejection = .invalidTimestamp { input := Grammar.reported text }
  listing_compiled : (∃ c, Listing.compile request settings = .ok c) ↔
    ∀ parameter ∈ timestampParameters, ∀ text, request.get? parameter = some text →
      Grammar.isMalformed text = false
  /-- What is known to exist plays no part. -/
  summary_refused : ∀ mode now sets rejection,
    Summary.compile request mode settings now = .error rejection ↔
      ∃ ground, Ground.IsFirst (Ground.summary mode) request settings sets ground rejection
  summary_compiled : ∀ mode now sets,
    (∃ c, Summary.compile request mode settings now = .ok c) ↔
      ∀ ground ∈ Ground.summary mode, ground.refusal? request settings sets = none
  sound : ∀ defect, Listing.compile request settings ≠ .error (.internal defect)
    ∧ ∀ mode now, Summary.compile request mode settings now ≠ .error (.internal defect)

lemma listing_eq_error_iff {request : Request} {settings : Settings} {rejection : Rejection} :
    Listing.compile request settings = .error rejection
      ↔ Ground.timestamp.refusal? request settings (fun _ => []) = some rejection := by
  rw [← Listing.failure?_compile, failure?_eq_some]

lemma summary_eq_error_iff {request : Request} {settings : Settings} {mode : AggregateMode}
    {now : Int} {rejection : Rejection} (sets : Kind → List String) :
    Summary.compile request mode settings now = .error rejection
      ↔ ∃ ground, Ground.IsFirst (Ground.summary mode) request settings sets ground rejection := by
  rw [← failure?_eq_some, Summary.failure?_compile request settings sets, Ground.findSome?_eq_some]

/-- **Compilation fails for the first of its grounds that applies and else succeeds.** A listing has
one ground, a malformed timestamp, and neither listings nor summaries fail with `internal`. -/
theorem outcomes (request : Request) (settings : Settings) : Outcomes request settings where
  listing_refused rejection := by
    rw [listing_eq_error_iff, Ground.refusal?, Option.map_eq_some_iff]
    exact exists_congr fun text => and_congr Request.malformed?_eq_some eq_comm
  listing_compiled := by
    rw [← failure?_eq_none, Listing.failure?_compile request settings fun _ => [], Ground.refusal?,
      Option.map_eq_none_iff, Request.malformed?_eq_none]
  summary_refused mode now sets rejection := summary_eq_error_iff sets
  summary_compiled mode now sets := by
    rw [← failure?_eq_none, Summary.failure?_compile request settings sets,
      List.findSome?_eq_none_iff]
  sound := by
    refine fun defect => ⟨fun failed => ?_, fun mode now failed => ?_⟩
    · have applies := listing_eq_error_iff.1 failed
      exact (Ground.reports_of_refusal? applies).ne_internal defect rfl
    · obtain ⟨ground, before, after, -, applies, -⟩ :=
        (summary_eq_error_iff fun _ => []).1 failed
      exact (Ground.reports_of_refusal? applies).ne_internal defect rfl

/-- A timestamp with superfluous zeros, which do not save it. -/
def paddedTimestamp : Request :=
  .ofPairs [("timestamp", "00123")]

/-- The timestamp `00123` is parsed to a number before its digits are counted, and reported as
`123`. -/
theorem not_reported_as_sent : paddedTimestamp.FirstMalformed "00123"
    ∧ Listing.compile paddedTimestamp {} = .error (.invalidTimestamp { input := "123" })
    ∧ ¬∀ request settings rejection, Listing.compile request settings = .error rejection ↔
      ∃ text, request.FirstMalformed text ∧ rejection = .invalidTimestamp { input := text } := by
  have malformed : paddedTimestamp.FirstMalformed "00123" :=
    Request.malformed?_eq_some.1 (by decide +kernel)
  have refused : Listing.compile paddedTimestamp {}
      = .error (.invalidTimestamp { input := "123" }) := listing_eq_error_iff.2 (by decide +kernel)
  refine ⟨malformed, refused, fun as_sent => ?_⟩
  have other := (as_sent paddedTimestamp {} _).2 ⟨"00123", malformed, rfl⟩
  rw [refused] at other
  exact absurd other (by decide)

end Compilation

end SaleSearch

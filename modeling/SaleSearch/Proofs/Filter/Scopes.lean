import SaleSearch.Proofs.Filter.Complete
import SaleSearch.Proofs.Refusal.Timestamp

/-!
# Scopes of conditions

The conditions of a request are assembled for one of three scopes.  Sales and summaries are asked
for alike, and refused alike for the first malformed timestamp.  A history leaves the timestamps
alone, so that it is never refused, and asks for everything else in the same order.

* `Filter.ScopesFit` says so of a request, and `Filter.scopesFit` is the result.
-/

namespace SaleSearch

open Grammar Sql

namespace Filter

/-- How the conditions of one request for the three scopes are related: `records` and `aggregate`
agree, and `history` never fails and leaves the timestamps out. -/
structure ScopesFit (request : Request) : Prop where
  alike : assemble request .records = assemble request .aggregate
  fails_iff : (∃ cause, assemble request .records = .error cause) ↔
    ∃ parameter ∈ timestampParameters, ∃ text,
      request.get? parameter = some text ∧ isMalformed text = true
  /-- The first malformed timestamp is reported. -/
  cause : ∀ cause, assemble request .records = .error cause ↔
    ∃ text, request.FirstMalformed text ∧ timestamp (some text) = .error cause
      ∧ cause.input = reported text
  history : ∃ filter, assemble request .history = .ok filter
  without_timestamps : ∀ filter, assemble request .records = .ok filter →
    assemble request .history = .ok (filter.filter fun p => p.field? ≠ some .timestamp)

lemma slots_records : slots .records = Slot.all :=
  slots_eq_all nofun

lemma slots_aggregate : slots .aggregate = Slot.all :=
  slots_eq_all nofun

lemma slots_history : slots .history
    = Slot.all.filter fun slot => decide (some slot.field ≠ some .timestamp) := by
  simp [slots, Scope.includes]

/-- Assembling for `records` fails exactly for the first malformed timestamp. -/
lemma assemble_records_eq_error {request : Request} {cause : MalformedTimestamp} :
    assemble request .records = .error cause
      ↔ ∃ text, request.FirstMalformed text ∧ { input := reported text } = cause := by
  simp only [← failure?_eq_some, failure?_assemble (show Scope.records ≠ .history from nofun),
    Option.map_eq_some_iff, Request.malformed?_eq_some]

/-- There is a first malformed timestamp exactly if a parameter for a timestamp is malformed. -/
lemma exists_firstMalformed_iff {request : Request} : (∃ text, request.FirstMalformed text) ↔
    ∃ parameter ∈ timestampParameters, ∃ text,
      request.get? parameter = some text ∧ isMalformed text = true := by
  constructor
  · rintro ⟨text, before, parameter, after, order, sent, malformed, -⟩
    exact ⟨parameter, order ▸ List.mem_append_right _ List.mem_cons_self, text, sent, malformed⟩
  · rintro ⟨parameter, listed, text, sent, malformed⟩
    cases found : request.malformed? with
    | some first => exact ⟨first, Request.malformed?_eq_some.1 found⟩
    | none =>
        have well := Request.malformed?_eq_none.1 found parameter listed text sent
        simp [well] at malformed

/-- `timestamp` reports the first malformed timestamp as `assemble` does. -/
lemma timestamp_of_firstMalformed {request : Request} {text : String}
    (h : request.FirstMalformed text) :
    timestamp (some text) = .error { input := reported text } := by
  obtain ⟨before, parameter, after, -, -, malformed, -⟩ := h
  rw [← failure?_eq_some, failure?_timestamp, Option.filter_some, if_pos malformed]
  rfl

/-- **`assemble` treats `records` and `aggregate` alike, and `history` without the timestamps.** -/
theorem scopesFit (request : Request) : ScopesFit request where
  alike := by
    rw [assemble, assemble, slots_records, slots_aggregate]
  fails_iff := by
    rw [← exists_firstMalformed_iff]
    simp only [assemble_records_eq_error]
    constructor
    · rintro ⟨_, text, first, -⟩
      exact ⟨text, first⟩
    · rintro ⟨text, first⟩
      exact ⟨_, text, first, rfl⟩
  cause := by
    intro cause
    rw [assemble_records_eq_error]
    refine exists_congr fun text => and_congr_right fun first => ?_
    rw [timestamp_of_firstMalformed first]
    constructor
    · rintro rfl
      exact ⟨rfl, rfl⟩
    · rintro ⟨same, -⟩
      exact Except.error.inj same
  history := assemble_history request
  without_timestamps := by
    intro filter h
    obtain ⟨others, assembled⟩ := assemble_history request
    rw [assembled, eq_filterMap_of_assemble assembled, eq_filterMap_of_assemble h, slots_history,
      filter_filterMap_condition? fun field => field ≠ some .timestamp, slots_records]

/-- The conditions before a malformed timestamp are lost, and so is a malformed one after it. -/
example : assemble (.ofPairs [("timestamp", "123"), ("less_by_timestamp", "00045"),
      ("greater_by_block_number", "7")]) .aggregate = .error { input := "45" }
    ∧ assemble (.ofPairs [("timestamp", "123"), ("less_by_timestamp", "00045"),
      ("greater_by_block_number", "7")]) .history
        = .ok [.compare .blockNumber .greater (.unsigned 7)] := by
  decide +kernel

end Filter

end SaleSearch

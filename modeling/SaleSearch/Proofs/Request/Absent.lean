import SaleSearch.Proofs.Filter.Complete
import SaleSearch.Proofs.Request.Entries
import SaleSearch.Proofs.Verification.Course

/-!
# Empty parameters

An empty parameter is as good as none.  Some readers ask for a parameter that is given, and see no
difference; the others are told of an empty value, and each of them makes of it what it makes of
none (`Request.read_given?`).

* `Request.withoutEmpty` drops the empty parameters, which leaves what is given
  (`Request.get?_withoutEmpty`).
* `Request.Alike` relates requests that nobody can tell apart; `Request.alike_of_given?` says that
  requests are alike if they are given the same, so that every request is like the one without its
  empty parameters.
-/

namespace SaleSearch

namespace Request

/-- The parameters that are not empty. -/
def withoutEmpty (request : Request) : Request where
  entries := request.entries.filter fun entry => entry.2 ≠ ""
  ordered := request.ordered.filter _

/-- The names are distinct, so that no other value comes to light behind an empty one. -/
theorem get?_withoutEmpty (request : Request) (name : String) :
    request.withoutEmpty.get? name = request.given? name := by
  refine Option.ext fun value => ?_
  rw [← mem_entries, withoutEmpty, List.mem_filter, mem_entries, given?, Option.filter_eq_some_iff]

/-- Without its empty parameters a request is given the same. -/
theorem given?_withoutEmpty (request : Request) (name : String) :
    request.withoutEmpty.given? name = request.given? name := by
  rw [given?, get?_withoutEmpty, given?, Option.filter_filter]
  simp

/-! ## Readers -/

/-- A reader that treats an empty value as none only needs to know what is given. -/
lemma read_given? {α : Type} (read : Option String → α) (indifferent : read (some "") = read none)
    (request : Request) (name : String) :
    read (request.given? name) = read (request.get? name) := by
  rw [given?]
  cases request.get? name with
  | none => rfl
  | some value =>
      by_cases empty : value = ""
      · subst empty
        exact indifferent.symm
      · rw [Option.filter_some, if_pos (by simpa using empty)]

lemma read_congr {α : Type} (read : Option String → α) (indifferent : read (some "") = read none)
    {a b : Request} (same : ∀ name, a.given? name = b.given? name) (name : String) :
    read (a.get? name) = read (b.get? name) := by
  rw [← read_given? read indifferent, same, read_given? read indifferent]

section Alike

open Catalog Verification

/-- Requests with the same verification courses, conditions, listings and summaries. -/
structure Alike (a b : Request) : Prop where
  /-- Everything that can be seen of a verification, its fetches among it. -/
  verified : ∀ settings session interludes, amid session interludes (checks a settings)
    = amid session interludes (checks b settings)
  verified_on_the_spot : ∀ settings session,
    inSession session (checks a settings) = inSession session (checks b settings)
  conditions : ∀ scope, Filter.assemble a scope = Filter.assemble b scope
  listing : ∀ settings, Listing.compile a settings = Listing.compile b settings
  summary : ∀ mode settings now,
    Summary.compile a mode settings now = Summary.compile b mode settings now

variable {a b : Request} (same : ∀ name, a.given? name = b.given? name)
include same

lemma function_congr (settings : Settings) :
    Summary.function a settings = Summary.function b settings := by
  rw [Summary.function, Summary.function, same]

lemma column_congr (settings : Settings) :
    Summary.column a settings = Summary.column b settings := by
  rw [Summary.column, Summary.column, same]

lemma checks_congr (settings : Settings) : checks a settings = checks b settings := by
  simp only [checks, pairChecks, same, function_congr same, column_congr same]

lemma assemble_congr (scope : Scope) : Filter.assemble a scope = Filter.assemble b scope :=
  Filter.collect_congr_read fun slot _ => by
    have indifferent : Filter.value? slot.field (some "") = Filter.value? slot.field none := by
      cases slot.field <;> rfl
    rw [Slot.read, Slot.read, read_congr (Filter.value? slot.field) indifferent same]

lemma direction_congr (settings : Settings) :
    Listing.direction a settings = Listing.direction b settings :=
  read_congr (fun raw => Grammar.sortDirection raw settings.sortDirection) rfl same "sort_by"

lemma limit_congr (settings : Settings) : Listing.limit a settings = Listing.limit b settings :=
  read_congr (fun raw => Grammar.pageSize raw settings.maxLimit) rfl same "limit"

lemma range_congr (settings : Settings) :
    Summary.range a settings = Summary.range b settings := by
  have read : Grammar.timeRange? (a.get? "range") settings.timeRange
      = Grammar.timeRange? (b.get? "range") settings.timeRange :=
    read_congr (fun raw => Grammar.timeRange? raw settings.timeRange) rfl same "range"
  have sent : (a.get? "range").getD "" = (b.get? "range").getD "" :=
    read_congr (fun raw => raw.getD "") rfl same "range"
  simp only [Summary.range, read, sent]

lemma resolve_congr (settings : Settings) :
    Summary.resolve a settings = Summary.resolve b settings := by
  simp only [Summary.resolve, same, function_congr same, column_congr same]

lemma statement_congr (mode : AggregateMode) (settings : Settings) (now : Int) :
    Summary.statement a mode settings now = Summary.statement b mode settings now := by
  simp only [Summary.statement, resolve_congr same, range_congr same, assemble_congr same]

/-- **Requests that are given the same are `Alike`**, since every reader treats an empty value as
none. -/
theorem alike_of_given? : Alike a b where
  verified settings session interludes := by rw [checks_congr same]
  verified_on_the_spot settings session := by rw [checks_congr same]
  conditions := assemble_congr same
  listing settings := by
    simp only [Listing.compile, assemble_congr same, direction_congr same, limit_congr same]
  summary mode settings now := by rw [Summary.compile, Summary.compile, statement_congr same]

end Alike

/-- **A request is `Alike` itself without its empty parameters.**  `get?_withoutEmpty` is where
distinct names are needed. -/
theorem alike_withoutEmpty (request : Request) : request.Alike request.withoutEmpty :=
  alike_of_given? fun name => (request.given?_withoutEmpty name).symm

end Request

end SaleSearch

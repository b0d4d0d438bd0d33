import SaleSearch.Proofs.Filter.Complete
import SaleSearch.Proofs.Refusal.Verification

/-!
# Names that are kept

A name is read twice: verification looks it up, and then the conditions ask for it.  A request that
is accepted does not lose a name in between, which would widen what it finds without a word.

* `Filter.on_kind`: a name that is of its grammar is asked for.
* `Verification.lookups_checks`: each kind is looked up at most once, for the name that is given.
* `Verification.kept_of_accepted` puts both together.
-/

namespace SaleSearch

open Catalog Sql

namespace Filter

lemma slots_kind (scope : Scope) (kind : Kind) :
    ((slots scope).filter fun slot => slot.field = kind.field) = [.compare .equal kind.field] := by
  cases scope <;> cases kind <;> decide

lemma condition?_kind (request : Request) (kind : Kind) :
    (Slot.compare .equal kind.field).condition? request
      = ((request.get? kind.field.name).bind kind.grammar.read?).map fun text =>
          .compare kind.field .equal (.string text) := by
  cases kind <;> exact Option.map_map ..

/-- **A name that is of its grammar is compared with exactly once, as it was sent.** -/
theorem on_kind {request : Request} {scope : Scope} {filter : List Predicate}
    (h : assemble request scope = .ok filter) (kind : Kind) :
    on kind.field filter = (((request.get? kind.field.name).bind kind.grammar.read?).map fun text =>
      .compare kind.field .equal (.string text)).toList := by
  rw [on_assemble h, slots_kind, List.filterMap_cons, condition?_kind]
  cases (request.get? kind.field.name).bind kind.grammar.read? <;> rfl

end Filter

namespace Verification

/-! ## What is looked up -/

lemma lookups_kindChecks (kind : Kind) (raw : Option String) :
    lookups (whenGiven raw (kindChecks kind)) = (raw.map fun name => (kind, name)).toList := by
  cases raw <;> rfl

lemma lookups_tokenChecks (request : Request) (settings : Settings) :
    lookups (tokenChecks request settings) = [] := by
  have pair : lookups (pairChecks request settings) = [] := by
    unfold pairChecks
    dsimp only
    split <;> rfl
  rw [tokenChecks, lookups_append, lookups_append, pair]
  cases request.given? "aggregate_function" <;> cases request.given? "aggregate_column" <;> rfl

/-- The lookups of a request: each name that is given, in the order of the kinds. -/
theorem lookups_checks (request : Request) (settings : Settings) :
    lookups (checks request settings) = Kind.all.flatMap fun kind =>
      ((request.given? kind.field.name).map fun name => (kind, name)).toList := by
  have range : lookups (whenGiven (request.given? "range") (rangeChecks settings)) = [] := by
    cases request.given? "range" <;> rfl
  simp only [checks_eq, nameChecks_eq, lookups_append, lookups_kindChecks, lookups_tokenChecks,
    range, Kind.all, List.flatMap_cons, List.flatMap_nil, List.append_nil, List.append_assoc]

lemma filter_lookups (request : Request) (settings : Settings) (kind : Kind) :
    ((lookups (checks request settings)).filter fun lookup => lookup.1 = kind)
      = ((request.given? kind.field.name).map fun name => (kind, name)).toList := by
  have own : ∀ other : Kind, ((request.given? other.field.name).map
      fun name => (other, name)).toList.filter (fun lookup => lookup.1 = kind)
        = if other = kind then ((request.given? kind.field.name).map
            fun name => (kind, name)).toList else [] := by
    intro other
    split
    · rename_i same
      subst same
      cases request.given? other.field.name <;> simp
    · rename_i different
      cases request.given? other.field.name <;> simp [different]
  rw [lookups_checks, List.filter_flatMap]
  simp only [Kind.all, List.flatMap_cons, List.flatMap_nil, own]
  cases kind <;> simp

/-- An accepted name is of its grammar, which leaves it as it is. -/
lemma read?_of_passed {request : Request} {settings : Settings} {consulted : List Consultation}
    (passed : Passed (checks request settings) consulted) {kind : Kind} {name : String}
    (given : request.given? kind.field.name = some name) :
    kind.grammar.read? name = some name := by
  have checked : .condition (kind.grammar.read? name).isSome (kind.malformed name)
      ∈ checks request settings := by
    rw [checks_eq, nameChecks_eq]
    cases kind <;> simp [given, whenGiven, kindChecks]
  have held := passed.held _ _ checked
  unfold Grammar.CodeGrammar.read? at held ⊢
  split at held
  · rename_i accepted
    exact if_pos accepted
  · cases held

/-! ## What is kept -/

/-- A name is looked up and asked for, or it is neither. -/
structure Kept (request : Request) (consulted : List Consultation) (filter : List Predicate)
    (kind : Kind) : Prop where
  given : ∀ name, request.get? kind.field.name = some name → name ≠ "" →
    Filter.on kind.field filter = [.compare kind.field .equal (.string name)]
      ∧ ∃ set, name ∈ set
        ∧ consulted.filter (fun c => c.kind = kind) = [{ kind, value := name, answer := some set }]
  absent : request.get? kind.field.name = none ∨ request.get? kind.field.name = some "" →
    Filter.on kind.field filter = [] ∧ consulted.filter (fun c => c.kind = kind) = []

lemma filter_consulted {request : Request} {settings : Settings} {consulted : List Consultation}
    (passed : Passed (checks request settings) consulted) (kind : Kind) :
    (consulted.filter fun c => c.kind = kind).map (fun c => (c.kind, c.value))
      = ((request.given? kind.field.name).map fun name => (kind, name)).toList := by
  rw [← filter_lookups request settings, ← passed.looked_up, List.filter_map]
  rfl

lemma exists_consultation {request : Request} {settings : Settings} {consulted : List Consultation}
    (passed : Passed (checks request settings) consulted) {kind : Kind} {name : String}
    (given : request.given? kind.field.name = some name) :
    ∃ set, name ∈ set ∧ consulted.filter (fun c => c.kind = kind)
      = [{ kind, value := name, answer := some set }] := by
  have looked := filter_consulted passed kind
  rw [given] at looked
  obtain ⟨c, only, same⟩ := List.map_eq_singleton_iff.1 looked
  have mem : c ∈ consulted := List.mem_of_mem_filter (only ▸ List.mem_singleton_self c)
  obtain ⟨set, answered, found⟩ := passed.found c mem
  obtain ⟨kind', name', answer⟩ := c
  obtain ⟨rfl, rfl⟩ := Prod.mk.inj same
  obtain rfl : answer = some set := answered
  exact ⟨set, found, only⟩

/-- **An accepted name is looked up, found, and compared with in the filter**, whatever others do to
the session meanwhile. -/
theorem kept_of_accepted {request : Request} {settings : Settings} {session : Session}
    {interludes : List Interlude} {scope : Scope} {filter : List Predicate}
    (accepted : (amid session interludes (checks request settings)).verdict = some (.ok ()))
    (assembled : Filter.assemble request scope = .ok filter) (kind : Kind) :
    Kept request (amid session interludes (checks request settings)).consulted filter kind where
  given name sent filled := by
    have passed := passed_of_accepted accepted
    have given := Request.given?_eq_some.2 ⟨sent, filled⟩
    refine ⟨?_, exists_consultation passed given⟩
    rw [Filter.on_kind assembled, sent, Option.bind_some, read?_of_passed passed given]
    rfl
  absent missing := by
    have given := Request.given?_eq_none.2 missing
    have looked := filter_consulted (passed_of_accepted accepted) kind
    rw [given] at looked
    refine ⟨?_, List.map_eq_nil_iff.1 looked⟩
    rw [Filter.on_kind assembled]
    rcases missing with missing | missing <;> rw [missing]
    · rfl
    · cases kind <;> rfl

/-- A collection and a currency, but no chain. -/
def namedSales : Request :=
  .ofPairs [("collection_name", "pomelo"), ("chain", ""), ("listing_price_symcode", "WAX"),
    ("greater_by_block_number", "7")]

/-- The collections are invalidated while they are fetched, which makes no difference to who waits
for them. -/
def promptReplies : List Interlude :=
  [{ meanwhile := [.invalidate .collectionNames, .answer 0 (.values ["pomelo"])] },
    { meanwhile := [.answer 1 (.values ["EOS", "WAX"])] }]

/-- The conditions of `namedSales`. -/
def namedConditions : List Predicate :=
  [.compare .blockNumber .greater (.unsigned 7), .compare .collectionName .equal (.string "pomelo"),
    .compare .listingPriceSymcode .equal (.string "WAX")]

/-- The collection and the currency are looked up and compared with, and the chain is neither. -/
theorem kept_of_accepted_namedSales :
    (amid gatedSession promptReplies (checks namedSales {})).verdict = some (.ok ())
      ∧ Filter.assemble namedSales .records = .ok namedConditions
      ∧ Kept namedSales (amid gatedSession promptReplies (checks namedSales {})).consulted
        namedConditions .collectionNames := by
  have accepted : (amid gatedSession promptReplies (checks namedSales {})).verdict
      = some (.ok ()) := by
    decide +kernel
  have assembled : Filter.assemble namedSales .records = .ok namedConditions := by
    decide +kernel
  exact ⟨accepted, assembled, kept_of_accepted accepted assembled .collectionNames⟩

end Verification

end SaleSearch

import SaleSearch.Proofs.Refusal.Timestamp

/-!
# Grounds of refusal

There are eight grounds on which a request is refused.  Verification and each of the compilations
goes through some of them in an order of its own, and reports the first one that applies.

* `Ground.refusal?` says for a ground whether it applies, and with which rejection.
* `Ground.IsFirst` is the first ground of a list that applies.
* `Ground.Reports` says with which rejections a ground can be reported at all.
* `unfit` is what most grounds come to: a parameter that is given, but does not fit.
-/

namespace SaleSearch

open Catalog

namespace Catalog.Kind

/-- The attribute whose values are of a kind. -/
def field : Kind → Field
  | .collectionNames => .collectionName
  | .symbolCodes => .listingPriceSymcode
  | .chains => .chain

/-- The grammar of the names of a kind. -/
def grammar : Kind → Grammar.CodeGrammar
  | .collectionNames => Grammar.collectionName
  | .symbolCodes => Grammar.symbolCode
  | .chains => Grammar.chain

/-- The rejection of a name that is not of its grammar. -/
def malformed : Kind → String → Rejection
  | .collectionNames => .invalidCollectionName
  | .symbolCodes => .invalidSymbolCode
  | .chains => .invalidChain

/-- The rejection of a name that is not among those of its kind. -/
def notFound : Kind → String → Rejection
  | .collectionNames => .collectionNotFound
  | .symbolCodes => .symbolCodeNotFound
  | .chains => .chainNotFound

end Catalog.Kind

/-- Why a request can be refused, by verification or by compilation. -/
inductive Ground where
  /-- A name that is not of the grammar of its kind. -/
  | malformed (kind : Kind)
  /-- A name that is not known to exist. -/
  | unknown (kind : Kind)
  | range
  | function
  | column
  /-- A function and a column that do not go together, if the request asks for either. -/
  | askedPair
  /-- A function and a column that do not go together. -/
  | pair
  | timestamp
  deriving DecidableEq, Repr

/-- The rejection of a parameter that is given but does not fit. -/
def unfit (raw : Option String) (fits : String → Bool) (rejection : String → Rejection) :
    Option Rejection :=
  (raw.filter fun value => !fits value).map rejection

/-- A function other than counting for the identifiers of sales. -/
def illegalPair? (request : Request) (settings : Settings) : Option Rejection :=
  let function := Summary.function request settings
  let column := Summary.column request settings
  if function ≠ .count ∧ column = .saleId then some (.illegalAggregate function column) else none

namespace Ground

/-- The rejection, if the ground applies.  The sets are what is known to exist. -/
def refusal? (request : Request) (settings : Settings) (sets : Kind → List String) :
    Ground → Option Rejection
  | malformed kind =>
      unfit (request.given? kind.field.name) (fun name => kind.grammar.accepts name.toList)
        kind.malformed
  | unknown kind =>
      unfit (request.given? kind.field.name) (fun name => name ∈ sets kind) kind.notFound
  | range =>
      unfit (request.given? "range") (fun token => token ∈ TimeRange.accepted) .invalidTimeRange
  | function =>
      unfit (request.given? "aggregate_function")
        (fun token => token ∈ AggregateFunction.all.map AggregateFunction.text)
        .invalidAggregateFunction
  | column =>
      unfit (request.given? "aggregate_column")
        (fun token => token ∈ AggregateColumn.all.map AggregateColumn.text)
        .invalidAggregateColumn
  | askedPair => if request.asksAggregate then illegalPair? request settings else none
  | pair => illegalPair? request settings
  | timestamp =>
      request.malformed?.map fun text => .invalidTimestamp { input := Grammar.reported text }

/-- Does the ground depend on what is known to exist? -/
def isMembership : Ground → Bool
  | unknown _ => true
  | _ => false

/-- The first ground that applies among some in their order, with its rejection. -/
def IsFirst (grounds : List Ground) (request : Request) (settings : Settings)
    (sets : Kind → List String) (ground : Ground) (rejection : Rejection) : Prop :=
  ∃ before after, grounds = before ++ ground :: after
    ∧ ground.refusal? request settings sets = some rejection
    ∧ ∀ earlier ∈ before, earlier.refusal? request settings sets = none

/-- The first refusal among some grounds is that of the first ground that applies. -/
lemma findSome?_eq_some {grounds : List Ground} {request : Request} {settings : Settings}
    {sets : Kind → List String} {rejection : Rejection} :
    grounds.findSome? (refusal? request settings sets) = some rejection
      ↔ ∃ ground, IsFirst grounds request settings sets ground rejection := by
  rw [List.findSome?_eq_some_iff]
  constructor
  · rintro ⟨before, ground, after, order, applies, passed⟩
    exact ⟨ground, before, after, order, applies, passed⟩
  · rintro ⟨ground, before, after, order, applies, passed⟩
    exact ⟨before, ground, after, order, applies, passed⟩

end Ground

/-! ## Parameters that do not fit -/

lemma unfit_eq_none {raw : Option String} {fits : String → Bool} {rejection : String → Rejection} :
    unfit raw fits rejection = none ↔ ∀ value, raw = some value → fits value = true := by
  simp [unfit, Option.filter_eq_none_iff]

lemma unfit_eq_some {raw : Option String} {fits : String → Bool} {rejection : String → Rejection}
    {r : Rejection} : unfit raw fits rejection = some r
      ↔ ∃ value, raw = some value ∧ fits value = false ∧ rejection value = r := by
  simp [unfit, Option.filter_eq_some_iff, and_assoc]

lemma unfit_congr {raw : Option String} {fits fits' : String → Bool}
    {rejection : String → Rejection} (h : ∀ value, raw = some value → fits value = fits' value) :
    unfit raw fits rejection = unfit raw fits' rejection := by
  cases raw with
  | none => rfl
  | some value => simp only [unfit, Option.filter_some, h value rfl]

lemma Request.given?_eq_some {request : Request} {name value : String} :
    request.given? name = some value ↔ request.get? name = some value ∧ value ≠ "" := by
  simp [Request.given?, Option.filter_eq_some_iff]

lemma Request.given?_eq_none {request : Request} {name : String} :
    request.given? name = none ↔ request.get? name = none ∨ request.get? name = some "" := by
  cases found : request.get? name <;> simp [Request.given?, found, Option.filter_eq_none_iff]

/-! ## Rejections of grounds -/

namespace Ground

variable {request : Request} {settings : Settings} {sets : Kind → List String} {ground : Ground}
  {rejection : Rejection}

/-- The rejections by which a ground is reported. -/
inductive Reports : Ground → Rejection → Prop
  | malformed (kind : Kind) (name : String) : Reports (malformed kind) (kind.malformed name)
  | unknown (kind : Kind) (name : String) : Reports (unknown kind) (kind.notFound name)
  | range (token : String) : Reports range (.invalidTimeRange token)
  | function (token : String) : Reports function (.invalidAggregateFunction token)
  | column (token : String) : Reports column (.invalidAggregateColumn token)
  | askedPair (f : AggregateFunction) (c : AggregateColumn) :
      Reports askedPair (.illegalAggregate f c)
  | pair (f : AggregateFunction) (c : AggregateColumn) : Reports pair (.illegalAggregate f c)
  | timestamp (cause : Grammar.MalformedTimestamp) : Reports timestamp (.invalidTimestamp cause)

lemma eq_of_illegalPair? (h : illegalPair? request settings = some rejection) :
    ∃ f c, .illegalAggregate f c = rejection := by
  unfold illegalPair? at h
  dsimp only at h
  split at h
  · exact ⟨_, _, Option.some.inj h⟩
  · cases h

/-- A ground that applies yields one of the rejections it `Reports`. -/
lemma reports_of_refusal? (h : ground.refusal? request settings sets = some rejection) :
    ground.Reports rejection := by
  cases ground with
  | malformed kind =>
      obtain ⟨name, -, -, rfl⟩ := unfit_eq_some.1 h
      exact .malformed kind name
  | unknown kind =>
      obtain ⟨name, -, -, rfl⟩ := unfit_eq_some.1 h
      exact .unknown kind name
  | range =>
      obtain ⟨token, -, -, rfl⟩ := unfit_eq_some.1 h
      exact .range token
  | function =>
      obtain ⟨token, -, -, rfl⟩ := unfit_eq_some.1 h
      exact .function token
  | column =>
      obtain ⟨token, -, -, rfl⟩ := unfit_eq_some.1 h
      exact .column token
  | askedPair =>
      obtain ⟨f, c, rfl⟩ := eq_of_illegalPair? (Option.ite_none_right_eq_some.1 h).2
      exact .askedPair f c
  | pair =>
      obtain ⟨f, c, rfl⟩ := eq_of_illegalPair? h
      exact .pair f c
  | timestamp =>
      obtain ⟨text, -, rfl⟩ := Option.map_eq_some_iff.1 h
      exact .timestamp _

/-- A name that is not among those of its kind is not found, and all other grounds are bad
requests. -/
lemma Reports.kind (h : ground.Reports rejection) :
    rejection.kind = if ground.isMembership then .notFound else .badRequest := by
  cases h with
  | malformed kind name | unknown kind name => cases kind <;> rfl
  | _ => rfl

/-- `invalidTimestamp` is reported on the ground of a timestamp only. -/
lemma Reports.eq_timestamp {cause : Grammar.MalformedTimestamp}
    (h : ground.Reports (.invalidTimestamp cause)) : ground = .timestamp := by
  generalize reported : Rejection.invalidTimestamp cause = rejection at h
  cases h with
  | malformed kind name | unknown kind name => cases kind <;> cases reported
  | timestamp => rfl
  | _ => cases reported

/-- No ground is reported as `internal`. -/
lemma Reports.ne_internal (h : ground.Reports rejection) (defect : Sql.Defect) :
    rejection ≠ .internal defect := by
  rintro rfl
  have kind := h.kind
  cases member : ground.isMembership <;> rw [member] at kind <;> cases kind

end Ground

/-! ## Tokens and pairs -/

lemma isSome_function? (token : String) : (AggregateFunction.ofToken? token).isSome
    = decide (token ∈ AggregateFunction.all.map AggregateFunction.text) := by
  rw [Bool.eq_iff_iff, AggregateFunction.ofToken?, List.find?_isSome]
  simp [eq_comm]

lemma isSome_column? (token : String) : (AggregateColumn.ofToken? token).isSome
    = decide (token ∈ AggregateColumn.all.map AggregateColumn.text) := by
  rw [Bool.eq_iff_iff, AggregateColumn.ofToken?, List.find?_isSome]
  simp [eq_comm]

/-- `timeRange?` reads a non-empty token exactly if it is one of `TimeRange.accepted`. -/
lemma isSome_timeRange? {token : String} (sent : token ≠ "") (default : TimeRange) :
    (Grammar.timeRange? (some token) default).isSome = decide (token ∈ TimeRange.accepted) := by
  have readable : ∀ t ∈ TimeRange.accepted, (TimeRange.ofToken? t).isSome = true := by decide
  unfold Grammar.timeRange?
  split
  · rename_i none_sent
    cases none_sent
  · rename_i same
    exact absurd (Option.some.inj same) sent
  · rename_i other same
    obtain rfl := Option.some.inj same
    split
    · rename_i accepted
      simpa [accepted] using readable token accepted
    · rename_i refused
      simp [refused]

/-- `checkAggregatePair` fails exactly for an `illegalPair?`. -/
lemma failure?_checkAggregatePair (request : Request) (settings : Settings) :
    failure? (checkAggregatePair (Summary.function request settings)
      (Summary.column request settings)) = illegalPair? request settings := by
  have identifier : (Summary.column request settings).isIdentifier = true
      ↔ Summary.column request settings = .saleId := by
    cases Summary.column request settings <;> simp [AggregateColumn.isIdentifier]
  simp only [checkAggregatePair, illegalPair?, identifier]
  split <;> rfl

end SaleSearch

import SaleSearch.Proofs.Compilation.Frame
import SaleSearch.Proofs.Filter.Places
import SaleSearch.Proofs.Refusal.Timestamp
import SaleSearch.Proofs.Window.Bounds

/-!
# What compilation reads

A compilation reads some parameters of a request, some of the settings and, for a history, the time.
Nothing else has any influence on what comes of it, be it a statement or a rejection.

* `Request.AgreeOn` compares requests at some parameters, and `Scope.parameters` are those of the
  conditions.
* `Listing.compile_congr` and `Summary.compile_congr` say what a compilation is made of.
* `Listing.Same` and `Summary.Same` are the inputs that are read, and `Compilation.InputsSuffice`
  says that there are no others; `Compilation.inputsSuffice` is the result.
-/

namespace SaleSearch

open Window

/-! ## Parameters -/

namespace Request

/-- Two requests say the same in some parameters. -/
def AgreeOn (names : List String) (a b : Request) : Prop :=
  ∀ name ∈ names, a.get? name = b.get? name

lemma AgreeOn.given? {names : List String} {a b : Request} (h : a.AgreeOn names b) {name : String}
    (among : name ∈ names) : a.given? name = b.given? name := by
  rw [Request.given?, Request.given?, h name among]

lemma agreeOn_set {names : List String} {name : String} (other : name ∉ names) (request : Request)
    (value : String) : (request.set name value).AgreeOn names request := by
  intro read among
  have different : name ≠ read := fun same => other (same ▸ among)
  rw [get?_set, if_neg different]

end Request

/-- The parameters of conditions. -/
def filterParameters : List String :=
  Slot.sequence.map (·.2)

/-- The parameters that the conditions of a scope are read from. -/
def Scope.parameters : Scope → List String
  | .records | .aggregate => filterParameters
  | .history => filterParameters.filter (· ∉ timestampParameters)

/-- There are twenty-six of them, and five are for timestamps. -/
example : Scope.records.parameters.length = 26 ∧ Scope.history.parameters.length = 21 := by
  decide

lemma Slot.parameter_mem {slot : Slot} {scope : Scope} (walked : slot ∈ Filter.slots scope) :
    slot.parameter ∈ scope.parameters := by
  have listed : ∀ slot ∈ Slot.all, slot.parameter ∈ filterParameters := by decide
  have untimed : ∀ slot ∈ Slot.all, slot.field ≠ .timestamp →
      slot.parameter ∈ Scope.history.parameters := by decide
  obtain ⟨mem, applies⟩ := Filter.mem_slots.1 walked
  cases scope with
  | records | aggregate => exact listed slot mem
  | history => exact untimed slot mem fun timed => applies ⟨rfl, timed⟩

lemma Request.AgreeOn.assemble {scope : Scope} {a b : Request} (h : a.AgreeOn scope.parameters b) :
    Filter.assemble a scope = Filter.assemble b scope :=
  Filter.collect_congr_read fun slot walked => by
    rw [Slot.read, Slot.read, h _ (Slot.parameter_mem walked)]

/-! ## Listings -/

lemma passing_congr {s s' : Settings} (h : s.bindValues = s'.bindValues) :
    s.passing = s'.passing := by
  rw [Settings.passing, Settings.passing, h]

namespace Listing

lemma compile_congr {a b : Request} {s s' : Settings}
    (conditions : Filter.assemble a .records = Filter.assemble b .records)
    (directions : direction a s = direction b s') (limits : limit a s = limit b s')
    (passing : s.passing = s'.passing) : compile a s = compile b s' := by
  simp only [compile, conditions, directions, limits, passing]

/-- The inputs of two listings that may matter. -/
structure Same (a b : Request) (s s' : Settings) : Prop where
  conditions : a.AgreeOn filterParameters b
  paging : a.AgreeOn ["sort_by", "limit"] b
  maxLimit : s.maxLimit = s'.maxLimit
  sortDirection : s.sortDirection = s'.sortDirection
  bindValues : s.bindValues = s'.bindValues

lemma Same.compile_eq {a b : Request} {s s' : Settings} (h : Same a b s s') :
    compile a s = compile b s' := by
  have conditions : a.AgreeOn Scope.records.parameters b := h.conditions
  refine compile_congr conditions.assemble ?_ ?_ (passing_congr h.bindValues)
  · rw [direction, direction, h.paging _ (by simp), h.sortDirection]
  · rw [limit, limit, h.paging _ (by simp), h.maxLimit]

end Listing

/-! ## Summaries -/

namespace Summary

/-- A statement in terms of its parts, which come in one order in both modes. -/
lemma statement_eq (request : Request) (mode : AggregateMode) (settings : Settings) (now : Int) :
    statement request mode settings now
      = (resolve request settings).bind fun choice =>
        (ends request mode settings now).bind fun window =>
        ((Filter.assemble request (scope mode)).mapError .invalidTimestamp).map fun filter =>
          shape mode choice filter window := by
  rw [statement]
  cases resolve request settings with
  | error rejection => rfl
  | ok choice =>
      cases mode with
      | point =>
          rw [scope]
          cases Filter.assemble request .aggregate <;> rfl
      | history =>
          rw [scope, ends]
          cases range request settings with
          | error rejection => rfl
          | ok range => cases Filter.assemble request .history <;> rfl

lemma compile_congr {a b : Request} {mode : AggregateMode} {s s' : Settings} {now now' : Int}
    (choices : resolve a s = resolve b s') (ended : ends a mode s now = ends b mode s' now')
    (conditions : Filter.assemble a (scope mode) = Filter.assemble b (scope mode))
    (passing : s.passing = s'.passing) : compile a mode s now = compile b mode s' now' := by
  simp only [compile, statement_eq, choices, ended, conditions, passing]

lemma resolve_congr {a b : Request} {s s' : Settings}
    (functions : a.given? "aggregate_function" = b.given? "aggregate_function")
    (columns : a.given? "aggregate_column" = b.given? "aggregate_column")
    (function_eq : s.aggregateFunction = s'.aggregateFunction)
    (column_eq : s.aggregateColumn = s'.aggregateColumn) : resolve a s = resolve b s' := by
  simp only [resolve, function, column, functions, columns, function_eq, column_eq]

/-- The inputs of two summaries that may matter, apart from the time. -/
structure Same (mode : AggregateMode) (a b : Request) (s s' : Settings) : Prop where
  conditions : a.AgreeOn (scope mode).parameters b
  aggregate : a.AgreeOn ["aggregate_function", "aggregate_column"] b
  ranged : mode = .history → a.AgreeOn ["range"] b
  aggregateFunction : s.aggregateFunction = s'.aggregateFunction
  aggregateColumn : s.aggregateColumn = s'.aggregateColumn
  bindValues : s.bindValues = s'.bindValues
  timeRange : mode = .history → s.timeRange = s'.timeRange

lemma Same.compile_eq {mode : AggregateMode} {a b : Request} {s s' : Settings}
    (h : Same mode a b s s') {now now' : Int}
    (ended : ends a mode s now = ends b mode s' now') :
    compile a mode s now = compile b mode s' now' :=
  compile_congr
    (resolve_congr (h.aggregate.given? (by simp)) (h.aggregate.given? (by simp))
      h.aggregateFunction h.aggregateColumn)
    ended h.conditions.assemble (passing_congr h.bindValues)

lemma Same.ends_eq {mode : AggregateMode} {a b : Request} {s s' : Settings}
    (h : Same mode a b s s') (now : Int) : ends a mode s now = ends b mode s' now := by
  cases mode with
  | point => rfl
  | history =>
      rw [ends, ends, range, range, h.ranged rfl "range" (by simp), h.timeRange rfl]

/-- The range of a history is one of hours. -/
def InHours (request : Request) (settings : Settings) : Prop :=
  ∃ count, range request settings = .ok (.last count .hours)

/-- Days and years make one window of all moments of a day. -/
lemma ends_of_day {request : Request} {settings : Settings} (whole : ¬InHours request settings)
    {day now now' : Int} (today : InDay day now) (today' : InDay day now') :
    ends request .history settings now = ends request .history settings now' := by
  rw [ends, ends]
  cases found : range request settings with
  | error rejection => rfl
  | ok range =>
      cases range with
      | all => rfl
      | last count unit =>
          have unit_ne : unit ≠ .hours := by
            rintro rfl
            exact whole ⟨count, found⟩
          simp only [Except.map, (spans count unit now).steady unit_ne day now' today today']
          rfl

lemma ends_of_all {request : Request} {settings : Settings}
    (all : range request settings = .ok .all) (now now' : Int) :
    ends request .history settings now = ends request .history settings now' := by
  rw [ends, ends, all]
  rfl

end Summary

/-! ## The result -/

namespace Compilation

/-- Compilations are functions of the inputs that `Listing.Same` and `Summary.Same` list; the time
is read by histories only, up to the day unless the range is in hours. -/
structure InputsSuffice : Prop where
  listing : ∀ a b s s', Listing.Same a b s s' → Listing.compile a s = Listing.compile b s'
  point : ∀ a b s s', Summary.Same .point a b s s' → ∀ now now',
    Summary.compile a .point s now = Summary.compile b .point s' now'
  history : ∀ a b s s', Summary.Same .history a b s s' → ∀ now,
    Summary.compile a .history s now = Summary.compile b .history s' now
  /-- Of the time of a history only the day counts, unless the range is one of hours. -/
  sameDay : ∀ a b s s', Summary.Same .history a b s s' → ¬Summary.InHours a s →
    ∀ day now now', InDay day now → InDay day now' →
      Summary.compile a .history s now = Summary.compile b .history s' now'
  allTimes : ∀ a b s s', Summary.Same .history a b s s' → Summary.range a s = .ok .all →
    ∀ now now', Summary.compile a .history s now = Summary.compile b .history s' now'
  /-- Paging and sorting are a matter of listings. -/
  paging : ∀ request settings mode now, ∀ name ∈ ["sort_by", "limit"], ∀ value,
    Summary.compile (request.set name value) mode settings now
      = Summary.compile request mode settings now
  /-- Aggregates and ranges are a matter of summaries. -/
  aggregation : ∀ request settings, ∀ name ∈ ["aggregate_function", "aggregate_column", "range"],
    ∀ value, Listing.compile (request.set name value) settings = Listing.compile request settings
  timestamps : ∀ request settings now, ∀ name ∈ timestampParameters, ∀ value,
    Summary.compile (request.set name value) .history settings now
      = Summary.compile request .history settings now

/-- Setting a parameter that no summary of a mode reads. -/
lemma same_set {mode : AggregateMode} {name : String}
    (conditions : name ∉ (Summary.scope mode).parameters)
    (aggregate : name ∉ ["aggregate_function", "aggregate_column"]) (range : name ∉ ["range"])
    (request : Request) (value : String) (settings : Settings) :
    Summary.Same mode (request.set name value) request settings settings where
  conditions := Request.agreeOn_set conditions request value
  aggregate := Request.agreeOn_set aggregate request value
  ranged _ := Request.agreeOn_set range request value
  aggregateFunction := rfl
  aggregateColumn := rfl
  bindValues := rfl
  timeRange _ := rfl

/-- **What a compilation does not read makes no difference to it**: paging for summaries, the
aggregate and the range for listings, timestamps for histories.  By `compile_congr`, part by
part. -/
theorem inputsSuffice : InputsSuffice where
  listing a b s s' same := same.compile_eq
  point a b s s' same now now' := same.compile_eq rfl
  history a b s s' same now := same.compile_eq (same.ends_eq now)
  sameDay a b s s' same whole day now now' today today' :=
    same.compile_eq ((Summary.ends_of_day whole today today').trans (same.ends_eq now'))
  allTimes a b s s' same all now now' :=
    same.compile_eq ((Summary.ends_of_all all now now').trans (same.ends_eq now'))
  paging := by
    intro request settings mode now name among value
    have unread : ∀ name ∈ ["sort_by", "limit"], name ∉ (Summary.scope mode).parameters
        ∧ name ∉ ["aggregate_function", "aggregate_column"] ∧ name ∉ ["range"] := by
      cases mode <;> decide
    obtain ⟨conditions, aggregate, range⟩ := unread name among
    have same := same_set conditions aggregate range request value settings
    exact same.compile_eq (same.ends_eq now)
  aggregation := by
    intro request settings name among value
    have unread : ∀ name ∈ ["aggregate_function", "aggregate_column", "range"],
        name ∉ filterParameters ∧ name ∉ ["sort_by", "limit"] := by decide
    obtain ⟨conditions, paging⟩ := unread name among
    have same : Listing.Same (request.set name value) request settings settings :=
      { conditions := Request.agreeOn_set conditions request value
        paging := Request.agreeOn_set paging request value
        maxLimit := rfl
        sortDirection := rfl
        bindValues := rfl }
    exact same.compile_eq
  timestamps := by
    intro request settings now name among value
    have unread : ∀ name ∈ timestampParameters, name ∉ (Summary.scope .history).parameters
        ∧ name ∉ ["aggregate_function", "aggregate_column"] ∧ name ∉ ["range"] := by decide
    obtain ⟨conditions, aggregate, range⟩ := unread name among
    have same := same_set conditions aggregate range request value settings
    exact same.compile_eq (same.ends_eq now)

end Compilation

end SaleSearch

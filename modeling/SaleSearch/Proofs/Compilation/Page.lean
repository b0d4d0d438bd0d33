import SaleSearch.Proofs.Compilation.Frame
import SaleSearch.Proofs.Filter.Formed
import SaleSearch.Proofs.Quantity.PageSize

/-!
# The text of a listing

A listing is a page of sales.  Its text is fixed up to the conditions, and after these come the
direction and the size of the page, which is never left out.

* `Predicate.textAt` is the text of a condition that stands at some place among others, and
  `conditionsText` that of all conditions of a statement.
* `Listing.opening` is what every listing begins with, written out.
* `Listing.Shaped` is what the listing of a request is like, and `Listing.shaped` the result.

Each condition of a request holds one value, so that the number of a value that is sent beside the
statement is the place of its condition.
-/

namespace SaleSearch

open Sql Segment Grammar

/-! ## Conditions -/

namespace Sql

/-- The text of a condition whose values have the numbers from `place` on. -/
def Predicate.textAt (passing : Passing) (place : Nat) : Predicate → String
  | .compare field comparison v =>
      operand field ++ " " ++ comparison.symbol ++ " " ++ filling passing place v
  | .contains field v => "has(" ++ field.name ++ ", " ++ filling passing place v ++ ")"
  | .window column low high =>
      inSeconds column.qualified ++ " BETWEEN " ++ filling passing place low ++ " AND "
        ++ filling passing (place + 1) high

/-- The `WHERE` clause of a listing, which is left out if there are no conditions. -/
def conditionsText (passing : Passing) (filter : List Predicate) : String :=
  if filter = [] then ""
  else " WHERE (" ++ " AND ".intercalate (filter.mapIdx (Predicate.textAt passing)) ++ ")"

lemma Predicate.fill_segments (passing : Passing) (place : Nat) (p : Predicate) :
    fill passing place p.segments = p.textAt passing place := by
  cases p <;> simp [segments, fill, textAt, String.append_assoc]

/-- A condition of a request holds one value. -/
lemma Predicate.IsAsked.length_values {p : Predicate} (asked : p.IsAsked) :
    p.values.length = 1 := by
  cases p with
  | compare field comparison v => rfl
  | contains field v => rfl
  | window column low high => exact asked.elim

/-- The number of the value of a condition is its place, since each condition in front has one
value. -/
lemma fill_conditions (passing : Passing) (p : Predicate) (rest : List Predicate)
    (asked : ∀ q ∈ p :: rest, q.IsAsked) (place : Nat) :
    fill passing place (p.segments ++ furtherSegments rest)
      = " AND ".intercalate ((p :: rest).mapIdx fun i q => q.textAt passing (place + i)) := by
  induction rest generalizing p place with
  | nil => simp [furtherSegments, Predicate.fill_segments]
  | cons q rest ih =>
      obtain ⟨here, later⟩ := List.forall_mem_cons.1 asked
      have further : furtherSegments (q :: rest)
          = .fixed " AND " :: (q.segments ++ furtherSegments rest) := rfl
      have whole : (p :: q :: rest).mapIdx (fun i q => q.textAt passing (place + i))
          = p.textAt passing place
            :: (q :: rest).mapIdx fun i q => q.textAt passing (place + 1 + i) := by
        rw [List.mapIdx_cons]
        simp only [Nat.add_zero, Nat.add_assoc, Nat.add_comm 1]
      rw [fill_append_slots, Predicate.fill_segments, p.slots_segments, here.length_values, further,
        fill, ih q later (place + 1), whole, String.intercalate_cons_of_ne_nil (by simp),
        String.append_assoc]

/-- The segments of the conditions of a request are filled with `conditionsText`. -/
lemma fill_filterSegments (passing : Passing) {filter : List Predicate}
    (asked : ∀ p ∈ filter, p.IsAsked) :
    fill passing 0 (filterSegments filter) = conditionsText passing filter := by
  cases filter with
  | nil => rfl
  | cons p rest =>
      have closed : fill passing (slots (p.segments ++ furtherSegments rest)).length [.fixed ")"]
          = ")" := rfl
      rw [filterSegments, List.cons_append, fill, fill_append_slots, Nat.zero_add, closed,
        fill_conditions passing p rest asked, conditionsText, if_neg (List.cons_ne_nil p rest),
        ← String.append_assoc]
      simp only [Nat.zero_add]

end Sql

/-! ## Listings -/

namespace Listing

/-- What every listing begins with. -/
def opening : String :=
  "SELECT sale_id, trx_id, asset_ids, listing_price_amount, listing_price_precision,"
    ++ " listing_price_symcode, listing_price_value, s.collection_name AS collection_name,"
    ++ " template_id, block_number, timestamp, chain"
    ++ " FROM (SELECT * FROM Sales ARRAY JOIN asset_ids AS asset_id) AS s"
    ++ " JOIN Assets AS a ON a.asset_id = s.asset_id AND a.collection_name = s.collection_name"
    ++ " JOIN blocks ON blocks.block_id = s.block_id"

/-- The head of a listing, computed from its select list and its source, is `opening`. -/
lemma head_eq_opening : head = opening := by
  decide +kernel

/-- The directions that a request can ask for. -/
def directions : List String := ["ASC", "DESC"]

/-- What the listing of a request is like: when it compiles, its text, its direction and the size of
its page. -/
structure Shaped (request : Request) (settings : Settings) : Prop where
  compiles : (∃ c, compile request settings = .ok c)
    ↔ ∃ filter, Filter.assemble request .records = .ok filter
  text : ∀ c, compile request settings = .ok c →
    ∃ filter, Filter.assemble request .records = .ok filter
      ∧ c.sql = opening ++ conditionsText settings.passing filter
        ++ " ORDER BY sale_id " ++ (direction request settings).text
        ++ " LIMIT " ++ (limit request settings).repr
  asked : ∀ sent ∈ directions, request.get? "sort_by" = some sent →
    (direction request settings).text = sent
  notAsked : (∀ sent ∈ directions, request.get? "sort_by" ≠ some sent) →
    direction request settings = settings.sortDirection
  notEmpty : 1 ≤ limit request settings
  bounded : limit request settings ≤ max 1 settings.maxLimit
  /-- A larger maximum makes no page smaller. -/
  mono : ∀ larger : Settings, settings.maxLimit ≤ larger.maxLimit →
    limit request settings ≤ limit request larger
  /-- The number in front of the text that was sent is the size, up to the maximum. -/
  sized : ∀ text negative digits k, request.get? "limit" = some text →
    Begins negative digits text.toList → (∀ c ∈ digits, Text.isAsciiDigit c = true) →
    Number.signed negative (Number.digitsValue digits) = (k : Nat) → 1 ≤ k → k < 2 ^ 63 →
    limit request settings = min k (max 1 settings.maxLimit)

/-- A direction that is asked for by its name is taken. -/
lemma direction_of_asked {request : Request} {sent : String} (known : sent ∈ directions)
    (asked : request.get? "sort_by" = some sent) (settings : Settings) :
    (direction request settings).text = sent := by
  rw [direction, asked]
  simp only [directions, List.mem_cons, List.not_mem_nil, or_false] at known
  rcases known with rfl | rfl <;> rfl

lemma ofToken?_of_unknown {sent : String} (unknown : sent ∉ directions) :
    SortDirection.ofToken? sent = none := by
  refine List.find?_eq_none.2 fun d _ named => unknown ?_
  rw [← of_decide_eq_true named]
  cases d <;> decide

/-- If no direction is asked for, the settings give it. -/
lemma direction_of_not_asked {request : Request}
    (unknown : ∀ sent ∈ directions, request.get? "sort_by" ≠ some sent) (settings : Settings) :
    direction request settings = settings.sortDirection := by
  rw [direction]
  cases sent : request.get? "sort_by" with
  | none => rfl
  | some token =>
      have other : token ∉ directions := fun known => unknown token known sent
      rw [sortDirection, Option.bind_some, ofToken?_of_unknown other, Option.getD_none]

/-- The text of a listing over conditions of a request, written out. -/
lemma sql_compiled (request : Request) (settings : Settings) {filter : List Predicate}
    (asked : ∀ p ∈ filter, p.IsAsked) :
    ((statement filter (direction request settings) (limit request settings)).compiled
        settings.passing).sql
      = opening ++ conditionsText settings.passing filter
        ++ " ORDER BY sale_id " ++ (direction request settings).text
        ++ " LIMIT " ++ (limit request settings).repr := by
  rw [sql_statement, head_eq_opening, fill_filterSegments settings.passing asked]
  simp only [String.append_assoc]

/-- **A listing is `opening`, the conditions, a direction and a limit.**  The limit is at least one
and at most the maximum, or one if that is zero. -/
theorem shaped (request : Request) (settings : Settings) : Shaped request settings where
  compiles := by
    simp only [compile_eq_ok]
    constructor
    · rintro ⟨c, filter, assembled, -⟩
      exact ⟨filter, assembled⟩
    · rintro ⟨filter, assembled⟩
      exact ⟨_, filter, assembled, rfl⟩
  text := by
    intro c compiled
    obtain ⟨filter, assembled, rfl⟩ := compile_eq_ok.1 compiled
    exact ⟨filter, assembled,
      sql_compiled request settings (Filter.isAsked_of_assemble assembled)⟩
  asked sent known asked := direction_of_asked known asked settings
  notAsked unknown := direction_of_not_asked unknown settings
  notEmpty := one_le_pageSize _ _
  bounded := pageSize_le _ _
  mono larger h := pageSize_mono _ h
  sized text negative digits k sent begins ascii denotes positive fits := by
    rw [limit, sent]
    exact pageSize_of_begins begins ascii denotes positive fits _

/-- Values that are sent beside a listing, and a page that the maximum cuts short. -/
example : (compile (.ofPairs [("sale_id", "7"), ("chain", "wax"), ("limit", "30 rows")])
      { maxLimit := 20, bindValues := true }).map (·.sql)
    = .ok (opening ++ " WHERE (chain == \x7bp0:String\x7d AND sale_id == \x7bp1:UInt64\x7d)"
      ++ " ORDER BY sale_id DESC LIMIT 20") := by
  decide +kernel

end Listing

end SaleSearch

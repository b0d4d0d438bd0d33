import SaleSearch.Proofs.Filter.Complete

/-!
# Places of conditions

There is a fixed sequence of places for conditions, each with a parameter of its own.  The
conditions that are assembled stand in that sequence without repetition: one at each place that
applies and whose parameter says something, and none at the others.

* `Slot.sequence` is the sequence, written out.
* `Field.Reads` relates the texts of an attribute to the values that they stand for.
* `Filter.Arranged` says how the conditions of a request are related to both, and
  `Filter.arranged_of_assemble` is the result.
-/

namespace SaleSearch

open Grammar Sql

/-- The places in their order, each with its parameter. -/
def Slot.sequence : List (Slot × String) :=
  [(.compare .greaterOrEqual .blockNumber, "greater_or_equals_by_block_number"),
    (.compare .greaterOrEqual .timestamp, "greater_or_equals_by_timestamp"),
    (.compare .greaterOrEqual .listingPriceAmount, "greater_or_equals_by_listing_price_amount"),
    (.compare .greaterOrEqual .listingPriceValue, "greater_or_equals_by_listing_price_value"),
    (.compare .greater .blockNumber, "greater_by_block_number"),
    (.compare .greater .timestamp, "greater_by_timestamp"),
    (.compare .greater .listingPriceAmount, "greater_by_listing_price_amount"),
    (.compare .greater .listingPriceValue, "greater_by_listing_price_value"),
    (.compare .lessOrEqual .blockNumber, "less_or_equals_by_block_number"),
    (.compare .lessOrEqual .timestamp, "less_or_equals_by_timestamp"),
    (.compare .lessOrEqual .listingPriceAmount, "less_or_equals_by_listing_price_amount"),
    (.compare .lessOrEqual .listingPriceValue, "less_or_equals_by_listing_price_value"),
    (.compare .less .blockNumber, "less_by_block_number"),
    (.compare .less .timestamp, "less_by_timestamp"),
    (.compare .less .listingPriceAmount, "less_by_listing_price_amount"),
    (.compare .less .listingPriceValue, "less_by_listing_price_value"),
    (.containsAsset, "asset_id_in_asset_ids"),
    (.compare .equal .collectionName, "collection_name"),
    (.compare .equal .chain, "chain"),
    (.compare .equal .saleId, "sale_id"),
    (.compare .equal .blockNumber, "block_number"),
    (.compare .equal .timestamp, "timestamp"),
    (.compare .equal .listingPriceAmount, "listing_price_amount"),
    (.compare .equal .listingPriceValue, "listing_price_value"),
    (.compare .equal .listingPriceSymcode, "listing_price_symcode"),
    (.compare .equal .trxId, "trx_id")]

/-- The value that a text stands for, by the grammar of the attribute. -/
inductive Field.Reads : Field → String → Value → Prop
  | collectionName {text name : String} (read : collectionName? text = some name) :
      Reads .collectionName text (.string name)
  | chain {text name : String} (read : chain? text = some name) : Reads .chain text (.string name)
  | symbolCode {text code : String} (read : symbolCode? text = some code) :
      Reads .listingPriceSymcode text (.string code)
  | hash {text digits : String} (read : transactionHash? text = some digits) :
      Reads .trxId text (.string digits)
  | whole {field : Field} {text : String} {n : Nat}
      (counts : field ∈ [.saleId, .blockNumber, .listingPriceAmount, .assetIds])
      (read : (positiveInteger (some text)).value? = some n) : Reads field text (.unsigned n)
  | decimal {text : String} {x : Number.Binary64}
      (read : (positiveDecimal (some text)).value? = some x) :
      Reads .listingPriceValue text (.float x)
  | timestamp {text : String} {seconds : Int}
      (read : Grammar.timestamp (some text) = .ok (some seconds)) :
      Reads .timestamp text (.signed seconds)

/-- A history has no conditions on the timestamp. -/
def Slot.AppliesTo (slot : Slot) (scope : Scope) : Prop :=
  ¬(scope = .history ∧ slot.field = .timestamp)

namespace Sql.Predicate

/-- The place that a condition is for. -/
def slot? : Predicate → Option Slot
  | .compare field comparison _ => some (.compare comparison field)
  | .contains field _ => if field = .assetIds then some .containsAsset else none
  | .window .. => none

/-- Where in the sequence that is. -/
def place? (p : Predicate) : Option Nat :=
  Slot.sequence.findIdx? fun entry => p.slot? = some entry.1

end Sql.Predicate

namespace Filter

/-- How the assembled conditions are related to `Slot.sequence` and `Field.Reads`: their order, when
a slot has one, and which parameters they depend on. -/
structure Arranged (request : Request) (scope : Scope) (filter : List Predicate) : Prop where
  increasing : ∃ places : List Nat,
    filter.map Predicate.place? = places.map some ∧ places.Pairwise (· < ·)
  mem_iff : ∀ slot parameter, (slot, parameter) ∈ Slot.sequence → ∀ v,
    slot.predicate v ∈ filter ↔
      slot.AppliesTo scope ∧ ∃ text, request.get? parameter = some text ∧ slot.field.Reads text v
  /-- Nothing stands there but conditions of places. -/
  only : ∀ p ∈ filter, ∃ slot parameter, (slot, parameter) ∈ Slot.sequence ∧ ∃ v,
    p = slot.predicate v
  /-- A request with the same parameter of a place has the same condition there. -/
  own : ∀ other filter', assemble other scope = .ok filter' →
    ∀ slot parameter, (slot, parameter) ∈ Slot.sequence →
      other.get? parameter = request.get? parameter →
        ∀ v, slot.predicate v ∈ filter' ↔ slot.predicate v ∈ filter
  /-- No other parameters are read at all. -/
  enough : ∀ other : Request, (∀ slot parameter, (slot, parameter) ∈ Slot.sequence →
    slot.AppliesTo scope → other.get? parameter = request.get? parameter) →
      assemble other scope = .ok filter

/-! ## The sequence -/

/-- `Slot.sequence` lists the slots of the program in their order, with their parameters. -/
lemma map_parameter_all : Slot.all.map (fun slot => (slot, slot.parameter)) = Slot.sequence := by
  decide

lemma mem_sequence {slot : Slot} {parameter : String} :
    (slot, parameter) ∈ Slot.sequence ↔ slot ∈ Slot.all ∧ slot.parameter = parameter := by
  simp [← map_parameter_all]

lemma mem_slots {slot : Slot} {scope : Scope} :
    slot ∈ slots scope ↔ slot ∈ Slot.all ∧ slot.AppliesTo scope := by
  simp only [slots, List.mem_filter, Scope.includes, Slot.AppliesTo, Bool.not_eq_true',
    Bool.and_eq_false_iff, decide_eq_false_iff_not, not_and_or]

lemma slot?_predicate (slot : Slot) (v : Value) : (slot.predicate v).slot? = some slot := by
  cases slot <;> rfl

/-- The place of a condition in the sequence is that of its slot among all slots. -/
lemma place?_predicate {slot : Slot} (mem : slot ∈ Slot.all) (v : Value) :
    (slot.predicate v).place? = some (Slot.all.idxOf slot) := by
  have located : ∀ slot ∈ Slot.all, Slot.sequence.findIdx? (fun entry => some slot = some entry.1)
      = some (Slot.all.idxOf slot) := by
    decide
  rw [Predicate.place?, slot?_predicate]
  exact located slot mem

/-- Later slots have later places, as no slot is listed twice. -/
lemma pairwise_idxOf_all :
    Slot.all.Pairwise fun slot later => Slot.all.idxOf slot < Slot.all.idxOf later := by
  decide

/-! ## Values -/

lemma value?_none (field : Field) : value? field none = .ok none := by
  cases field <;> rfl

/-- `Filter.value?` returns a value for a text exactly if the text `Reads` as it. -/
lemma value?_eq_some {field : Field} {text : String} {v : Value} :
    value? field (some text) = .ok (some v) ↔ field.Reads text v := by
  constructor
  · intro h
    cases field with
    | collectionName =>
        obtain ⟨name, read, rfl⟩ := Option.map_eq_some_iff.1 (Except.ok.inj h)
        exact .collectionName read
    | chain =>
        obtain ⟨name, read, rfl⟩ := Option.map_eq_some_iff.1 (Except.ok.inj h)
        exact .chain read
    | listingPriceSymcode =>
        obtain ⟨code, read, rfl⟩ := Option.map_eq_some_iff.1 (Except.ok.inj h)
        exact .symbolCode read
    | trxId =>
        obtain ⟨digits, read, rfl⟩ := Option.map_eq_some_iff.1 (Except.ok.inj h)
        exact .hash read
    | saleId | blockNumber | listingPriceAmount | assetIds =>
        obtain ⟨n, read, rfl⟩ := Option.map_eq_some_iff.1 (Except.ok.inj h)
        exact .whole (by decide) read
    | listingPriceValue =>
        obtain ⟨x, read, rfl⟩ := Option.map_eq_some_iff.1 (Except.ok.inj h)
        exact .decimal read
    | timestamp =>
        obtain ⟨found, read, given⟩ := map_eq_ok.1 h
        obtain ⟨seconds, rfl, rfl⟩ := Option.map_eq_some_iff.1 given
        exact .timestamp read
  · intro h
    cases h with
    | collectionName read | chain read | symbolCode read | hash read | decimal read
    | timestamp read => simp [value?, read, Except.map]
    | whole counts read =>
        simp only [List.mem_cons, List.not_mem_nil, or_false] at counts
        rcases counts with rfl | rfl | rfl | rfl <;> simp [value?, read]

lemma predicate_injective {slot : Slot} {v w : Value} (h : slot.predicate v = slot.predicate w) :
    v = w := by
  cases slot with
  | compare comparison field => exact (Predicate.compare.inj h).2.2
  | containsAsset => exact (Predicate.contains.inj h).2

/-- A slot has the condition on a value exactly if its parameter is there and reads as the value. -/
lemma condition?_predicate {request : Request} {slot : Slot} {v : Value} :
    slot.condition? request = some (slot.predicate v) ↔
      ∃ text, request.get? slot.parameter = some text ∧ slot.field.Reads text v := by
  constructor
  · intro h
    obtain ⟨w, found, same⟩ := exists_value_of_read (Slot.condition?_eq_some.1 h)
    obtain rfl := predicate_injective same
    cases sent : request.get? slot.parameter with
    | none =>
        rw [sent, value?_none] at found
        cases found
    | some text => exact ⟨text, rfl, value?_eq_some.1 (sent ▸ found)⟩
  · rintro ⟨text, sent, reads⟩
    rw [Slot.condition?_eq_some, Slot.read, sent, value?_eq_some.2 reads]
    rfl

/-- The places of the conditions are those of the slots that have one. -/
lemma map_place?_filterMap (request : Request) {slots : List Slot}
    (within : ∀ slot ∈ slots, slot ∈ Slot.all) :
    (slots.filterMap (Slot.condition? request)).map Predicate.place?
      = ((slots.filter fun slot => (slot.condition? request).isSome).map fun slot =>
          Slot.all.idxOf slot).map some := by
  induction slots with
  | nil => rfl
  | cons slot rest ih =>
      obtain ⟨here, later⟩ := List.forall_mem_cons.1 within
      cases condition : slot.condition? request with
      | none => simpa [condition] using ih later
      | some p =>
          obtain ⟨v, -, rfl⟩ := exists_value_of_read (Slot.condition?_eq_some.1 condition)
          simpa [condition, place?_predicate here] using ih later

/-! ## The result -/

section Assembled

variable {request : Request} {scope : Scope} {filter : List Predicate}
  (h : assemble request scope = .ok filter)
include h

/-- A condition is assembled exactly if its slot applies and has it. -/
lemma mem_iff_condition? {slot : Slot} (mem : slot ∈ Slot.all) {v : Value} :
    slot.predicate v ∈ filter
      ↔ slot.AppliesTo scope ∧ slot.condition? request = some (slot.predicate v) := by
  rw [eq_filterMap_of_assemble h, List.mem_filterMap]
  constructor
  · rintro ⟨other, walked, condition⟩
    obtain ⟨w, -, same⟩ := exists_value_of_read (Slot.condition?_eq_some.1 condition)
    have here := congrArg Predicate.slot? same
    rw [slot?_predicate, slot?_predicate] at here
    obtain rfl := Option.some.inj here
    exact ⟨(mem_slots.1 walked).2, condition⟩
  · rintro ⟨applies, condition⟩
    exact ⟨slot, mem_slots.2 ⟨mem, applies⟩, condition⟩

/-- **`assemble` goes through the slots in the order of `Slot.sequence`** and returns one condition
for each that applies and whose parameter `Reads` as a value. -/
theorem arranged_of_assemble : Arranged request scope filter where
  increasing := by
    have within : ∀ slot ∈ slots scope, slot ∈ Slot.all := fun slot mem => (mem_slots.1 mem).1
    rw [eq_filterMap_of_assemble h]
    refine ⟨_, map_place?_filterMap request within, List.pairwise_map.2 ?_⟩
    exact pairwise_idxOf_all.sublist (List.filter_sublist.trans List.filter_sublist)
  mem_iff := by
    intro slot parameter listed v
    obtain ⟨mem, rfl⟩ := mem_sequence.1 listed
    rw [mem_iff_condition? h mem, condition?_predicate]
  only := by
    intro p hp
    obtain ⟨slot, mem, v, -, same⟩ := exists_slot_of_mem_assemble h hp
    exact ⟨slot, slot.parameter, mem_sequence.2 ⟨mem, rfl⟩, v, same⟩
  own := by
    intro other filter' h' slot parameter listed same v
    obtain ⟨mem, rfl⟩ := mem_sequence.1 listed
    rw [mem_iff_condition? h mem, mem_iff_condition? h' mem, condition?_predicate,
      condition?_predicate, same]
  enough := by
    intro other same
    rw [← h]
    refine collect_congr_read fun slot walked => ?_
    obtain ⟨mem, applies⟩ := mem_slots.1 walked
    rw [Slot.read, Slot.read, same slot _ (mem_sequence.2 ⟨mem, rfl⟩) applies]

end Assembled

/-- Conditions of all families in some other order, among them a chain and a number of a sale that
say nothing. -/
def scatteredSales : Request :=
  .ofPairs [("trx_id", "0xAB12"), ("sale_id", "-4"), ("less_by_timestamp", "1672531200123"),
    ("asset_id_in_asset_ids", "007"), ("greater_by_block_number", " +20th"),
    ("chain", "no chain"), ("greater_or_equals_by_block_number", "3"), ("limit", "1")]

/-- The conditions of `scatteredSales`, in the order of their places. -/
def scatteredConditions : List Predicate :=
  [.compare .blockNumber .greaterOrEqual (.unsigned 3),
    .compare .blockNumber .greater (.unsigned 20), .compare .timestamp .less (.signed 1672531200),
    .contains .assetIds (.unsigned 7), .compare .trxId .equal (.string "AB12")]

/-- The order of the parameters in the request does not matter, and two of them have no value. -/
theorem arranged_of_assemble_scatteredSales :
    assemble scatteredSales .aggregate = .ok scatteredConditions
      ∧ Arranged scatteredSales .aggregate scatteredConditions := by
  have assembled : assemble scatteredSales .aggregate = .ok scatteredConditions := by
    decide +kernel
  exact ⟨assembled, arranged_of_assemble assembled⟩

end Filter

end SaleSearch

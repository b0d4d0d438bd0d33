import SaleSearch.Proofs.Filter.Places
import SaleSearch.Proofs.Quantity.Integer
import SaleSearch.Proofs.Request.Query
import SaleSearch.Proofs.Timestamp.Numeric

/-!
# Normal requests

The conditions of a request can be sent as a request of their own, in which each value is written as
it is understood.  Blanks, signs, superfluous zeros, text after a number, the mark of a hash,
milliseconds and dates are all gone then, and the conditions are the same.

* `Request.saying` is that request.
* `Field.reads_text` : a value is read again from its own text.  A timestamp has to have ten digits
  for that, and decimals are left out.
* `Filter.get?_saying` : no two conditions of a request have the same parameter, so that none of
  them overrides another one.
* `Filter.assemble_saying` is the result.
-/

namespace SaleSearch

open Grammar Number Sql

/-- The parameter that gives a condition, and the value as it is written there. -/
def Sql.Predicate.pair? : Predicate → Option (String × String)
  | .compare field comparison v => some (comparison.parameter field, v.text)
  | .contains _ v => some ("asset_id_in_asset_ids", v.text)
  | .window .. => none

/-- The request that says what some conditions say, and nothing else. -/
def Request.saying (filter : List Predicate) : Request :=
  .ofPairs (filter.filterMap Predicate.pair?)

/-! ## Values -/

/-- A code that was accepted is accepted again and read as it is. -/
lemma Grammar.CodeGrammar.read?_self {g : CodeGrammar} {raw text : String}
    (read : g.read? raw = some text) : g.read? text = some text := by
  unfold read? at read
  split at read
  · rename_i accepted
    obtain rfl := Option.some.inj read
    rw [read?, if_pos accepted]
  · cases read

/-- All characters of an accepted code are of the alphabet. -/
lemma Grammar.CodeGrammar.alphabet_of_read? {g : CodeGrammar} {raw text : String}
    (read : g.read? raw = some text) : ∀ c ∈ text.toList, g.alphabet c = true := by
  unfold read? at read
  split at read
  · rename_i accepted
    obtain rfl := Option.some.inj read
    simp only [accepts, Bool.and_eq_true, List.all_eq_true] at accepted
    exact accepted.1.2
  · cases read

/-- Digits have no mark in front of them, because it has a letter that is no digit. -/
lemma Grammar.hashDigits_of_hexadecimal {text : List Char}
    (digits : ∀ c ∈ text, hexadecimal.alphabet c = true) : hashDigits text = text := by
  unfold hashDigits
  split
  · exact absurd (digits 'x' (by simp)) (by decide)
  · rfl

/-- The digits of an accepted hash are read as they are, without a mark. -/
lemma Grammar.transactionHash?_self {raw digits : String}
    (read : transactionHash? raw = some digits) : transactionHash? digits = some digits := by
  have hexadecimals := CodeGrammar.alphabet_of_read? read
  rw [transactionHash?, hashDigits_of_hexadecimal hexadecimals, String.ofList_toList]
  exact CodeGrammar.read?_self read

/-- A number of seconds with ten digits is read as that number. -/
lemma Grammar.timestamp_decimal {seconds : Int} (low : 1000000000 ≤ seconds)
    (high : seconds ≤ 9999999999) :
    timestamp (some (decimal seconds)) = .ok (some seconds) := by
  obtain ⟨n, rfl⟩ := Int.eq_ofNat_of_zero_le (show 0 ≤ seconds by omega)
  have numeric : isNumeric n.repr = true :=
    isNumeric_iff.2 ⟨Nat.repr_ne_empty, List.all_eq_true.2 fun c => isDigit_of_mem_repr⟩
  have denotes : digitsValue n.repr.toList = n := by
    rw [Nat.toList_repr, digitsValue_toDigits]
  rw [decimal_natCast, timestamp_eq_bySize numeric, denotes, Timestamp.bySize, if_pos (by omega)]

/-- **`Field.Reads` relates the text of a value to the value itself**, except for decimals and for
timestamps that have not ten digits. -/
theorem Field.reads_text {field : Field} {text : String} {v : Value} (reads : field.Reads text v)
    (integral : field ≠ .listingPriceValue)
    (tenDigits : ∀ seconds, v = .signed seconds → 1000000000 ≤ seconds ∧ seconds ≤ 9999999999) :
    field.Reads v.text v := by
  cases reads with
  | collectionName read => exact .collectionName (CodeGrammar.read?_self read)
  | chain read => exact .chain (CodeGrammar.read?_self read)
  | symbolCode read => exact .symbolCode (CodeGrammar.read?_self read)
  | hash read => exact .hash (transactionHash?_self read)
  | whole counts read =>
      obtain ⟨low, high⟩ := range_of_value? read
      exact .whole counts (by rw [Value.text, positiveInteger_repr low high, Quantity.value?])
  | decimal read => exact absurd rfl integral
  | @timestamp _ seconds read =>
      obtain ⟨low, high⟩ := tenDigits seconds rfl
      exact .timestamp (timestamp_decimal low high)

/-! ## Parameters -/

lemma Slot.pair?_predicate (slot : Slot) (v : Value) :
    (slot.predicate v).pair? = some (slot.parameter, v.text) := by
  cases slot <;> rfl

namespace Request

/-- Pairs with different names do not override each other. -/
lemma last?_filterMap {α : Type} (name : α → String) (value? : α → Option String) {items : List α}
    (distinct : (items.map name).Nodup) {item : α} (mem : item ∈ items) :
    last? (items.filterMap fun i => (value? i).map (name i, ·)) (name item) = value? item := by
  induction items with
  | nil => cases mem
  | cons first rest ih =>
      obtain ⟨fresh, others⟩ := List.nodup_cons.1 distinct
      have split : (first :: rest).filterMap (fun i => (value? i).map (name i, ·))
          = ((value? first).map (name first, ·)).toList
            ++ rest.filterMap fun i => (value? i).map (name i, ·) := by
        rw [List.filterMap_cons]
        cases value? first <;> rfl
      rw [split, last?_append]
      rcases List.mem_cons.1 mem with rfl | later
      · have missing : ∀ pair ∈ rest.filterMap fun i => (value? i).map (name i, ·),
            pair.1 ≠ name item := by
          intro pair among same
          obtain ⟨other, listed, found⟩ := List.mem_filterMap.1 among
          obtain ⟨text, -, rfl⟩ := Option.map_eq_some_iff.1 found
          exact fresh (List.mem_map.2 ⟨other, listed, same⟩)
        rw [last?_eq_none.2 missing, Option.none_or]
        cases value? item <;> simp [last?]
      · have different : name first ≠ name item :=
          fun same => fresh (same ▸ List.mem_map_of_mem later)
        have missing : ∀ pair ∈ ((value? first).map (name first, ·)).toList,
            pair.1 ≠ name item := by
          intro pair among
          obtain ⟨text, -, rfl⟩ := Option.map_eq_some_iff.1 (Option.mem_toList.1 among)
          exact different
        rw [ih others later, last?_eq_none.2 missing, Option.or_none]

end Request

/-- The text of the value that a place has in a request. -/
def Slot.text? (request : Request) (slot : Slot) : Option String :=
  (slot.condition? request).bind fun p => p.pair?.map (·.2)

/-- The pair that says the condition of a slot has the text of that slot. -/
lemma Slot.pair?_condition (request : Request) (slot : Slot) :
    (slot.condition? request).bind Predicate.pair?
      = (slot.text? request).map (slot.parameter, ·) := by
  rw [Slot.text?]
  cases condition : slot.condition? request with
  | none => rfl
  | some p =>
      obtain ⟨v, -, rfl⟩ := Filter.exists_value_of_read (Slot.condition?_eq_some.1 condition)
      simp [Slot.pair?_predicate]

namespace Filter

lemma nodup_parameter_slots (scope : Scope) : ((slots scope).map Slot.parameter).Nodup := by
  have all : (Slot.all.map Slot.parameter).Nodup := by decide
  exact all.sublist (List.filter_sublist.map _)

/-- If the conditions can be collected, no slot fails. -/
lemma read_of_collect {request : Request} {slots : List Slot} {filter : List Predicate}
    (h : collect request slots = .ok filter) {slot : Slot} (mem : slot ∈ slots) :
    slot.read request = .ok (slot.condition? request) := by
  induction slots generalizing filter with
  | nil => cases mem
  | cons first rest ih =>
      rw [collect] at h
      cases read : first.read request with
      | error cause =>
          rw [read] at h
          cases h
      | ok found =>
          rw [read] at h
          obtain ⟨others, collected, -⟩ := map_eq_ok.1 h
          rcases List.mem_cons.1 mem with rfl | later
          · rw [Slot.condition?, read]
          · exact ih collected later

/-! ## The conditions -/

section Assembled

variable {request : Request} {scope : Scope} {filter : List Predicate}
  (h : assemble request scope = .ok filter)
include h

/-- The parameter of a place is the text of its value, and is absent if it has none. -/
lemma get?_saying {slot : Slot} (walked : slot ∈ slots scope) :
    (Request.saying filter).get? slot.parameter = slot.text? request := by
  have entries : filter.filterMap Predicate.pair?
      = (slots scope).filterMap fun slot => (slot.text? request).map (slot.parameter, ·) := by
    rw [eq_filterMap_of_assemble h, List.filterMap_filterMap]
    exact List.filterMap_congr fun slot _ => slot.pair?_condition request
  rw [Request.saying, Request.get?_ofPairs, entries]
  exact Request.last?_filterMap _ _ (nodup_parameter_slots scope) walked

/-- **Assembling `Request.saying filter` returns the conditions again.**  By `Field.reads_text` slot
by slot; `nodup_parameter_slots` keeps the parameters from overriding one another. -/
theorem assemble_saying (priceless : ∀ p ∈ filter, p.field? ≠ some .listingPriceValue)
    (tenDigits : ∀ comparison seconds,
      Predicate.compare .timestamp comparison (.signed seconds) ∈ filter →
        1000000000 ≤ seconds ∧ seconds ≤ 9999999999) :
    assemble (Request.saying filter) scope = .ok filter := by
  rw [← h]
  refine collect_congr_read fun slot walked => ?_
  have sent := get?_saying h walked
  rw [read_of_collect h walked, Slot.read, sent, Slot.text?]
  cases condition : slot.condition? request with
  | none => rw [Option.bind_none, value?_none]; rfl
  | some p =>
      have among : p ∈ filter := by
        rw [eq_filterMap_of_assemble h]
        exact List.mem_filterMap.2 ⟨slot, walked, condition⟩
      have integral : slot.field ≠ .listingPriceValue := fun same =>
        priceless p among (same ▸ Slot.field?_condition condition)
      obtain ⟨v, -, rfl⟩ := exists_value_of_read (Slot.condition?_eq_some.1 condition)
      obtain ⟨raw, -, reads⟩ := condition?_predicate.1 condition
      have again : slot.field.Reads v.text v := by
        refine Field.reads_text reads integral ?_
        rintro seconds rfl
        cases slot with
        | compare comparison field =>
            cases reads
            exact tenDigits comparison seconds among
        | containsAsset => cases reads
      rw [Option.bind_some, Slot.pair?_predicate, Option.map_some, value?_eq_some.2 again]
      rfl

end Assembled

/-- Each of the conditions is written in some other way than its normal one. -/
def untidySales : Request :=
  .ofPairs [("trx_id", "0xAB12"), ("sale_id", " +007th"), ("less_by_timestamp", "1672531200123"),
    ("greater_by_timestamp", "2023-01-01T00:00:05.25Z"), ("asset_id_in_asset_ids", "0012"),
    ("chain", ""), ("limit", "5")]

/-- What the parameters of `untidySales` are understood as. -/
def tidyConditions : List Predicate :=
  [.compare .timestamp .greater (.signed 1672531205),
    .compare .timestamp .less (.signed 1672531200), .contains .assetIds (.unsigned 12),
    .compare .saleId .equal (.unsigned 7), .compare .trxId .equal (.string "AB12")]

/-- The parameters of `untidySales` are reduced to the normal form of each, and the empty chain and
the limit are left out. -/
theorem assemble_saying_tidyConditions :
    assemble untidySales .records = .ok tidyConditions
      ∧ Request.saying tidyConditions = .ofPairs [("greater_by_timestamp", "1672531205"),
        ("less_by_timestamp", "1672531200"), ("asset_id_in_asset_ids", "12"), ("sale_id", "7"),
        ("trx_id", "AB12")]
      ∧ assemble (Request.saying tidyConditions) .records = .ok tidyConditions := by
  have assembled : assemble untidySales .records = .ok tidyConditions := by decide +kernel
  refine ⟨assembled, by decide +kernel, assemble_saying assembled (by decide) ?_⟩
  intro comparison seconds among
  simp only [tidyConditions, List.mem_cons, Predicate.compare.injEq, Value.signed.injEq,
    List.not_mem_nil, reduceCtorEq, and_false, or_false, true_and] at among
  omega

/-- A date before September 2001 has fewer digits in seconds, with which it is refused. -/
example : assemble (.ofPairs [("timestamp", "1970-01-02")]) .records
      = .ok [.compare .timestamp .equal (.signed 86400)]
    ∧ assemble (Request.saying [.compare .timestamp .equal (.signed 86400)]) .records
      = .error { input := "86400" } := by
  decide +kernel

end Filter

end SaleSearch

import SaleSearch.Proofs.History.Series
import SaleSearch.Proofs.Json.Part
import SaleSearch.Proofs.Number.Rounded

/-!
# Histories are faithful

What the series of a history have to do with its rows: nothing is lost, nothing is there twice, and
no pair gets what belongs to another.

* `Interspersed` puts rows between others that do not matter to a pair.
* `Row.IsRead` is said of a row that stands in a JSON text, and `isFinite_of_isRead` of its value.
* `Faithful` is everything that is said of a history, and `faithful` the result.
-/

namespace SaleSearch

open Number

/-! ## Finite values -/

/-- Integers of 64 bits, signed or not, are finite as floats. -/
lemma Number.Binary64.isFinite_ofInt {n : Int} (least : -(signedBound : Int) ≤ n)
    (greatest : n < (unsignedBound : Int)) : (ofInt n).isFinite = true := by
  have rounds := rounds_ofRatio (n < 0) n.natAbs one_pos
  have small : ((n.natAbs : Nat) : ℚ) / (1 : Nat) < overflow := by
    have bounded : n.natAbs < 18446744073709551616 := by
      unfold signedBound unsignedBound at *
      omega
    calc ((n.natAbs : Nat) : ℚ) / (1 : Nat) = n.natAbs := by rw [Nat.cast_one, div_one]
      _ ≤ 18446744073709551616 := by exact_mod_cast bounded.le
      _ = magnitude (significandBound / 2) 12 := by norm_num [magnitude, significandBound]
      _ ≤ magnitude (significandBound / 2) greatestExponent := magnitude_mono (by decide)
      _ < overflow := half_lt_overflow
  rw [ofInt]
  generalize ofRatio (n < 0) n.natAbs 1 = x at *
  cases rounds with
  | finite below nearest => rfl
  | infinite above => exact absurd above (not_le.2 small)

namespace History

/-- A row that stands somewhere in a JSON text. -/
def Row.IsRead (row : Row) : Prop :=
  ∃ text json part, Json.read? text = some json ∧ Json.IsPart part json
    ∧ Row.ofJson? part = some row

/-- The rows of a part of a JSON text are all read from it. -/
lemma isRead_of_rows? {text : String} {json part : Json} {rows : List Row}
    (read : Json.read? text = some json) (inside : part.IsPart json)
    (found : rows? part = some rows) : ∀ row ∈ rows, row.IsRead := by
  intro row member
  obtain ⟨elements, array, found⟩ := Option.bind_eq_some_iff.1 found
  obtain rfl : part = .array elements := by
    cases part <;> simp [Json.array?] at array
    rw [array]
  obtain ⟨e, member', row_read⟩ := Json.exists_of_mem_mapM found member
  exact ⟨text, json, e, read, (Json.IsPart.element member' .self).trans inside, row_read⟩

/-- A number that fits is finite, and a text is a value only if it reads as a finite number. -/
lemma RowValue.isFinite_of_ofJson? {json : Json} (fits : json.Fits) {value : RowValue}
    (read : RowValue.ofJson? json = some value) {x : Binary64} (numeric : value.number? = some x) :
    x.isFinite = true := by
  cases json with
  | string s =>
      cases read
      exact (Option.filter_eq_some_iff.1 numeric).2
  | integer n =>
      cases read
      obtain rfl := Option.some.inj numeric
      obtain ⟨least, greatest⟩ := fits n .self
      exact Binary64.isFinite_ofInt least greatest
  | float y =>
      obtain ⟨z, found, rfl⟩ := Option.map_eq_some_iff.1 read
      obtain ⟨finite, same⟩ := Option.ite_none_right_eq_some.1 found
      obtain rfl := Option.some.inj same
      obtain rfl := Option.some.inj numeric
      exact finite
  | null | bool _ | array _ | object _ | illFormed => cases read

/-- The value of a row is read from the fourth of its parts. -/
lemma Row.value_of_ofParts? {chain symbolCode timestamp value : Json} {row : Row}
    (read : ofParts? chain symbolCode timestamp value = some row) :
    RowValue.ofJson? value = some row.value := by
  obtain ⟨_, -, read⟩ := Option.bind_eq_some_iff.1 read
  obtain ⟨_, -, read⟩ := Option.bind_eq_some_iff.1 read
  obtain ⟨_, -, read⟩ := Option.bind_eq_some_iff.1 read
  obtain ⟨_, found, read⟩ := Option.bind_eq_some_iff.1 read
  obtain rfl := Option.some.inj read
  exact found

/-- The value of a row is read from a part of the JSON of the row. -/
lemma Row.exists_value_of_ofJson? {json : Json} {row : Row} (read : Row.ofJson? json = some row) :
    ∃ value, Json.IsPart value json ∧ RowValue.ofJson? value = some row.value := by
  unfold Row.ofJson? at read
  split at read
  · rename_i value
    exact ⟨value, .element (by simp) .self, value_of_ofParts? read⟩
  · rename_i members
    obtain ⟨_, -, read⟩ := Option.bind_eq_some_iff.1 read
    obtain ⟨_, -, read⟩ := Option.bind_eq_some_iff.1 read
    obtain ⟨_, -, read⟩ := Option.bind_eq_some_iff.1 read
    obtain ⟨value, found, read⟩ := Option.bind_eq_some_iff.1 read
    exact ⟨value, Json.isPart_of_member? found, value_of_ofParts? read⟩
  · cases read

/-- A row that is read from a JSON text has a finite value, if it has a number at all. -/
theorem Row.isFinite_of_isRead {row : Row} (read : row.IsRead) {x : Binary64}
    (numeric : row.value.number? = some x) : x.isFinite = true := by
  obtain ⟨text, json, part, json_read, inside, part_read⟩ := read
  obtain ⟨value, in_row, value_read⟩ := Row.exists_value_of_ofJson? part_read
  have fits := (Json.fits_of_read? json_read).part (in_row.trans inside)
  exact RowValue.isFinite_of_ofJson? fits value_read numeric

/-! ## A pair among others -/

/-- Rows with more rows between them, which are of another pair or have no value. -/
inductive Interspersed (pair : String × String) : List Row → List Row → Prop
  | nil : Interspersed pair [] []
  | keep (row : Row) {rows rows' : List Row} (rest : Interspersed pair rows rows') :
      Interspersed pair (row :: rows) (row :: rows')
  | insert {row : Row} {rows rows' : List Row} (apart : row.pair ≠ pair ∨ row.isNumeric = false)
      (rest : Interspersed pair rows rows') : Interspersed pair rows (row :: rows')

/-- The rows in between add nothing to the readings of the pair. -/
lemma Interspersed.readingsOf_eq {pair : String × String} {rows rows' : List Row}
    (h : Interspersed pair rows rows') : readingsOf pair rows' = readingsOf pair rows := by
  induction h with
  | nil => rfl
  | keep row _ ih => rw [readingsOf_cons, readingsOf_cons, ih]
  | @insert row _ _ apart _ ih =>
      rw [readingsOf_cons, ih]
      rcases apart with other | valueless
      · rw [if_neg other, List.nil_append]
      · have no_reading : row.reading? = none := by
          simpa [← isSome_reading?] using valueless
        simp [no_reading]

/-! ## The result -/

/-- How the series of a history are related to its rows: their order and pairs, that values and
times are aligned and are the readings of the rows of the pair, and that rows in between make no
difference. -/
structure Faithful (rows : List Row) (interval : Int) (history : List Series) : Prop where
  ordered : (history.map Series.pair).Pairwise fun a b =>
    rows.findIdx (Row.countsFor a) < rows.findIdx (Row.countsFor b)
  distinct : (history.map Series.pair).Nodup
  present : ∀ pair, pair ∈ history.map Series.pair ↔ ∃ row ∈ rows, row.countsFor pair = true
  intervals : ∀ s ∈ history, s.interval = interval
  aligned : ∀ s ∈ history, s.values.length = s.timestamps.length ∧ s.values ≠ []
  readings : ∀ s ∈ history, s.timestamps.zip s.values
    = (rows.filter fun row => row.pair = s.pair).filterMap Row.reading?
  total : (history.map fun s => s.values.length).sum = rows.countP Row.isNumeric
  undisturbed : ∀ pair rows', Interspersed pair rows rows' →
    (fold rows' interval).find? (fun s => s.pair = pair) = history.find? fun s => s.pair = pair
  finite : (∀ row ∈ rows, row.IsRead) → ∀ s ∈ history, ∀ x ∈ s.values, x.isFinite = true

/-- **`fold` makes one series for each pair with a value.**  It holds the values of the pair and
their times in the order of the rows, and the series are ordered by their first values. -/
theorem faithful (rows : List Row) (interval : Int) :
    Faithful rows interval (fold rows interval) := by
  have grouped := grouped_fold interval rows
  exact {
    ordered := grouped.ordered
    distinct := grouped.nodup
    present := fun pair => grouped.mem_pairs_iff
    intervals := grouped.intervals
    aligned := fun s member => by
      refine ⟨grouped.aligned s member, fun none_there => ?_⟩
      have some_readings := (grouped.of_mem member).2
      rw [Series.readings, none_there, List.zip_nil_right] at some_readings
      exact some_readings rfl
    readings := fun s member => (grouped.of_mem member).1
    total := grouped.total
    undisturbed := fun pair rows' interspersed =>
      (grouped_fold interval rows').find?_eq grouped interspersed.readingsOf_eq
    finite := fun read s member x value => by
      rw [← Series.map_snd_readings (grouped.aligned s member), (grouped.of_mem member).1] at value
      obtain ⟨_, reading, rfl⟩ := List.mem_map.1 value
      obtain ⟨row, from_rows, reading⟩ := List.mem_filterMap.1 reading
      obtain ⟨x, numeric, rfl⟩ := Option.map_eq_some_iff.1 reading
      exact Row.isFinite_of_isRead (read row (List.mem_of_mem_filter from_rows)) numeric }

/-- An answer in which one pair comes first and the other has the first value. -/
def twoChains : String :=
  "[[\"wax\",\"WAX\",0,\"n/a\"],[\"eos\",\"EOS\",0,\"1.5\"],[\"wax\",\"WAX\",86400,2]]"

/-- The first row has a text for a value, so `eos` comes first; without the rows before it the last
row makes the same series of `wax`. -/
theorem faithful_twoChains : ∃ rows last, (Json.read? twoChains).bind rows? = some rows
    ∧ (fold rows 86400).map Series.pair = [("eos", "EOS"), ("wax", "WAX")]
    ∧ (fold rows 86400).find? (fun s => s.pair = ("wax", "WAX"))
      = (fold [last] 86400).find? (fun s => s.pair = ("wax", "WAX"))
    ∧ ∀ s ∈ fold rows 86400, ∀ x ∈ s.values, x.isFinite = true := by
  let first : Row :=
    { chain := "wax", symbolCode := "WAX", timestamp := 0, value := .text "n/a" }
  let other : Row :=
    { chain := "eos", symbolCode := "EOS", timestamp := 0, value := .text "1.5" }
  let last : Row :=
    { chain := "wax", symbolCode := "WAX", timestamp := 86400
      value := .number (Binary64.ofInt 2) }
  have found : (Json.read? twoChains).bind rows? = some [first, other, last] := by decide +kernel
  obtain ⟨json, read, rows⟩ := Option.bind_eq_some_iff.1 found
  have among : Interspersed ("wax", "WAX") [last] [first, other, last] :=
    .insert (.inr (by decide +kernel)) (.insert (.inl (by decide)) (.keep last .nil))
  exact ⟨_, last, found, by decide +kernel, (faithful [last] 86400).undisturbed _ _ among,
    (faithful _ 86400).finite (isRead_of_rows? read .self rows)⟩

end History

end SaleSearch

import Mathlib.Algebra.Ring.Nat
import Mathlib.Data.List.Induction
import Mathlib.Tactic.Common
import SaleSearch.History

/-!
# Rows into series

A history is folded row by row, and each row looks for the series of its pair among those that are
there.  A series keeps its values and their times in two lists, so that they belong together is not
a matter of the data type.  It is an invariant: a new series is opened with both lists empty, and
whatever is put into a series goes to the end of both.

* `Series.readings` pairs the two lists of a series, and `Series.Aligned` says that nothing is left
  over. `Series.readings_push` is where a push needs it.
* `readingsOf` is what the rows of a pair come to.
* `readings_find?_place`, `map_pair_place`, `sum_place` and `forall_mem_place` say what one value
  changes.
* `Grouped` is what holds of the series after some rows: `Grouped.add` is the step, and
  `grouped_fold` the whole run.
-/

namespace SaleSearch.History

open Number

/-! ## Pairs -/

/-- The chain and the symbol of a row, by which rows are grouped. -/
def Row.pair (row : Row) : String × String :=
  (row.chain, row.symbolCode)

/-- The chain and the symbol of a series. -/
def Series.pair (s : Series) : String × String :=
  (s.network, s.symbolCode)

/-- The row has a value that is a number. -/
def Row.isNumeric (row : Row) : Bool :=
  row.value.number?.isSome

/-- The row belongs to the pair and has a value, which is when `add` changes the series of the
pair. -/
def Row.countsFor (pair : String × String) (row : Row) : Bool :=
  row.pair = pair && row.isNumeric

/-- The time and the value of a row. -/
def Row.reading? (row : Row) : Option (Int × Binary64) :=
  row.value.number?.map fun value => (row.timestamp, value)

/-- What the rows of a pair come to, in their order. -/
def readingsOf (pair : String × String) (rows : List Row) : List (Int × Binary64) :=
  (rows.filter fun row => row.pair = pair).filterMap Row.reading?

lemma isOf_eq_decide (pair : String × String) (s : Series) :
    s.isOf pair.1 pair.2 = decide (s.pair = pair) := by
  rw [Bool.eq_iff_iff, decide_eq_true_iff, Series.isOf, Bool.and_eq_true, decide_eq_true_iff,
    decide_eq_true_iff, Series.pair, Prod.ext_iff]

lemma readingsOf_cons (pair : String × String) (row : Row) (rows : List Row) :
    readingsOf pair (row :: rows)
      = (if row.pair = pair then row.reading?.toList else []) ++ readingsOf pair rows := by
  by_cases same : row.pair = pair
  · cases reading : row.reading? <;> simp [readingsOf, same, reading]
  · simp [readingsOf, same]

/-- A row at the end adds its reading to those of its pair. -/
lemma readingsOf_append_singleton (pair : String × String) (rows : List Row) (row : Row) :
    readingsOf pair (rows ++ [row])
      = readingsOf pair rows ++ if row.pair = pair then row.reading?.toList else [] := by
  rw [readingsOf, List.filter_append, List.filterMap_append, ← readingsOf]
  by_cases same : row.pair = pair
  · cases reading : row.reading? <;> simp [same, reading]
  · simp [same]

/-- A pair has readings exactly if one of its rows counts. -/
lemma readingsOf_ne_nil {pair : String × String} {rows : List Row} :
    readingsOf pair rows ≠ [] ↔ ∃ row ∈ rows, row.countsFor pair = true := by
  simp only [readingsOf, ne_eq, List.filterMap_eq_nil_iff, List.mem_filter, decide_eq_true_eq,
    Row.reading?, Option.map_eq_none_iff, Row.countsFor, Row.isNumeric, Bool.and_eq_true,
    not_forall, exists_prop, and_assoc, Option.isSome_iff_ne_none]

lemma isSome_reading? (row : Row) : row.reading?.isSome = row.isNumeric :=
  Option.isSome_map

/-! ## The two lists of a series -/

namespace Series

/-- Each value with the time that stands at its place. -/
def readings (s : Series) : List (Int × Binary64) :=
  s.timestamps.zip s.values

/-- There are as many values as times. -/
def Aligned (s : Series) : Prop :=
  s.values.length = s.timestamps.length

variable {s : Series} (timestamp : Int) (value : Binary64)

/-- A new series is aligned, as both of its lists are empty. -/
lemma Aligned.opened (interval : Int) (chain symbolCode : String) :
    (Series.opened interval chain symbolCode).Aligned :=
  rfl

/-- Pushing a value and its time keeps a series aligned. -/
lemma Aligned.push (h : s.Aligned) : (s.push timestamp value).Aligned := by
  show (s.values ++ [value]).length = (s.timestamps ++ [timestamp]).length
  rw [List.length_append, List.length_append, h, List.length_singleton, List.length_singleton]

lemma readings_opened (interval : Int) (chain symbolCode : String) :
    (opened interval chain symbolCode).readings = [] :=
  rfl

/-- A value and its time that are pushed to an aligned series become its last reading.  Without
`Aligned` they would stand at different places. -/
lemma readings_push (h : s.Aligned) :
    (s.push timestamp value).readings = s.readings ++ [(timestamp, value)] :=
  List.zip_append h.symm

/-- An aligned series has all of its times among its readings. -/
lemma map_fst_readings (h : s.Aligned) : s.readings.map Prod.fst = s.timestamps :=
  List.map_fst_zip (Nat.le_of_eq h.symm)

lemma map_snd_readings (h : s.Aligned) : s.readings.map Prod.snd = s.values :=
  List.map_snd_zip (Nat.le_of_eq h)

lemma pair_push : (s.push timestamp value).pair = s.pair :=
  rfl

/-- Aligned series are equal if their pairs, intervals and readings are. -/
lemma eq_of_readings {t : Series} (aligned : s.Aligned) (aligned' : t.Aligned)
    (pair : s.pair = t.pair) (interval : s.interval = t.interval)
    (readings : s.readings = t.readings) : s = t := by
  have values : s.values = t.values := by
    rw [← map_snd_readings aligned, readings, map_snd_readings aligned']
  have timestamps : s.timestamps = t.timestamps := by
    rw [← map_fst_readings aligned, readings, map_fst_readings aligned']
  cases s
  cases t
  obtain ⟨rfl, rfl⟩ := Prod.ext_iff.1 pair
  cases values
  cases timestamps
  cases interval
  rfl

end Series

/-! ## One value -/

section Place

variable (interval : Int) (pair : String × String) (timestamp : Int) (value : Binary64)
  (series : List Series)

/-- What every new series has and every push keeps, all series have after `place`. -/
lemma forall_mem_place {P : Series → Prop} {series : List Series} (old : ∀ s ∈ series, P s)
    (opened : P (.opened interval pair.1 pair.2))
    (push : ∀ s, P s → P (s.push timestamp value)) :
    ∀ s ∈ place interval pair.1 pair.2 timestamp value series, P s := by
  induction series with
  | nil => exact List.forall_mem_singleton.2 (push _ opened)
  | cons s rest ih =>
      obtain ⟨first, old⟩ := List.forall_mem_cons.1 old
      rw [place]
      split
      · exact List.forall_mem_cons.2 ⟨push s first, old⟩
      · exact List.forall_mem_cons.2 ⟨first, ih old⟩

/-- `place` adds a reading to the series of its pair, or opens that series, and leaves the others as
they are. -/
lemma readings_find?_place {series : List Series} (aligned : ∀ s ∈ series, s.Aligned)
    (other : String × String) :
    ((place interval pair.1 pair.2 timestamp value series).find? fun s => s.pair = other).map
        Series.readings
      = if pair = other then
          some ((((series.find? fun s => s.pair = pair).map Series.readings).getD [])
            ++ [(timestamp, value)])
        else (series.find? fun s => s.pair = other).map Series.readings := by
  induction series with
  | nil =>
      have its : ((Series.opened interval pair.1 pair.2).push timestamp value).pair = pair := rfl
      by_cases same : pair = other
      · subst same
        simp [place, its, Series.readings_push _ _ (Series.Aligned.opened ..),
          Series.readings_opened]
      · simp [place, its, same]
  | cons s rest ih =>
      obtain ⟨first, aligned⟩ := List.forall_mem_cons.1 aligned
      rw [place, isOf_eq_decide]
      by_cases here : s.pair = pair
      · by_cases same : pair = other
        · subst same
          simp [here, Series.pair_push, Series.readings_push _ _ first]
        · simp [here, Series.pair_push, same]
      · by_cases same : pair = other
        · subst same
          simp [here, ih aligned]
        · rw [decide_eq_false here, if_neg Bool.false_ne_true, if_neg same]
          rw [if_neg same] at ih
          by_cases its : s.pair = other
          · simp [its]
          · simp [its, ih aligned]

/-- `place` opens a series at the end exactly if its pair has none. -/
lemma map_pair_place :
    (place interval pair.1 pair.2 timestamp value series).map Series.pair
      = series.map Series.pair ++ if pair ∈ series.map Series.pair then [] else [pair] := by
  induction series with
  | nil => rfl
  | cons s rest ih =>
      rw [place, isOf_eq_decide]
      by_cases here : s.pair = pair
      · simp [here, Series.pair_push]
      · have other : ¬ pair = s.pair := fun same => here same.symm
        simp [here, other, ih]

/-- `place` adds one value in all. -/
lemma sum_place :
    ((place interval pair.1 pair.2 timestamp value series).map fun s => s.values.length).sum
      = (series.map fun s => s.values.length).sum + 1 := by
  have one_more (s : Series) : (s.push timestamp value).values.length = s.values.length + 1 :=
    List.length_append
  induction series with
  | nil => rfl
  | cons s rest ih =>
      rw [place]
      split
      · simp only [List.map_cons, List.sum_cons, one_more]
        omega
      · simp only [List.map_cons, List.sum_cons, ih]
        omega

end Place

/-- A row without a value changes nothing. -/
lemma add_of_no_reading {row : Row} (h : row.reading? = none) (interval : Int)
    (series : List Series) : add interval series row = series := by
  rw [add, Option.map_eq_none_iff.1 h]

lemma add_of_reading {row : Row} {timestamp : Int} {value : Binary64}
    (h : row.reading? = some (timestamp, value)) (interval : Int) (series : List Series) :
    add interval series row = place interval row.pair.1 row.pair.2 timestamp value series := by
  obtain ⟨value, numeric, same⟩ := Option.map_eq_some_iff.1 h
  cases same
  rw [add, numeric]
  rfl

/-! ## All rows -/

/-- The readings of a pair, unless none of its rows has a value. -/
def readings? (pair : String × String) (rows : List Row) : Option (List (Int × Binary64)) :=
  if readingsOf pair rows = [] then none else some (readingsOf pair rows)

/-- The invariant of the fold: what holds of the series after some rows. -/
structure Grouped (interval : Int) (rows : List Row) (series : List Series) : Prop where
  ordered : (series.map Series.pair).Pairwise fun a b =>
    rows.findIdx (Row.countsFor a) < rows.findIdx (Row.countsFor b)
  aligned : ∀ s ∈ series, s.Aligned
  intervals : ∀ s ∈ series, s.interval = interval
  found : ∀ pair, (series.find? fun s => s.pair = pair).map Series.readings = readings? pair rows
  total : (series.map fun s => s.values.length).sum = rows.countP Row.isNumeric

lemma grouped_nil (interval : Int) : Grouped interval [] [] where
  ordered := .nil
  aligned _ member := nomatch member
  intervals _ member := nomatch member
  found _ := rfl
  total := rfl

lemma readings?_eq_none {pair : String × String} {rows : List Row} :
    readings? pair rows = none ↔ readingsOf pair rows = [] := by
  unfold readings?
  split <;> simp [*]

/-- A row with a value adds its reading to those of its pair, and to no others. -/
lemma readings?_append {rows : List Row} {row : Row} {reading : Int × Binary64}
    (numeric : row.reading? = some reading) (pair : String × String) :
    readings? pair (rows ++ [row])
      = if row.pair = pair then some ((readings? row.pair rows).getD [] ++ [reading])
        else readings? pair rows := by
  unfold readings?
  rw [readingsOf_append_singleton, numeric]
  by_cases same : row.pair = pair
  · subst same
    by_cases first : readingsOf row.pair rows = [] <;> simp [first]
  · simp [same]

lemma findIdx_append_of_exists {α : Type} {p : α → Bool} {l : List α} (h : ∃ a ∈ l, p a = true)
    (more : List α) : (l ++ more).findIdx p = l.findIdx p := by
  rw [List.findIdx_append, if_pos (List.findIdx_lt_length.2 h)]

namespace Grouped

variable {interval : Int} {rows : List Row} {series : List Series}

/-- A pair has a series exactly if one of its rows counts. -/
lemma mem_pairs_iff (h : Grouped interval rows series) {pair : String × String} :
    pair ∈ series.map Series.pair ↔ ∃ row ∈ rows, row.countsFor pair = true := by
  rw [← readingsOf_ne_nil, ne_eq, ← readings?_eq_none, ← h.found, Option.map_eq_none_iff,
    List.find?_eq_none]
  simp

/-- No pair has two series. -/
lemma nodup (h : Grouped interval rows series) : (series.map Series.pair).Nodup := by
  refine h.ordered.imp fun {a b} before same => ?_
  exact absurd (same ▸ before) (Nat.lt_irrefl _)

/-- A series that is there is found under its pair. -/
lemma find?_pair_of_mem {series : List Series} (nodup : (series.map Series.pair).Nodup) {s : Series}
    (member : s ∈ series) : series.find? (fun t => t.pair = s.pair) = some s := by
  induction series with
  | nil => cases member
  | cons first rest ih =>
      obtain ⟨new, nodup⟩ := List.nodup_cons.1 nodup
      rcases List.mem_cons.1 member with rfl | later
      · simp
      · have other : first.pair ≠ s.pair := fun same => new (same ▸ List.mem_map_of_mem later)
        rw [List.find?_cons_of_neg (by simpa using other)]
        exact ih nodup later

/-- A series has the readings of the rows of its pair, of which there is at least one. -/
lemma of_mem (h : Grouped interval rows series) {s : Series} (member : s ∈ series) :
    s.readings = readingsOf s.pair rows ∧ s.readings ≠ [] := by
  have found := h.found s.pair
  rw [find?_pair_of_mem h.nodup member, readings?] at found
  split at found
  · cases found
  · rename_i some_readings
    have same := Option.some.inj found
    rw [same]
    exact ⟨rfl, some_readings⟩

/-- Two groupings that agree on the readings of a pair have the same series for it. -/
lemma find?_eq {rows' : List Row} {series' : List Series} (h : Grouped interval rows series)
    (h' : Grouped interval rows' series') {pair : String × String}
    (same : readingsOf pair rows = readingsOf pair rows') :
    (series.find? fun s => s.pair = pair) = series'.find? fun s => s.pair = pair := by
  have readings : (series.find? fun s => s.pair = pair).map Series.readings
      = (series'.find? fun s => s.pair = pair).map Series.readings := by
    rw [h.found, h'.found, readings?, readings?, same]
  cases found : series.find? fun s => s.pair = pair with
  | none =>
      rw [found] at readings
      exact (Option.map_eq_none_iff.1 readings.symm).symm
  | some s =>
      rw [found] at readings
      obtain ⟨t, found', readings⟩ := Option.map_eq_some_iff.1 readings.symm
      have member := List.mem_of_find?_eq_some found
      have member' := List.mem_of_find?_eq_some found'
      have its := List.find?_some found
      have its' := List.find?_some found'
      rw [decide_eq_true_iff] at its its'
      rw [found']
      exact congrArg some (Series.eq_of_readings (h.aligned s member) (h'.aligned t member')
        (its.trans its'.symm) ((h.intervals s member).trans (h'.intervals t member').symm)
        readings.symm)

/-- Rows at the end do not change the order of the pairs that are there. -/
lemma ordered_append (h : Grouped interval rows series) (more : List Row) :
    (series.map Series.pair).Pairwise fun a b =>
      (rows ++ more).findIdx (Row.countsFor a) < (rows ++ more).findIdx (Row.countsFor b) := by
  refine h.ordered.imp_of_mem fun {a b} first second before => ?_
  rwa [findIdx_append_of_exists (h.mem_pairs_iff.1 first),
    findIdx_append_of_exists (h.mem_pairs_iff.1 second)]

lemma ordered_append_new (h : Grouped interval rows series) (more : List Row)
    {pair : String × String} (new : pair ∉ series.map Series.pair) :
    (series.map Series.pair ++ [pair]).Pairwise fun a b =>
      (rows ++ more).findIdx (Row.countsFor a) < (rows ++ more).findIdx (Row.countsFor b) := by
  refine List.pairwise_append.2 ⟨h.ordered_append more, List.pairwise_singleton _ _, ?_⟩
  intro a old b member
  obtain rfl := List.mem_singleton.1 member
  have counting := h.mem_pairs_iff.1 old
  have none_counting : ¬ rows.findIdx (Row.countsFor b) < rows.length := fun lt =>
    new (h.mem_pairs_iff.2 (List.findIdx_lt_length.1 lt))
  calc (rows ++ more).findIdx (Row.countsFor a)
      = rows.findIdx (Row.countsFor a) := findIdx_append_of_exists counting more
    _ < rows.length := List.findIdx_lt_length.2 counting
    _ ≤ (rows ++ more).findIdx (Row.countsFor b) := by
        rw [List.findIdx_append, if_neg none_counting]
        exact Nat.le_add_left _ _

/-- One row keeps the series grouped. -/
theorem add (h : Grouped interval rows series) (row : Row) :
    Grouped interval (rows ++ [row]) (add interval series row) := by
  cases numeric : row.reading? with
  | none =>
      rw [add_of_no_reading numeric]
      exact {
        ordered := h.ordered_append [row]
        aligned := h.aligned
        intervals := h.intervals
        found := fun pair => by
          rw [h.found, readings?, readings?, readingsOf_append_singleton, numeric]
          simp
        total := by simp [h.total, ← isSome_reading?, numeric] }
  | some reading =>
      obtain ⟨timestamp, value⟩ := reading
      rw [add_of_reading numeric]
      exact {
        ordered := by
          rw [map_pair_place]
          split
          · rw [List.append_nil]
            exact h.ordered_append [row]
          · rename_i new
            exact h.ordered_append_new [row] new
        aligned := forall_mem_place _ _ _ _ h.aligned (.opened ..) fun s => .push timestamp value
        intervals := forall_mem_place _ _ _ _ h.intervals rfl fun s same => same
        found := fun pair => by
          rw [readings_find?_place _ _ _ _ h.aligned, readings?_append numeric, h.found, h.found]
        total := by simp [sum_place, h.total, ← isSome_reading?, numeric] }

end Grouped

/-- The series of a history are grouped, by induction on the rows from the end. -/
theorem grouped_fold (interval : Int) (rows : List Row) :
    Grouped interval rows (fold rows interval) := by
  -- the rows are taken from the end, where the loop does its last step
  induction rows using List.reverseRecOn with
  | nil => exact grouped_nil interval
  | append_singleton rows row ih =>
      rw [fold, List.foldl_append]
      exact ih.add row

end SaleSearch.History

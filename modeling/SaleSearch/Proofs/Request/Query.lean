import Mathlib.Data.List.Induction
import SaleSearch.Proofs.Text.FormEncoded
import SaleSearch.Request

/-!
# Requests from query strings

A query string is read as the pairs that were written into it, and of several values for a name the
last one counts.

* `QueryWritten` is said of a query string for given pairs, with a question mark in front or not.
* `get?_ofPairs` is what a request of pairs says.
* `QueriesRead` is what reading comes to, and `queriesRead` the result.
-/

namespace SaleSearch.Request

open Text FormEncoded

/-- The pairs are written into the query, after a question mark or without one. -/
def QueryWritten (pairs : List (String × String)) (query : String) : Prop :=
  ∃ written, PairsWritten pairs written
    ∧ (query.toList = written ∨ query.toList = '?' :: written)

/-! ## Pairs -/

/-- The value of the last pair with a name. -/
def last? (pairs : List (String × String)) (name : String) : Option String :=
  (pairs.filter fun pair => pair.1 = name).getLast?.map (·.2)

lemma last?_append_singleton (pairs : List (String × String)) (pair : String × String)
    (name : String) :
    last? (pairs ++ [pair]) name = if pair.1 = name then some pair.2 else last? pairs name := by
  by_cases same : pair.1 = name <;> simp [last?, same]

/-- The last value of two lists is that of the second, if it has one. -/
lemma last?_append (a b : List (String × String)) (name : String) :
    last? (a ++ b) name = (last? b name).or (last? a name) := by
  rw [last?, List.filter_append, List.getLast?_append, last?, last?]
  cases (b.filter fun pair => pair.1 = name).getLast? <;> rfl

lemma last?_eq_none {pairs : List (String × String)} {name : String} :
    last? pairs name = none ↔ ∀ pair ∈ pairs, pair.1 ≠ name := by
  simp [last?]

lemma ofPairs_append_singleton (pairs : List (String × String)) (pair : String × String) :
    ofPairs (pairs ++ [pair]) = (ofPairs pairs).set pair.1 pair.2 :=
  List.foldl_append

/-- A request that is made of pairs has the last value of each name. -/
theorem get?_ofPairs (pairs : List (String × String)) (name : String) :
    (ofPairs pairs).get? name = last? pairs name := by
  induction pairs using List.reverseRecOn with
  | nil => rfl
  | append_singleton pairs pair ih =>
      rw [ofPairs_append_singleton, get?_set, ih, last?_append_singleton]

lemma get?_ofPairs_append (a b : List (String × String)) (name : String) :
    (ofPairs (a ++ b)).get? name = ((ofPairs b).get? name).or ((ofPairs a).get? name) := by
  simp only [get?_ofPairs, last?_append]

/-! ## Query strings -/

/-- A query is read as the pairs that are written into it. -/
lemma ofQuery_written {pairs : List (String × String)} {query : String}
    (h : QueryWritten pairs query) : ofQuery query = ofPairs pairs := by
  obtain ⟨written, pairs_written, chars⟩ := h
  have unmarked : unmarked query.toList = written := by
    rcases chars with chars | chars
    · rw [chars, unmarked_of_head?_ne pairs_written.head?_ne]
    · rw [chars]
      rfl
  rw [ofQuery, readQuery_eq, unmarked, readPairs_written pairs_written]

/-- A query up to a separator and the text after it. -/
lemma readQuery_append (a b : String) :
    readQuery (a ++ "&" ++ b) = readQuery a ++ readPairs b.toList := by
  have chars : (a ++ "&" ++ b).toList = a.toList ++ '&' :: b.toList := by
    simp [String.toList_append]
  rw [readQuery_eq, chars, unmarked_append, readPairs_append, ← readQuery_eq]

lemma readQuery_of_head?_ne {query : String} (h : query.toList.head? ≠ some '?') :
    readQuery query = readPairs query.toList := by
  rw [readQuery_eq, unmarked_of_head?_ne h]

/-- How `ofQuery` reads what is written: every encoding of pairs, the last value of a name, and
queries that are joined by separators. -/
structure QueriesRead : Prop where
  roundTrip : ∀ pairs query, QueryWritten pairs query → ofQuery query = ofPairs pairs
  last : ∀ pairs name, (ofPairs pairs).get? name = last? pairs name
  override : ∀ a b : String, b.toList.head? ≠ some '?' → ∀ name,
    (ofQuery (a ++ "&" ++ b)).get? name = ((ofQuery b).get? name).or ((ofQuery a).get? name)
  doubled : ∀ a b : String, ofQuery (a ++ "&&" ++ b) = ofQuery (a ++ "&" ++ b)
  trailing : ∀ a : String, ofQuery (a ++ "&") = ofQuery a
  leading : ∀ b : String, b.toList.head? ≠ some '?' → ofQuery ("&" ++ b) = ofQuery b

/-- **Query strings are read as they were written.**  Whatever admissible way is chosen for each
byte, the pairs come back, and the last one of a name counts; a separator overrides what stands
before it by what comes after, and with nothing on one side it changes nothing. -/
theorem queriesRead : QueriesRead where
  roundTrip _ _ := ofQuery_written
  last := get?_ofPairs
  override a b no_mark name := by
    rw [ofQuery, readQuery_append, get?_ofPairs_append, ofQuery, ofQuery,
      readQuery_of_head?_ne no_mark]
  doubled a b := by
    have halves : a ++ "&&" ++ b = a ++ "&" ++ ("&" ++ b) := by
      rw [show "&&" = "&" ++ "&" by decide]
      simp only [String.append_assoc]
    have rest : readPairs ("&" ++ b).toList = readPairs b.toList := by
      rw [String.toList_append]
      exact readPairs_separator_cons b.toList
    rw [ofQuery, ofQuery, halves, readQuery_append, readQuery_append, rest]
  trailing a := by
    have nothing := readQuery_append a ""
    rw [String.append_empty] at nothing
    rw [ofQuery, nothing, ofQuery]
    exact congrArg ofPairs (List.append_nil _)
  leading b no_mark := by
    have alone := readQuery_append "" b
    rw [String.empty_append, ← readQuery_of_head?_ne no_mark] at alone
    rw [ofQuery, alone]
    rfl

/-- A name that is written in two ways, and a pair of empty texts. -/
def accented : List (String × String) :=
  [("é b", "=&"), ("", ""), ("é b", "1?")]

/-- The query writes a space in two ways and hexadecimal digits in both cases, and the later value
counts. -/
theorem queriesRead_accented :
    QueryWritten accented "?%C3%a9+b=%3D%26&=&%c3%A9%20b=1%3f"
      ∧ ofQuery "?%C3%a9+b=%3D%26&=&%c3%A9%20b=1%3f" = ofPairs accented
      ∧ (ofPairs accented).get? "é b" = some "1?" := by
  have first : PairWritten ("é b", "=&") "%C3%a9+b=%3D%26".toList :=
    ⟨"%C3%a9+b".toList, "%3D%26".toList,
      ⟨[['%', 'C', '3'], ['%', 'a', '9'], ['+'], ['b']],
        .cons (.code .upper .lower) (.cons (.code .lower .lower) (.cons .plus
          (.cons (.plain (by decide)) .nil))), by decide⟩,
      ⟨[['%', '3', 'D'], ['%', '2', '6']],
        .cons (.code .lower .upper) (.cons (.code .lower .lower) .nil), by decide⟩, by decide⟩
  have second : PairWritten ("", "") "=".toList :=
    ⟨[], [], ⟨[], .nil, rfl⟩, ⟨[], .nil, rfl⟩, by decide⟩
  have third : PairWritten ("é b", "1?") "%c3%A9%20b=1%3f".toList :=
    ⟨"%c3%A9%20b".toList, "1%3f".toList,
      ⟨[['%', 'c', '3'], ['%', 'A', '9'], ['%', '2', '0'], ['b']],
        .cons (.code .lower .lower) (.cons (.code .upper .lower) (.cons (.code .lower .lower)
          (.cons (.plain (by decide)) .nil))), by decide⟩,
      ⟨[['1'], ['%', '3', 'f']],
        .cons (.plain (by decide)) (.cons (.code .lower .lower) .nil), by decide⟩, by decide⟩
  have written : QueryWritten accented "?%C3%a9+b=%3D%26&=&%c3%A9%20b=1%3f" :=
    ⟨_, ⟨_, .cons first (.cons second (.cons third .nil)), rfl⟩, .inr (by decide)⟩
  refine ⟨written, queriesRead.roundTrip _ _ written, ?_⟩
  rw [queriesRead.last]
  decide

end SaleSearch.Request

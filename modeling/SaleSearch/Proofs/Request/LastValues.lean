import Mathlib.Data.List.Dedup
import SaleSearch.Proofs.Request.Absent
import SaleSearch.Proofs.Request.Entries
import SaleSearch.Proofs.Request.Query

/-!
# Requests are their last values

However a request is built, it says of each name the value that was given last, and nothing else
about its history is left in it: neither the order in which different names were given, nor a value
that was overridden.

* `Stored` is said of a table that keeps its entries in no order of its own.  By `stored_iff` such
  tables are the entries of a request, rearranged, and by `ofPairs_of_perm` they make it again, so
  that the order in which a request keeps its entries is of no account.
* `Keeps` is what a request comes to that was given certain pairs, and `keeps_ofPairs` says that it
  does.
* `Indistinguishable` is said of requests that nothing tells apart, whatever they are given later.
* `LastValuesDecide` puts it together, and `lastValuesDecide` is the result.
-/

namespace SaleSearch.Request

/-- Give several parameters their values, one after the other. -/
def setAll (r : Request) (later : List (String × String)) : Request :=
  later.foldl (fun r pair => r.set pair.1 pair.2) r

lemma setAll_ofPairs (pairs later : List (String × String)) :
    (ofPairs pairs).setAll later = ofPairs (pairs ++ later) :=
  List.foldl_append.symm

/-! ## Last values -/

section Last

variable {pairs : List (String × String)} {name value : String}

lemma mem_of_last? (h : last? pairs name = some value) : (name, value) ∈ pairs := by
  obtain ⟨pair, last, rfl⟩ := Option.map_eq_some_iff.1 h
  obtain ⟨among, same⟩ := List.mem_filter.1 (List.mem_of_getLast? last)
  obtain rfl : pair.1 = name := by simpa using same
  exact among

lemma exists_last?_iff : (∃ value, last? pairs name = some value) ↔ name ∈ pairs.map Prod.fst := by
  rw [← Option.ne_none_iff_exists', Ne, last?_eq_none]
  simp

lemma last?_eq_some_of_nodup (distinct : (pairs.map Prod.fst).Nodup) :
    last? pairs name = some value ↔ (name, value) ∈ pairs := by
  refine ⟨mem_of_last?, fun among => ?_⟩
  obtain ⟨last, found⟩ := exists_last?_iff.2 (List.mem_map_of_mem among)
  have same := List.inj_on_of_nodup_map distinct (mem_of_last? found) among rfl
  rw [found, (Prod.mk.inj same).2]

/-- Pairs with different names do not get into each other's way. -/
lemma last?_swap {x y : String × String} (different : x.1 ≠ y.1)
    (before after : List (String × String)) (name : String) :
    last? (before ++ x :: y :: after) name = last? (before ++ y :: x :: after) name := by
  have filtered : (x :: y :: after).filter (fun pair => pair.1 = name)
      = (y :: x :: after).filter fun pair => pair.1 = name := by
    by_cases first : x.1 = name
    · have second : y.1 ≠ name := fun same => different (first.trans same.symm)
      simp [first, second]
    · simp [List.filter_cons, first]
  rw [last?, List.filter_append, filtered, ← List.filter_append, ← last?]

/-- A pair whose name is given again leaves nothing behind. -/
lemma last?_overridden {pair : String × String} {later : List (String × String)}
    (again : pair.1 ∈ later.map Prod.fst) (before : List (String × String)) (name : String) :
    last? (before ++ pair :: later) name = last? (before ++ later) name := by
  have unseen : last? (pair :: later) name = last? later name := by
    rw [← List.singleton_append, last?_append]
    by_cases same : pair.1 = name
    · obtain ⟨value, found⟩ := exists_last?_iff.2 again
      rw [← same, found, Option.some_or]
    · have absent : last? [pair] name = none := last?_eq_none.2 (by simpa using same)
      rw [absent, Option.or_none]
  rw [last?_append, last?_append, unseen]

end Last

/-! ## What a request keeps -/

/-- The request has, for each name, the last value among the pairs, and one entry for it. -/
structure Keeps (r : Request) (given : List (String × String)) : Prop where
  last : ∀ name, r.get? name = last? given name
  contains_iff : ∀ name, r.contains name = true ↔ ∃ value, r.get? name = some value
  contains_iff_given : ∀ name, r.contains name = true ↔ name ∈ given.map Prod.fst
  nonempty : ∀ name value, r.given? name = some value ↔ r.get? name = some value ∧ value ≠ ""
  size : r.size = (given.map Prod.fst).dedup.length
  isEmpty_iff : r.isEmpty = true ↔ r.size = 0
  distinct : (r.entries.map Prod.fst).Nodup
  entries : ∀ name value, (name, value) ∈ r.entries ↔ last? given name = some value

/-- The size is a count of names, since no name has two entries. -/
lemma size_eq {r : Request} {given : List (String × String)}
    (last : ∀ name, r.get? name = last? given name) :
    r.size = (given.map Prod.fst).dedup.length := by
  have names : (r.entries.map Prod.fst).Perm (given.map Prod.fst).dedup := by
    refine (List.perm_ext_iff_of_nodup r.nodup_names (List.nodup_dedup _)).2 fun name => ?_
    rw [mem_names, last, exists_last?_iff, List.mem_dedup]
  rw [size, ← names.length_eq, List.length_map]

/-- A request that is made of pairs keeps the last value of each name. -/
theorem keeps_ofPairs (pairs : List (String × String)) : (ofPairs pairs).Keeps pairs where
  last := get?_ofPairs pairs
  contains_iff name := Option.isSome_iff_exists
  contains_iff_given name := by
    rw [contains, Option.isSome_iff_exists, get?_ofPairs, exists_last?_iff]
  nonempty name value := by rw [given?, Option.filter_eq_some_iff]; simp
  size := size_eq (get?_ofPairs pairs)
  isEmpty_iff := by rw [isEmpty, List.isEmpty_iff_length_eq_zero, size]
  distinct := nodup_names _
  entries name value := by rw [mem_entries, get?_ofPairs]

/-! ## Tables -/

/-- A table into which pairs were put one after the other, each of them in the place of an earlier
one with its name; where in the table it is put is left open, and so is where the others go. -/
inductive Stored : List (String × String) → List (String × String) → Prop
  | nothing : Stored [] []
  | put {given table after : List (String × String)} (stored : Stored given table)
      (pair : String × String)
      (rearranged : after.Perm (pair :: table.filter fun entry => entry.1 ≠ pair.1)) :
      Stored (given ++ [pair]) after

/-- The tables of some pairs are the entries of their request, in any order. -/
theorem stored_iff {given table : List (String × String)} :
    Stored given table ↔ table.Perm (ofPairs given).entries := by
  constructor
  · intro stored
    induction stored with
    | nothing => exact .refl _
    | put _ pair rearranged ih =>
        rw [ofPairs_append_singleton]
        exact (rearranged.trans ((ih.filter _).cons _)).trans (perm_set _ pair.1 pair.2).symm
  · induction given using List.reverseRecOn generalizing table with
    | nil =>
        intro same
        rw [same.eq_nil]
        exact .nothing
    | append_singleton given pair ih =>
        intro same
        rw [ofPairs_append_singleton] at same
        exact .put (ih (.refl _)) pair (same.trans (perm_set _ pair.1 pair.2))

/-- The entries of a request make it again, in whatever order they are given. -/
theorem ofPairs_of_perm {r : Request} {table : List (String × String)}
    (same : table.Perm r.entries) : ofPairs table = r := by
  refine ext_get? fun name => Option.ext fun value => ?_
  rw [get?_ofPairs, last?_eq_some_of_nodup (nodup_names_of_perm same), same.mem_iff, mem_entries]

/-! ## Indistinguishable requests -/

/-- Requests that answer alike whatever is asked of them, and are verified and compiled alike. -/
structure AnswersAlike (a b : Request) : Prop where
  get? : ∀ name, a.get? name = b.get? name
  given? : ∀ name, a.given? name = b.given? name
  contains : ∀ name, a.contains name = b.contains name
  size : a.size = b.size
  isEmpty : a.isEmpty = b.isEmpty
  equals : ∀ other, a = other ↔ b = other
  entries : a.entries = b.entries
  alike : a.Alike b

/-- Nothing tells the requests apart, also after both of them have been given more. -/
def Indistinguishable (a b : Request) : Prop :=
  ∀ later, (a.setAll later).AnswersAlike (b.setAll later)

lemma AnswersAlike.refl (r : Request) : r.AnswersAlike r where
  get? _ := rfl
  given? _ := rfl
  contains _ := rfl
  size := rfl
  isEmpty := rfl
  equals _ := Iff.rfl
  entries := rfl
  alike := alike_of_given? fun _ => rfl

lemma ofPairs_congr {a b : List (String × String)} (same : ∀ name, last? a name = last? b name) :
    ofPairs a = ofPairs b :=
  ext_get? fun name => by rw [get?_ofPairs, get?_ofPairs, same]

lemma indistinguishable_ofPairs {a b : List (String × String)}
    (same : ∀ name, last? a name = last? b name) : Indistinguishable (ofPairs a) (ofPairs b) := by
  intro later
  rw [ofPairs_congr same]
  exact .refl _

/-- Requests are determined by the last values of the pairs they were made of, in any order and in
any table. -/
structure LastValuesDecide : Prop where
  keeps : ∀ pairs later, ((ofPairs pairs).setAll later).Keeps (pairs ++ later)
  eq_iff : ∀ a b : Request, a = b ↔ ∀ name, a.get? name = b.get? name
  /-- Another order of the entries would be as good. -/
  stored : ∀ given table, Stored given table →
    table.Perm (ofPairs given).entries ∧ ofPairs table = ofPairs given
  found : ∀ given table, Stored given table → ∀ name,
    (table.find? fun entry => entry.1 = name).map (·.2) = (ofPairs given).get? name
  indistinguishable_iff : ∀ a b,
    Indistinguishable (ofPairs a) (ofPairs b) ↔ ∀ name, last? a name = last? b name
  reordered : ∀ before after x y, x.1 ≠ y.1 →
    Indistinguishable (ofPairs (before ++ x :: y :: after)) (ofPairs (before ++ y :: x :: after))
  overridden : ∀ before pair later, pair.1 ∈ later.map Prod.fst →
    Indistinguishable (ofPairs (before ++ pair :: later)) (ofPairs (before ++ later))

/-- **A request is its last values.**  However it is built, it says the last value of each name and
has one entry for it; and requests are indistinguishable exactly if they were given the same last
values, in whatever order and whatever was overridden. -/
theorem lastValuesDecide : LastValuesDecide where
  keeps pairs later := by
    rw [setAll_ofPairs]
    exact keeps_ofPairs (pairs ++ later)
  eq_iff a b := ⟨fun same _ => same ▸ rfl, ext_get?⟩
  stored given table stored := ⟨stored_iff.1 stored, ofPairs_of_perm (stored_iff.1 stored)⟩
  found given table stored := find?_of_perm (stored_iff.1 stored)
  indistinguishable_iff a b := by
    refine ⟨fun alike name => ?_, indistinguishable_ofPairs⟩
    rw [← get?_ofPairs, ← get?_ofPairs]
    exact (alike []).get? name
  reordered before after x y different :=
    indistinguishable_ofPairs (last?_swap different before after)
  overridden before pair later again :=
    indistinguishable_ofPairs (last?_overridden again before)

end SaleSearch.Request

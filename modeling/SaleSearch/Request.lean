import SaleSearch.Text.FormEncoded

/-!
# Requests

A request is what its parameters say and nothing else: a map from names to values. A parameter that
is absent differs from one whose value is empty; most readers treat both alike and ask for
`given?`.

The entries are kept in strictly increasing order of their names, so that two requests with the same
values are the same request (`ext_get?`), whatever the order in which they were built.

* `Request.get?`, `Request.given?`, `Request.contains`, `Request.size` read a request.
* `Request.set` gives a name a value; the last value wins.
* `Request.ofPairs` and `Request.ofQuery` build one.
-/

namespace SaleSearch

/-- Names in strictly increasing order, hence without repetition. -/
abbrev Ordered (entries : List (String × String)) : Prop :=
  entries.Pairwise fun a b => a.1 < b.1

/-- The entries of a request. That they are ordered is part of the data, so that there is one list
for each map. -/
structure Request where
  entries : List (String × String)
  ordered : Ordered entries
  deriving DecidableEq

namespace Request

/-- Put a value in its place, over an earlier one of the same name. -/
def insert (name value : String) : List (String × String) → List (String × String)
  | [] => [(name, value)]
  | entry :: rest =>
      if name < entry.1 then (name, value) :: entry :: rest
      else if name = entry.1 then (name, value) :: rest
      else entry :: insert name value rest

/-- `insert` adds its entry and no other. -/
theorem mem_insert {name value : String} {e : String × String} :
    ∀ {entries : List (String × String)}, e ∈ insert name value entries →
      e = (name, value) ∨ e ∈ entries
  | [], h => by simpa [insert] using h
  | entry :: rest, h => by
      unfold insert at h
      split at h
      · simpa using h
      · split at h
        · rcases List.mem_cons.1 h with h | h
          · exact .inl h
          · exact .inr (List.mem_cons_of_mem _ h)
        · rcases List.mem_cons.1 h with h | h
          · exact .inr (h ▸ List.mem_cons_self)
          · exact (mem_insert h).imp_right (List.mem_cons_of_mem _)

/-- `insert` keeps entries in order. -/
theorem ordered_insert (name value : String) :
    ∀ {entries : List (String × String)}, Ordered entries → Ordered (insert name value entries)
  | [], _ => by simp [insert, Ordered]
  | entry :: rest, h => by
      have ⟨first, others⟩ := List.pairwise_cons.1 h
      unfold insert
      split
      · rename_i below
        refine List.pairwise_cons.2 ⟨fun e he => ?_, h⟩
        rcases List.mem_cons.1 he with he | he
        · exact he ▸ below
        · exact String.lt_trans below (first e he)
      · rename_i notBelow
        split
        · rename_i same
          exact List.pairwise_cons.2 ⟨fun e he => same ▸ first e he, others⟩
        · rename_i different
          refine List.pairwise_cons.2 ⟨fun e he => ?_, ordered_insert name value others⟩
          rcases mem_insert he with he | he
          · subst he
            exact String.not_le.1 fun le =>
              different (String.le_antisymm (String.not_lt.1 notBelow) le).symm
          · exact first e he

/-- The request without parameters. -/
def empty : Request where
  entries := []
  ordered := List.Pairwise.nil

/-- Give a parameter a value, replacing any earlier one. -/
def set (r : Request) (name value : String) : Request where
  entries := insert name value r.entries
  ordered := ordered_insert name value r.ordered

/-- The value of a parameter that is present, even if it is empty. -/
def get? (r : Request) (name : String) : Option String :=
  (r.entries.find? fun entry => entry.1 = name).map (·.2)

/-- The value of a parameter that is present and not empty. -/
def given? (r : Request) (name : String) : Option String :=
  (r.get? name).filter (· ≠ "")

/-- Is the parameter present? -/
def contains (r : Request) (name : String) : Bool :=
  (r.get? name).isSome

/-- The number of parameters that are present. -/
def size (r : Request) : Nat :=
  r.entries.length

/-- Is no parameter present? -/
def isEmpty (r : Request) : Bool :=
  r.entries.isEmpty

/-- Pairs in order; of several values for a name the last one counts. -/
def ofPairs (pairs : List (String × String)) : Request :=
  pairs.foldl (fun r pair => r.set pair.1 pair.2) empty

/-- The parameters of a query string, in the order in which they stand there. -/
def ofQuery (query : String) : Request :=
  ofPairs (Text.FormEncoded.readQuery query)

/-- Only the inserted name is found differently. -/
theorem find?_insert (name value other : String) :
    ∀ entries : List (String × String),
      ((insert name value entries).find? fun entry => entry.1 = other)
        = if name = other then some (name, value) else entries.find? fun entry => entry.1 = other
  | [] => by by_cases h : name = other <;> simp [insert, h]
  | entry :: rest => by
      have ih := find?_insert name value other rest
      unfold insert
      split
      · by_cases h : name = other <;> simp [List.find?_cons, h]
      · split
        · rename_i same
          by_cases h : name = other
          · simp [h]
          · simp [h, show ¬ entry.1 = other from same ▸ h]
        · rename_i different
          by_cases h : entry.1 = other
          · simp [h, show ¬ name = other from h ▸ different]
          · simp [h, ih]

/-- `set` changes the value of its parameter and no other. -/
@[simp] theorem get?_set (r : Request) (name value other : String) :
    (r.set name value).get? other = if name = other then some value else r.get? other := by
  simp only [get?, set, find?_insert]
  split <;> rfl

/-- An entry found under a name is among the entries and has that name. -/
theorem mem_of_find? {name : String} {e : String × String} {entries : List (String × String)}
    (h : (entries.find? fun entry => entry.1 = name) = some e) : e ∈ entries ∧ e.1 = name :=
  ⟨List.mem_of_find?_eq_some h, by simpa using List.find?_some h⟩

/-- In an ordered list the later entries do not have the name of the first. -/
theorem find?_eq_none_of_ordered {entry : String × String} {rest : List (String × String)}
    (h : Ordered (entry :: rest)) : (rest.find? fun e => e.1 = entry.1) = none := by
  refine List.find?_eq_none.2 fun e he => ?_
  have above := (List.pairwise_cons.1 h).1 e he
  have different : ¬ e.1 = entry.1 := fun same => String.lt_irrefl entry.1 (same ▸ above)
  simpa using different

/-- Ordered entries are determined by what is found under each name. -/
theorem eq_of_find? :
    ∀ {a b : List (String × String)}, Ordered a → Ordered b →
      (∀ name, (a.find? fun e => e.1 = name) = b.find? fun e => e.1 = name) → a = b
  | [], [], _, _, _ => rfl
  | [], y :: ys, _, _, same => by simpa using same y.1
  | x :: xs, [], _, _, same => by simpa using same x.1
  | x :: xs, y :: ys, hx, hy, same => by
      have foundX : ((y :: ys).find? fun e => e.1 = x.1) = some x := by
        rw [← same]; simp
      have foundY : ((x :: xs).find? fun e => e.1 = y.1) = some y := by
        rw [same]; simp
      have head : x = y := by
        rcases List.mem_cons.1 (mem_of_find? foundX).1 with h | h
        · exact h
        · rcases List.mem_cons.1 (mem_of_find? foundY).1 with h' | h'
          · exact h'.symm
          · exact absurd ((List.pairwise_cons.1 hx).1 y h')
              (String.lt_asymm ((List.pairwise_cons.1 hy).1 x h))
      subst head
      refine congrArg (x :: ·) (eq_of_find? (List.pairwise_cons.1 hx).2 (List.pairwise_cons.1 hy).2
        fun name => ?_)
      by_cases h : x.1 = name
      · subst h
        rw [find?_eq_none_of_ordered hx, find?_eq_none_of_ordered hy]
      · simpa [h] using same name

/-- Requests with the same value for every name are equal. -/
theorem ext_get? {a b : Request} (h : ∀ name, a.get? name = b.get? name) : a = b := by
  have found : ∀ name,
      (a.entries.find? fun e => e.1 = name) = b.entries.find? fun e => e.1 = name := by
    intro name
    have values := h name
    simp only [get?] at values
    cases ha : a.entries.find? fun e => e.1 = name with
    | none =>
        rw [ha] at values
        exact (Option.map_eq_none_iff.1 values.symm).symm
    | some x =>
        rw [ha] at values
        obtain ⟨y, hb, value⟩ := Option.map_eq_some_iff.1 values.symm
        have names := (mem_of_find? ha).2.trans (mem_of_find? hb).2.symm
        exact hb.symm ▸ congrArg some (Prod.ext names value.symm)
  have same := eq_of_find? a.ordered b.ordered found
  cases a; cases b; cases same; rfl

end Request

end SaleSearch

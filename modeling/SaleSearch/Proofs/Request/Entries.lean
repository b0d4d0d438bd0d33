import Mathlib.Data.List.Nodup
import SaleSearch.Request

/-!
# Entries of a request

A request has one entry for each of its names, so that what is found under a name is what there is.
The order in which the entries are kept is of no account to that.

* `mem_entries` and `mem_names` say which entries there are.
* `perm_set` is what setting a parameter does to them.
* `find?_of_perm` : looking up a name comes to the same in whatever order they are.
-/

namespace SaleSearch.Request

lemma nodup_names (r : Request) : (r.entries.map Prod.fst).Nodup := by
  refine List.pairwise_map.2 (r.ordered.imp ?_)
  intro a b below same
  exact String.lt_irrefl b.1 (same ▸ below)

/-- If no name has two entries, what is found under a name is what there is. -/
lemma find?_of_nodup {table : List (String × String)} (distinct : (table.map Prod.fst).Nodup)
    {name value : String} : (table.find? fun entry => entry.1 = name).map (·.2) = some value
      ↔ (name, value) ∈ table := by
  rw [Option.map_eq_some_iff]
  constructor
  · rintro ⟨entry, found, rfl⟩
    obtain ⟨among, rfl⟩ := mem_of_find? found
    exact among
  · intro listed
    cases found : table.find? fun entry => entry.1 = name with
    | none => simpa using List.find?_eq_none.1 found _ listed
    | some entry =>
        obtain ⟨among, same⟩ := mem_of_find? found
        obtain rfl := List.inj_on_of_nodup_map distinct among listed same
        exact ⟨_, rfl, rfl⟩

lemma mem_entries {r : Request} {name value : String} :
    (name, value) ∈ r.entries ↔ r.get? name = some value :=
  (find?_of_nodup r.nodup_names).symm

lemma mem_names {r : Request} {name : String} :
    name ∈ r.entries.map Prod.fst ↔ ∃ value, r.get? name = some value := by
  simp [mem_entries]

/-- Setting a parameter puts an entry into the place of an earlier one and keeps the others. -/
lemma perm_set (r : Request) (name value : String) : (r.set name value).entries.Perm
    ((name, value) :: r.entries.filter fun entry => entry.1 ≠ name) := by
  have fresh : (name, value) ∉ r.entries.filter fun entry => entry.1 ≠ name := by simp
  have distinct : ((name, value) :: r.entries.filter fun entry => entry.1 ≠ name).Nodup :=
    List.nodup_cons.2 ⟨fresh, r.nodup_names.of_map.filter _⟩
  refine (List.perm_ext_iff_of_nodup (nodup_names _).of_map distinct).2 fun ⟨other, text⟩ => ?_
  rw [mem_entries, get?_set, List.mem_cons, List.mem_filter, mem_entries]
  by_cases same : name = other
  · subst same
    simp [eq_comm]
  · simp [same, Ne.symm same]

section Rearranged

variable {r : Request} {table : List (String × String)} (same : table.Perm r.entries)
include same

lemma nodup_names_of_perm : (table.map Prod.fst).Nodup :=
  (same.map _).nodup_iff.2 r.nodup_names

/-- Looking up a name in the entries of a request, in whatever order they are, gives its value. -/
lemma find?_of_perm (name : String) :
    (table.find? fun entry => entry.1 = name).map (·.2) = r.get? name := by
  refine Option.ext fun value => ?_
  rw [find?_of_nodup (nodup_names_of_perm same), same.mem_iff, mem_entries]

end Rearranged

end SaleSearch.Request

import Mathlib.Tactic.Common
import SaleSearch.Json.Reader

/-!
# Parts of JSON values

What stands in a value that was read, at any depth.

* `Json.IsPart` says that a value is another one, or an element or a member of a part of it.
* `Json.Fits` is said of a value in which every integer fits 64 bits, and `fits_of_read?` of
  everything that is read.
-/

namespace SaleSearch.Json

open Number

/-- A value is a part of another one: it is the value itself, or a part of one of its elements or
members. -/
inductive IsPart (part : Json) : Json → Prop
  | self : IsPart part part
  | element {elements : List Json} {e : Json} (member : e ∈ elements) (inside : IsPart part e) :
      IsPart part (.array elements)
  | member {members : List (String × Json)} {m : String × Json} (member : m ∈ members)
      (inside : IsPart part m.2) : IsPart part (.object members)

lemma IsPart.trans {part inner json : Json} (h : part.IsPart inner) (h' : inner.IsPart json) :
    part.IsPart json := by
  induction h' with
  | self => exact h
  | element member _ ih => exact .element member ih
  | member member _ ih => exact .member member ih

/-- The value that `member?` finds is a part of the object. -/
lemma isPart_of_member? {members : List (String × Json)} {name : String} {value : Json}
    (h : member? members name = some value) : value.IsPart (.object members) := by
  unfold member? at h
  split at h
  · rename_i only found
    rw [Option.some.inj h] at found
    obtain ⟨m, member, rfl⟩ : ∃ m ∈ members.filter (fun m => m.1 = name), m.2 = value := by
      rw [← List.mem_map, ← values, found]
      exact List.mem_cons_self
    exact .member ((List.mem_filter.1 member).1) .self
  · cases h

/-- Signed or unsigned, every integer fits 64 bits. -/
def Fits (json : Json) : Prop :=
  ∀ n, IsPart (.integer n) json → -(signedBound : Int) ≤ n ∧ n < (unsignedBound : Int)

lemma Fits.part {part json : Json} (fits : json.Fits) (h : part.IsPart json) : part.Fits :=
  fun n inside => fits n (inside.trans h)

/-! ## The parts of each kind of value -/

lemma fits_null : Fits .null := fun _ h => nomatch h

lemma fits_bool (b : Bool) : Fits (.bool b) := fun _ h => nomatch h

lemma fits_float (x : Binary64) : Fits (.float x) := fun _ h => nomatch h

lemma fits_string (s : String) : Fits (.string s) := fun _ h => nomatch h

lemma fits_illFormed : Fits .illFormed := fun _ h => nomatch h

lemma fits_integer {n : Int} (least : -(signedBound : Int) ≤ n) (greatest : n < unsignedBound) :
    Fits (.integer n) := by
  intro m inside
  cases inside
  exact ⟨least, greatest⟩

lemma fits_array {elements : List Json} (fits : ∀ e ∈ elements, e.Fits) :
    Fits (.array elements) := by
  intro n inside
  cases inside with
  | element member inside => exact fits _ member n inside

lemma fits_object {members : List (String × Json)} (fits : ∀ m ∈ members, m.2.Fits) :
    Fits (.object members) := by
  intro n inside
  cases inside with
  | member member inside => exact fits _ member n inside

/-! ## What is read -/

/-- Every result of `mapM` is that of some element. -/
lemma exists_of_mem_mapM {α β : Type} {f : α → Option β} {as : List α} {bs : List β}
    (h : as.mapM f = some bs) {b : β} (member : b ∈ bs) : ∃ a ∈ as, f a = some b := by
  induction as generalizing bs with
  | nil =>
      obtain rfl : [] = bs := by simpa using h
      cases member
  | cons a rest ih =>
      rw [List.mapM_cons] at h
      obtain ⟨first, found, h⟩ := Option.bind_eq_some_iff.1 h
      obtain ⟨others, found', h⟩ := Option.bind_eq_some_iff.1 h
      obtain rfl := Option.some.inj h
      rcases List.mem_cons.1 member with rfl | later
      · exact ⟨a, List.mem_cons_self, found⟩
      · obtain ⟨a', member', same⟩ := ih found' later
        exact ⟨a', List.mem_cons_of_mem _ member', same⟩

namespace Reader

/-- Digits become an integer only if it fits 64 bits, and a float otherwise. -/
lemma fits_ofInteger (negative : Bool) (digits : List Char) : (ofInteger negative digits).Fits := by
  unfold ofInteger
  dsimp only
  split
  · exact fits_float _
  · split
    · rename_i range
      exact fits_integer range.1 range.2
    · exact fits_float _

lemma fits_number? {text rest : List Char} {json : Json}
    (read : number? text = some (json, rest)) : json.Fits := by
  unfold number? at read
  dsimp only at read
  split at read
  -- with a sign and without one
  all_goals
    split at read
    · cases read
    · split at read
      · obtain ⟨rfl, -⟩ := Prod.mk.inj (Option.some.inj read)
        exact fits_ofInteger _ _
      · obtain ⟨rfl, -⟩ := Prod.mk.inj (Option.some.inj read)
        exact fits_float _

lemma fits_ofText (s : Option String) : (ofText s).Fits := by
  cases s with
  | none => exact fits_illFormed
  | some s => exact fits_string s

lemma fits_ofMembers {members : List (Option String × Json)} (fits : ∀ m ∈ members, m.2.Fits) :
    (ofMembers members).Fits := by
  unfold ofMembers
  split
  · rename_i named found
    refine fits_object fun m member => ?_
    obtain ⟨m', member', named⟩ := exists_of_mem_mapM found member
    obtain ⟨name, -, rfl⟩ := Option.map_eq_some_iff.1 named
    exact fits m' member'
  · exact fits_illFormed

/-- What is read with some fuel fits: a value, all elements of an array and all members of an
object. -/
structure FitsAll (fuel : Nat) : Prop where
  value : ∀ {text json rest}, value? fuel text = some (json, rest) → json.Fits
  elements : ∀ {text elements rest}, elements? fuel text = some (elements, rest) →
    ∀ e ∈ elements, e.Fits
  members : ∀ {text members rest}, members? fuel text = some (members, rest) →
    ∀ m ∈ members, m.2.Fits

/-- The three readers return values that fit, by induction on the fuel. -/
lemma fitsAll (fuel : Nat) : FitsAll fuel := by
  induction fuel with
  | zero => exact ⟨nofun, nofun, nofun⟩
  | succ fuel ih =>
      refine ⟨?_, ?_, ?_⟩
      · intro text json rest read
        rw [value?] at read
        split at read
        · cases read
          exact fits_null
        · cases read
          exact fits_bool true
        · cases read
          exact fits_bool false
        · obtain ⟨_, -, same⟩ := Option.map_eq_some_iff.1 read
          cases same
          exact fits_ofText _
        · split at read
          · cases read
            exact fits_array nofun
          · obtain ⟨_, found, same⟩ := Option.map_eq_some_iff.1 read
            cases same
            exact fits_array (ih.elements found)
        · split at read
          · cases read
            exact fits_object nofun
          · obtain ⟨_, found, same⟩ := Option.map_eq_some_iff.1 read
            cases same
            exact fits_ofMembers (ih.members found)
        · exact fits_number? read
      · intro text elements rest read
        rw [elements?] at read
        obtain ⟨⟨first, after⟩, found, read⟩ := Option.bind_eq_some_iff.1 read
        dsimp only at read
        split at read
        · obtain ⟨⟨others, after'⟩, found', read⟩ := Option.bind_eq_some_iff.1 read
          cases read
          exact List.forall_mem_cons.2 ⟨ih.value found, ih.elements found'⟩
        · cases read
          exact List.forall_mem_singleton.2 (ih.value found)
        · cases read
      · intro text members rest read
        rw [members?] at read
        split at read
        · obtain ⟨⟨name, after⟩, found, read⟩ := Option.bind_eq_some_iff.1 read
          dsimp only at read
          split at read
          · obtain ⟨⟨value, after'⟩, found', read⟩ := Option.bind_eq_some_iff.1 read
            dsimp only at read
            split at read
            · obtain ⟨⟨others, last⟩, found'', read⟩ := Option.bind_eq_some_iff.1 read
              cases read
              exact List.forall_mem_cons.2 ⟨ih.value found', ih.members found''⟩
            · cases read
              exact List.forall_mem_singleton.2 (ih.value found')
            · cases read
          · cases read
        · cases read

end Reader

/-- Every integer of a value that `read?` returns fits 64 bits. -/
theorem fits_of_read? {text : String} {json : Json} (read : read? text = some json) :
    json.Fits := by
  obtain ⟨⟨value, rest⟩, found, read⟩ := Option.bind_eq_some_iff.1 read
  dsimp only at read
  split at read
  · cases read
    exact (Reader.fitsAll _).value found
  · cases read

end SaleSearch.Json

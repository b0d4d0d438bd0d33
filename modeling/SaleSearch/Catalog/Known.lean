/-!
# Sets of known values

Three sets of values are known to exist: collections, currencies and chains. Each is fetched from
the sales by a statement of its own. What a fetch brings back is remembered as a set, ordered by
code point and without repetition; a fetch that failed is remembered as the empty set.

* `Kind` names the three sets, and `Kind.query` is the statement that lists one.
* `Reply` is what a fetch brings back, and `Reply.known` the set that is remembered of it.
-/

namespace SaleSearch.Catalog

/-- The three kinds of names that a request is checked for. -/
inductive Kind where
  | collectionNames
  | symbolCodes
  | chains
  deriving DecidableEq, Repr

namespace Kind

/-- The kinds in the order in which a request is checked against them. -/
def all : List Kind := [.collectionNames, .symbolCodes, .chains]

theorem mem_all (kind : Kind) : kind ∈ all := by
  cases kind <;> decide

/-- The kind as it is called in the lines that a source logs. -/
def label : Kind → String
  | .collectionNames => "collection names"
  | .symbolCodes => "symbol codes"
  | .chains => "chains"

/-- The kind as the name of a field of a reference file. -/
def name : Kind → String
  | .collectionNames => "collection_names"
  | .symbolCodes => "symbol_codes"
  | .chains => "chains"

/-- The kind of a field name. -/
def ofName? (name : String) : Option Kind :=
  all.find? fun kind => kind.name = name

/-- The statement that lists the set. -/
def query : Kind → String
  | .collectionNames => "SELECT DISTINCT collection_name FROM Sales"
  | .symbolCodes => "SELECT DISTINCT listing_price_symcode FROM Sales"
  | .chains => "SELECT DISTINCT chain FROM Sales"

end Kind

/-- The answer of a source: some values in any order, or a failure with its reason. -/
inductive Reply where
  | values (list : List String)
  | failure (reason : String)
  deriving DecidableEq, Repr

/-- How a failed fetch is reported. -/
def failureMessage (reason : String) : String :=
  "Failed to fetch reference data: " ++ reason

/-- Put a value in its place in an ordered list, unless it is there. -/
def insertValue (value : String) : List String → List String
  | [] => [value]
  | first :: rest =>
      if value < first then value :: first :: rest
      else if value = first then first :: rest
      else first :: insertValue value rest

/-- The distinct values of a list, ordered by code point. -/
def known (values : List String) : List String :=
  values.foldr insertValue []

/-- The set that is remembered of a reply. A failure counts as the empty set. -/
def Reply.known : Reply → List String
  | .values list => Catalog.known list
  | .failure _ => []

/-- `insertValue` adds its value and keeps all others. -/
theorem mem_insertValue {value other : String} {values : List String} :
    other ∈ insertValue value values ↔ other = value ∨ other ∈ values := by
  induction values with
  | nil => simp [insertValue]
  | cons first rest ih =>
      unfold insertValue
      split
      · simp
      · split
        · rename_i same
          subst same
          simp
        · simp only [List.mem_cons, ih]
          constructor <;> rintro (h | h | h) <;> simp [h]

/-- `insertValue` keeps a list strictly increasing. -/
theorem pairwise_insertValue {value : String} {values : List String}
    (h : values.Pairwise (· < ·)) : (insertValue value values).Pairwise (· < ·) := by
  induction values with
  | nil => simp [insertValue]
  | cons first rest ih =>
      obtain ⟨least, ordered⟩ := List.pairwise_cons.1 h
      unfold insertValue
      split
      · rename_i smaller
        refine List.pairwise_cons.2 ⟨?_, h⟩
        intro other mem
        rcases List.mem_cons.1 mem with rfl | mem
        · exact smaller
        · exact String.lt_trans smaller (least other mem)
      · split
        · exact h
        · rename_i notSmaller different
          refine List.pairwise_cons.2 ⟨?_, ih ordered⟩
          intro other mem
          rcases mem_insertValue.1 mem with rfl | mem
          · exact String.not_le.1 fun le =>
              different (String.le_antisymm le (String.not_lt.1 notSmaller))
          · exact least other mem

/-- `known` keeps exactly the values that it is given. -/
theorem mem_known {value : String} {values : List String} :
    value ∈ known values ↔ value ∈ values := by
  induction values with
  | nil => simp [known]
  | cons first rest ih =>
      rw [known, List.foldr_cons, mem_insertValue, List.mem_cons]
      exact or_congr_right ih

/-- The values of `known` are strictly increasing, hence distinct. -/
theorem pairwise_known (values : List String) : (known values).Pairwise (· < ·) := by
  induction values with
  | nil => exact List.Pairwise.nil
  | cons first rest ih => exact pairwise_insertValue ih

end SaleSearch.Catalog

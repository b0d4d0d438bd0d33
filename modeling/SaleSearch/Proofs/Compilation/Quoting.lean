import SaleSearch.Proofs.Compilation.Sound

/-!
# Quotes in statements

Values that are written into a statement are put between quotes as they are, so that nothing but
the grammars keeps a request from ending a quote or the statement.  They do so in every compiled
statement, whatever the request.

* `Inert` says of a text that it has the quotes of its conditions and no others, and nothing that
  could end it, escape from it or hide the rest of it.
* `Statement.inert` derives it from the soundness of the segments.
* `inline_inert` is the result for listings and summaries.
-/

namespace SaleSearch

open Grammar Sql Segment Text

/-- The attribute and the string of a condition on a string. -/
def Sql.Predicate.string? : Predicate → Option (Field × String)
  | .compare field _ (.string s) => some (field, s)
  | .contains field (.string s) => some (field, s)
  | _ => none

/-- A string is what the grammar of an attribute makes of the parameter of the same name. -/
def Validated (request : Request) : Field → String → Prop
  | .collectionName, s => (request.get? "collection_name").bind collectionName? = some s
  | .chain, s => (request.get? "chain").bind chain? = some s
  | .listingPriceSymcode, s => (request.get? "listing_price_symcode").bind symbolCode? = some s
  | .trxId, s => (request.get? "trx_id").bind transactionHash? = some s
  | _, _ => False

/-- A text in which the strings of some conditions, and nothing else that a request sends, stand
between quotes. -/
structure Inert (request : Request) (filter : List Predicate) (sql : String) : Prop where
  printable : ∀ c ∈ sql.toList, ' ' ≤ c ∧ c ≤ '~'
  no_special : ∀ c ∈ sql.toList, c ∉ [';', '\\', '/', '#', '"', '\x60', '\x7b', '\x7d']
  no_comment : ¬ ['-', '-'] <:+: sql.toList
  /-- There is a pair of quotes for each condition on a string, in their order. -/
  quotes : Quoted ((filter.filterMap Predicate.string?).map Prod.snd) sql
  nonempty : ∀ found ∈ filter.filterMap Predicate.string?, found.2 ≠ ""
  code : ∀ found ∈ filter.filterMap Predicate.string?,
    ∀ c ∈ found.2.toList, c.isAlphanum = true ∨ c = '.'
  validated : ∀ found ∈ filter.filterMap Predicate.string?, Validated request found.1 found.2

/-! ## The strings of a request -/

/-- Only equality is asked of strings, so their parameters bear the names of the attributes. -/
lemma Slot.eq_compare_of_string :
    ∀ slot ∈ Slot.all, slot.field.typeName = "String" → slot = .compare .equal slot.field := by
  decide

/-- A string that `Filter.value?` returns for an attribute is `Validated` for it. -/
lemma validated_of_value? {request : Request} {field : Field} {s : String}
    (h : Filter.value? field (request.get? field.name) = .ok (some (.string s))) :
    Validated request field s := by
  have type : "String" = field.typeName := Filter.typeName_of_value? h
  cases field with
  | collectionName | chain | listingPriceSymcode | trxId =>
      obtain ⟨text, found, eq⟩ := Option.map_eq_some_iff.1 (Except.ok.inj h)
      obtain rfl := Value.string.inj eq
      exact found
  | saleId | blockNumber | timestamp | listingPriceAmount | listingPriceValue | assetIds =>
      exact absurd type (by decide)

/-- The string of a `Formed` condition is non-empty and of code characters. -/
lemma Sql.Predicate.Formed.plain_of_string? {p : Predicate} (formed : p.Formed)
    {found : Field × String} (h : p.string? = some found) : (Value.string found.2).Plain := by
  cases formed with
  | @compare field comparison v plain type =>
      cases v with
      | string s =>
          obtain rfl := Option.some.inj h
          exact plain
      | unsigned | signed | float => cases h
  | @contains v plain type =>
      cases v with
      | string s =>
          obtain rfl := Option.some.inj h
          exact plain
      | unsigned | signed | float => cases h
  | window bounds => cases h

/-- Every string among the assembled conditions is `Validated`. -/
lemma validated_of_mem {request : Request} {scope : Scope} {filter : List Predicate}
    (assembled : Filter.assemble request scope = .ok filter) {found : Field × String}
    (h : found ∈ filter.filterMap Predicate.string?) : Validated request found.1 found.2 := by
  obtain ⟨p, hp, hfound⟩ := List.mem_filterMap.1 h
  obtain ⟨slot, hslot, v, hv, rfl⟩ := Filter.exists_slot_of_mem_assemble assembled hp
  cases v with
  | string s =>
      have equal := Slot.eq_compare_of_string slot hslot (Filter.typeName_of_value? hv).symm
      rw [equal] at hfound hv
      obtain rfl := Option.some.inj hfound
      exact validated_of_value? hv
  | unsigned | signed | float => cases slot <;> cases hfound

/-- The strings among the values of conditions are those of the conditions on strings. -/
lemma filterMap_values {filter : List Predicate} (asked : ∀ p ∈ filter, p.IsAsked) :
    (filter.flatMap Predicate.values).filterMap Value.string?
      = (filter.filterMap Predicate.string?).map Prod.snd := by
  induction filter with
  | nil => rfl
  | cons p rest ih =>
      rw [List.flatMap_cons, List.filterMap_append, ih fun q hq => asked q (by simp [hq])]
      cases p with
      | compare field comparison v => cases v <;> rfl
      | contains field v => cases v <;> rfl
      | window column low high => exact absurd (asked (.window column low high) (by simp)) id

/-! ## Statements -/

/-- A statement with sound segments is inert if its strings are those of the conditions. -/
theorem Sql.Statement.inert {s : Statement} {request : Request} {scope : Scope}
    {filter : List Predicate} (sound : ∀ segment ∈ s.framed, segment.Sound)
    (assembled : Filter.assemble request scope = .ok filter)
    (strings : (slots s.framed).filterMap Value.string?
      = (filter.filterMap Predicate.string?).map Prod.snd) :
    Inert request filter (s.compiled .inline).sql := by
  have tame : Tame (s.compiled .inline).sql.toList := tame_fill sound 0
  have plain : ∀ found ∈ filter.filterMap Predicate.string?, (Value.string found.2).Plain := by
    intro found h
    obtain ⟨p, hp, hfound⟩ := List.mem_filterMap.1 h
    exact (Filter.formed_of_assemble assembled p hp).plain_of_string? hfound
  refine ⟨fun c hc => ?_, fun c hc => ?_, tame.no_infix, ?_, ?_, ?_, ?_⟩
  · have harmless := tame.harmless c hc
    simp only [isHarmless, Bool.and_eq_true, decide_eq_true_eq] at harmless
    exact harmless.1
  · have harmless := tame.harmless c hc
    simp only [isHarmless, Bool.and_eq_true, Bool.not_eq_true', special] at harmless
    simpa using harmless.2
  · rw [← strings]
    exact quoted_fill sound 0
  · exact fun found h => (plain found h).1
  · intro found h c hc
    simpa [isCode] using (plain found h).2 c hc
  · exact fun found h => validated_of_mem assembled h

/-- The window of a history adds no strings, as it compares with numbers. -/
lemma Summary.strings_shape (mode : AggregateMode) (choice : Summary.Choice)
    (filter : List Predicate) (window : Option (Int × Int)) :
    (Summary.shape mode choice filter window).clauses.values.filterMap Value.string?
      = (filter.flatMap Predicate.values).filterMap Value.string? := by
  cases mode with
  | point => rfl
  | history =>
      show ((filter ++ window.toList.map Summary.windowPredicate).flatMap _).filterMap _ = _
      rw [List.flatMap_append, List.filterMap_append]
      cases window <;> simp [Summary.windowPredicate, Predicate.values, Value.string?]

/-- **Nothing that a request sends gets out of its quotes.**  The text of a listing or a summary
with its values written into it is printable ASCII without a character that could end the
statement, escape or comment.  Its quotes are those around the strings that conditions compare
with; these are words of letters, digits and points that the grammars have accepted. -/
theorem inline_inert (request : Request) (settings : Settings)
    (inline : settings.bindValues = false) :
    (∀ c, Listing.compile request settings = .ok c →
        ∃ filter, Filter.assemble request .records = .ok filter ∧ Inert request filter c.sql)
      ∧ ∀ mode now c, Summary.compile request mode settings now = .ok c →
        ∃ filter, Filter.assemble request (Summary.scope mode) = .ok filter
          ∧ Inert request filter c.sql := by
  have passing := passing_of_inline inline
  constructor
  · intro c compiled
    obtain ⟨filter, assembled, rfl⟩ := Listing.compile_eq_ok.1 compiled
    refine ⟨filter, assembled, ?_⟩
    rw [passing]
    refine Statement.inert ?_ assembled ?_
    · exact Listing.sound_framed (Filter.formed_of_assemble assembled) _ _
    · rw [Statement.framed, slots, Clauses.slots_segments]
      exact filterMap_values (Filter.isAsked_of_assemble assembled)
  · intro mode now c compiled
    obtain ⟨choice, filter, window, -, assembled, -, rfl⟩ := Summary.compile_eq_ok.1 compiled
    refine ⟨filter, assembled, ?_⟩
    rw [passing]
    refine Statement.inert ?_ assembled ?_
    · exact Summary.sound_framed (Filter.formed_of_assemble assembled) mode choice window
    · rw [Statement.framed, slots, Clauses.slots_segments, Summary.strings_shape]
      exact filterMap_values (Filter.isAsked_of_assemble assembled)

/-- A collection, and a chain that tries to end the statement. -/
def hostileRequest : Request :=
  .ofPairs [("collection_name", "heroes"), ("chain", "wax\x27; DROP TABLE Sales --")]

/-- The chain is refused by its grammar, so that only the collection is compared with. -/
theorem inline_inert_hostileRequest :
    ∃ listing summary filter,
      Listing.compile hostileRequest {} = .ok listing
        ∧ Summary.compile hostileRequest .history {} 1700000000 = .ok summary
        ∧ filter = [.compare .collectionName .equal (.string "heroes")]
        ∧ Inert hostileRequest filter listing.sql ∧ Inert hostileRequest filter summary.sql := by
  have asked : Filter.assemble hostileRequest .records
      = .ok [.compare .collectionName .equal (.string "heroes")] := by decide +kernel
  have askedHistory : Filter.assemble hostileRequest .history
      = .ok [.compare .collectionName .equal (.string "heroes")] := by decide +kernel
  obtain ⟨listing, listed⟩ : ∃ c, Listing.compile hostileRequest {} = .ok c :=
    ⟨_, Listing.compile_eq_ok.2 ⟨_, asked, rfl⟩⟩
  obtain ⟨summary, summed⟩ : ∃ c, Summary.compile hostileRequest .history {} 1700000000 = .ok c :=
    ⟨_, Summary.compile_eq_ok.2 ⟨_, _, _, rfl, askedHistory, rfl, rfl⟩⟩
  obtain ⟨forListing, found, inertListing⟩ := (inline_inert hostileRequest {} rfl).1 _ listed
  obtain ⟨forSummary, foundHistory, inertSummary⟩ :=
    (inline_inert hostileRequest {} rfl).2 .history 1700000000 _ summed
  obtain rfl := Except.ok.inj (asked.symm.trans found)
  obtain rfl := Except.ok.inj (askedHistory.symm.trans foundHistory)
  exact ⟨_, _, _, listed, summed, rfl, inertListing, inertSummary⟩

end SaleSearch

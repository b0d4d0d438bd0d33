import SaleSearch.Filter
import SaleSearch.Proofs.Outcome
import SaleSearch.Proofs.Sql.Literal

/-!
# Assembled conditions

What is known of every condition that a request gives.

* `Filter.exists_slot_of_mem_assemble`: it comes from one place, whose parameter has a value by the
  grammar of its attribute.
* `Filter.plain_of_value?` and `Filter.typeName_of_value?`: such a value is plain, and its type is
  that of the attribute alone.
-/

namespace SaleSearch

open Grammar Sql Text

/-- The type of the values of an attribute. -/
def Field.typeName : Field → String
  | .collectionName | .chain | .listingPriceSymcode | .trxId => "String"
  | .saleId | .blockNumber | .listingPriceAmount | .assetIds => "UInt64"
  | .listingPriceValue => "Float64"
  | .timestamp => "Int64"

/-! ## Values -/

lemma Grammar.within_iff {first last c : Char} :
    within first last c = true ↔ first.toNat ≤ c.toNat ∧ c.toNat ≤ last.toNat := by
  simp only [within, Bool.and_eq_true, decide_eq_true_eq]
  exact Iff.rfl

/-- What a grammar of codes reads is plain if its alphabet is one of codes. -/
lemma Grammar.CodeGrammar.plain_of_read? {g : CodeGrammar}
    (alphabet : ∀ c, g.alphabet c = true → isCode c = true) {raw text : String}
    (h : g.read? raw = some text) : (Value.string text).Plain := by
  unfold CodeGrammar.read? at h
  split at h
  · rename_i accepted
    obtain rfl := Option.some.inj h
    simp only [CodeGrammar.accepts, Bool.and_eq_true, Bool.not_eq_true', List.all_eq_true]
      at accepted
    refine ⟨fun empty => ?_, fun c hc => alphabet c (accepted.1.2 c hc)⟩
    simp [empty] at accepted
  · cases h

/-- A code is read from some text, which for a transaction hash is not all that was sent. -/
lemma Grammar.plain_of_bind {g : CodeGrammar} {read? : String → Option String}
    (alphabet : ∀ c, g.alphabet c = true → isCode c = true)
    (reads : ∀ raw text, read? raw = some text → ∃ start, g.read? start = some text)
    {raw : Option String} {v : Value} (h : (raw.bind read?).map .string = some v) : v.Plain := by
  obtain ⟨text, htext, rfl⟩ := Option.map_eq_some_iff.1 h
  obtain ⟨sent, -, hsent⟩ := Option.bind_eq_some_iff.1 htext
  obtain ⟨start, hstart⟩ := reads sent text hsent
  exact CodeGrammar.plain_of_read? alphabet hstart

lemma Grammar.isCode_of_collectionName {c : Char} (h : collectionName.alphabet c = true) :
    isCode c = true := by
  simp only [collectionName, Bool.or_eq_true, within_iff, decide_eq_true_eq] at h
  rcases h with (h | h) | rfl
  · exact Bool.or_eq_true_iff.2 (.inl (isAlphanum_iff.2 (.inr (.inl h))))
  · have bounds : 48 ≤ c.toNat ∧ c.toNat ≤ 57 :=
      ⟨le_trans (by decide) h.1, le_trans h.2 (by decide)⟩
    exact Bool.or_eq_true_iff.2 (.inl (isAlphanum_iff.2 (.inr (.inr bounds))))
  · decide

lemma Grammar.isCode_of_chain {c : Char} (h : chain.alphabet c = true) : isCode c = true := by
  simp only [chain, Bool.or_eq_true, within_iff] at h
  rcases h with (h | h) | h
  · exact Bool.or_eq_true_iff.2 (.inl (isAlphanum_iff.2 (.inr (.inl h))))
  · exact Bool.or_eq_true_iff.2 (.inl (isAlphanum_iff.2 (.inl h)))
  · exact Bool.or_eq_true_iff.2 (.inl (isAlphanum_iff.2 (.inr (.inr h))))

lemma Grammar.isCode_of_symbolCode {c : Char} (h : symbolCode.alphabet c = true) :
    isCode c = true :=
  isCode_of_chain (by simp only [symbolCode] at h; simp [chain, h])

lemma Grammar.isCode_of_hexadecimal {c : Char} (h : hexadecimal.alphabet c = true) :
    isCode c = true := by
  refine isCode_of_chain ?_
  simp only [hexadecimal, chain, Bool.or_eq_true, within_iff] at h ⊢
  rcases h with (h | h) | h
  · exact .inl (.inl ⟨h.1, le_trans h.2 (by decide)⟩)
  · exact .inl (.inr ⟨h.1, le_trans h.2 (by decide)⟩)
  · exact .inr h

/-- `decimal?` refuses numbers that overflow. -/
lemma Grammar.finite_of_decimal? {text : List Char} {x : Number.Binary64}
    (h : decimal? text = some x) : x.isFinite = true := by
  unfold decimal? at h
  split at h
  · cases h
  · dsimp only at h
    split_ifs at h with ascii finite
    obtain rfl := Option.some.inj h
    exact finite

/-- An accepted decimal is finite and positive. -/
lemma Grammar.plain_of_positiveDecimal {raw : Option String} {x : Number.Binary64}
    (h : (positiveDecimal raw).value? = some x) : (Value.float x).Plain := by
  unfold positiveDecimal at h
  split at h
  · cases h
  · cases h
  · split at h
    · rename_i found
      split at h
      · rename_i positive
        obtain rfl := Option.some.inj h
        exact ⟨finite_of_decimal? found, positive⟩
      · cases h
    · cases h

namespace Filter

/-- Every value that `Filter.value?` returns is plain. -/
theorem plain_of_value? {field : Field} {raw : Option String} {v : Value}
    (h : value? field raw = .ok (some v)) : v.Plain := by
  cases field with
  | collectionName =>
      exact plain_of_bind (fun _ => isCode_of_collectionName) (fun text _ hs => ⟨text, hs⟩)
        (Except.ok.inj h)
  | chain =>
      exact plain_of_bind (fun _ => isCode_of_chain) (fun text _ hs => ⟨text, hs⟩) (Except.ok.inj h)
  | listingPriceSymcode =>
      exact plain_of_bind (fun _ => isCode_of_symbolCode) (fun text _ hs => ⟨text, hs⟩)
        (Except.ok.inj h)
  | trxId =>
      exact plain_of_bind (fun _ => isCode_of_hexadecimal) (fun _ _ hs => ⟨_, hs⟩) (Except.ok.inj h)
  | saleId | blockNumber | listingPriceAmount | assetIds =>
      obtain ⟨n, -, rfl⟩ := Option.map_eq_some_iff.1 (Except.ok.inj h)
      trivial
  | listingPriceValue =>
      obtain ⟨x, hx, rfl⟩ := Option.map_eq_some_iff.1 (Except.ok.inj h)
      exact plain_of_positiveDecimal hx
  | timestamp =>
      obtain ⟨seconds, -, found⟩ := map_eq_ok.1 h
      obtain ⟨t, -, rfl⟩ := Option.map_eq_some_iff.1 found
      trivial

/-- The attribute decides the type of the value that `Filter.value?` returns. -/
theorem typeName_of_value? {field : Field} {raw : Option String} {v : Value}
    (h : value? field raw = .ok (some v)) : v.typeName = field.typeName := by
  cases field with
  | timestamp =>
      obtain ⟨seconds, -, found⟩ := map_eq_ok.1 h
      obtain ⟨t, -, rfl⟩ := Option.map_eq_some_iff.1 found
      rfl
  | _ =>
      obtain ⟨_, -, rfl⟩ := Option.map_eq_some_iff.1 (Except.ok.inj h)
      rfl

/-! ## Places -/

/-- The condition of a slot holds the value of its parameter. -/
lemma exists_value_of_read {request : Request} {slot : Slot} {p : Predicate}
    (h : slot.read request = .ok (some p)) :
    ∃ v, value? slot.field (request.get? slot.parameter) = .ok (some v) ∧ p = slot.predicate v := by
  obtain ⟨value, found, given⟩ := map_eq_ok.1 h
  obtain ⟨v, rfl, rfl⟩ := Option.map_eq_some_iff.1 given
  exact ⟨v, found, rfl⟩

/-- Every condition that is collected is read at one of the slots. -/
lemma exists_slot_of_mem_collect {request : Request} {slots : List Slot}
    {predicates : List Predicate} (h : collect request slots = .ok predicates) {p : Predicate}
    (hp : p ∈ predicates) : ∃ slot ∈ slots, slot.read request = .ok (some p) := by
  induction slots generalizing predicates with
  | nil =>
      obtain rfl := Except.ok.inj h
      cases hp
  | cons slot rest ih =>
      unfold collect at h
      cases found : slot.read request with
      | error e => rw [found] at h; cases h
      | ok first =>
          rw [found] at h
          obtain ⟨others, collected, rfl⟩ := map_eq_ok.1 h
          rcases List.mem_append.1 hp with hp | hp
          · rw [Option.mem_toList] at hp
            exact ⟨slot, by simp, hp ▸ found⟩
          · obtain ⟨other, hother, hread⟩ := ih collected hp
            exact ⟨other, by simp [hother], hread⟩

/-- Every assembled condition is that of a slot, with the value that the parameter of the slot
has. -/
theorem exists_slot_of_mem_assemble {request : Request} {scope : Scope} {filter : List Predicate}
    (h : assemble request scope = .ok filter) {p : Predicate} (hp : p ∈ filter) :
    ∃ slot ∈ Slot.all, ∃ v, value? slot.field (request.get? slot.parameter) = .ok (some v)
      ∧ p = slot.predicate v := by
  obtain ⟨slot, hslot, hread⟩ := exists_slot_of_mem_collect h hp
  exact ⟨slot, (List.mem_filter.1 hslot).1, exists_value_of_read hread⟩

end Filter

end SaleSearch

import SaleSearch.Proofs.Number.Written
import SaleSearch.Proofs.Sql.Segment
import SaleSearch.Proofs.Text.Alphabet

/-!
# Literals

What a value looks like in a statement, given that it is `Plain`: strings are names, and floats are
positive and finite.  `LiteralForm` lists the three looks there are.

* `Plain.mem_literal` is the alphabet of literals, which has neither blanks nor brackets.
* `tame_fill` says of `Sound` segments, whose fixed texts are framed and whose values are plain,
  that their text is tame.
* `quoted_fill` finds every quote in that text: they stand in pairs around the strings.
-/

namespace SaleSearch.Sql

open Text

/-- What the filter puts into conditions: strings are non-empty words of code characters, and floats
are finite and positive. -/
def Value.Plain : Value → Prop
  | .float x => x.isFinite = true ∧ x.isPositive = true
  | .string s => s ≠ "" ∧ ∀ c ∈ s.toList, isCode c = true
  | .unsigned _ | .signed _ => True

/-- The text of a string value. -/
def Value.string? : Value → Option String
  | .string s => some s
  | _ => none

/-- How a string stands in a statement. -/
def quoted (s : String) : String :=
  "'" ++ s ++ "'"

/-- A string is written between quotes, with nothing escaped. -/
lemma Value.literal_of_string? {v : Value} {word : String} (h : v.string? = some word) :
    v.literal = quoted word := by
  cases v with
  | string s =>
      obtain rfl := Option.some.inj h
      rfl
  | unsigned | signed | float => cases h

lemma mem_quoted {s : String} {c : Char} :
    c ∈ (quoted s).toList ↔ c = '\'' ∨ c ∈ s.toList := by
  simp only [quoted, String.toList_append, List.mem_append, show "'".toList = ['\''] from rfl,
    List.mem_singleton]
  tauto

lemma isCode_of_isDigit {c : Char} (h : c.isDigit = true) : isCode c = true := by
  simp [isCode, Char.isAlphanum, h]

lemma isCode_of_mem_repr {n : Nat} {c : Char} (h : c ∈ n.repr.toList) : isCode c = true :=
  isCode_of_isDigit (Number.isDigit_of_mem_repr h)

/-- A finite positive float in plain layout is digits and a decimal point. -/
lemma isCode_of_mem_plain {x : Number.Binary64} (finite : x.isFinite = true)
    (positive : x.isPositive = true) {c : Char}
    (h : c ∈ (Number.Layout.plain.text x).toList) : isCode c = true := by
  rcases (Number.plain_text_chars finite positive).2 c h with hc | rfl
  · exact isCode_of_isDigit hc
  · decide

/-- What a literal can be: a bare word of code characters, such a word behind a hyphen, or a
non-empty word between quotes. -/
inductive LiteralForm : Value → Prop where
  | bare {v : Value} (notString : v.string? = none)
      (code : ∀ c ∈ v.literal.toList, isCode c = true) : LiteralForm v
  | negative {n : Int} (word : String) (nonempty : word ≠ "")
      (code : ∀ c ∈ word.toList, isCode c = true)
      (literal : (Value.signed n).literal = "-" ++ word) : LiteralForm (.signed n)
  | string {s : String} (nonempty : s ≠ "") (code : ∀ c ∈ s.toList, isCode c = true) :
      LiteralForm (.string s)

/-- Every plain value has a literal of one of the three forms. -/
lemma Value.Plain.form {v : Value} (h : v.Plain) : LiteralForm v := by
  cases v with
  | unsigned n => exact .bare rfl fun c hc => isCode_of_mem_repr hc
  | signed n =>
      by_cases negative : n < 0
      · refine .negative n.natAbs.repr Nat.repr_ne_empty (fun c hc => isCode_of_mem_repr hc) ?_
        simp [Value.literal, Value.text, Number.decimal, negative]
      · refine .bare rfl fun c hc => ?_
        simp only [Value.literal, Value.text, Number.decimal, negative, if_false] at hc
        exact isCode_of_mem_repr hc
  | float x => exact .bare rfl fun c hc => isCode_of_mem_plain h.1 h.2 hc
  | string s => exact .string h.1 h.2

/-- The characters of literals: those of code, the hyphen and the quote. -/
def isLiteral (c : Char) : Bool :=
  isCode c || c == '-' || c == '\''

lemma Value.Plain.mem_literal {v : Value} (h : v.Plain) {c : Char} (hc : c ∈ v.literal.toList) :
    isLiteral c = true := by
  cases h.form with
  | bare _ code => simp [isLiteral, code c hc]
  | negative word _ code literal =>
      rw [literal, String.toList_append, List.mem_append] at hc
      rcases hc with hc | hc
      · rw [show "-".toList = ['-'] from rfl, List.mem_singleton] at hc
        subst hc
        decide
      · simp [isLiteral, code c hc]
  | string _ code =>
      rcases mem_quoted.1 hc with rfl | hc
      · decide
      · simp [isLiteral, code c hc]

lemma Value.Plain.quote_notMem_literal {v : Value} (h : v.Plain) (notString : v.string? = none) :
    '\'' ∉ v.literal.toList := by
  intro hc
  cases h.form with
  | bare _ code => exact absurd (code _ hc) (by decide)
  | negative word _ code literal =>
      rw [literal, String.toList_append, List.mem_append] at hc
      rcases hc with hc | hc
      · exact absurd hc (by decide)
      · exact absurd (code _ hc) (by decide)
  | string => cases notString

/-- The literal of a plain value is `Tame`. -/
lemma Value.Plain.tame_literal {v : Value} (h : v.Plain) : Tame v.literal.toList := by
  cases h.form with
  | bare _ code => exact .of_frame fun c hc => isFrame_of_isCode (code c hc)
  | negative word nonempty code literal =>
      have tame_word : Tame word.toList := .of_frame fun c hc => isFrame_of_isCode (code c hc)
      rw [literal, String.toList_append]
      refine ⟨?_, ?_, ?_⟩
      · intro c hc
        rcases List.mem_append.1 hc with hc | hc
        · rw [show "-".toList = ['-'] from rfl, List.mem_singleton] at hc
          subst hc
          decide
        · exact tame_word.harmless c hc
      · refine List.isChain_append.2 ⟨.singleton _, tame_word.chain, fun _ _ d hd hyphens => ?_⟩
        exact ne_of_alphabet (code d (List.mem_of_head? hd)) (by decide) hyphens.2
      · intro c hc
        have last : c ∈ word.toList.getLast? := by
          rwa [List.getLast?_append_of_ne_nil _ (by simpa using nonempty)] at hc
        exact tame_word.last c last
  | string _ code =>
      refine .of_no_hyphen (fun c hc => ?_) fun c hc => ?_
      · rcases mem_quoted.1 hc with rfl | hc
        · decide
        · exact isHarmless_of_isFrame (isFrame_of_isCode (code c hc))
      · rcases mem_quoted.1 hc with rfl | hc
        · decide
        · exact ne_of_alphabet (code c hc) (by decide)

/-! ## Segments -/

namespace Segment

/-- A fixed text that is `Framed`, or the slot of a plain value. -/
def Sound : Segment → Prop
  | .fixed text => Framed text
  | .slot v => v.Plain

/-- The text of sound segments with `Passing.inline` is `Tame`, by induction on the segments and
`Tame.append`. -/
theorem tame_fill {segments : List Segment} (sound : ∀ s ∈ segments, s.Sound) (next : Nat) :
    Tame (fill .inline next segments).toList := by
  induction segments generalizing next with
  | nil => exact .nil
  | cons s rest ih =>
      have tame_rest := ih (fun t ht => sound t (by simp [ht]))
      have first := sound s (by simp)
      cases s with
      | fixed text =>
          rw [fill, String.toList_append]
          exact (Tame.of_frame (over_iff.1 first)).append (tame_rest next)
      | slot v =>
          rw [fill, String.toList_append]
          exact (Value.Plain.tame_literal first).append (tame_rest (next + 1))

/-- Every quote of the text belongs to one of the words: the text is some texts without quotes, with
the quoted words in between in their order. -/
def Quoted (words : List String) (text : String) : Prop :=
  ∃ outside : List String, outside.length = words.length + 1
    ∧ (∀ t ∈ outside, '\'' ∉ t.toList)
    ∧ text = interleave outside (words.map quoted)

lemma Quoted.nil : Quoted [] "" :=
  ⟨[""], rfl, by simp, rfl⟩

/-- Text without quotes goes to the text outside that stands in front. -/
lemma Quoted.prepend {words : List String} {text rest : String} (h : Quoted words rest)
    (no_quote : '\'' ∉ text.toList) : Quoted words (text ++ rest) := by
  obtain ⟨outside, length, no_quotes, rfl⟩ := h
  cases outside with
  | nil => simp at length
  | cons first others =>
      have nonempty : first :: others ≠ [] := List.cons_ne_nil _ _
      refine ⟨(first :: others).modifyHead (text ++ ·), by simpa using length, fun t ht => ?_,
        (interleave_modifyHead text nonempty).symm⟩
      rcases List.mem_cons.1 ht with rfl | ht
      · simpa [String.toList_append, no_quote] using no_quotes first (by simp)
      · exact no_quotes t (by simp [ht])

/-- A quoted word in front of a text is one more word. -/
lemma Quoted.cons {words : List String} {rest : String} (h : Quoted words rest) (word : String) :
    Quoted (word :: words) (quoted word ++ rest) := by
  obtain ⟨outside, length, no_quotes, rfl⟩ := h
  exact ⟨"" :: outside, by simp [length], by simpa using no_quotes, by simp [interleave]⟩

/-- The text of sound segments with `Passing.inline` has its quotes exactly around the strings of
its slots. -/
theorem quoted_fill {segments : List Segment} (sound : ∀ s ∈ segments, s.Sound) (next : Nat) :
    Quoted ((slots segments).filterMap Value.string?) (fill .inline next segments) := by
  induction segments generalizing next with
  | nil => exact .nil
  | cons s rest ih =>
      have quoted_rest := ih fun t ht => sound t (by simp [ht])
      have first := sound s (by simp)
      cases s with
      | fixed text =>
          exact (quoted_rest next).prepend fun hc => absurd (over_iff.1 first _ hc) (by decide)
      | slot v =>
          cases string : v.string? with
          | none =>
              rw [slots, List.filterMap_cons_none string, fill]
              exact (quoted_rest _).prepend (Value.Plain.quote_notMem_literal first string)
          | some word =>
              rw [slots, List.filterMap_cons_some string, fill, filling,
                Value.literal_of_string? string]
              exact (quoted_rest _).cons word

end Segment

end SaleSearch.Sql

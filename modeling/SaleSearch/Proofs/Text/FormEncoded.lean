import Mathlib.Data.List.Forall2
import SaleSearch.Proofs.Text.Alphabet
import SaleSearch.Proofs.Text.Utf8
import SaleSearch.Text.FormEncoded

/-!
# Form-encoded text is read back

Names and values may be written in more than one way: a letter or a digit as it stands or by the
code of its byte, a space by its code or as a plus sign, and every code in digits of either case.

* `ByteWritten` is the way a byte may be written, and `PairsWritten` a list of pairs.
* `percentDecode_written` reads bytes, and `readPairs_written` pairs.
* `readPairs_append` reads two texts with a separator between them.
* `unmarked` is a query without a question mark in front.
-/

namespace SaleSearch.Text.FormEncoded

/-! ## What may be written -/

/-- A hexadecimal digit of either case. -/
inductive HexDigit (n : Nat) : Char → Prop
  | lower : HexDigit n n.digitChar
  | upper : HexDigit n n.digitChar.toUpper

/-- A byte as the character that it is, or by its code. -/
inductive ByteWritten : UInt8 → List Char → Prop
  | plain {c : Char} (alphanumeric : c.isAlphanum = true) :
      ByteWritten (UInt8.ofNat c.toNat) [c]
  | plus : ByteWritten 0x20 ['+']
  | code {b : UInt8} {high low : Char} (first : HexDigit (b.toNat / 16) high)
      (second : HexDigit (b.toNat % 16) low) : ByteWritten b ['%', high, low]

/-- Each byte of a text is written on its own. -/
def Written (text : String) (written : List Char) : Prop :=
  ∃ parts, List.Forall₂ ByteWritten (Utf8.encode text.toList) parts ∧ written = parts.flatten

/-- A name and a value with an equals sign between them. -/
def PairWritten (pair : String × String) (written : List Char) : Prop :=
  ∃ name value, Written pair.1 name ∧ Written pair.2 value ∧ written = name ++ '=' :: value

/-- Pairs with ampersands between them. -/
def PairsWritten (pairs : List (String × String)) (written : List Char) : Prop :=
  ∃ parts, List.Forall₂ PairWritten pairs parts ∧ written = ['&'].intercalate parts

/-! ## Bytes -/

/-- What separates pairs, a name from its value, and a query from an address. -/
abbrev IsMark (b : UInt8) : Prop :=
  b = 0x26 ∨ b = 0x3D ∨ b = 0x3F

/-- ASCII characters are single bytes. -/
lemma encode_cons_ascii {c : Char} (ascii : c.toNat < 128) (rest : List Char) :
    Utf8.encode (c :: rest) = UInt8.ofNat c.toNat :: Utf8.encode rest := by
  have single : c.val.toNat ≤ 127 := Nat.le_of_lt_succ ascii
  rw [Utf8.encode, List.flatMap_cons, String.utf8EncodeChar, if_pos single]
  rfl

lemma encode_append (a b : List Char) : Utf8.encode (a ++ b) = Utf8.encode a ++ Utf8.encode b :=
  List.flatMap_append

/-- A byte that is no percent sign stands for itself. -/
lemma percentDecode_cons_of_ne {b : UInt8} (other : b ≠ 0x25) (rest : List UInt8) :
    percentDecode (b :: rest) = b :: percentDecode rest := by
  rw [percentDecode]
  rintro _ _ _ rfl
  exact absurd rfl other

/-- Letters and digits are single bytes, and neither marks nor percent or plus signs. -/
lemma alphanumeric_ascii {c : Char} (alphanumeric : c.isAlphanum = true) :
    c.toNat < 128 ∧ UInt8.ofNat c.toNat ≠ 0x25 ∧ UInt8.ofNat c.toNat ≠ 0x2B
      ∧ ¬ IsMark (UInt8.ofNat c.toNat) := by
  have ranges := isAlphanum_iff.1 alphanumeric
  have other (b : UInt8) (different : c.toNat ≠ b.toNat) : UInt8.ofNat c.toNat ≠ b := by
    intro same
    have value := congrArg UInt8.toNat same
    rw [UInt8.toNat_ofNat'] at value
    omega
  have at_most : c.toNat < 128 := by omega
  have no_mark : ¬ IsMark (UInt8.ofNat c.toNat) := by
    rw [IsMark, not_or, not_or]
    refine ⟨other _ ?_, other _ ?_, other _ ?_⟩ <;> simp only [UInt8.reduceToNat] <;> omega
  refine ⟨at_most, other _ ?_, other _ ?_, no_mark⟩ <;> simp only [UInt8.reduceToNat] <;> omega

/-- Hexadecimal digits are single bytes, neither marks nor plus signs, and `hexValue?` reads
them. -/
lemma hexDigit_ascii {n : Nat} (small : n < 16) {c : Char} (digit : HexDigit n c) :
    c.toNat < 128 ∧ UInt8.ofNat c.toNat ≠ 0x2B ∧ ¬ IsMark (UInt8.ofNat c.toNat)
      ∧ hexValue? (UInt8.ofNat c.toNat) = some (UInt8.ofNat n) := by
  cases digit with
  | lower => decide +revert
  | upper => decide +revert

lemma high_lt (b : UInt8) : b.toNat / 16 < 16 := by
  have small := b.toNat_lt
  omega

/-- A byte is put together from its two hexadecimal digits. -/
lemma high_low (b : UInt8) :
    UInt8.ofNat (b.toNat / 16) * 16 + UInt8.ofNat (b.toNat % 16) = b := by
  have small := b.toNat_lt
  refine UInt8.toNat_inj.1 ?_
  simp only [UInt8.toNat_add, UInt8.toNat_mul, UInt8.toNat_ofNat', UInt8.reduceToNat]
  omega

/-- A byte that is no plus sign stays as it is. -/
lemma plusToSpace_cons_of_ne {b : UInt8} (other : b ≠ 0x2B) (rest : List UInt8) :
    plusToSpace (b :: rest) = b :: plusToSpace rest := by
  rw [plusToSpace, List.map_cons, if_neg other]
  rfl

/-- A byte is read in whatever way it is written.  Plus signs turn into spaces before codes are
read, so that the code of a plus sign stays one. -/
lemma ByteWritten.read {b : UInt8} {cs : List Char} (written : ByteWritten b cs)
    (rest : List UInt8) :
    percentDecode (plusToSpace (Utf8.encode cs ++ rest))
      = b :: percentDecode (plusToSpace rest) := by
  cases written with
  | plain alphanumeric =>
      obtain ⟨ascii, not_percent, not_plus, -⟩ := alphanumeric_ascii alphanumeric
      rw [encode_cons_ascii ascii, List.cons_append, plusToSpace_cons_of_ne not_plus,
        percentDecode_cons_of_ne not_percent]
      rfl
  | plus => exact percentDecode_cons_of_ne (by decide) _
  | @code _ high low first second =>
      obtain ⟨ascii, not_plus, -, digit⟩ := hexDigit_ascii (high_lt b) first
      obtain ⟨ascii', not_plus', -, digit'⟩ := hexDigit_ascii (by omega) second
      rw [encode_cons_ascii (by decide), encode_cons_ascii ascii, encode_cons_ascii ascii',
        List.cons_append, List.cons_append, List.cons_append, plusToSpace_cons_of_ne (by decide),
        plusToSpace_cons_of_ne not_plus, plusToSpace_cons_of_ne not_plus']
      show percentDecode (0x25 :: _ :: _ :: plusToSpace rest) = _
      rw [percentDecode, digit, digit']
      dsimp only
      rw [high_low b]

/-- No mark is written for a byte. -/
lemma ByteWritten.not_isMark {b : UInt8} {cs : List Char} (written : ByteWritten b cs) :
    ∀ x ∈ Utf8.encode cs, ¬ IsMark x := by
  cases written with
  | plain alphanumeric =>
      obtain ⟨ascii, -, -, no_mark⟩ := alphanumeric_ascii alphanumeric
      rw [encode_cons_ascii ascii]
      exact List.forall_mem_singleton.2 no_mark
  | plus =>
      rw [encode_cons_ascii (by decide)]
      exact List.forall_mem_singleton.2 (by decide)
  | @code _ high low first second =>
      obtain ⟨ascii, -, no_mark, -⟩ := hexDigit_ascii (high_lt b) first
      obtain ⟨ascii', -, no_mark', -⟩ := hexDigit_ascii (by omega) second
      rw [encode_cons_ascii (by decide), encode_cons_ascii ascii, encode_cons_ascii ascii']
      simp only [List.forall_mem_cons]
      exact ⟨by decide, no_mark, no_mark', nofun⟩

/-- Bytes are read from what is written for them one by one. -/
lemma percentDecode_written {bytes : List UInt8} {parts : List (List Char)}
    (written : List.Forall₂ ByteWritten bytes parts) :
    percentDecode (plusToSpace (Utf8.encode parts.flatten)) = bytes := by
  induction written with
  | nil => rfl
  | cons first _ ih => rw [List.flatten_cons, encode_append, first.read, ih]

lemma not_isMark_written {bytes : List UInt8} {parts : List (List Char)}
    (written : List.Forall₂ ByteWritten bytes parts) :
    ∀ x ∈ Utf8.encode parts.flatten, ¬ IsMark x := by
  induction written with
  | nil => nofun
  | cons first _ ih =>
      rw [List.flatten_cons, encode_append]
      exact List.forall_mem_append.2 ⟨first.not_isMark, ih⟩

/-! ## Names and values -/

/-- `component` reads a text that is written in any way. -/
lemma Written.component_eq {text : String} {written : List Char} (h : Written text written) :
    component (Utf8.encode written) = text := by
  obtain ⟨parts, bytes, rfl⟩ := h
  rw [component, percentDecode_written bytes, Utf8.decodeLossy_encode, String.ofList_toList]

lemma Written.not_isMark {text : String} {written : List Char} (h : Written text written) :
    ∀ x ∈ Utf8.encode written, ¬ IsMark x := by
  obtain ⟨parts, bytes, rfl⟩ := h
  exact not_isMark_written bytes

/-- `splitAtFirst` finds the first mark. -/
lemma splitAtFirst_append {mark : UInt8} {front : List UInt8} (free : mark ∉ front)
    (back : List UInt8) : splitAtFirst mark (front ++ mark :: back) = (front, back) := by
  induction front with
  | nil => rw [List.nil_append, splitAtFirst, if_pos rfl]
  | cons b rest ih =>
      obtain ⟨other, free⟩ := not_or.1 (mt List.mem_cons.2 free)
      rw [List.cons_append, splitAtFirst, if_neg (Ne.symm other), ih free]

/-! ## Pieces -/

section Pieces

variable {mark : UInt8}

lemma pieces_ne_nil (bytes : List UInt8) : pieces mark bytes ≠ [] := by
  cases bytes with
  | nil => nofun
  | cons b rest =>
      rw [pieces]
      split
      · nofun
      · split <;> nofun

/-- `pieces` cuts at each mark, whatever stands before it and after it. -/
lemma pieces_append (front back : List UInt8) :
    pieces mark (front ++ mark :: back) = pieces mark front ++ pieces mark back := by
  induction front with
  | nil =>
      show pieces mark (mark :: back) = [] :: pieces mark back
      rw [pieces, if_pos rfl]
  | cons b rest ih =>
      rw [List.cons_append, pieces, pieces, ih]
      split
      · rfl
      · cases first : pieces mark rest with
        | nil => exact absurd first (pieces_ne_nil rest)
        | cons piece others => rfl

lemma pieces_of_free {bytes : List UInt8} (free : mark ∉ bytes) : pieces mark bytes = [bytes] := by
  induction bytes with
  | nil => rfl
  | cons b rest ih =>
      obtain ⟨other, free⟩ := not_or.1 (mt List.mem_cons.2 free)
      rw [pieces, if_neg (Ne.symm other), ih free]

end Pieces

/-! ## Pairs -/

lemma readPairs_nil : readPairs [] = [] :=
  rfl

/-- **A separator separates.** Two texts with an ampersand between them are read each on its own,
and the pairs of the second come after those of the first. -/
theorem readPairs_append (a b : List Char) :
    readPairs (a ++ '&' :: b) = readPairs a ++ readPairs b := by
  have separated : Utf8.encode (a ++ '&' :: b) = Utf8.encode a ++ 0x26 :: Utf8.encode b := by
    rw [encode_append, encode_cons_ascii (by decide)]
    rfl
  rw [readPairs, separated, pieces_append, List.filter_append, List.map_append]
  rfl

/-- An ampersand in front separates nothing. -/
lemma readPairs_separator_cons (text : List Char) : readPairs ('&' :: text) = readPairs text :=
  readPairs_append [] text

/-- A pair is read from what is written for it. -/
lemma PairWritten.readPairs_eq {pair : String × String} {written : List Char}
    (h : PairWritten pair written) : readPairs written = [pair] := by
  obtain ⟨name, value, name_written, value_written, rfl⟩ := h
  have bytes : Utf8.encode (name ++ '=' :: value)
      = Utf8.encode name ++ 0x3D :: Utf8.encode value := by
    rw [encode_append, encode_cons_ascii (by decide)]
    rfl
  have one_piece : (0x26 : UInt8) ∉ Utf8.encode name ++ 0x3D :: Utf8.encode value := by
    rw [List.mem_append, List.mem_cons, not_or, not_or]
    exact ⟨fun member => name_written.not_isMark _ member (.inl rfl), by decide,
      fun member => value_written.not_isMark _ member (.inl rfl)⟩
  have name_free : (0x3D : UInt8) ∉ Utf8.encode name := fun member =>
    name_written.not_isMark _ member (.inr (.inl rfl))
  have piece : readPiece (Utf8.encode name ++ 0x3D :: Utf8.encode value) = pair := by
    rw [readPiece, splitAtFirst_append name_free, name_written.component_eq,
      value_written.component_eq]
  rw [readPairs, bytes, pieces_of_free one_piece, List.filter_cons_of_pos (by simp),
    List.filter_nil, List.map_singleton, piece]

/-- **Pairs are read back, in whatever way they are written.** -/
theorem readPairs_written {pairs : List (String × String)} {written : List Char}
    (h : PairsWritten pairs written) : readPairs written = pairs := by
  obtain ⟨parts, each, rfl⟩ := h
  induction each with
  | nil => exact readPairs_nil
  | @cons pair part pairs parts first rest ih =>
      cases rest with
      | nil =>
          rw [List.intercalate_singleton]
          exact first.readPairs_eq
      | cons second others =>
          rw [List.intercalate_cons_cons, List.append_assoc, List.singleton_append,
            readPairs_append, first.readPairs_eq, ih]
          rfl

/-! ## The question mark -/

/-- No question mark is written for the beginning of a text. -/
lemma Written.head?_ne {text : String} {written : List Char} (h : Written text written) :
    written.head? ≠ some '?' := by
  cases written with
  | nil => nofun
  | cons c rest =>
      intro starts
      obtain rfl := Option.some.inj starts
      have free := h.not_isMark
      rw [encode_cons_ascii (by decide)] at free
      exact free _ List.mem_cons_self (by decide)

lemma PairWritten.head?_ne {pair : String × String} {written : List Char}
    (h : PairWritten pair written) (rest : List Char) : (written ++ rest).head? ≠ some '?' := by
  obtain ⟨name, value, name_written, -, rfl⟩ := h
  cases name with
  | nil => simp
  | cons c more => exact name_written.head?_ne

/-- No question mark is written in front of pairs, so that they are not taken for a query with
one. -/
lemma PairsWritten.head?_ne {pairs : List (String × String)} {written : List Char}
    (h : PairsWritten pairs written) : written.head? ≠ some '?' := by
  obtain ⟨parts, each, rfl⟩ := h
  cases each with
  | nil => nofun
  | @cons _ part _ parts first rest =>
      cases rest with
      | nil => simpa using first.head?_ne []
      | cons second others =>
          rw [List.intercalate_cons_cons, List.append_assoc]
          exact first.head?_ne _

/-- A text without the question mark that may set it off. -/
def unmarked : List Char → List Char
  | '?' :: rest => rest
  | rest => rest

lemma unmarked_of_head?_ne {text : List Char} (h : text.head? ≠ some '?') :
    unmarked text = text := by
  unfold unmarked
  split
  · exact absurd rfl h
  · rfl

/-- `readQuery` reads the pairs of the unmarked query. -/
lemma readQuery_eq (query : String) : readQuery query = readPairs (unmarked query.toList) := by
  unfold readQuery
  split
  · rename_i rest starts
    rw [starts]
    rfl
  · rename_i no_mark
    rw [unmarked_of_head?_ne fun starts => ?_]
    obtain ⟨rest, marked⟩ := List.head?_eq_some_iff.1 starts
    exact no_mark rest marked

/-- The question mark of a query in front of an ampersand is that of its first part. -/
lemma unmarked_append (a rest : List Char) :
    unmarked (a ++ '&' :: rest) = unmarked a ++ '&' :: rest := by
  cases a with
  | nil => rfl
  | cons c more =>
      by_cases mark : c = '?'
      · subst mark
        rfl
      · have front (text : List Char) : (c :: text).head? ≠ some '?' :=
          fun same => mark (Option.some.inj same)
        rw [unmarked_of_head?_ne (front more), List.cons_append, unmarked_of_head?_ne (front _)]

end SaleSearch.Text.FormEncoded

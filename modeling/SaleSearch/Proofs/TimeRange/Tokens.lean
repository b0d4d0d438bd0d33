import SaleSearch.Proofs.Number.Digits
import SaleSearch.Proofs.Number.Written
import SaleSearch.TimeRange

/-!
# Tokens of time ranges

A time range is written as digits and the letter of a unit, or as `all`.  What is written is read
again, and whatever is read differs from what would be written in superfluous zeros only.

* `TimeRange.Counts` says that a text is a number of units.
* `TimeRange.stepwise?` reads the bytes of a text, of which it splits off the last.  That fails
  inside of a character, and so no text must get there whose last character is longer.
* `TimeRange.RoundTrips` is what reading and writing have to do with each other, and
  `TimeRange.roundTrips` the result.
-/

namespace SaleSearch

open Number Text

/-! ## Superfluous zeros -/

/-- A text without the zeros in front that another digit follows. -/
def Number.withoutZeros : List Char → List Char
  | '0' :: c :: rest =>
      if isAsciiDigit c then withoutZeros (c :: rest) else '0' :: c :: rest
  | text => text

lemma Number.withoutZeros_of_ne {c : Char} (counts : c ≠ '0') (rest : List Char) :
    withoutZeros (c :: rest) = c :: rest := by
  unfold withoutZeros
  split
  · rename_i same
    exact absurd (List.cons.inj same).1 counts
  · rfl

lemma Number.withoutZeros_replicate (zeros : Nat) {c : Char} (digit : isAsciiDigit c = true)
    (rest : List Char) :
    withoutZeros (List.replicate zeros '0' ++ c :: rest) = withoutZeros (c :: rest) := by
  induction zeros with
  | zero => rfl
  | succ zeros ih =>
      cases zeros with
      | zero => exact if_pos digit
      | succ more => exact (if_pos (by decide)).trans ih

/-- The text of a number begins with a zero only if that is all of it. -/
lemma Number.eq_nil_of_toDigits {n : Nat} {rest : List Char}
    (written : Nat.toDigits 10 n = '0' :: rest) : rest = [] := by
  by_contra more
  have ascii : ∀ c ∈ rest, isAsciiDigit c = true := fun c among =>
    Nat.isDigit_of_mem_toDigits (by decide) (by decide) (written ▸ List.mem_cons_of_mem _ among)
  have value : digitsValue rest = n := by
    rw [← digitsValue_zeros 1 rest, ← digitsValue_toDigits n, written]
    rfl
  have short : (Nat.toDigits 10 n).length ≤ rest.length :=
    (Nat.length_toDigits_le_iff (by decide) (List.length_pos_iff.2 more)).2
      (value ▸ digitsValue_lt ascii)
  rw [written, List.length_cons] at short
  omega

lemma Number.withoutZeros_digits {digits rest : List Char} (nonempty : digits ≠ [])
    (ascii : ∀ c ∈ digits, isAsciiDigit c = true)
    (ends : ∀ c ∈ rest.head?, isAsciiDigit c = false) :
    withoutZeros (digits ++ rest) = Nat.toDigits 10 (digitsValue digits) ++ rest := by
  obtain ⟨zeros, written⟩ := exists_zeros nonempty ascii
  generalize digitsValue digits = n at written
  subst written
  cases first : Nat.toDigits 10 n with
  | nil => exact absurd first Nat.toDigits_ne_nil
  | cons c others =>
      have digit : isAsciiDigit c = true := ascii c (by simp [first])
      rw [List.append_assoc, List.cons_append, withoutZeros_replicate zeros digit]
      by_cases zero : c = '0'
      -- Zero is a number too, and keeps its only digit.
      · subst zero
        obtain rfl := eq_nil_of_toDigits first
        cases rest with
        | nil => rfl
        | cons next more => exact if_neg (by simp [ends next rfl])
      · exact withoutZeros_of_ne zero _

/-! ## Reading and writing -/

namespace TimeUnit

lemma ofLetter?_eq_some {c : Char} {unit : TimeUnit} :
    ofLetter? c = some unit ↔ c = unit.letter := by
  constructor
  · intro h
    unfold ofLetter? at h
    split at h <;> cases h <;> rfl
  · rintro rfl
    exact ofLetter?_letter unit

lemma isAsciiDigit_letter (unit : TimeUnit) : isAsciiDigit unit.letter = false := by
  cases unit <;> rfl

end TimeUnit

namespace TimeRange

/-- A text of digits that denote a number, and of the letter of a unit. -/
def Counts (token : String) (n : Nat) (unit : TimeUnit) : Prop :=
  ∃ digits : String, digits ≠ "" ∧ (∀ c ∈ digits.toList, isAsciiDigit c = true)
    ∧ digitsValue digits.toList = n ∧ token = digits ++ String.singleton unit.letter

/-- A count is read from ASCII digits whose number fits 32 bits. -/
lemma readCount?_eq_some {digits : List Char} {count : UInt32} :
    readCount? digits = some count ↔
      digits ≠ [] ∧ (∀ c ∈ digits, isAsciiDigit c = true) ∧ digitsValue digits = count.toNat := by
  rw [readCount?, ← List.all_eq_true]
  constructor
  · intro h
    obtain ⟨⟨nonempty, ascii, fits⟩, same⟩ := Option.ite_none_right_eq_some.1 h
    obtain rfl := Option.some.inj same
    exact ⟨nonempty, ascii, (UInt32.toNat_ofNat_of_lt' fits).symm⟩
  · rintro ⟨nonempty, ascii, value⟩
    rw [value, if_pos ⟨nonempty, ascii, count.toNat_lt⟩, UInt32.ofNat_toNat]

/-- A token other than `all` is read as a count and the letter of a unit. -/
lemma ofToken?_append {front : String} {c : Char} (other : front ++ String.singleton c ≠ "all") :
    ofToken? (front ++ String.singleton c) = (do
      let unit ← TimeUnit.ofLetter? c
      let count ← readCount? front.toList
      return .last count unit) := by
  rw [ofToken?, if_neg other, String.toList_append, String.toList_singleton, List.getLast?_concat,
    List.dropLast_concat]
  rfl

lemma Counts.ne_all {token : String} {n : Nat} {unit : TimeUnit} (counts : Counts token n unit) :
    token ≠ "all" := by
  obtain ⟨digits, -, -, -, rfl⟩ := counts
  intro same
  have last := congrArg (fun text : String => text.toList.getLast?) same
  rw [String.toList_append, String.toList_singleton, List.getLast?_concat] at last
  cases unit <;> simp [TimeUnit.letter] at last

lemma eq_append_singleton {text : String} (nonempty : text ≠ "") :
    ∃ (front : String) (c : Char), text = front ++ String.singleton c := by
  have chars : text.toList ≠ [] := by simpa using nonempty
  refine ⟨String.ofList text.toList.dropLast, text.toList.getLast chars, String.toList_inj.1 ?_⟩
  simpa using (List.dropLast_concat_getLast chars).symm

/-- A number of units that fits 32 bits is read as that many units. -/
lemma ofToken?_of_counts {token : String} {count : UInt32} {unit : TimeUnit}
    (counts : Counts token count.toNat unit) : ofToken? token = some (.last count unit) := by
  have other := counts.ne_all
  obtain ⟨digits, nonempty, ascii, value, rfl⟩ := counts
  have read : readCount? digits.toList = some count :=
    readCount?_eq_some.2 ⟨by simpa using nonempty, ascii, value⟩
  rw [ofToken?_append other, TimeUnit.ofLetter?_letter, read]
  rfl

/-- A token that is read is `all` or a number of units. -/
lemma counts_of_ofToken? {token : String} {r : TimeRange} (other : token ≠ "all")
    (read : ofToken? token = some r) :
    ∃ count unit, r = .last count unit ∧ Counts token count.toNat unit := by
  have nonempty : token ≠ "" := by
    rintro rfl
    cases read
  obtain ⟨front, c, rfl⟩ := eq_append_singleton nonempty
  rw [ofToken?_append other] at read
  obtain ⟨unit, letter, read⟩ := Option.bind_eq_some_iff.1 read
  obtain ⟨count, digits, same⟩ := Option.bind_eq_some_iff.1 read
  obtain rfl := Option.some.inj same
  obtain rfl := TimeUnit.ofLetter?_eq_some.1 letter
  obtain ⟨nonempty, ascii, value⟩ := readCount?_eq_some.1 digits
  exact ⟨count, unit, rfl, front, by simpa using nonempty, ascii, value, rfl⟩

lemma read_eq_ok {token : String} {r : TimeRange} :
    read token = .ok r ↔ ofToken? token = some r := by
  rw [read, TokenSet.read]
  cases ofToken? token <;> simp

lemma read_of_ofToken?_eq_none {token : String} (unread : ofToken? token = none) :
    read token = .error { expected := .timeRange, token } := by
  rw [read, TokenSet.read, unread]

lemma read_iff {token : String} {r : TimeRange} : read token = .ok r ↔
    (token = "all" ∧ r = .all)
      ∨ ∃ count unit, r = .last count unit ∧ Counts token count.toNat unit := by
  rw [read_eq_ok]
  constructor
  · intro h
    by_cases everything : token = "all"
    · subst everything
      exact .inl ⟨rfl, (Option.some.inj h).symm⟩
    · exact .inr (counts_of_ofToken? everything h)
  · rintro (⟨rfl, rfl⟩ | ⟨count, unit, rfl, counts⟩)
    · rfl
    · exact ofToken?_of_counts counts

/-- A range has one text without superfluous zeros. -/
lemma text_eq_withoutZeros {token : String} {r : TimeRange} (h : read token = .ok r) :
    r.text = String.ofList (withoutZeros token.toList) := by
  obtain ⟨rfl, rfl⟩ | ⟨count, unit, rfl, digits, nonempty, ascii, value, rfl⟩ := read_iff.1 h
  · decide
  · have letter : ∀ c ∈ [unit.letter].head?, isAsciiDigit c = false := by
      simpa using unit.isAsciiDigit_letter
    rw [text, String.toList_append, String.toList_singleton,
      withoutZeros_digits (by simpa using nonempty) ascii letter, value, ← Nat.toList_repr,
      String.ofList_append, String.ofList_toList, String.singleton_eq_ofList]

/-! ## Bytes -/

/-- A text in two parts, if a character begins at a byte or the text ends there. -/
def splitAt? (text : String) (byte : Nat) : Option (String × String) :=
  if boundary : (String.Pos.Raw.mk byte).IsValid text then
    let position : text.Pos := ⟨⟨byte⟩, boundary⟩
    some ((text.sliceTo position).copy, (text.sliceFrom position).copy)
  else none

/-- The unit of a letter. -/
def unit? : String → Option TimeUnit
  | "h" => some .hours
  | "d" => some .days
  | "y" => some .years
  | _ => none

/-- The reader as it goes through the bytes of a text, of which it splits off the last. -/
def stepwise? (token : String) : Option (Except UnknownToken TimeRange) :=
  if token = "all" then some (.ok .all)
  else if token.toList.all (fun c => c.toNat < 128) then do
    let (count, letter) ← splitAt? token (token.utf8ByteSize - 1)
    match readCount? count.toList, unit? letter with
    | some count, some unit => return .ok (.last count unit)
    | _, _ => return .error { expected := .timeRange, token }
  else some (.error { expected := .timeRange, token })

lemma splitAt?_append (front back : String) :
    splitAt? (front ++ back) front.utf8ByteSize = some (front, back) := by
  have boundary : (String.Pos.Raw.mk front.utf8ByteSize).IsValid (front ++ back) :=
    String.Pos.Raw.isValid_iff_exists_append.2 ⟨front, back, rfl, rfl⟩
  let position : (front ++ back).Pos := ⟨⟨front.utf8ByteSize⟩, boundary⟩
  have parts : position.Splits front back := ⟨rfl, rfl⟩
  obtain ⟨left, right⟩ := position.splits.eq parts
  rw [splitAt?, dif_pos boundary]
  exact congrArg some (Prod.ext left right)

lemma unit?_singleton (c : Char) : unit? (String.singleton c) = TimeUnit.ofLetter? c := by
  have same : ∀ d : Char, String.singleton c = String.singleton d → c = d := fun d h =>
    List.singleton_inj.1 (by simpa using congrArg String.toList h)
  unfold unit?
  split
  · rw [same 'h' ‹_›]; rfl
  · rw [same 'd' ‹_›]; rfl
  · rw [same 'y' ‹_›]; rfl
  · rename_i hours days years
    unfold TimeUnit.ofLetter?
    split
    · exact absurd rfl hours
    · exact absurd rfl days
    · exact absurd rfl years
    · rfl

lemma isAscii_of_counts {token : String} {n : Nat} {unit : TimeUnit}
    (counts : Counts token n unit) :
    ∀ c ∈ token.toList, c.toNat < 128 := by
  obtain ⟨digits, -, ascii, -, rfl⟩ := counts
  intro c among
  rw [String.toList_append, String.toList_singleton, List.mem_append, List.mem_singleton] at among
  rcases among with digit | rfl
  · exact Nat.lt_of_le_of_lt (isAsciiDigit_iff.1 (ascii c digit)).2 (by decide)
  · cases unit <;> decide

/-- The last byte of ASCII text is its last character. -/
lemma splitAt?_last {front : String} {c : Char} (ascii : c.toNat < 128) :
    splitAt? (front ++ String.singleton c) ((front ++ String.singleton c).utf8ByteSize - 1)
      = some (front, String.singleton c) := by
  have size : c.utf8Size = 1 := Char.utf8Size_eq_one_iff.2 (Nat.le_of_lt_succ ascii)
  rw [String.utf8ByteSize_append, String.utf8ByteSize_singleton, size, Nat.add_sub_cancel,
    splitAt?_append]

/-- The reader over bytes is `read`, and it never splits a character. -/
lemma stepwise?_eq (token : String) : stepwise? token = some (read token) := by
  unfold stepwise?
  split
  · subst token
    rfl
  · rename_i other
    split
    · rename_i ascii
      by_cases nonempty : token = ""
      · subst nonempty
        have nothing : splitAt? "" 0 = some ("", "") := splitAt?_append "" ""
        exact congrArg (· >>= _) nothing
      · obtain ⟨front, c, rfl⟩ := eq_append_singleton nonempty
        have last : c.toNat < 128 := by simpa using List.all_eq_true.1 ascii c (by simp)
        rw [splitAt?_last last, read, TokenSet.read, ofToken?_append other, Option.bind_eq_bind,
          Option.bind_some]
        dsimp only
        rw [unit?_singleton]
        cases readCount? front.toList <;> cases TimeUnit.ofLetter? c <;> rfl
    -- What is refused before the bytes are split would not have been read anyway.
    · rename_i accented
      rw [read_of_ofToken?_eq_none (Option.eq_none_iff_forall_ne_some.2 fun r found => ?_)]
      obtain ⟨count, unit, -, counts⟩ := counts_of_ofToken? other found
      simp only [List.all_eq_true, decide_eq_true_eq] at accented
      exact accented (isAscii_of_counts counts)

/-! ## The result -/

/-- How `TimeRange.read` and `TimeRange.text` are related, and which tokens are read. -/
structure RoundTrips : Prop where
  read_text : ∀ r : TimeRange, read r.text = .ok r
  /-- A number of units is read as just this. -/
  read_iff : ∀ token r, read token = .ok r ↔
    (token = "all" ∧ r = .all)
      ∨ ∃ count unit, r = .last count unit ∧ Counts token count.toNat unit
  reads_iff : ∀ token, (∃ r, read token = .ok r) ↔
    token = "all" ∨ ∃ n unit, n ≤ 4294967295 ∧ Counts token n unit
  text : ∀ token r, read token = .ok r → r.text = String.ofList (withoutZeros token.toList)
  same_iff : ∀ token token', (∃ r, read token = .ok r ∧ read token' = .ok r) ↔
    (token = "all" ∧ token' = "all")
      ∨ ∃ n unit, n ≤ 4294967295 ∧ Counts token n unit ∧ Counts token' n unit
  /-- Any other text is reported as it is. -/
  refused : ∀ token, token ≠ "all" → (∀ n unit, n ≤ 4294967295 → ¬ Counts token n unit) →
    read token = .error { expected := .timeRange, token }
  /-- No text is split inside of a character. -/
  bytes : ∀ token, stepwise? token = some (read token)

/-- A number that is small enough is that of a range. -/
lemma read_of_counts {token : String} {n : Nat} {unit : TimeUnit} (small : n ≤ 4294967295)
    (counts : Counts token n unit) : read token = .ok (.last (UInt32.ofNat n) unit) := by
  have fits : (UInt32.ofNat n).toNat = n := UInt32.toNat_ofNat_of_lt' (Nat.lt_succ_of_le small)
  exact read_iff.2 (.inr ⟨_, unit, rfl, by rwa [fits]⟩)

lemma reads_iff {token : String} : (∃ r, read token = .ok r) ↔
    token = "all" ∨ ∃ n unit, n ≤ 4294967295 ∧ Counts token n unit := by
  constructor
  · rintro ⟨r, h⟩
    obtain ⟨rfl, -⟩ | ⟨count, unit, -, counts⟩ := read_iff.1 h
    · exact .inl rfl
    · exact .inr ⟨count.toNat, unit, Nat.le_of_lt_succ count.toNat_lt, counts⟩
  · rintro (rfl | ⟨n, unit, small, counts⟩)
    · exact ⟨.all, rfl⟩
    · exact ⟨_, read_of_counts small counts⟩

lemma counts_text (count : UInt32) (unit : TimeUnit) :
    Counts (text (.last count unit)) count.toNat unit := by
  refine ⟨count.toNat.repr, Nat.repr_ne_empty, fun c => isDigit_of_mem_repr, ?_, rfl⟩
  rw [Nat.toList_repr, digitsValue_toDigits]

/-- **`read` returns a range for its own `text`, and for that text with zeros in front, and for no
other.**  Every other token is reported as it is, and no character is split on the way. -/
theorem roundTrips : RoundTrips where
  read_text r := by
    cases r with
    | all => rfl
    | last count unit => exact read_iff.2 (.inr ⟨count, unit, rfl, counts_text count unit⟩)
  read_iff _ _ := read_iff
  reads_iff _ := reads_iff
  text _ _ := text_eq_withoutZeros
  same_iff token token' := by
    constructor
    · rintro ⟨r, h, h'⟩
      obtain ⟨rfl, rfl⟩ | ⟨count, unit, rfl, counts⟩ := read_iff.1 h
      · obtain ⟨rfl, -⟩ | ⟨_, _, different, -⟩ := read_iff.1 h'
        · exact .inl ⟨rfl, rfl⟩
        · cases different
      · obtain ⟨-, different⟩ | ⟨_, _, same, counts'⟩ := read_iff.1 h'
        · cases different
        · obtain ⟨rfl, rfl⟩ := TimeRange.last.inj same
          exact .inr ⟨count.toNat, unit, Nat.le_of_lt_succ count.toNat_lt, counts, counts'⟩
    · rintro (⟨rfl, rfl⟩ | ⟨n, unit, small, counts, counts'⟩)
      · exact ⟨.all, rfl, rfl⟩
      · exact ⟨_, read_of_counts small counts, read_of_counts small counts'⟩
  refused token other uncounted := by
    refine read_of_ofToken?_eq_none (Option.eq_none_iff_forall_ne_some.2 fun r found => ?_)
    obtain everything | ⟨n, unit, small, counts⟩ := reads_iff.1 ⟨r, read_eq_ok.2 found⟩
    · exact other everything
    · exact uncounted n unit small counts
  bytes := stepwise?_eq

/-- Zeros in front and longer characters. -/
example : read "007d" = .ok (.last 7 .days)
    ∧ read "4294967296h" = .error { expected := .timeRange, token := "4294967296h" }
    ∧ read "7é" = .error { expected := .timeRange, token := "7é" }
    ∧ splitAt? "7é" ("7é".utf8ByteSize - 1) = none := by
  decide +kernel

end TimeRange

end SaleSearch

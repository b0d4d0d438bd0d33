import Mathlib.Algebra.Group.Int.Defs
import SaleSearch.Grammar.Quantity
import SaleSearch.Proofs.Number.Digits
import SaleSearch.Proofs.Number.Numeral
import SaleSearch.Proofs.Number.Written

/-!
# Positive whole numbers in front of a text

A parameter is read from blanks, an optional sign and all the digits that follow, `Begins`.  Digits
of any script end up in front of the rest, but only ASCII ones are converted, and only into 64 bits.
`ReadsInteger` says case by case what comes of a parameter.

* `positiveInteger_iff` : the reader does what `ReadsInteger` says, and from that: what it returns
  lies in the range, the text after the digits makes no difference, and every number of the range is
  read back from its text.
-/

namespace SaleSearch.Grammar

open Number Text

/-! ## The digits in front -/

/-- A text begins with blanks, an optional sign and digits, of which there is one at least.  The
digits go on as far as possible. -/
inductive Begins (negative : Bool) (digits : List Char) : List Char → Prop
  | intro {blanks sign rest : List Char} (blank : ∀ c ∈ blanks, isBlank c = true)
      (signed : Sign negative sign) (nonempty : digits ≠ [])
      (figures : ∀ c ∈ digits, isDecimalDigit c = true)
      (stops : ∀ c ∈ rest.head?, isDecimalDigit c = false) :
      Begins negative digits (blanks ++ (sign ++ (digits ++ rest)))

lemma isDecimalDigit_marks : ∀ c ∈ Numeral.marks, isDecimalDigit c = false := by
  have checked : Numeral.marks.all (fun c => !isDecimalDigit c) = true := by decide
  intro c among
  simpa using List.all_eq_true.1 checked c among

lemma isBlank_of_isDecimalDigit {c : Char} (digit : isDecimalDigit c = true) :
    isBlank c = false := by
  have apart : ∀ first ∈ digitZeros, ∀ range ∈ blankRanges,
      range.2 < first ∨ first + 10 ≤ range.1 := by decide +kernel
  simp only [isDecimalDigit, List.any_eq_true, Bool.and_eq_true, decide_eq_true_eq] at digit
  obtain ⟨first, among, low, high⟩ := digit
  simp only [isBlank, List.any_eq_false, Bool.and_eq_true, decide_eq_true_eq]
  intro range inside
  have := apart first among range inside
  omega

lemma isBlank_head_of_signed {negative : Bool} {sign digits : List Char}
    (signed : Sign negative sign) (nonempty : digits ≠ [])
    (figures : ∀ c ∈ digits, isDecimalDigit c = true) (rest : List Char) :
    ∀ c ∈ (sign ++ (digits ++ rest)).head?, isBlank c = false := by
  obtain ⟨d, others, rfl⟩ := List.exists_cons_of_ne_nil nonempty
  intro c first
  cases signed with
  | absent =>
      obtain rfl : d = c := by simpa using first
      exact isBlank_of_isDecimalDigit (figures d (by simp))
  | plus =>
      obtain rfl : '+' = c := by simpa using first
      decide
  | minus =>
      obtain rfl : '-' = c := by simpa using first
      decide

lemma integerStart_eq (text : List Char) : integerStart text
    = ((takeSign (skipBlanks text)).1, (takeSign (skipBlanks text)).2.takeWhile isDecimalDigit) :=
  rfl

/-- **`integerStart` finds the sign and the digits that the text begins with.** -/
theorem begins_iff {negative : Bool} {digits text : List Char} :
    Begins negative digits text ↔ integerStart text = (negative, digits) ∧ digits ≠ [] := by
  constructor
  · rintro @⟨blanks, sign, rest, blank, signed, nonempty, figures, stops⟩
    have unsigned := Numeral.unsigned_of_digits isDecimalDigit_marks nonempty figures rest
    have skipped : skipBlanks (blanks ++ (sign ++ (digits ++ rest))) = sign ++ (digits ++ rest) :=
      (span_append blank (isBlank_head_of_signed signed nonempty figures rest)).2
    refine ⟨?_, nonempty⟩
    rw [integerStart_eq, skipped, signed.takeSign_append unsigned]
    exact congrArg _ (span_append figures stops).1
  · rintro ⟨found, nonempty⟩
    rw [integerStart_eq] at found
    obtain ⟨rfl, rfl⟩ := Prod.mk.inj found
    obtain ⟨sign, eq, signed⟩ := exists_sign (skipBlanks text)
    have blank (c : Char) (hc : c ∈ text.takeWhile isBlank) : isBlank c = true :=
      List.mem_takeWhile_imp hc
    have begins := Begins.intro blank signed nonempty (fun c hc => List.mem_takeWhile_imp hc)
      (dropWhile_stops isDecimalDigit (takeSign (skipBlanks text)).2)
    rw [List.takeWhile_append_dropWhile, ← eq, skipBlanks,
      List.takeWhile_append_dropWhile] at begins
    exact begins

/-! ## What comes of a parameter -/

/-- What `positiveInteger` returns for a parameter, by the digits it begins with: `absent` without a
text or for a number that is not positive; `notANumber` without digits, with one that is not ASCII,
or for a number outside of 64 bits; and else the number. -/
inductive ReadsInteger : Option String → Quantity Nat → Prop
  | missing : ReadsInteger none .absent
  | empty : ReadsInteger (some "") .absent
  | without {text : String} (given : text ≠ "")
      (bare : ∀ negative digits, ¬ Begins negative digits text.toList) :
      ReadsInteger (some text) .notANumber
  | foreign {text : String} {negative : Bool} {digits : List Char}
      (begins : Begins negative digits text.toList) {c : Char} (among : c ∈ digits)
      (other : isAsciiDigit c = false) : ReadsInteger (some text) .notANumber
  | outside {text : String} {negative : Bool} {digits : List Char}
      (begins : Begins negative digits text.toList) (ascii : ∀ c ∈ digits, isAsciiDigit c = true)
      (range : signed negative (digitsValue digits) < -2 ^ 63
        ∨ 2 ^ 63 - 1 < signed negative (digitsValue digits)) : ReadsInteger (some text) .notANumber
  | nonpositive {text : String} {negative : Bool} {digits : List Char}
      (begins : Begins negative digits text.toList) (ascii : ∀ c ∈ digits, isAsciiDigit c = true)
      (low : -2 ^ 63 ≤ signed negative (digitsValue digits))
      (high : signed negative (digitsValue digits) ≤ 0) : ReadsInteger (some text) .absent
  | positive {text : String} {negative : Bool} {digits : List Char} {n : Nat}
      (begins : Begins negative digits text.toList) (ascii : ∀ c ∈ digits, isAsciiDigit c = true)
      (denotes : signed negative (digitsValue digits) = n) (low : 1 ≤ n) (high : n ≤ 2 ^ 63 - 1) :
      ReadsInteger (some text) (.value n)

lemma Begins.ne_empty {negative : Bool} {digits : List Char} {text : String}
    (begins : Begins negative digits text.toList) : text ≠ "" := by
  rintro rfl
  obtain ⟨found, nonempty⟩ := begins_iff.1 begins
  exact nonempty (Prod.mk.inj found).2.symm

lemma positiveInteger_of_given {text : String} (given : text ≠ "") :
    positiveInteger (some text) = (integer? text.toList).elim .notANumber ofInteger := by
  unfold positiveInteger
  split
  · contradiction
  · exact absurd (Option.some.inj ‹_›) given
  · rename_i same
    rw [Option.some.inj same]
    cases integer? _ <;> rfl

lemma integer?_of_bare {text : List Char}
    (bare : ∀ negative digits, ¬ Begins negative digits text) : integer? text = none := by
  have empty : (integerStart text).2 = [] := by
    by_contra nonempty
    exact bare _ _ (begins_iff.2 ⟨rfl, nonempty⟩)
  simp [integer?, empty]

/-- `integer?` converts the digits in front if they are ASCII and their number fits 64 bits. -/
lemma Begins.integer?_eq {negative : Bool} {digits text : List Char}
    (begins : Begins negative digits text) :
    integer? text = if digits.all isAsciiDigit = true
        ∧ fitsInt64 (signed negative (digitsValue digits)) = true
      then some (signed negative (digitsValue digits)) else none := by
  obtain ⟨found, nonempty⟩ := begins_iff.1 begins
  rw [integer?, found]
  cases ascii : digits.all isAsciiDigit <;> simp [nonempty, ascii]

/-- `positiveInteger` depends on the sign and the digits in front only. -/
lemma Begins.positiveInteger_eq {negative : Bool} {digits : List Char} {text : String}
    (begins : Begins negative digits text.toList) :
    positiveInteger (some text) = if digits.all isAsciiDigit = true
        ∧ fitsInt64 (signed negative (digitsValue digits)) = true
      then ofInteger (signed negative (digitsValue digits)) else .notANumber := by
  rw [positiveInteger_of_given begins.ne_empty, begins.integer?_eq]
  split <;> rfl

/-- `positiveInteger` returns what `ReadsInteger` relates to the parameter. -/
lemma ReadsInteger.positiveInteger_eq {raw : Option String} {q : Quantity Nat}
    (reads : ReadsInteger raw q) : positiveInteger raw = q := by
  cases reads with
  | missing => rfl
  | empty => rfl
  | without given bare =>
      rw [positiveInteger_of_given given, integer?_of_bare bare]
      rfl
  | foreign begins among other =>
      refine begins.positiveInteger_eq.trans (if_neg fun converted => ?_)
      exact absurd (List.all_eq_true.1 converted.1 _ among) (by simp [other])
  | outside begins ascii range =>
      refine begins.positiveInteger_eq.trans (if_neg fun converted => ?_)
      have fits := fitsInt64_iff.1 converted.2
      omega
  | nonpositive begins ascii low high =>
      rw [begins.positiveInteger_eq, if_pos, ofInteger, if_pos high]
      exact ⟨List.all_eq_true.2 ascii, fitsInt64_iff.2 (by omega)⟩
  | @positive text negative digits n begins ascii denotes low high =>
      rw [begins.positiveInteger_eq, if_pos, denotes, ofInteger, if_neg (by omega),
        Int.toNat_natCast]
      exact ⟨List.all_eq_true.2 ascii, fitsInt64_iff.2 (by omega)⟩

/-- `ReadsInteger` relates every parameter to some result. -/
lemma exists_readsInteger (raw : Option String) : ∃ q, ReadsInteger raw q := by
  rcases raw with - | text
  · exact ⟨_, .missing⟩
  by_cases given : text = ""
  · subst given
    exact ⟨_, .empty⟩
  by_cases bare : ∀ negative digits, ¬ Begins negative digits text.toList
  · exact ⟨_, .without given bare⟩
  push Not at bare
  obtain ⟨negative, digits, begins⟩ := bare
  by_cases ascii : ∀ c ∈ digits, isAsciiDigit c = true
  · by_cases range : signed negative (digitsValue digits) < -2 ^ 63
        ∨ 2 ^ 63 - 1 < signed negative (digitsValue digits)
    · exact ⟨_, .outside begins ascii range⟩
    by_cases sign : signed negative (digitsValue digits) ≤ 0
    · exact ⟨_, .nonpositive begins ascii (by omega) sign⟩
    obtain ⟨n, denotes⟩ := Int.eq_ofNat_of_zero_le (Int.le_of_lt (Int.not_le.1 sign))
    exact ⟨_, .positive begins ascii denotes (by omega) (by omega)⟩
  · push Not at ascii
    obtain ⟨c, among, other⟩ := ascii
    exact ⟨_, .foreign begins among (by simpa using other)⟩

/-- A value of `positiveInteger` lies between `1` and `2 ^ 63 - 1`. -/
lemma range_of_value? {raw : Option String} {n : Nat}
    (read : (positiveInteger raw).value? = some n) : 1 ≤ n ∧ n ≤ 2 ^ 63 - 1 := by
  obtain ⟨q, reads⟩ := exists_readsInteger raw
  rw [reads.positiveInteger_eq] at read
  cases reads with
  | missing | empty | without | foreign | outside | nonpositive => cases read
  | positive begins ascii denotes low high =>
      obtain rfl := Option.some.inj read
      exact ⟨low, high⟩

/-! ## Texts of numbers -/

/-- The text of a number, with blanks, a sign and zeros in front and other text behind it, begins
with the zeros and the digits. -/
lemma begins_written {blanks sign rest : String} (blank : ∀ c ∈ blanks.toList, isBlank c = true)
    (signed : Sign false sign.toList) (stops : ∀ c ∈ rest.toList.head?, isDecimalDigit c = false)
    (zeros n : Nat) :
    Begins false (zeroPadded zeros n.repr).toList
      (blanks ++ (sign ++ (zeroPadded zeros n.repr ++ rest))).toList := by
  simp only [String.toList_append]
  exact .intro blank signed (zeroPadded_repr_ne_nil zeros n)
    (fun c among => isDecimalDigit_of_isAsciiDigit (isAsciiDigit_of_mem_zeroPadded among)) stops

/-- A text of ASCII digits begins with all of them. -/
lemma begins_digits {text : String} (given : text ≠ "")
    (ascii : ∀ c ∈ text.toList, isAsciiDigit c = true) : Begins false text.toList text.toList := by
  have begins : Begins false text.toList ([] ++ ([] ++ (text.toList ++ []))) :=
    .intro (by simp) .absent (by simpa using given)
      (fun c among => isDecimalDigit_of_isAsciiDigit (ascii c among)) (by simp)
  simpa using begins

/-- A number of the range is read from its own text. -/
lemma positiveInteger_repr {n : Nat} (low : 1 ≤ n) (high : n ≤ 2 ^ 63 - 1) :
    positiveInteger (some n.repr) = .value n := by
  have begins : Begins false n.repr.toList n.repr.toList :=
    begins_digits Nat.repr_ne_empty fun c among => isDigit_of_mem_repr among
  have denotes : signed false (digitsValue n.repr.toList) = n := by
    rw [Nat.toList_repr, digitsValue_toDigits]
    rfl
  exact ReadsInteger.positiveInteger_eq
    (.positive begins (fun c among => isDigit_of_mem_repr among) denotes low high)

/-- **`positiveInteger` computes `ReadsInteger`.** Its values lie in the range, texts that begin
with the same sign and digits have the same result, and every number of the range is read from its
text with blanks, a plus sign and zeros in front and other text behind. -/
theorem positiveInteger_iff :
    (∀ raw q, positiveInteger raw = q ↔ ReadsInteger raw q)
      ∧ (∀ raw n, positiveInteger raw = .value n → 1 ≤ n ∧ n ≤ 2 ^ 63 - 1)
      ∧ (∀ negative digits text text', Begins negative digits text.toList →
          Begins negative digits text'.toList →
          positiveInteger (some text) = positiveInteger (some text'))
      ∧ ∀ (blanks sign : String) (zeros n : Nat) (rest : String),
          (∀ c ∈ blanks.toList, isBlank c = true) → Sign false sign.toList →
          (∀ c ∈ rest.toList.head?, isDecimalDigit c = false) → 1 ≤ n → n ≤ 2 ^ 63 - 1 →
          positiveInteger (some (blanks ++ (sign ++ (zeroPadded zeros n.repr ++ rest))))
            = .value n := by
  have faithful (raw : Option String) (q : Quantity Nat) :
      positiveInteger raw = q ↔ ReadsInteger raw q := by
    refine ⟨?_, ReadsInteger.positiveInteger_eq⟩
    rintro rfl
    obtain ⟨q, reads⟩ := exists_readsInteger raw
    rwa [reads.positiveInteger_eq]
  refine ⟨faithful, fun raw n value => ?range,
    fun negative digits text text' begins begins' => ?same,
    fun blanks sign zeros n rest blank signed stops low high => ?written⟩
  case range =>
    cases (faithful raw (.value n)).1 value with
    | positive begins ascii denotes low high => exact ⟨low, high⟩
  case same => rw [begins.positiveInteger_eq, begins'.positiveInteger_eq]
  case written =>
    refine ReadsInteger.positiveInteger_eq (.positive (begins_written blank signed stops zeros n)
      (fun c => isAsciiDigit_of_mem_zeroPadded) ?_ low high)
    rw [digitsValue_zeroPadded_repr]
    rfl

/-- A plus sign and a zero in front of a number, and the same number with other text after it. -/
theorem positiveInteger_iff_ten :
    positiveInteger (some (" " ++ ("+" ++ (zeroPadded 1 (10).repr ++ "")))) = .value 10
      ∧ (1 ≤ 10 ∧ 10 ≤ 2 ^ 63 - 1)
      ∧ positiveInteger (some "10abc") = positiveInteger (some " +10.5") := by
  obtain ⟨-, range, same, written⟩ := positiveInteger_iff
  have ten : positiveInteger (some (" " ++ ("+" ++ (zeroPadded 1 (10).repr ++ "")))) = .value 10 :=
    written " " "+" 1 10 "" (List.all_eq_true.1 (by decide)) .plus (by simp) (by decide) (by decide)
  have begins : Begins false ['1', '0'] "10abc".toList := begins_iff.2 (by decide)
  have begins' : Begins false ['1', '0'] " +10.5".toList := begins_iff.2 (by decide)
  exact ⟨ten, range _ 10 ten, same false ['1', '0'] "10abc" " +10.5" begins begins'⟩

end SaleSearch.Grammar

import SaleSearch.Proofs.Number.Rounded
import SaleSearch.Proofs.Quantity.Integer

/-!
# Positive decimals in front of a text

A price is read from the longest numeral after blanks, `Leads`.  If its digits are ASCII, then it is
rounded to a binary number of 64 bits, which is the only one that `Rounds` allows.  `ReadsDecimal`
says case by case what comes of a text.

* `positiveDecimal_iff` : the reader does what `ReadsDecimal` says, and from that: what it returns
  is a finite number above zero, and nothing but the numeral makes a difference.
-/

namespace SaleSearch.Grammar

open Number Text

/-! ## The numeral in front -/

/-- A text begins with a numeral, after blanks, and with no longer one. -/
def Leads (numeral text : List Char) : Prop :=
  Longest (Numeral.language isDecimalDigit) (skipBlanks text) numeral

/-- **`Numeral.scan` behind the blanks finds the numeral that leads the text.** -/
theorem leads_iff {numeral text : List Char} : Leads numeral text
    ↔ ∃ n rest, skipBlanks text = numeral ++ rest
      ∧ Numeral.scan isDecimalDigit (skipBlanks text) = some (n, rest) := by
  constructor
  · intro leads
    obtain ⟨n, written⟩ := leads.inside
    obtain ⟨rest, eq⟩ := leads.starts
    exact ⟨n, rest, eq.symm, (Numeral.scan_eq_some isDecimalDigit_marks).2
      ⟨numeral, eq.symm, written, leads⟩⟩
  · rintro ⟨n, rest, eq, found⟩
    obtain ⟨numeral', eq', -, leads⟩ := (Numeral.scan_eq_some isDecimalDigit_marks).1 found
    obtain rfl := List.append_cancel_right (eq.symm.trans eq')
    exact leads

/-! ## What comes of a text -/

/-- What `positiveDecimal` returns for a text, by its leading numeral: `notANumber` without one,
with a digit that is not ASCII, or if it rounds to infinity; `absent` if the rounded number is not
positive; and else that number. -/
inductive ReadsDecimal (text : List Char) : Quantity Binary64 → Prop
  | without (bare : ∀ numeral, numeral <+: skipBlanks text →
        ¬ Numeral.language isDecimalDigit numeral) : ReadsDecimal text .notANumber
  | foreign {numeral : List Char} (leads : Leads numeral text) {c : Char} (among : c ∈ numeral)
      (digit : isDecimalDigit c = true) (other : isAsciiDigit c = false) :
      ReadsDecimal text .notANumber
  | infinite {numeral : List Char} {n : Numeral} {negative : Bool} (leads : Leads numeral text)
      (ascii : ∀ c ∈ numeral, isDecimalDigit c = true → isAsciiDigit c = true)
      (written : Numeral.Written isDecimalDigit n numeral)
      (rounds : Binary64.Rounds n.negative n.magnitude (.infinite negative)) :
      ReadsDecimal text .notANumber
  | nonpositive {numeral : List Char} {n : Numeral} {x : Binary64} {q : ℚ}
      (leads : Leads numeral text)
      (ascii : ∀ c ∈ numeral, isDecimalDigit c = true → isAsciiDigit c = true)
      (written : Numeral.Written isDecimalDigit n numeral)
      (rounds : Binary64.Rounds n.negative n.magnitude x) (finite : x.toRat? = some q)
      (nonpositive : q ≤ 0) : ReadsDecimal text .absent
  | positive {numeral : List Char} {n : Numeral} {x : Binary64} {q : ℚ} (leads : Leads numeral text)
      (ascii : ∀ c ∈ numeral, isDecimalDigit c = true → isAsciiDigit c = true)
      (written : Numeral.Written isDecimalDigit n numeral)
      (rounds : Binary64.Rounds n.negative n.magnitude x) (finite : x.toRat? = some q)
      (positive : 0 < q) : ReadsDecimal text (.value x)

/-- What `positiveDecimal` returns for a text with a certain leading numeral. -/
def ofNumeral (n : Numeral) : Quantity Binary64 :=
  let x := Binary64.ofDecimal n.value
  if n.isAscii = true ∧ x.isFinite = true then
    if x.isPositive then .value x else .absent
  else .notANumber

lemma positiveDecimal_of_given {text : String} (given : text ≠ "") :
    positiveDecimal (some text) = (decimal? text.toList).elim .notANumber fun x =>
      if x.isPositive then .value x else .absent := by
  unfold positiveDecimal
  split
  · contradiction
  · exact absurd (Option.some.inj ‹_›) given
  · rename_i same
    rw [Option.some.inj same]
    cases decimal? _ <;> rfl

/-- **`positiveDecimal` depends on the leading numeral only.** -/
lemma Leads.positiveDecimal_eq {numeral : List Char} {text : String} {n : Numeral}
    (leads : Leads numeral text.toList) (written : Numeral.Written isDecimalDigit n numeral) :
    positiveDecimal (some text) = ofNumeral n := by
  obtain ⟨rest, eq⟩ := leads.starts
  have found := (Numeral.scan_eq_some isDecimalDigit_marks).2 ⟨numeral, eq.symm, written, leads⟩
  have given : text ≠ "" := by
    rintro rfl
    cases found
  rw [positiveDecimal_of_given given, decimal?, found]
  dsimp only [ofNumeral]
  by_cases ascii : n.isAscii = true
  · by_cases finite : (Binary64.ofDecimal n.value).isFinite = true <;> simp [ascii, finite]
  · simp [ascii]

/-- `positiveDecimal` returns what `ReadsDecimal` relates to a non-empty text. -/
lemma ReadsDecimal.positiveDecimal_eq {text : String} {q : Quantity Binary64} (given : text ≠ "")
    (reads : ReadsDecimal text.toList q) : positiveDecimal (some text) = q := by
  cases reads with
  | without bare =>
      have nothing := (Numeral.scan_eq_none isDecimalDigit_marks).2 bare
      rw [positiveDecimal_of_given given, decimal?, nothing]
      rfl
  | foreign leads among digit other =>
      obtain ⟨n, written⟩ := leads.inside
      rw [leads.positiveDecimal_eq written]
      refine if_neg fun converted => ?_
      have ascii := (written.isAscii_iff isDecimalDigit_marks).1 converted.1 _ among digit
      rw [other] at ascii
      cases ascii
  | infinite leads ascii written rounds =>
      rw [leads.positiveDecimal_eq written]
      refine if_neg fun converted => ?_
      rw [← Numeral.rounds_iff.1 rounds] at converted
      cases converted.2
  | nonpositive leads ascii written rounds finite nonpositive =>
      have converted := (written.isAscii_iff isDecimalDigit_marks).2 ascii
      have sign := (Binary64.isPositive_iff finite).not.2 (not_lt.2 nonpositive)
      obtain rfl := Numeral.rounds_iff.1 rounds
      rw [leads.positiveDecimal_eq written, ofNumeral]
      simp [converted, Binary64.isFinite_iff.2 ⟨_, finite⟩, sign]
  | positive leads ascii written rounds finite positive =>
      have converted := (written.isAscii_iff isDecimalDigit_marks).2 ascii
      have sign := (Binary64.isPositive_iff finite).2 positive
      obtain rfl := Numeral.rounds_iff.1 rounds
      rw [leads.positiveDecimal_eq written, ofNumeral]
      simp [converted, Binary64.isFinite_iff.2 ⟨_, finite⟩, sign]

/-- `ReadsDecimal` relates every text to some result: whether there is a leading numeral, whether
its digits are ASCII, and the sign and size of the rounded number are told apart. -/
lemma exists_readsDecimal (text : List Char) : ∃ q, ReadsDecimal text q := by
  by_cases bare : ∀ numeral, numeral <+: skipBlanks text → ¬ Numeral.language isDecimalDigit numeral
  · exact ⟨_, .without bare⟩
  obtain ⟨⟨n, rest⟩, found⟩ := Option.ne_none_iff_exists'.1
    ((Numeral.scan_eq_none isDecimalDigit_marks).not.2 bare)
  obtain ⟨numeral, -, written, leads⟩ := (Numeral.scan_eq_some isDecimalDigit_marks).1 found
  by_cases ascii : ∀ c ∈ numeral, isDecimalDigit c = true → isAsciiDigit c = true
  swap
  · push Not at ascii
    obtain ⟨c, among, digit, other⟩ := ascii
    exact ⟨_, .foreign leads among digit (by simpa using other)⟩
  obtain ⟨x, rounds⟩ : ∃ x, Binary64.Rounds n.negative n.magnitude x :=
    ⟨_, Numeral.rounds_iff.2 rfl⟩
  cases finite : x.toRat? with
  | none =>
      cases rounds with
      | finite below nearest => cases finite
      | infinite above => exact ⟨_, .infinite leads ascii written (.infinite above)⟩
  | some q =>
      obtain nonpositive | positive := le_or_gt q 0
      · exact ⟨_, .nonpositive leads ascii written rounds finite nonpositive⟩
      · exact ⟨_, .positive leads ascii written rounds finite positive⟩

/-- **`positiveDecimal` computes `ReadsDecimal`.** Its values are finite and above zero, and texts
with the same leading numeral have the same result. -/
theorem positiveDecimal_iff :
    (∀ text q, text ≠ "" → (positiveDecimal (some text) = q ↔ ReadsDecimal text.toList q))
      ∧ (∀ raw x, positiveDecimal raw = .value x → ∃ q, x.toRat? = some q ∧ 0 < q)
      ∧ ∀ numeral text text', Leads numeral text.toList → Leads numeral text'.toList →
          positiveDecimal (some text) = positiveDecimal (some text') := by
  have faithful (text : String) (q : Quantity Binary64) (given : text ≠ "") :
      positiveDecimal (some text) = q ↔ ReadsDecimal text.toList q := by
    refine ⟨?_, ReadsDecimal.positiveDecimal_eq given⟩
    rintro rfl
    obtain ⟨q, reads⟩ := exists_readsDecimal text.toList
    rwa [reads.positiveDecimal_eq given]
  refine ⟨faithful, fun raw x value => ?above, fun numeral text text' leads leads' => ?same⟩
  case above =>
    rcases raw with - | text
    · cases value
    by_cases given : text = ""
    · subst given
      cases value
    cases (faithful text (.value x) given).1 value with
    | positive leads ascii written rounds finite positive => exact ⟨_, finite, positive⟩
  case same =>
    obtain ⟨n, written⟩ := leads.inside
    rw [leads.positiveDecimal_eq written, leads'.positiveDecimal_eq written]

/-- An exponent without digits is none, and so `2.5e+` is two and a half. -/
theorem positiveDecimal_iff_half :
    ReadsDecimal "2.5e+".toList (.value (.finite false 5629499534213120 (-51)))
      ∧ (∃ q, Binary64.toRat? (.finite false 5629499534213120 (-51)) = some q ∧ 0 < q)
      ∧ positiveDecimal (some "2.5e+") = positiveDecimal (some "\t2.5.0") := by
  obtain ⟨faithful, above, same⟩ := positiveDecimal_iff
  have value : positiveDecimal (some "2.5e+") = .value (.finite false 5629499534213120 (-51)) := by
    decide +kernel
  have leads : Leads "2.5".toList "2.5e+".toList :=
    leads_iff.2 ⟨⟨false, ['2'], ['5'], none⟩, "e+".toList, by decide +kernel⟩
  have leads' : Leads "2.5".toList "\t2.5.0".toList :=
    leads_iff.2 ⟨⟨false, ['2'], ['5'], none⟩, ".0".toList, by decide +kernel⟩
  exact ⟨(faithful "2.5e+" _ (by decide)).1 value, above _ _ value, same _ _ _ leads leads'⟩

end SaleSearch.Grammar

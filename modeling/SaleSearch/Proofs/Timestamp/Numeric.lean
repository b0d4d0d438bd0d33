import SaleSearch.Proofs.Number.Digits
import SaleSearch.Proofs.Refusal.Timestamp
import SaleSearch.Proofs.Timestamp.Size

/-!
# Timestamps that are digits

A text of digits is judged by the number that it denotes, of whatever length the text is.  The
number is parsed into 64 bits, written again and measured, which comes to the same as comparing it
with powers of ten, `bySize`.

* `timestamp_of_numeric` : how every text of digits is read, and from that: zeros in front make no
  difference to a timestamp, and neither do the milliseconds after ten digits.
-/

namespace SaleSearch.Grammar

open Number Text

namespace Timestamp

/-- How digits are read that denote a number.  The text itself only matters if it is reported, which
it is from the sixty-third power of two on. -/
def bySize (text : String) (n : Nat) : Except MalformedTimestamp (Option Int) :=
  if 10 ^ 9 ≤ n ∧ n < 10 ^ 10 then .ok (some n)
  else if 10 ^ 12 ≤ n ∧ n < 10 ^ 13 then .ok (some (n / 1000 : Nat))
  else .error { input := if n < signedBound then n.repr else text }

lemma ofNumber_natCast (n : Nat) : ofNumber n
    = if 10 ^ 9 ≤ n ∧ n < 10 ^ 10 then .ok (n : Int)
      else if 10 ^ 12 ≤ n ∧ n < 10 ^ 13 then .ok ((n / 1000 : Nat) : Int)
      else .error { input := n.repr } := by
  have seconds : n.repr.length = 10 ↔ 10 ^ 9 ≤ n ∧ n < 10 ^ 10 := length_repr_eq_iff
  have milliseconds : n.repr.length = 13 ↔ 10 ^ 12 ≤ n ∧ n < 10 ^ 13 := length_repr_eq_iff
  have floor : (n : Int).fdiv 1000 = ((n / 1000 : Nat) : Int) :=
    Int.fdiv_eq_ediv_of_nonneg _ (by decide)
  rw [ofNumber_of_nonneg (by omega), byDigits, Int.natAbs_natCast, decimal_natCast, floor]
  simp only [seconds, milliseconds]

/-- `ofDigits` is `bySize` of the number that the digits denote. -/
lemma ofDigits_eq_bySize (text : String) :
    (ofDigits text).map some = bySize text (digitsValue text.toList) := by
  simp only [ofDigits, bySize, fitsInt64_natCast, decide_eq_true_eq]
  generalize digitsValue text.toList = n
  by_cases fits : n < signedBound
  · simp only [if_pos fits, ofNumber_natCast]
    split_ifs <;> rfl
  · have large : 10 ^ 13 ≤ n := by
      simp only [signedBound] at fits
      omega
    rw [if_neg fits, if_neg fits, if_neg (by omega), if_neg (by omega)]
    rfl

/-- Two texts that denote the same number are the same timestamp, if they are one. -/
lemma bySize_eq_ok_congr {text text' : String} {n : Nat} {result : Option Int} :
    bySize text n = .ok result ↔ bySize text' n = .ok result := by
  unfold bySize
  split_ifs <;> simp

lemma bySize_ne_none (text : String) (n : Nat) : bySize text n ≠ .ok none := by
  unfold bySize
  split_ifs <;> simp

lemma bySize_milliseconds {text text' : String} {n milliseconds : Nat} (low : 10 ^ 9 ≤ n)
    (high : n < 10 ^ 10) (part : milliseconds < 1000) :
    bySize text' (1000 * n + milliseconds) = bySize text n := by
  have seconds : (1000 * n + milliseconds) / 1000 = n := by omega
  rw [bySize, bySize, if_neg (by omega), if_pos (by omega), if_pos ⟨low, high⟩, seconds]

end Timestamp

lemma timestamp_eq_bySize {text : String} (numeric : isNumeric text = true) :
    timestamp (some text) = Timestamp.bySize text (digitsValue text.toList) := by
  rw [timestamp, Timestamp.read, if_pos (isNumeric_iff.1 numeric), Timestamp.ofDigits_eq_bySize]

lemma isNumeric_append {a b : String} (first : isNumeric a = true)
    (second : b.toList.all isAsciiDigit = true) : isNumeric (a ++ b) = true := by
  obtain ⟨some, ascii⟩ := isNumeric_iff.1 first
  refine isNumeric_iff.2 ⟨fun empty => some ?_, ?_⟩
  · exact (String.append_eq_empty_iff.1 empty).1
  · rw [String.toList_append, List.all_append, ascii, second, Bool.and_self]

lemma isNumeric_zeroPadded {text : String} (numeric : isNumeric text = true) (zeros : Nat) :
    isNumeric (zeroPadded zeros text) = true := by
  obtain ⟨some, ascii⟩ := isNumeric_iff.1 numeric
  refine isNumeric_iff.2 ⟨fun empty => some ?_, ?_⟩
  · exact (String.append_eq_empty_iff.1 empty).2
  · rw [toList_zeroPadded, List.all_append, ascii, Bool.and_true, List.all_replicate]
    split <;> decide

/-- Ten digits with none to spare denote a number of ten digits. -/
lemma digitsValue_of_ten {text : String} (ascii : ∀ c ∈ text.toList, isAsciiDigit c = true)
    (ten : text.length = 10) (counts : text.toList.head? ≠ some '0') :
    10 ^ 9 ≤ digitsValue text.toList ∧ digitsValue text.toList < 10 ^ 10 := by
  have length : text.toList.length = 10 := ten
  constructor
  · cases digits : text.toList with
    | nil => simp [digits] at length
    | cons c rest =>
        rw [digits] at ascii counts length
        have nine : rest.length = 9 := Nat.succ.inj length
        have least : 10 ^ rest.length ≤ digitsValue (c :: rest) :=
          le_digitsValue (ascii c (by simp)) (by simpa using counts)
        rwa [nine] at least
  · have most := digitsValue_lt ascii
    rwa [length] at most

/-- **`timestamp` reads digits by the size of the number that they denote.**  Ten digits are
seconds, thirteen are milliseconds, which are divided, and other sizes are refused; zeros in front
do not count. -/
theorem timestamp_of_numeric {text : String} {n : Nat} (numeric : isNumeric text = true)
    (denotes : digitsValue text.toList = n) :
    (∃ zeros, text = zeroPadded zeros n.repr)
      ∧ timestamp (some text) = Timestamp.bySize text n
      ∧ timestamp (some text) ≠ .ok none
      ∧ (∀ zeros t, timestamp (some (zeroPadded zeros text)) = .ok t
          ↔ timestamp (some text) = .ok t)
      ∧ ∀ milliseconds, text.length = 10 → text.toList.head? ≠ some '0' →
          milliseconds.length = 3 → isNumeric milliseconds = true →
          timestamp (some (text ++ milliseconds)) = timestamp (some text) := by
  subst denotes
  obtain ⟨nonempty, ascii⟩ := isNumeric_iff.1 numeric
  refine ⟨?written, timestamp_eq_bySize numeric, ?given, fun zeros t => ?padded,
    fun milliseconds ten counts three digits => ?milliseconds⟩
  case written =>
    obtain ⟨zeros, written⟩ := exists_zeros (by simpa using nonempty) (List.all_eq_true.1 ascii)
    exact ⟨zeros, String.toList_inj.1 (by simpa using written)⟩
  case given =>
    rw [timestamp_eq_bySize numeric]
    exact Timestamp.bySize_ne_none _ _
  case padded =>
    rw [timestamp_eq_bySize numeric, timestamp_eq_bySize (isNumeric_zeroPadded numeric zeros),
      toList_zeroPadded, digitsValue_zeros]
    exact Timestamp.bySize_eq_ok_congr
  case milliseconds =>
    have last := (isNumeric_iff.1 digits).2
    have length : milliseconds.toList.length = 3 := three
    obtain ⟨low, high⟩ := digitsValue_of_ten (List.all_eq_true.1 ascii) ten counts
    have part := digitsValue_lt (List.all_eq_true.1 last)
    rw [length] at part
    rw [timestamp_eq_bySize (isNumeric_append numeric last), timestamp_eq_bySize numeric,
      String.toList_append, digitsValue_append, length]
    exact Timestamp.bySize_milliseconds low high part

/-- A time in seconds, with a zero in front and with milliseconds after it. -/
theorem timestamp_of_numeric_newYear :
    isNumeric "1672531200" = true ∧ digitsValue "1672531200".toList = 1672531200
      ∧ timestamp (some "1672531200") = .ok (some 1672531200)
      ∧ timestamp (some (zeroPadded 1 "1672531200")) = .ok (some 1672531200)
      ∧ timestamp (some ("1672531200" ++ "999")) = .ok (some 1672531200) := by
  have numeric : isNumeric "1672531200" = true := by decide
  have denotes : digitsValue "1672531200".toList = 1672531200 := by decide
  obtain ⟨-, read, -, zeros, milliseconds⟩ := timestamp_of_numeric numeric denotes
  have seconds : timestamp (some "1672531200") = .ok (some 1672531200) := read
  have padded := (zeros 1 (some 1672531200)).2 seconds
  have longer := milliseconds "999" (by decide) (by decide) (by decide) (by decide)
  exact ⟨numeric, denotes, seconds, padded, longer.trans seconds⟩

end SaleSearch.Grammar

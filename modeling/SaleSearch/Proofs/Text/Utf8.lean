import Mathlib.Algebra.Ring.Nat
import Mathlib.Tactic.Common
import SaleSearch.Text.Utf8

/-!
# Text written as UTF-8 is read back

The lossy reader loses nothing of bytes that were made from text.  A character is a leading byte and
bytes with six bits each; what has been read of it, with some bytes still owed, is a quotient of the
character by a power of 64.

* `following` are the bytes after the leading one, and `decodeFrom_following` reads them.
* `lead_two`, `lead_three` and `lead_four` are the leading bytes, with what they demand of the next.
* `decodeLossy_encode` is the result.
-/

namespace SaleSearch.Text.Utf8

/-- The last bytes of a character, with six bits each. -/
def following (v : Nat) : Nat → List UInt8
  | 0 => []
  | owed + 1 => UInt8.ofNat (v / 64 ^ owed % 64 + 128) :: following v owed

/-- More bytes of a character are owed after the next one, which is as it may be. -/
structure Pending.Awaits (v more : Nat) (p : Pending) : Prop where
  bits : p.bits = v / 64 ^ (more + 1)
  owed : p.owed = more + 1
  least : p.least ≤ v / 64 ^ more % 64 + 128
  greatest : v / 64 ^ more % 64 + 128 ≤ p.greatest

/-- A byte with six bits is one below 256. -/
lemma toNat_ofNat_following (q : Nat) : (UInt8.ofNat (q % 64 + 128)).toNat = q % 64 + 128 := by
  rw [UInt8.toNat_ofNat']
  omega

/-- The six bits of the next byte go behind the bits that are there. -/
lemma Pending.Awaits.bits_next {v more : Nat} {p : Pending} (awaits : p.Awaits v more) :
    p.bits * 64 + (v / 64 ^ more % 64 + 128 - 128) = v / 64 ^ more := by
  rw [awaits.bits, Nat.pow_succ, ← Nat.div_div_eq_div_mul]
  omega

/-- With the following bytes a pending character is completed. -/
lemma decodeFrom_following {v more : Nat} {p : Pending} (awaits : p.Awaits v more)
    (rest : List UInt8) :
    decodeFrom (some p) (following v (more + 1) ++ rest)
      = Char.ofNat v :: decodeFrom none rest := by
  have fits := And.intro awaits.least awaits.greatest
  induction more generalizing p with
  | zero =>
      have last : p.owed ≤ 1 := Nat.le_of_eq awaits.owed
      rw [following, List.cons_append, decodeFrom, toNat_ofNat_following, step, if_pos fits,
        if_pos last, awaits.bits_next, Nat.pow_zero, Nat.div_one]
      rfl
  | succ more ih =>
      have not_last : ¬ p.owed ≤ 1 := by
        rw [awaits.owed]
        omega
      rw [following, List.cons_append, decodeFrom, toNat_ofNat_following, step, if_pos fits,
        if_neg not_last, awaits.bits_next, List.nil_append]
      have next : Pending.Awaits v more { bits := v / 64 ^ (more + 1), owed := p.owed - 1 } :=
        { bits := rfl
          owed := by rw [awaits.owed]; rfl
          least := by dsimp only; omega
          greatest := by dsimp only; omega }
      exact ih next ⟨next.least, next.greatest⟩

/-! ## The leading byte -/

lemma lead_two {v : Nat} (least : 127 < v) (greatest : v ≤ 2047) :
    ∃ p, lead (v / 64 % 32 + 192) = ([], some p) ∧ p.Awaits v 0 := by
  refine ⟨{ bits := v / 64 % 32 + 192 - 0xC0, owed := 1 }, ?_, ?_⟩
  · rw [lead, if_neg (by omega), if_pos (by omega)]
  · constructor <;> dsimp only <;> omega

/-- The leading byte of a character of three bytes.  What it demands of the second byte depends on
whether it is the least one, the one before the surrogates, or any other. -/
lemma lead_three {v : Nat} (least : 2047 < v) (greatest : v ≤ 65535)
    (valid : v < 0xD800 ∨ 0xDFFF < v) :
    ∃ p, lead (v / 4096 % 16 + 224) = ([], some p) ∧ p.Awaits v 1 := by
  have first : v / 4096 % 16 = v / 4096 := by omega
  rw [first, lead, if_neg (by omega), if_neg (by omega)]
  by_cases lowest : v / 4096 = 0
  · rw [lowest, if_pos (by omega)]
    exact ⟨_, rfl, by constructor <;> dsimp only <;> omega⟩
  · rw [if_neg (by omega)]
    by_cases surrogate : v / 4096 = 13
    · rw [surrogate, if_pos (by omega)]
      exact ⟨_, rfl, by constructor <;> dsimp only <;> omega⟩
    · rw [if_neg (by omega), if_pos (by omega)]
      exact ⟨_, rfl, by constructor <;> dsimp only <;> omega⟩

/-- The leading byte of a character of four bytes.  It demands less than the usual range of the
second byte at both ends of the code points. -/
lemma lead_four {v : Nat} (least : 65535 < v) (greatest : v < 0x110000) :
    ∃ p, lead (v / 262144 % 8 + 240) = ([], some p) ∧ p.Awaits v 2 := by
  have first : v / 262144 % 8 = v / 262144 := by omega
  rw [first, lead, if_neg (by omega), if_neg (by omega), if_neg (by omega), if_neg (by omega),
    if_neg (by omega)]
  by_cases lowest : v / 262144 = 0
  · rw [lowest, if_pos (by omega)]
    exact ⟨_, rfl, by constructor <;> dsimp only <;> omega⟩
  · rw [if_neg (by omega)]
    by_cases last : v / 262144 = 4
    · rw [last, if_neg (by omega), if_pos (by omega)]
      exact ⟨_, rfl, by constructor <;> dsimp only <;> omega⟩
    · rw [if_pos (by omega)]
      exact ⟨_, rfl, by constructor <;> dsimp only <;> omega⟩

/-! ## Characters -/

/-- A character is no surrogate and not beyond the last code point. -/
lemma toNat_valid (c : Char) : c.toNat < 0xD800 ∨ 0xDFFF < c.toNat ∧ c.toNat < 0x110000 :=
  c.valid

/-- A character is read from its leading byte and the following ones. -/
lemma decodeFrom_lead {b : Nat} {v more : Nat} {p : Pending} (byte : b < 256)
    (leads : lead b = ([], some p)) (awaits : p.Awaits v more) (rest : List UInt8) :
    decodeFrom none (UInt8.ofNat b :: following v (more + 1) ++ rest)
      = Char.ofNat v :: decodeFrom none rest := by
  have value : (UInt8.ofNat b).toNat = b := by
    rw [UInt8.toNat_ofNat']
    omega
  rw [List.cons_append, decodeFrom, value, step, leads, List.nil_append,
    decodeFrom_following awaits]

/-- A character is read from its bytes, whatever comes after them. -/
theorem decodeFrom_utf8EncodeChar (c : Char) (rest : List UInt8) :
    decodeFrom none (String.utf8EncodeChar c ++ rest) = c :: decodeFrom none rest := by
  have valid := toNat_valid c
  suffices h : decodeFrom none (String.utf8EncodeChar c ++ rest)
      = Char.ofNat c.toNat :: decodeFrom none rest by rwa [Char.ofNat_toNat] at h
  rw [String.utf8EncodeChar, show c.val.toNat = c.toNat from rfl]
  split
  · rename_i ascii
    have value : (UInt8.ofNat c.toNat).toNat = c.toNat := by
      rw [UInt8.toNat_ofNat']
      omega
    rw [List.cons_append, decodeFrom, value, step, lead, if_pos ascii]
    rfl
  · split
    · obtain ⟨p, leads, awaits⟩ := lead_two (v := c.toNat) (by omega) (by omega)
      simpa [following] using decodeFrom_lead (by omega) leads awaits rest
    · split
      · obtain ⟨p, leads, awaits⟩ := lead_three (v := c.toNat) (by omega) (by omega) (by omega)
        simpa [following] using decodeFrom_lead (by omega) leads awaits rest
      · obtain ⟨p, leads, awaits⟩ := lead_four (v := c.toNat) (by omega) (by omega)
        simpa [following] using decodeFrom_lead (by omega) leads awaits rest

/-- **What was written as UTF-8 is read back.** -/
theorem decodeLossy_encode (text : List Char) : decodeLossy (encode text) = text := by
  unfold decodeLossy encode
  induction text with
  | nil => rfl
  | cons c rest ih => rw [List.flatMap_cons, decodeFrom_utf8EncodeChar, ih]

end SaleSearch.Text.Utf8

/-!
# Reading bytes as text

UTF-8 is read without ever failing: a malformed sequence becomes one replacement character, and the
byte that broke it is read again as the start of something new.

* `Pending` is a character of which some bytes have been read.
* `decodeLossy` turns bytes into characters.
* `encode` is the way back.
-/

namespace SaleSearch.Text.Utf8

/-- What stands for a malformed sequence. -/
def replacement : Char := '\uFFFD'

/-- The beginning of a character: the bits read so far, how many bytes are still owed, and the
least and the greatest byte that may come next. -/
structure Pending where
  bits : Nat
  owed : Nat
  least : Nat := 0x80
  greatest : Nat := 0xBF
  deriving DecidableEq, Repr

/-- What the first byte of a character says: the character itself, a beginning, or nothing. The
narrower ranges for the second byte exclude overlong forms, surrogates and code points beyond the
last. -/
def lead (b : Nat) : List Char × Option Pending :=
  if b ≤ 0x7F then ([Char.ofNat b], none)
  else if 0xC2 ≤ b ∧ b ≤ 0xDF then ([], some { bits := b - 0xC0, owed := 1 })
  else if b = 0xE0 then ([], some { bits := 0, owed := 2, least := 0xA0 })
  else if b = 0xED then ([], some { bits := 0xD, owed := 2, greatest := 0x9F })
  else if 0xE1 ≤ b ∧ b ≤ 0xEF then ([], some { bits := b - 0xE0, owed := 2 })
  else if b = 0xF0 then ([], some { bits := 0, owed := 3, least := 0x90 })
  else if 0xF1 ≤ b ∧ b ≤ 0xF3 then ([], some { bits := b - 0xF0, owed := 3 })
  else if b = 0xF4 then ([], some { bits := 4, owed := 3, greatest := 0x8F })
  else ([replacement], none)

/-- One more byte: the characters that it completes, and what is pending after it. -/
def step : Option Pending → Nat → List Char × Option Pending
  | none, b => lead b
  | some p, b =>
      if p.least ≤ b ∧ b ≤ p.greatest then
        if p.owed ≤ 1 then ([Char.ofNat (p.bits * 64 + (b - 0x80))], none)
        else ([], some { bits := p.bits * 64 + (b - 0x80), owed := p.owed - 1 })
      else (replacement :: (lead b).1, (lead b).2)

/-- Read on from a state; a character left unfinished at the end is malformed. -/
def decodeFrom : Option Pending → List UInt8 → List Char
  | none, [] => []
  | some _, [] => [replacement]
  | state, b :: rest => (step state b.toNat).1 ++ decodeFrom (step state b.toNat).2 rest

/-- Bytes as text, with a replacement character for each malformed sequence. -/
def decodeLossy (bytes : List UInt8) : List Char :=
  decodeFrom none bytes

/-- Text as bytes. -/
def encode (text : List Char) : List UInt8 :=
  text.flatMap String.utf8EncodeChar

end SaleSearch.Text.Utf8

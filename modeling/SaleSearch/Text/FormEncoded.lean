import SaleSearch.Text.Utf8

/-!
# Form-encoded query strings

`a=1&b=two+words&c=%C3%A9` as a list of names and values. The text is taken as bytes and goes
through stages, each a total function of its own: `pieces` at the separators, `splitAtFirst` into
name and value, `plusToSpace`, `percentDecode`, and reading as UTF-8.

* `readPairs` is the whole of it.
* `readQuery` first drops one leading question mark.
-/

namespace SaleSearch.Text.FormEncoded

/-- The parts of a list between occurrences of `mark`; always at least one. -/
def pieces (mark : UInt8) : List UInt8 → List (List UInt8)
  | [] => [[]]
  | b :: rest =>
      if b = mark then [] :: pieces mark rest
      else match pieces mark rest with
        | [] => [[b]]
        | piece :: others => (b :: piece) :: others

/-- The bytes before the first `mark` and those after it. Without one all bytes are before it. -/
def splitAtFirst (mark : UInt8) : List UInt8 → List UInt8 × List UInt8
  | [] => ([], [])
  | b :: rest =>
      if b = mark then ([], rest)
      else (b :: (splitAtFirst mark rest).1, (splitAtFirst mark rest).2)

/-- A plus sign stands for a space. -/
def plusToSpace (bytes : List UInt8) : List UInt8 :=
  bytes.map fun b => if b = 0x2B then 0x20 else b

/-- The value of an ASCII hexadecimal digit of either case. -/
def hexValue? (b : UInt8) : Option UInt8 :=
  if 0x30 ≤ b ∧ b ≤ 0x39 then some (b - 0x30)
  else if 0x41 ≤ b ∧ b ≤ 0x46 then some (b - 0x37)
  else if 0x61 ≤ b ∧ b ≤ 0x66 then some (b - 0x57)
  else none

/-- A percent sign and two hexadecimal digits are one byte. Any other percent sign stands for
itself. -/
def percentDecode : List UInt8 → List UInt8
  | 0x25 :: high :: low :: rest =>
      match hexValue? high, hexValue? low with
      | some h, some l => (h * 16 + l) :: percentDecode rest
      | _, _ => 0x25 :: percentDecode (high :: low :: rest)
  | b :: rest => b :: percentDecode rest
  | [] => []

/-- A name or a value as text. -/
def component (bytes : List UInt8) : String :=
  String.ofList (Utf8.decodeLossy (percentDecode (plusToSpace bytes)))

/-- The name and the value of a piece; without an equals sign the value is empty. -/
def readPiece (piece : List UInt8) : String × String :=
  (component (splitAtFirst 0x3D piece).1, component (splitAtFirst 0x3D piece).2)

/-- The pairs of a query string in order; empty pieces between the separators give none. -/
def readPairs (text : List Char) : List (String × String) :=
  ((pieces 0x26 (Utf8.encode text)).filter fun piece => !piece.isEmpty).map readPiece

/-- The pairs of a query string, in front of which one question mark may stand. -/
def readQuery (text : String) : List (String × String) :=
  match text.toList with
  | '?' :: rest => readPairs rest
  | rest => readPairs rest

end SaleSearch.Text.FormEncoded

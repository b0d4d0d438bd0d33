/-!
# Blanks and digits

Two classes of characters, listed by code point. Blanks may surround a number in a request: they are
the Unicode property `White_Space`. Number grammars take any character of the Unicode category `Nd`
for a digit, though only the ASCII ones can be given a value.

* `isBlank` is membership in `White_Space`. `skipBlanks` drops the blanks in front of a text, and
  `trimBlanks` those at both ends.
* `isDecimalDigit` is membership in `Nd`, which consists of runs of ten, and `isAsciiDigit` is the
  part of it that has a value here.
-/

namespace SaleSearch.Text

/-- The ranges of code points, ends included, that make up `White_Space`. -/
def blankRanges : List (Nat × Nat) :=
  [(0x09, 0x0D), (0x20, 0x20), (0x85, 0x85), (0xA0, 0xA0), (0x1680, 0x1680), (0x2000, 0x200A),
    (0x2028, 0x2029), (0x202F, 0x202F), (0x205F, 0x205F), (0x3000, 0x3000)]

/-- Has the character the property `White_Space`? -/
def isBlank (c : Char) : Bool :=
  blankRanges.any fun range => range.1 ≤ c.toNat && c.toNat ≤ range.2

/-- Drop the blanks in front. -/
def skipBlanks (text : List Char) : List Char :=
  text.dropWhile isBlank

/-- Drop the blanks at both ends. -/
def trimBlanks (text : List Char) : List Char :=
  (skipBlanks (skipBlanks text).reverse).reverse

/-- The zero of each run of ten digits. -/
def digitZeros : List Nat :=
  [0x30, 0x660, 0x6F0, 0x7C0, 0x966, 0x9E6, 0xA66, 0xAE6, 0xB66, 0xBE6, 0xC66, 0xCE6, 0xD66, 0xDE6,
    0xE50, 0xED0, 0xF20, 0x1040, 0x1090, 0x17E0, 0x1810, 0x1946, 0x19D0, 0x1A80, 0x1A90, 0x1B50,
    0x1BB0, 0x1C40, 0x1C50, 0xA620, 0xA8D0, 0xA900, 0xA9D0, 0xA9F0, 0xAA50, 0xABF0, 0xFF10, 0x104A0,
    0x10D30, 0x10D40, 0x11066, 0x110F0, 0x11136, 0x111D0, 0x112F0, 0x11450, 0x114D0, 0x11650,
    0x116C0, 0x116D0, 0x116DA, 0x11730, 0x118E0, 0x11950, 0x11BF0, 0x11C50, 0x11D50, 0x11DA0,
    0x11F50, 0x16130, 0x16A60, 0x16AC0, 0x16B50, 0x16D70, 0x1CCF0, 0x1D7CE, 0x1D7D8, 0x1D7E2,
    0x1D7EC, 0x1D7F6, 0x1E140, 0x1E2F0, 0x1E4F0, 0x1E5F1, 0x1E950, 0x1FBF0]

/-- Is the character in the category `Nd`? -/
def isDecimalDigit (c : Char) : Bool :=
  digitZeros.any fun first => first ≤ c.toNat && c.toNat < first + 10

/-- Is the character one of `0` to `9`? -/
abbrev isAsciiDigit (c : Char) : Bool :=
  c.isDigit

/-- The ASCII digits are among the digits of every script. -/
theorem isDecimalDigit_of_isAsciiDigit {c : Char} (h : isAsciiDigit c = true) :
    isDecimalDigit c = true := by
  simp only [isAsciiDigit, Char.isDigit, ge_iff_le, Bool.and_eq_true, decide_eq_true_eq] at h
  have low : 48 ≤ c.toNat := h.1
  have high : c.toNat ≤ 57 := h.2
  simp only [isDecimalDigit, digitZeros, List.any_cons, Bool.or_eq_true, Bool.and_eq_true,
    decide_eq_true_eq]
  omega

end SaleSearch.Text

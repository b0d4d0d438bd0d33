import SaleSearch.Json.Value

/-!
# Reading JSON

`Json.read?` reads a whole text as one value. Text that is no JSON gives nothing: comments, single
quotes, superfluous commas or zeros and control characters in strings are all refused. Lone
surrogates in strings are not, but what has them is ill-formed.

The recursion is bounded by the length of the text: each step into a value takes a character off it.
-/

namespace SaleSearch.Json.Reader

open Number Text

/-- The characters that may stand between the parts of a value. -/
def isBlank (c : Char) : Bool :=
  c = ' ' || c = '\n' || c = '\t' || c = '\r'

/-- Drop the blanks in front. -/
def skip (text : List Char) : List Char :=
  text.dropWhile isBlank

/-! ## Numbers -/

/-- An integer keeps its value if it fits 64 bits; zero with a sign does not count as one. -/
def ofInteger (negative : Bool) (digits : List Char) : Json :=
  let n := signed negative (digitsValue digits)
  if negative ∧ n = 0 then .float (Binary64.zero true)
  else if -(signedBound : Int) ≤ n ∧ n < (unsignedBound : Int) then .integer n
  else .float (Binary64.ofInt n)

/-- The digits after a point, which must not be missing. -/
def takeFraction : List Char → Option (List Char) × List Char
  | '.' :: rest =>
      let digits := rest.takeWhile isAsciiDigit
      if digits.isEmpty then (none, '.' :: rest) else (some digits, rest.dropWhile isAsciiDigit)
  | rest => (none, rest)

/-- A number, and the text after it. With a fraction or an exponent it is a binary number. -/
def number? (text : List Char) : Option (Json × List Char) :=
  let (negative, body) := match text with
    | '-' :: rest => (true, rest)
    | rest => (false, rest)
  let whole := body.takeWhile isAsciiDigit
  if whole.isEmpty || (whole.head? = some '0' && 1 < whole.length) then none
  else
    let (fraction, rest) := takeFraction (body.dropWhile isAsciiDigit)
    let (exponent, rest) := Numeral.scanExponent isAsciiDigit rest
    match fraction, exponent with
    | none, none => some (ofInteger negative whole, rest)
    | _, _ =>
        let numeral : Numeral := { negative, whole, fraction := fraction.getD [], exponent }
        some (.float (Binary64.ofDecimal numeral.value), rest)

/-! ## Strings -/

/-- A character of a string as it stands, or a unit of sixteen bits. -/
inductive Unit16 where
  | char (c : Char)
  | unit (n : Nat)
  deriving DecidableEq, Repr

/-- The value of a hexadecimal digit. -/
def hexValue? (c : Char) : Option Nat :=
  if '0' ≤ c ∧ c ≤ '9' then some (c.toNat - 48)
  else if 'a' ≤ c ∧ c ≤ 'f' then some (c.toNat - 87)
  else if 'A' ≤ c ∧ c ≤ 'F' then some (c.toNat - 55)
  else none

/-- The value of four hexadecimal digits. -/
def hexValues? (a b c d : Char) : Option Nat := do
  return (((← hexValue? a) * 16 + (← hexValue? b)) * 16 + (← hexValue? c)) * 16 + (← hexValue? d)

/-- The escapes of a single letter. -/
def escaped? : Char → Option Char
  | '\"' => some '\"'
  | '\\' => some '\\'
  | '/' => some '/'
  | 'b' => some '\x08'
  | 'f' => some '\x0c'
  | 'n' => some '\n'
  | 'r' => some '\r'
  | 't' => some '\t'
  | _ => none

/-- The contents of a string up to the closing quote. -/
def units? : List Char → Option (List Unit16 × List Char)
  | [] => none
  | '\"' :: rest => some ([], rest)
  | '\\' :: 'u' :: a :: b :: c :: d :: rest => do
      let unit ← hexValues? a b c d
      let (units, rest) ← units? rest
      return (.unit unit :: units, rest)
  | '\\' :: c :: rest => do
      let char ← escaped? c
      let (units, rest) ← units? rest
      return (.char char :: units, rest)
  | c :: rest => do
      if c.toNat < 0x20 ∨ c = '\\' then none
      else
        let (units, rest) ← units? rest
        return (.char c :: units, rest)

/-- Is the unit the first half of a surrogate pair? -/
def isHigh (n : Nat) : Bool := 0xD800 ≤ n && n < 0xDC00

/-- Is the unit the second half of a surrogate pair? -/
def isLow (n : Nat) : Bool := 0xDC00 ≤ n && n < 0xE000

/-- Units as characters; a high surrogate takes a low one with it, and neither may stand alone. -/
def characters? : List Unit16 → Option (List Char)
  | [] => some []
  | .char c :: rest => (characters? rest).map (c :: ·)
  | .unit high :: .unit low :: rest =>
      if isHigh high then
        if isLow low then
          (characters? rest).map
            (Char.ofNat (0x10000 + (high - 0xD800) * 1024 + (low - 0xDC00)) :: ·)
        else none
      else if isLow high then none
      else (characters? (.unit low :: rest)).map (Char.ofNat high :: ·)
  | .unit n :: rest =>
      if isHigh n || isLow n then none else (characters? rest).map (Char.ofNat n :: ·)

/-- A string after its opening quote, unless it is ill-formed. -/
def text? (text : List Char) : Option (Option String × List Char) := do
  let (units, rest) ← units? text
  return ((characters? units).map String.ofList, rest)

/-- A string as a value, unless it is ill-formed. -/
def ofText : Option String → Json
  | some s => .string s
  | none => .illFormed

/-- An object, if all its names are well formed. -/
def ofMembers (members : List (Option String × Json)) : Json :=
  match members.mapM fun m => m.1.map fun name => (name, m.2) with
  | some members => .object members
  | none => .illFormed

/-! ## Values -/

mutual

/-- A value, after blanks, and the text after it. -/
def value? : Nat → List Char → Option (Json × List Char)
  | 0, _ => none
  | fuel + 1, text =>
      match skip text with
      | 'n' :: 'u' :: 'l' :: 'l' :: rest => some (.null, rest)
      | 't' :: 'r' :: 'u' :: 'e' :: rest => some (.bool true, rest)
      | 'f' :: 'a' :: 'l' :: 's' :: 'e' :: rest => some (.bool false, rest)
      | '\"' :: rest => (text? rest).map fun read => (ofText read.1, read.2)
      | '[' :: rest =>
          match skip rest with
          | ']' :: rest => some (.array [], rest)
          | rest => (elements? fuel rest).map fun read => (.array read.1, read.2)
      | '\x7b' :: rest =>
          match skip rest with
          | '\x7d' :: rest => some (.object [], rest)
          | rest => (members? fuel rest).map fun read => (ofMembers read.1, read.2)
      | rest => number? rest

/-- At least one element, and the bracket that closes the array. -/
def elements? : Nat → List Char → Option (List Json × List Char)
  | 0, _ => none
  | fuel + 1, text => do
      let (first, rest) ← value? fuel text
      match skip rest with
      | ',' :: rest => do
          let (others, rest) ← elements? fuel rest
          return (first :: others, rest)
      | ']' :: rest => some ([first], rest)
      | _ => none

/-- At least one member, and the brace that closes the object. -/
def members? : Nat → List Char → Option (List (Option String × Json) × List Char)
  | 0, _ => none
  | fuel + 1, text =>
      match skip text with
      | '\"' :: rest => do
          let (name, rest) ← text? rest
          match skip rest with
          | ':' :: rest => do
              let (value, rest) ← value? fuel rest
              match skip rest with
              | ',' :: rest => do
                  let (others, rest) ← members? fuel rest
                  return ((name, value) :: others, rest)
              | '\x7d' :: rest => some ([(name, value)], rest)
              | _ => none
          | _ => none
      | _ => none

end

end SaleSearch.Json.Reader

namespace SaleSearch.Json

/-- A whole text as one value, with nothing but blanks after it. -/
def read? (text : String) : Option Json := do
  let (value, rest) ← Reader.value? (2 * text.length + 2) text.toList
  if (Reader.skip rest).isEmpty then some value else none

end SaleSearch.Json

import SaleSearch.Json.Value
import SaleSearch.Number.Layout

/-!
# Writing JSON

* `Json.compact` writes a value without blanks, and `Json.pretty` on lines of their own, each level
  indented by two spaces; an empty array or object stays on its line.
* `Json.quoted` writes a string, escaping quotes, backslashes and control characters only.
-/

namespace SaleSearch.Json

/-- A number below sixteen as a hexadecimal digit. -/
def hexDigit (n : Nat) : Char :=
  Nat.digitChar n

/-- A character inside a string. -/
def escape (c : Char) : List Char :=
  if c = '\"' then ['\\', '\"']
  else if c = '\\' then ['\\', '\\']
  else if c = '\n' then ['\\', 'n']
  else if c = '\t' then ['\\', 't']
  else if c = '\r' then ['\\', 'r']
  else if c = '\x08' then ['\\', 'b']
  else if c = '\x0c' then ['\\', 'f']
  else if c.toNat < 0x20 then
    ['\\', 'u', '0', '0', hexDigit (c.toNat / 16), hexDigit (c.toNat % 16)]
  else [c]

/-- A string between quotes. -/
def quoted (s : String) : String :=
  String.ofList ('\"' :: s.toList.flatMap escape ++ ['\"'])

/-- A binary number in the layout of documents. What is not finite is written `null`. -/
def floatText (x : Number.Binary64) : String :=
  if x.isFinite then Number.Layout.document.text x else "null"

mutual

/-- A value on one line without blanks. -/
def compact : Json → String
  | .null => "null"
  | .bool b => if b then "true" else "false"
  | .integer n => Number.decimal n
  | .float x => floatText x
  | .string s => quoted s
  | .array elements => "[" ++ ",".intercalate (compactElements elements) ++ "]"
  | .object members => "\x7b" ++ ",".intercalate (compactMembers members) ++ "\x7d"
  | .illFormed => "null"

def compactElements : List Json → List String
  | [] => []
  | e :: rest => compact e :: compactElements rest

/-- The members of an object, each with its name and a colon in front. -/
def compactMembers : List (String × Json) → List String
  | [] => []
  | (name, value) :: rest => (quoted name ++ ":" ++ compact value) :: compactMembers rest

end

/-- The start of a line at a level. -/
def indentation (level : Nat) : String :=
  "\n" ++ String.ofList (List.replicate (2 * level) ' ')

/-- Parts on lines of their own, between brackets. -/
def onLines (level : Nat) (opening closing : String) (parts : List String) : String :=
  if parts.isEmpty then opening ++ closing
  else opening ++ indentation (level + 1) ++ ("," ++ indentation (level + 1)).intercalate parts
    ++ indentation level ++ closing

mutual

/-- A value that starts at a level of indentation. -/
def prettyAt : Nat → Json → String
  | level, .array elements => onLines level "[" "]" (prettyElements (level + 1) elements)
  | level, .object members => onLines level "\x7b" "\x7d" (prettyMembers (level + 1) members)
  | _, .null => "null"
  | _, .bool b => if b then "true" else "false"
  | _, .integer n => Number.decimal n
  | _, .float x => floatText x
  | _, .string s => quoted s
  | _, .illFormed => "null"

def prettyElements : Nat → List Json → List String
  | _, [] => []
  | level, e :: rest => prettyAt level e :: prettyElements level rest

/-- The members of an object, each with its name, a colon and a blank in front. -/
def prettyMembers : Nat → List (String × Json) → List String
  | _, [] => []
  | level, (name, value) :: rest =>
      (quoted name ++ ": " ++ prettyAt level value) :: prettyMembers level rest

end

/-- A value on lines of its own. -/
def pretty (value : Json) : String :=
  prettyAt 0 value

end SaleSearch.Json

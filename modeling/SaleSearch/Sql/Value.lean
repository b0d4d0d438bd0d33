import SaleSearch.Number.Layout

/-!
# Values in statements

A value that a filter compares with. It is either written into the statement or sent beside it. What
is sent beside a statement goes by a number, under which the statement names it in a placeholder,
together with its type, and the request to the store passes it on.

* `Value.literal` is a value in a statement.
* `Binding.placeholder` is what stands in the statement for a value beside it, and
  `Binding.httpPair` the value as it is sent.
-/

namespace SaleSearch.Sql

/-- A value that a filter compares with, by its type in the store. -/
inductive Value where
  | unsigned (n : Nat)
  | signed (n : Int)
  | float (x : Number.Binary64)
  | string (s : String)
  deriving DecidableEq, Repr

namespace Value

/-- The type of the value, as a placeholder names it. -/
def typeName : Value → String
  | .unsigned _ => "UInt64"
  | .signed _ => "Int64"
  | .float _ => "Float64"
  | .string _ => "String"

/-- The value as it is sent beside a statement. -/
def text : Value → String
  | .unsigned n => n.repr
  | .signed n => Number.decimal n
  | .float x => Number.Layout.plain.text x
  | .string s => s

/-- The value as it is written into a statement. Strings are put between quotes as they are: the
grammars that filter values come from admit no quote. -/
def literal : Value → String
  | .string s => "'" ++ s ++ "'"
  | v => v.text

end Value

/-- A value that is sent beside the statement, by its number. -/
structure Binding where
  index : Nat
  value : Value
  deriving DecidableEq, Repr

namespace Binding

/-- The name of the placeholder. -/
def name (b : Binding) : String :=
  "p" ++ b.index.repr

/-- What stands in the statement for the value. -/
def placeholder (b : Binding) : String :=
  "\x7b" ++ b.name ++ ":" ++ b.value.typeName ++ "\x7d"

/-- The value as a pair of an HTTP query. -/
def httpPair (b : Binding) : String × String :=
  ("param_" ++ b.name, b.value.text)

end Binding

end SaleSearch.Sql

import SaleSearch.Number.Binary64

/-!
# JSON values

A number without fraction and exponent that fits 64 bits, signed or unsigned, is an integer; every
other one is a binary number, also the negative zero. An object keeps its members in order, with
repetitions.

* `Json.values` gives the values of a name, and `Json.member?` the only one.
* `Json.integer?`, `Json.string?`, … are the views of a value as one of its kinds.
-/

namespace SaleSearch

/-- A JSON value. -/
inductive Json where
  | null
  | bool (b : Bool)
  | integer (n : Int)
  | float (x : Number.Binary64)
  | string (s : String)
  | array (elements : List Json)
  | object (members : List (String × Json))
  /-- A string with a lone surrogate, or an object with such a name. It can be passed over, but
  there is nothing to be read from it. -/
  | illFormed

namespace Json

def bool? : Json → Option Bool
  | .bool b => some b
  | _ => none

def string? : Json → Option String
  | .string s => some s
  | _ => none

def array? : Json → Option (List Json)
  | .array elements => some elements
  | _ => none

def object? : Json → Option (List (String × Json))
  | .object members => some members
  | _ => none

/-- An integer in the signed range. -/
def signed? : Json → Option Int
  | .integer n => if Number.fitsInt64 n then some n else none
  | _ => none

/-- An integer in the unsigned range. -/
def unsigned? : Json → Option Nat
  | .integer n => if 0 ≤ n ∧ Number.fitsUInt64 n.toNat then some n.toNat else none
  | _ => none

/-- Any finite number, rounded if need be. -/
def number? : Json → Option Number.Binary64
  | .integer n => some (Number.Binary64.ofInt n)
  | .float x => if x.isFinite then some x else none
  | _ => none

/-- The values that the members of an object have under a name. -/
def values (members : List (String × Json)) (name : String) : List Json :=
  (members.filter fun m => m.1 = name).map (·.2)

/-- The member of an object with a name; the last one if there are more. -/
def field? (members : List (String × Json)) (name : String) : Option Json :=
  (values members name).getLast?

/-- The member of an object with a name, which must not be repeated. -/
def member? (members : List (String × Json)) (name : String) : Option Json :=
  match values members name with
  | [value] => some value
  | _ => none

end Json

end SaleSearch

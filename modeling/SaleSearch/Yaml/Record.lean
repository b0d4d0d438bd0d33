import SaleSearch.Number.Numeral
import SaleSearch.Yaml.Node

/-!
# YAML records

A document that is a record: a mapping from names to nodes, in which a known name stands once. An
empty document is the empty record. What a plain scalar means depends on what is expected: numbers
and truth values must be plain, texts may be anything.
-/

namespace SaleSearch.Yaml

/-- The text of a scalar, plain or quoted. -/
def Node.text? : Node → Option String
  | .scalar text _ => some text
  | _ => none

/-- The text of a plain scalar. -/
def Node.plain? : Node → Option String
  | .scalar text true => some text
  | _ => none

/-- A plain scalar as a truth value, in three ways of writing. -/
def Node.bool? (node : Node) : Option Bool := do
  let text ← node.plain?
  if text ∈ ["true", "True", "TRUE"] then some true
  else if text ∈ ["false", "False", "FALSE"] then some false
  else none

/-- The value of a digit in bases up to sixteen. -/
def digitValue? (base : Nat) (c : Char) : Option Nat :=
  (hexValue? c).filter (· < base)

/-- Digits of a base, at least one. -/
def digits? (base : Nat) (text : List Char) : Option Nat := do
  let values ← text.mapM (digitValue? base)
  if values.isEmpty then none else some (values.foldl (fun n d => n * base + d) 0)

/-- Is it more than one digit with a zero in front? Such a scalar is text and no number. -/
def isZeroPadded : List Char → Bool
  | '0' :: rest => !rest.isEmpty && rest.all Text.isAsciiDigit
  | _ => false

/-- A whole number, in decimal digits or after the mark of another base; a plus sign may stand in
front. -/
def unsigned? (text : List Char) : Option Nat :=
  let body := match text with
    | '+' :: rest => rest
    | rest => rest
  match body with
  | '0' :: 'x' :: rest => digits? 16 rest
  | '0' :: 'o' :: rest => digits? 8 rest
  | '0' :: 'b' :: rest => digits? 2 rest
  | _ => if isZeroPadded body then none else digits? 10 body

/-- A plain scalar as a number of 64 bits. -/
def Node.unsigned? (node : Node) : Option Nat := do
  let n ← Yaml.unsigned? (← node.plain?).toList
  if Number.fitsUInt64 n then some n else none

/-- Texts in a list; an empty node is the empty list. -/
def Node.texts? : Node → Option (List String)
  | .sequence items => items.mapM Node.text?
  | .scalar "" true => some []
  | _ => none

/-- The entries of a record, by name. -/
def Node.record? : Node → Option (List (String × Node))
  | .mapping entries => entries.mapM fun entry => do return ((← entry.1.text?), entry.2)
  | .scalar "" true => some []
  | _ => none

/-- The entries of a document that is a record with some known names, none of which is repeated. -/
def record? (known : List String) (text : String) : Option (List (String × Node)) := do
  match ← read? text with
  | none => some []
  | some node =>
      let entries ← node.record?
      if known.all fun name => (entries.filter fun e => e.1 = name).length ≤ 1 then some entries
      else none

/-- The node of a name in a record. -/
def field? (entries : List (String × Node)) (name : String) : Option Node :=
  (entries.find? fun e => e.1 = name).map (·.2)

end SaleSearch.Yaml

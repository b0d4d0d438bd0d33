import SaleSearch.Json.Value
import SaleSearch.Settings

/-!
# Settings as written

Settings are given in more than one format, but always as six parts of which any may be missing. A
format says how a part is understood as a number, a token, a text or a truth value; the rest is the
same for all.

* `Form` is such a format, and `Form.settings?` reads the parts in it.
* `Settings.ofJson?` and `Settings.toJson` are the settings in JSON: an object, in which unknown
  members are passed over and no known one is repeated, or an array of the parts in order.
-/

namespace SaleSearch.Settings

variable {α β : Type}

/-- How the parts of a format are understood. -/
structure Form (α : Type) where
  /-- A whole number of 64 bits without a sign. -/
  unsigned? : α → Option Nat
  /-- The name of a choice. -/
  token? : α → Option String
  text? : α → Option String
  bool? : α → Option Bool

/-- The parts of the settings in some format, as far as they are there. -/
structure Parts (α : Type) where
  maxLimit : Option α := none
  sortDirection : Option α := none
  aggregateFunction : Option α := none
  aggregateColumn : Option α := none
  timeRange : Option α := none
  bindValues : Option α := none

/-- A missing part has its default; one that is there has to be understood. -/
def Form.part? (read? : α → Option β) (default : β) : Option α → Option β
  | none => some default
  | some part => read? part

/-- A part that names a choice. -/
def Form.choice? (form : Form α) (read? : String → Option β) (part : α) : Option β :=
  (form.token? part).bind read?

/-- Settings by their parts, each of which has to be understood if it is there. -/
def Form.settings? (form : Form α) (parts : Parts α) : Option Settings := do
  let default : Settings := {}
  let maxLimit ← part? form.unsigned? default.maxLimit parts.maxLimit
  let sortDirection ←
    part? (form.choice? SortDirection.ofToken?) default.sortDirection parts.sortDirection
  let aggregateFunction ←
    part? (form.choice? AggregateFunction.ofToken?) default.aggregateFunction
      parts.aggregateFunction
  let aggregateColumn ←
    part? (form.choice? AggregateColumn.ofToken?) default.aggregateColumn parts.aggregateColumn
  let timeRange ←
    part? (fun part => (form.text? part).bind TimeRange.ofToken?) default.timeRange parts.timeRange
  let bindValues ← part? form.bool? default.bindValues parts.bindValues
  return { maxLimit, sortDirection, aggregateFunction, aggregateColumn, timeRange, bindValues }

/-- The names of the parts, in the order in which an array gives them. -/
def partNames : List String :=
  ["max_limit", "default_sort_direction", "default_aggregate_function", "default_aggregate_column",
    "default_time_range", "bind_values"]

/-- The parts that a record has under their names. -/
def Parts.named (get? : String → Option α) : Parts α where
  maxLimit := get? "max_limit"
  sortDirection := get? "default_sort_direction"
  aggregateFunction := get? "default_aggregate_function"
  aggregateColumn := get? "default_aggregate_column"
  timeRange := get? "default_time_range"
  bindValues := get? "bind_values"

/-- The parts that an array gives in order; the rest is missing. -/
def Parts.listed (parts : List α) : Parts α where
  maxLimit := parts[0]?
  sortDirection := parts[1]?
  aggregateFunction := parts[2]?
  aggregateColumn := parts[3]?
  timeRange := parts[4]?
  bindValues := parts[5]?

/-! ## JSON -/

/-- A choice is its name, or an object whose only member is that name with the value `null`. -/
def choiceName? : Json → Option String
  | .string name => some name
  | .object [(name, .null)] => some name
  | _ => none

/-- The parts of settings in JSON. -/
def jsonForm : Form Json where
  unsigned? := Json.unsigned?
  token? := choiceName?
  text? := Json.string?
  bool? := Json.bool?

/-- The settings that a JSON value holds. -/
def ofJson? : Json → Option Settings
  | .array parts =>
      if parts.length ≤ partNames.length then jsonForm.settings? (Parts.listed parts) else none
  | .object members =>
      if partNames.all fun name => (Json.values members name).length ≤ 1 then
        jsonForm.settings? (Parts.named (Json.field? members))
      else none
  | _ => none

/-- The settings as an object with all parts. -/
def toJson (s : Settings) : Json :=
  .object [
    ("max_limit", .integer s.maxLimit),
    ("default_sort_direction", .string s.sortDirection.text),
    ("default_aggregate_function", .string s.aggregateFunction.text),
    ("default_aggregate_column", .string s.aggregateColumn.text),
    ("default_time_range", .string s.timeRange.text),
    ("bind_values", .bool s.bindValues)]

end SaleSearch.Settings

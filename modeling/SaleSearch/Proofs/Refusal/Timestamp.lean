import SaleSearch.Proofs.Outcome
import SaleSearch.Proofs.Verification.Agreement

/-!
# Malformed timestamps

Conditions are refused on account of a timestamp only, and a timestamp only if it is a number of the
wrong size.  There are five parameters for a timestamp, and the first malformed one is reported.

* `Grammar.isMalformed` says when a text is a number of the wrong size, and `Grammar.reported` how
  it is reported; `Grammar.failure?_timestamp` is the law of the reader.
* `Request.malformed?` finds the first malformed timestamp of a request, which
  `Request.FirstMalformed` says more plainly, and `Filter.failure?_assemble` says that nothing else
  is refused.
-/

namespace SaleSearch

open Number Text

namespace Grammar

/-- A text of ASCII digits and nothing else. -/
def isNumeric (text : String) : Bool :=
  text ≠ "" && text.toList.all isAsciiDigit

/-- Ten digits for seconds or thirteen for milliseconds, in 64 bits. -/
def isTimestampSize (n : Nat) : Bool :=
  n < signedBound && (n.repr.length = 10 || n.repr.length = 13)

/-- A number of the wrong size. -/
def isMalformed (text : String) : Bool :=
  isNumeric text && !isTimestampSize (digitsValue text.toList)

/-- A number of 64 bits is reported without superfluous zeros, any other one as it was sent. -/
def reported (text : String) : String :=
  let n := digitsValue text.toList
  if n < signedBound then n.repr else text

lemma isNumeric_iff {text : String} :
    isNumeric text = true ↔ text ≠ "" ∧ text.toList.all isAsciiDigit = true := by
  rw [isNumeric, Bool.and_eq_true, decide_eq_true_eq]

lemma fitsInt64_natCast (n : Nat) : fitsInt64 n = decide (n < signedBound) := by
  have above : -(signedBound : Int) ≤ n := by omega
  simp [fitsInt64, above]

lemma decimal_natCast (n : Nat) : decimal (n : Int) = n.repr := by
  simp [decimal, show ¬((n : Int) < 0) by omega]

/-- A number is refused unless its text has ten or thirteen characters. -/
lemma failure?_ofNumber (n : Nat) : failure? (Timestamp.ofNumber n)
    = if n.repr.length = 10 ∨ n.repr.length = 13 then none else some { input := n.repr } := by
  rw [Timestamp.ofNumber, decimal_natCast]
  by_cases seconds : n.repr.length = 10
  · simp [seconds]
  · by_cases milliseconds : n.repr.length = 13 <;> simp [seconds, milliseconds]

/-- Digits are refused unless the number they denote has the right size. -/
lemma failure?_ofDigits (text : String) : failure? (Timestamp.ofDigits text)
    = if isTimestampSize (digitsValue text.toList) then none
      else some { input := reported text } := by
  simp only [Timestamp.ofDigits, isTimestampSize, reported, fitsInt64_natCast]
  by_cases fits : digitsValue text.toList < signedBound
  · simp only [fits, decide_true, if_true, failure?_ofNumber, Bool.true_and, Bool.or_eq_true,
      decide_eq_true_eq]
  · simp [fits]

lemma failure?_read (text : String) : failure? (Timestamp.read text)
    = if isMalformed text then some { input := reported text } else none := by
  unfold Timestamp.read isMalformed
  simp only [← isNumeric_iff]
  cases isNumeric text with
  | false => rfl
  | true =>
      rw [if_pos rfl, failure?_map, failure?_ofDigits]
      cases isTimestampSize (digitsValue text.toList) <;> rfl

/-- **`timestamp` refuses exactly the texts of digits that are no `isTimestampSize`.** -/
theorem failure?_timestamp (raw : Option String) : failure? (timestamp raw)
    = (raw.filter isMalformed).map fun text => { input := reported text } := by
  cases raw with
  | none => rfl
  | some text =>
      rw [timestamp, failure?_read, Option.filter_some]
      cases isMalformed text <;> rfl

end Grammar

/-- The parameters for a timestamp, in the order of the conditions. -/
def timestampParameters : List String :=
  ["greater_or_equals_by_timestamp", "greater_by_timestamp", "less_or_equals_by_timestamp",
    "less_by_timestamp", "timestamp"]

/-- The first malformed timestamp. -/
def Request.malformed? (request : Request) : Option String :=
  timestampParameters.findSome? fun parameter =>
    (request.get? parameter).filter Grammar.isMalformed

/-- A text is sent in a parameter for a timestamp and is malformed, which no parameter before it
is. -/
def Request.FirstMalformed (request : Request) (text : String) : Prop :=
  ∃ before parameter after, timestampParameters = before ++ parameter :: after
    ∧ request.get? parameter = some text ∧ Grammar.isMalformed text = true
    ∧ ∀ earlier ∈ before, ∀ other, request.get? earlier = some other →
      Grammar.isMalformed other = false

/-- `malformed?` finds the first malformed timestamp. -/
lemma Request.malformed?_eq_some {request : Request} {text : String} :
    request.malformed? = some text ↔ request.FirstMalformed text := by
  simp only [malformed?, FirstMalformed, List.findSome?_eq_some_iff, Option.filter_eq_some_iff,
    Option.filter_eq_none_iff, Bool.not_eq_true, and_assoc]

/-- `malformed?` finds nothing exactly if no timestamp is malformed. -/
lemma Request.malformed?_eq_none {request : Request} : request.malformed? = none
    ↔ ∀ parameter ∈ timestampParameters, ∀ text, request.get? parameter = some text →
      Grammar.isMalformed text = false := by
  simp only [malformed?, List.findSome?_eq_none_iff, Option.filter_eq_none_iff, Bool.not_eq_true]

/-- A slot fails on account of a timestamp only. -/
lemma Slot.failure?_read (slot : Slot) (request : Request) : failure? (slot.read request)
    = if slot.field = .timestamp then failure? (Grammar.timestamp (request.get? slot.parameter))
      else none := by
  ext cause
  rw [failure?_eq_some, Slot.read_eq_error]
  split
  · rename_i field
    rw [failure?_eq_some]
    exact and_iff_right field
  · rename_i field
    simp [field]

namespace Filter

/-- `collect` fails for the first of its slots that does. -/
lemma failure?_collect (request : Request) (slots : List Slot) :
    failure? (collect request slots)
      = slots.findSome? fun slot => failure? (slot.read request) := by
  induction slots with
  | nil => rfl
  | cons slot rest ih =>
      rw [collect, List.findSome?_cons]
      cases slot.read request with
      | error cause => rfl
      | ok found => simpa using ih

lemma findSome?_failure?_read (request : Request) (slots : List Slot) :
    slots.findSome? (fun slot => failure? (slot.read request))
      = ((slots.filter fun slot => slot.field = .timestamp).map Slot.parameter).findSome?
          fun parameter => failure? (Grammar.timestamp (request.get? parameter)) := by
  induction slots with
  | nil => rfl
  | cons slot rest ih =>
      by_cases field : slot.field = .timestamp
      · simp [List.findSome?_cons, slot.failure?_read, field, ih]
      · simp [slot.failure?_read, field, ih]

lemma slots_eq_all {scope : Scope} (asks : scope ≠ .history) : slots scope = Slot.all :=
  List.filter_eq_self.2 fun _ _ => by simp [Scope.includes, asks]

/-- **`assemble` fails, unless for a history, exactly for the first malformed timestamp.** -/
theorem failure?_assemble {scope : Scope} (asks : scope ≠ .history) (request : Request) :
    failure? (assemble request scope)
      = request.malformed?.map fun text => { input := Grammar.reported text } := by
  have parameters : ((Slot.all.filter fun slot => slot.field = .timestamp).map Slot.parameter)
      = timestampParameters := by decide
  rw [assemble, slots_eq_all asks, failure?_collect, findSome?_failure?_read, parameters,
    Request.malformed?, List.map_findSome?]
  exact congrArg (timestampParameters.findSome? ·)
    (funext fun parameter => Grammar.failure?_timestamp (request.get? parameter))

/-- `assemble` never fails for a history. -/
theorem failure?_assemble_history (request : Request) :
    failure? (assemble request .history) = none :=
  failure?_eq_none.2 (assemble_history request)

end Filter

end SaleSearch

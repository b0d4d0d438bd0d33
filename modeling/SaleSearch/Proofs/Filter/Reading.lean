import SaleSearch.Proofs.Filter.Formed
import SaleSearch.Proofs.Sql.Passing
import SaleSearch.Proofs.Text.Alphabet

/-!
# Reading conditions back

The conditions of a statement can be read off its text.  A condition is read word by word: what it
begins with tells its kind and attribute, and its literals end where a blank or a bracket follows.

* `read_predicate` reads one condition off the front of a text.
* `read_further` reads on up to the closing bracket, by induction on the conditions.
* `read_filter` also tells whether there are conditions at all.
-/

namespace SaleSearch

open Sql Segment Text

/-- Values that look the same in a statement. -/
def Sql.Value.SameText (v w : Value) : Prop :=
  v.text = w.text ∧ v.typeName = w.typeName

namespace Sql

/-- The text of segments with the values written into it. -/
def inlined (segments : List Segment) : String :=
  fill .inline 0 segments

lemma inlined_fixed (text : String) (rest : List Segment) :
    inlined (.fixed text :: rest) = text ++ inlined rest :=
  rfl

lemma inlined_slot (v : Value) (rest : List Segment) :
    inlined (.slot v :: rest) = v.literal ++ inlined rest := by
  rw [inlined, fill, filling, fill_inline_next _ 0, inlined]

lemma inlined_nil : inlined [] = "" :=
  rfl

lemma inlined_append (a b : List Segment) : inlined (a ++ b) = inlined a ++ inlined b := by
  rw [inlined, fill_append_slots, fill_inline_next _ 0 b, inlined, inlined]

end Sql

/-! ## Words -/

lemma Field.name_injective {f g : Field} (h : f.name = g.name) : f = g :=
  Option.some.inj ((ofName?_name f).symm.trans (h ▸ ofName?_name g))

lemma operand_ne_timestamp {f : Field} (h : f ≠ .timestamp) : operand f ≠ operand .timestamp := by
  cases f <;> first | exact absurd rfl h | decide

/-- Different attributes are written differently on the left of a comparison. -/
lemma operand_injective {f g : Field} (h : operand f = operand g) : f = g := by
  by_cases hf : f = .timestamp
  · by_cases hg : g = .timestamp
    · rw [hf, hg]
    · exact absurd (hf ▸ h.symm) (operand_ne_timestamp hg)
  · by_cases hg : g = .timestamp
    · exact absurd (hg ▸ h) (operand_ne_timestamp hf)
    · refine Field.name_injective ?_
      rwa [operand, operand, if_neg hf, if_neg hg] at h

lemma over_operand (field : Field) : Over (allBut ' ') (operand field) := by
  cases field <;> decide

lemma over_symbol (comparison : Comparison) : Over (allBut ' ') comparison.symbol := by
  cases comparison <;> decide

lemma symbol_injective {a b : Comparison} (h : a.symbol = b.symbol) : a = b := by
  cases a <;> cases b <;> first | rfl | exact absurd h (by decide)

/-- Values of one type with the same literal have the same text, since their quotes are alike. -/
lemma sameText_of_literal {v w : Value} (type : v.typeName = w.typeName)
    (literal : v.literal = w.literal) : v.SameText w := by
  rw [Value.literal_eq, Value.literal_eq, ← type] at literal
  split at literal
  · exact ⟨(String.append_right_inj "'").1 ((String.append_left_inj "'").1 literal), type⟩
  · exact ⟨literal, type⟩

/-- A literal ends where no character of a literal follows. -/
lemma read_literal {v w : Value} (plain_v : v.Plain) (plain_w : w.Plain) {r s : String}
    (stops_r : Stops isLiteral r) (stops_s : Stops isLiteral s)
    (h : v.literal ++ r = w.literal ++ s) : v.literal = w.literal ∧ r = s :=
  word_append_inj (over_iff.2 fun _ => plain_v.mem_literal)
    (over_iff.2 fun _ => plain_w.mem_literal) stops_r stops_s h

/-! ## One condition -/

namespace Sql.Predicate

/-- What stands in front of the first blank. -/
def opening : Predicate → String
  | .compare field _ _ => operand field
  | .contains field _ => "has(" ++ (field.name ++ ",")
  | .window column _ _ => inSeconds column.qualified

/-- What stands after the first blank. -/
def remainder : Predicate → String
  | .compare _ comparison v => comparison.symbol ++ (" " ++ v.literal)
  | .contains _ v => v.literal ++ ")"
  | .window _ low high => "BETWEEN " ++ (low.literal ++ (" AND " ++ high.literal))

/-- The text of a condition is its opening, a blank and its remainder. -/
lemma inlined_segments (p : Predicate) :
    inlined p.segments = p.opening ++ (" " ++ p.remainder) := by
  cases p with
  | compare field comparison v =>
      simp only [segments, opening, remainder, inlined_fixed, inlined_slot, inlined_nil,
        String.append_assoc, String.append_empty]
  | contains field v =>
      simp only [segments, opening, remainder, inlined_fixed, inlined_slot, inlined_nil,
        String.append_assoc, String.append_empty, show ", " = "," ++ " " from rfl]
  | window column low high =>
      simp only [segments, opening, remainder, inlined_fixed, inlined_slot, inlined_nil,
        String.append_assoc, String.append_empty, show " BETWEEN " = " " ++ "BETWEEN " from rfl]

/-- The opening of a `Formed` condition has no blank, so it ends at the first one. -/
lemma Formed.over_opening {p : Predicate} (formed : p.Formed) : Over (allBut ' ') p.opening := by
  cases formed with
  | compare plain type => exact over_operand _
  | contains plain type =>
      show Over (allBut ' ') ("has(" ++ (Field.assetIds.name ++ ","))
      decide
  | window bounds =>
      show Over (allBut ' ') (inSeconds Sales.blockTimestamp.qualified)
      decide

/-- The opening of a condition is read off the front of a text. -/
lemma read_opening {p q : Predicate} (formed_p : p.Formed) (formed_q : q.Formed) {r s : String}
    (h : inlined p.segments ++ r = inlined q.segments ++ s) :
    p.opening = q.opening ∧ p.remainder ++ r = q.remainder ++ s := by
  rw [inlined_segments, inlined_segments, String.append_assoc, String.append_assoc,
    String.append_assoc, String.append_assoc] at h
  obtain ⟨opening, rest⟩ := word_append_inj formed_p.over_opening formed_q.over_opening
    (stops_append (by decide)) (stops_append (by decide)) h
  exact ⟨opening, (String.append_right_inj " ").1 rest⟩

lemma operand_ne_opening {q : Predicate} (formed : q.Formed) (field : Field)
    (other : ∀ g comparison v, q ≠ .compare g comparison v) : operand field ≠ q.opening := by
  cases formed with
  | compare plain type => exact absurd rfl (other _ _ _)
  | contains plain type =>
      show operand field ≠ "has(" ++ (Field.assetIds.name ++ ",")
      cases field <;> decide
  | window bounds =>
      show operand field ≠ inSeconds Sales.blockTimestamp.qualified
      cases field <;> decide

lemma opening_contains_ne_window (v : Value) (bounds : Int × Int) :
    (contains .assetIds v).opening ≠ (Summary.windowPredicate bounds).opening := by
  show "has(" ++ (Field.assetIds.name ++ ",") ≠ inSeconds Sales.blockTimestamp.qualified
  decide

/-! A condition of each kind, after its opening.  Containment brings its own bracket, and the other
two end where the text around them goes on. -/

/-- The value of a containment is read up to its own bracket. -/
lemma read_contains {field : Field} {v w : Value} (plain_v : v.Plain) (plain_w : w.Plain)
    (type : v.typeName = w.typeName) {r s : String}
    (h : (contains field v).remainder ++ r = (contains field w).remainder ++ s) :
    (contains field v).Like Value.SameText (.contains field w) ∧ r = s := by
  simp only [remainder, String.append_assoc] at h
  obtain ⟨literal, rest⟩ := read_literal plain_v plain_w (stops_append (by decide))
    (stops_append (by decide)) h
  exact ⟨.contains field (sameText_of_literal type literal), (String.append_right_inj ")").1 rest⟩

section Remainder

variable {r s : String} (stops_r : Stops isLiteral r) (stops_s : Stops isLiteral s)

include stops_r stops_s

/-- The operator and the value of a comparison are read up to a text that `Stops` literals. -/
lemma read_compare {field : Field} {comparison comparison' : Comparison} {v w : Value}
    (plain_v : v.Plain) (plain_w : w.Plain) (type : v.typeName = w.typeName)
    (h : (compare field comparison v).remainder ++ r
      = (compare field comparison' w).remainder ++ s) :
    (compare field comparison v).Like Value.SameText (.compare field comparison' w) ∧ r = s := by
  simp only [remainder, String.append_assoc] at h
  obtain ⟨symbol, after⟩ := word_append_inj (over_symbol comparison) (over_symbol comparison')
    (stops_append (by decide)) (stops_append (by decide)) h
  obtain ⟨literal, rest⟩ :=
    read_literal plain_v plain_w stops_r stops_s ((String.append_right_inj " ").1 after)
  obtain rfl := symbol_injective symbol
  exact ⟨.compare field comparison (sameText_of_literal type literal), rest⟩

/-- Both bounds of a window are read up to a text that `Stops` literals. -/
lemma read_window {bounds bounds' : Int × Int}
    (h : (Summary.windowPredicate bounds).remainder ++ r
      = (Summary.windowPredicate bounds').remainder ++ s) :
    (Summary.windowPredicate bounds).Like Value.SameText (Summary.windowPredicate bounds')
      ∧ r = s := by
  simp only [Summary.windowPredicate, remainder, String.append_assoc] at h
  have plain : ∀ n, (Value.signed n).Plain := fun _ => trivial
  obtain ⟨low, after⟩ := read_literal (plain _) (plain _) (stops_append (by decide))
    (stops_append (by decide)) ((String.append_right_inj "BETWEEN ").1 h)
  obtain ⟨high, rest⟩ := read_literal (plain _) (plain _) stops_r stops_s
    ((String.append_right_inj " AND ").1 after)
  exact ⟨.window _ (sameText_of_literal rfl low) (sameText_of_literal rfl high), rest⟩

end Remainder

end Sql.Predicate

/-- One condition is read off the front of a text, by the kinds of the two. -/
theorem read_predicate {p q : Predicate} (formed_p : p.Formed) (formed_q : q.Formed) {r s : String}
    (stops_r : Stops isLiteral r) (stops_s : Stops isLiteral s)
    (h : inlined p.segments ++ r = inlined q.segments ++ s) :
    p.Like Value.SameText q ∧ r = s := by
  obtain ⟨opening, rest⟩ := Predicate.read_opening formed_p formed_q h
  -- conditions of two kinds begin differently, so that only the cases of one kind are left
  cases formed_p with
  | @compare field _ v plain type =>
      cases formed_q with
      | compare plain' type' =>
          obtain rfl := operand_injective opening
          exact Predicate.read_compare stops_r stops_s plain plain' (type.trans type'.symm) rest
      | contains plain' type' =>
          exact absurd opening (Predicate.operand_ne_opening (.contains plain' type') field nofun)
      | window bounds =>
          exact absurd opening (Predicate.operand_ne_opening (.window bounds) field nofun)
  | @contains v plain type =>
      cases formed_q with
      | @compare field _ _ _ _ =>
          exact absurd opening.symm
            (Predicate.operand_ne_opening (.contains plain type) field nofun)
      | contains plain' type' =>
          exact Predicate.read_contains plain plain' (type.trans type'.symm) rest
      | window bounds => exact absurd opening (Predicate.opening_contains_ne_window v bounds)
  | window bounds =>
      cases formed_q with
      | @compare field _ _ _ _ =>
          exact absurd opening.symm (Predicate.operand_ne_opening (.window bounds) field nofun)
      | @contains w _ _ => exact absurd opening.symm (Predicate.opening_contains_ne_window w bounds)
      | window bounds' => exact Predicate.read_window stops_r stops_s rest

/-! ## All conditions -/

/-- After a condition comes another one or the closing bracket. -/
lemma stops_further (predicates : List Predicate) (r : String) :
    Stops isLiteral (inlined (furtherSegments predicates) ++ (")" ++ r)) := by
  cases predicates with
  | nil =>
      rw [furtherSegments, List.flatMap_nil, inlined_nil, String.empty_append]
      exact stops_append (by decide)
  | cons p rest =>
      rw [furtherSegments, List.flatMap_cons, List.cons_append, inlined_fixed, String.append_assoc]
      exact stops_append (by decide)

/-- A text that goes on with a bracket does not go on with a condition. -/
lemma bracket_append_ne_and (r s : String) : ")" ++ r ≠ " AND " ++ s := by
  intro h
  have heads := congrArg (fun text => text.toList.head?) h
  simp [String.toList_append] at heads

/-- All conditions behind the first one are read up to the closing bracket, by induction. -/
theorem read_further {ps qs : List Predicate} (formed_p : ∀ p ∈ ps, p.Formed)
    (formed_q : ∀ q ∈ qs, q.Formed) {r s : String}
    (h : inlined (furtherSegments ps) ++ (")" ++ r) = inlined (furtherSegments qs) ++ (")" ++ s)) :
    List.Forall₂ (Predicate.Like Value.SameText) ps qs ∧ r = s := by
  -- on the first list; where it ends the other one ends too, because a bracket begins no condition
  induction ps generalizing qs with
  | nil =>
      cases qs with
      | nil => exact ⟨.nil, by simpa [furtherSegments, inlined_nil] using h⟩
      | cons q others =>
          refine absurd ?_ (bracket_append_ne_and r
            (inlined (q.segments ++ furtherSegments others) ++ (")" ++ s)))
          simpa [furtherSegments, inlined_nil, inlined_fixed, String.append_assoc] using h
  | cons p rest ih =>
      cases qs with
      | nil =>
          refine absurd ?_ (bracket_append_ne_and s
            (inlined (p.segments ++ furtherSegments rest) ++ (")" ++ r)))
          simpa [furtherSegments, inlined_nil, inlined_fixed, String.append_assoc] using h.symm
      | cons q others =>
          simp only [furtherSegments, List.flatMap_cons, List.cons_append, inlined_fixed,
            inlined_append, String.append_assoc] at h
          obtain ⟨like, after⟩ := read_predicate (formed_p p (by simp)) (formed_q q (by simp))
            (stops_further rest r) (stops_further others s) ((String.append_right_inj " AND ").1 h)
          obtain ⟨likes, rest_eq⟩ := ih (fun p' hp => formed_p p' (by simp [hp]))
            (fun q' hq => formed_q q' (by simp [hq])) after
          exact ⟨.cons like likes, rest_eq⟩

/-- A text that does not go on with conditions. -/
def NoConditions (text : String) : Prop :=
  ∀ rest, text ≠ " WHERE (" ++ rest

/-- The text of a `WHERE` clause and what follows it, in the order in which it is read. -/
lemma inlined_filterSegments_cons (p : Predicate) (rest : List Predicate) (r : String) :
    inlined (filterSegments (p :: rest)) ++ r
      = " WHERE (" ++ (inlined p.segments ++ (inlined (furtherSegments rest) ++ (")" ++ r))) := by
  simp only [filterSegments, List.cons_append, inlined_fixed, inlined_append, inlined_nil,
    String.append_assoc, String.append_empty]

/-- All conditions are read off the front of a text that does not go on with conditions. -/
theorem read_filter {ps qs : List Predicate} (formed_p : ∀ p ∈ ps, p.Formed)
    (formed_q : ∀ q ∈ qs, q.Formed) {r s : String} (ends_r : NoConditions r)
    (ends_s : NoConditions s)
    (h : inlined (filterSegments ps) ++ r = inlined (filterSegments qs) ++ s) :
    List.Forall₂ (Predicate.Like Value.SameText) ps qs ∧ r = s := by
  cases ps with
  | nil =>
      rw [filterSegments, inlined_nil, String.empty_append] at h
      cases qs with
      | nil => exact ⟨.nil, by simpa [filterSegments, inlined_nil] using h⟩
      | cons q others => exact absurd (h.trans (inlined_filterSegments_cons ..)) (ends_r _)
  | cons p rest =>
      cases qs with
      | nil =>
          rw [filterSegments, inlined_nil, String.empty_append] at h
          exact absurd (h.symm.trans (inlined_filterSegments_cons ..)) (ends_s _)
      | cons q others =>
          rw [inlined_filterSegments_cons, inlined_filterSegments_cons] at h
          obtain ⟨like, after⟩ := read_predicate (formed_p p (by simp)) (formed_q q (by simp))
            (stops_further rest r) (stops_further others s)
            ((String.append_right_inj " WHERE (").1 h)
          obtain ⟨likes, rest_eq⟩ := read_further (fun p' hp => formed_p p' (by simp [hp]))
            (fun q' hq => formed_q q' (by simp [hq])) after
          exact ⟨.cons like likes, rest_eq⟩

end SaleSearch

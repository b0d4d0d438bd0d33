import SaleSearch.Proofs.Compilation.Agreement
import SaleSearch.Proofs.Filter.Reading

/-!
# Reading statements back

What a statement asks for can be read off its text, if the values are written into it: two requests
that compile to the same text ask for the same.

* `Listing.read` and `Summary.read` read the parts of a statement.
* `like_of_append_windows` tells the condition of a window from those of a request.
* `inline_unambiguous` is the result for compilations.
-/

namespace SaleSearch

open Sql Segment Text

lemma Sql.Statement.sql_compiled_inline (s : Statement) :
    (s.compiled .inline).sql
      = s.front ++ (s.clauses.arrayJoinText
        ++ (inlined (filterSegments s.clauses.filter) ++ s.clauses.tailText)) :=
  s.sql_compiled .inline

/-! ## Listings -/

lemma SortDirection.text_injective {d d' : SortDirection} (h : d.text = d'.text) : d = d' :=
  Option.some.inj ((ofToken?_text d).symm.trans (h ▸ ofToken?_text d'))

/-- The order of a listing is not taken for its conditions. -/
lemma noConditions_order (rest : String) : NoConditions (" ORDER BY sale_id " ++ rest) := by
  intro conditions h
  have starts := congrArg (fun text => text.toList.take 2) h
  simp [String.toList_append] at starts

namespace Listing

/-- Listings of one text have conditions of the same text, one direction and one limit. -/
theorem read {filter filter' : List Predicate} (formed : ∀ p ∈ filter, p.Formed)
    (formed' : ∀ p ∈ filter', p.Formed) {direction direction' : SortDirection} {limit limit' : Nat}
    (h : ((statement filter direction limit).compiled .inline).sql
      = ((statement filter' direction' limit').compiled .inline).sql) :
    List.Forall₂ (Predicate.Like Value.SameText) filter filter'
      ∧ direction = direction' ∧ limit = limit' := by
  rw [sql_statement, sql_statement] at h
  obtain ⟨likes, tails⟩ := read_filter formed formed' (noConditions_order _) (noConditions_order _)
    ((String.append_right_inj _).1 h)
  have word : ∀ d : SortDirection, Over (allBut ' ') d.text := by
    intro d
    cases d <;> decide
  obtain ⟨directions, limits⟩ := word_append_inj (word direction) (word direction')
    (stops_append (by decide)) (stops_append (by decide))
    ((String.append_right_inj " ORDER BY sale_id ").1 tails)
  exact ⟨likes, SortDirection.text_injective directions,
    Nat.repr_injective ((String.append_right_inj " LIMIT ").1 limits)⟩

end Listing

/-! ## Summaries -/

lemma AggregateFunction.text_injective {f f' : AggregateFunction} (h : f.text = f'.text) : f = f' :=
  Option.some.inj ((ofToken?_text f).symm.trans (h ▸ ofToken?_text f'))

namespace Summary

/-- The name of a function has no bracket, so it ends at the first one. -/
lemma over_function (f : AggregateFunction) : Over (allBut '(') f.text := by
  cases f <;> decide

/-- The argument has no closing bracket, so it ends at the first one. -/
lemma over_argumentText (choice : Choice) : Over (allBut ')') choice.argumentText := by
  unfold Choice.argumentText
  split
  · decide
  · cases choice.column <;> decide

/-- The function and the argument are read off the front of a text. -/
lemma read_expr {choice choice' : Choice} {r s : String}
    (h : choice.expr.text ++ r = choice'.expr.text ++ s) :
    choice.function = choice'.function ∧ choice.argument = choice'.argument ∧ r = s := by
  simp only [Choice.text_expr, String.append_assoc] at h
  obtain ⟨functions, after⟩ := word_append_inj (over_function _) (over_function _)
    (stops_append (by decide)) (stops_append (by decide)) h
  obtain ⟨arguments, rest⟩ := word_append_inj (over_argumentText choice)
    (over_argumentText choice') (stops_append (by decide)) (stops_append (by decide))
    ((String.append_right_inj "(").1 after)
  exact ⟨AggregateFunction.text_injective functions, argument_of_argumentText arguments,
    (String.append_right_inj ")").1 rest⟩

lemma sql_shape (mode : AggregateMode) (choice : Choice) (filter : List Predicate)
    (window : Option (Int × Int)) :
    ((shape mode choice filter window).compiled .inline).sql
      = lead mode ++ (choice.expr.text ++ (turn mode ++ ((source choice.column).text
        ++ (inlined (filterSegments (shape mode choice filter window).clauses.filter)
          ++ closing mode)))) := by
  have arrayJoin : (shape mode choice filter window).clauses.arrayJoinText = "" := by
    cases mode <;> rfl
  rw [Statement.sql_compiled_inline, front_shape, tailText_shape, arrayJoin]
  simp only [String.append_assoc, String.empty_append]

lemma noConditions_closing (mode : AggregateMode) : NoConditions (closing mode) := by
  intro conditions h
  have starts := congrArg (fun text => text.toList.take 2) h
  cases mode <;> simp [closing, String.toList_append] at starts

/-- Summaries of one mode and one text have one aggregate and conditions of the same text. -/
theorem read {mode : AggregateMode} {choice choice' : Choice} {filter filter' : List Predicate}
    {window window' : Option (Int × Int)} (formed : ∀ p ∈ filter, p.Formed)
    (formed' : ∀ p ∈ filter', p.Formed)
    (h : ((shape mode choice filter window).compiled .inline).sql
      = ((shape mode choice' filter' window').compiled .inline).sql) :
    choice.function = choice'.function ∧ choice.argument = choice'.argument
      ∧ List.Forall₂ (Predicate.Like Value.SameText)
          (shape mode choice filter window).clauses.filter
          (shape mode choice' filter' window').clauses.filter := by
  rw [sql_shape, sql_shape] at h
  obtain ⟨functions, arguments, after⟩ := read_expr ((String.append_right_inj _).1 h)
  rw [source_of_argument arguments] at after
  have conditions := (String.append_right_inj _).1 ((String.append_right_inj _).1 after)
  exact ⟨functions, arguments, (read_filter (formed_shape formed mode choice window)
    (formed_shape formed' mode choice' window') (noConditions_closing mode)
    (noConditions_closing mode) conditions).1⟩

/-- The condition of a window is the only one that is no `IsAsked`, so it is told from those of a
request. -/
lemma like_of_append_windows {filter filter' : List Predicate} (asked : ∀ p ∈ filter, p.IsAsked)
    (asked' : ∀ p ∈ filter', p.IsAsked) {window window' : Option (Int × Int)}
    (h : List.Forall₂ (Predicate.Like Value.SameText)
      (filter ++ window.toList.map windowPredicate)
      (filter' ++ window'.toList.map windowPredicate)) :
    List.Forall₂ (Predicate.Like Value.SameText) filter filter' ∧ window = window' := by
  -- a condition that was asked for cannot stand where the other list has its window
  induction filter generalizing filter' with
  | nil =>
      cases filter' with
      | nil =>
          cases window with
          | none =>
              cases window' with
              | none => exact ⟨.nil, rfl⟩
              | some bounds' => cases h
          | some bounds =>
              cases window' with
              | none => cases h
              | some bounds' =>
                  cases h with
                  | cons like _ =>
                      cases like with
                      | window _ lows highs =>
                          have low := Number.decimal_injective lows.1
                          have high := Number.decimal_injective highs.1
                          exact ⟨.nil, congrArg some (Prod.ext low high)⟩
      | cons q others =>
          cases window with
          | none => cases h
          | some bounds =>
              cases h with
              | cons like _ => exact (like.isAsked_iff.2 (asked' q (by simp))).elim
  | cons p rest ih =>
      cases filter' with
      | nil =>
          cases window' with
          | none => cases h
          | some bounds' =>
              cases h with
              | cons like _ => exact (like.isAsked_iff.1 (asked p (by simp))).elim
      | cons q others =>
          rcases h with _ | ⟨like, likes⟩
          obtain ⟨likes, windows⟩ := ih (fun p' hp => asked p' (by simp [hp]))
            (fun q' hq => asked' q' (by simp [hq])) likes
          exact ⟨.cons like likes, windows⟩

end Summary

/-! ## Compilations -/

/-- **A text answers one question only.**  Two listings with the same text, or two summaries of one
mode, come from requests that ask for the same, whatever their settings and whenever they were
compiled. -/
theorem inline_unambiguous (request request' : Request) (settings settings' : Settings)
    (inline : settings.bindValues = false) (inline' : settings'.bindValues = false) :
    (∀ c c', Listing.compile request settings = .ok c →
        Listing.compile request' settings' = .ok c' → c.sql = c'.sql →
          Listing.Agree Value.SameText request request' settings settings')
      ∧ ∀ mode now now' c c', Summary.compile request mode settings now = .ok c →
        Summary.compile request' mode settings' now' = .ok c' → c.sql = c'.sql →
          Summary.Agree Value.SameText (· = ·) mode request request' settings settings'
            now now' := by
  have passing := passing_of_inline inline
  have passing' := passing_of_inline inline'
  constructor
  · intro c c' compiled compiled' same
    obtain ⟨filter, assembled, rfl⟩ := Listing.compile_eq_ok.1 compiled
    obtain ⟨filter', assembled', rfl⟩ := Listing.compile_eq_ok.1 compiled'
    rw [passing, passing'] at same
    obtain ⟨likes, directions, limits⟩ := Listing.read (Filter.formed_of_assemble assembled)
      (Filter.formed_of_assemble assembled') same
    exact ⟨filter, filter', assembled, assembled', likes, directions, limits⟩
  · intro mode now now' c c' compiled compiled' same
    obtain ⟨choice, filter, window, resolved, assembled, ended, rfl⟩ :=
      Summary.compile_eq_ok.1 compiled
    obtain ⟨choice', filter', window', resolved', assembled', ended', rfl⟩ :=
      Summary.compile_eq_ok.1 compiled'
    rw [passing, passing'] at same
    obtain ⟨functions, arguments, likes⟩ := Summary.read (Filter.formed_of_assemble assembled)
      (Filter.formed_of_assemble assembled') same
    refine ⟨choice, choice', filter, filter', window, window', resolved, resolved', assembled,
      assembled', ended, ended', functions, arguments, ?_⟩
    cases mode with
    | point =>
        obtain rfl := Except.ok.inj ended
        obtain rfl := Except.ok.inj ended'
        exact ⟨likes, rfl⟩
    | history =>
        exact Summary.like_of_append_windows (Filter.isAsked_of_assemble assembled)
          (Filter.isAsked_of_assemble assembled') likes

/-- A sale of the last week, by its number. -/
def numberedRequest : Request :=
  .ofPairs [("sale_id", "10"), ("range", "7d")]

/-- The same sale, by a number with something around it. -/
def surroundedRequest : Request :=
  .ofPairs [("sale_id", "+10 or so"), ("range", "7d")]

/-- The two requests compile to the same texts, also at different times of one day. -/
theorem inline_unambiguous_numberedRequest :
    ∃ listing summary, Listing.compile numberedRequest {} = .ok listing
      ∧ Listing.compile surroundedRequest {} = .ok listing
      ∧ Listing.Agree Value.SameText numberedRequest surroundedRequest {} {}
      ∧ Summary.compile numberedRequest .history {} 1700000000 = .ok summary
      ∧ Summary.compile surroundedRequest .history {} 1700000001 = .ok summary
      ∧ Summary.Agree Value.SameText (· = ·) .history numberedRequest surroundedRequest {} {}
          1700000000 1700000001 := by
  have asked : ∀ scope, Filter.assemble numberedRequest scope
      = .ok [.compare .saleId .equal (.unsigned 10)] := by
    intro scope
    cases scope <;> decide +kernel
  have asked' : ∀ scope, Filter.assemble surroundedRequest scope
      = .ok [.compare .saleId .equal (.unsigned 10)] := by
    intro scope
    cases scope <;> decide +kernel
  obtain ⟨listing, listed, listed'⟩ : ∃ c, Listing.compile numberedRequest {} = .ok c
      ∧ Listing.compile surroundedRequest {} = .ok c :=
    ⟨_, Listing.compile_eq_ok.2 ⟨_, asked _, rfl⟩, Listing.compile_eq_ok.2 ⟨_, asked' _, rfl⟩⟩
  obtain ⟨summary, summed, summed'⟩ : ∃ c,
      Summary.compile numberedRequest .history {} 1700000000 = .ok c
        ∧ Summary.compile surroundedRequest .history {} 1700000001 = .ok c :=
    ⟨_, Summary.compile_eq_ok.2 ⟨_, _, _, rfl, asked _, rfl, rfl⟩,
      Summary.compile_eq_ok.2 ⟨_, _, _, rfl, asked' _, rfl, rfl⟩⟩
  have unambiguous := inline_unambiguous numberedRequest surroundedRequest {} {} rfl rfl
  exact ⟨listing, summary, listed, listed', unambiguous.1 _ _ listed listed' rfl, summed, summed',
    unambiguous.2 .history _ _ _ _ summed summed' rfl⟩

end SaleSearch

import Mathlib.Data.List.Flatten
import SaleSearch.Proofs.Verification.Kept

/-!
# Which names are looked up

The names of a request are checked kind by kind, each by its grammar first and by a lookup then, and
the first that fails ends the verification.  So a name is looked up if it is of its grammar and all
names before it were found; the other checks come later and look nothing up.

* `Reached` says that a name gets so far, in terms of what was looked up before it.
* `Conduct.consulted_iff` is the result for the checks of some kinds, whatever comes after them, and
  `Conduct.reached_iff` for those of a request.
* `Conduct.kinds_sublist`: names are looked up in the order of the kinds, none of them twice.
-/

namespace SaleSearch

open Catalog

/-- The kinds that are looked up before one, if they are given. -/
def Catalog.Kind.earlier (kind : Kind) : List Kind :=
  Kind.all.takeWhile fun k => k ≠ kind

namespace Verification

/-- The lookup has found what it looked for. -/
def Found (consulted : List Consultation) (kind : Kind) (name : String) : Prop :=
  ∃ set, name ∈ set ∧ { kind, value := name, answer := some set } ∈ consulted

/-- A name that is looked up: it is given and of its grammar, and all that are given before it were
found. -/
structure Reached (request : Request) (consulted : List Consultation) (kind : Kind)
    (name : String) : Prop where
  given : request.given? kind.field.name = some name
  formed : kind.grammar.accepts name.toList = true
  found : ∀ earlier ∈ kind.earlier, ∀ other, request.given? earlier.field.name = some other →
    Found consulted earlier other

/-- The checks of some names, kind by kind. -/
def checksOf (request : Request) (kinds : List Kind) : List Check :=
  kinds.flatMap fun kind => whenGiven (request.given? kind.field.name) (kindChecks kind)

/-- The checks of a request begin with those of its names, and the others look nothing up. -/
lemma checks_eq_checksOf (request : Request) (settings : Settings) :
    ∃ tail, checks request settings = checksOf request Kind.all ++ tail ∧ lookups tail = [] := by
  have range : lookups (whenGiven (request.given? "range") (rangeChecks settings)) = [] := by
    cases request.given? "range" <;> rfl
  refine ⟨_, ?_, lookups_append .. |>.trans (congrArg₂ (· ++ ·) range
    (lookups_tokenChecks request settings))⟩
  rw [checks_eq, nameChecks_eq, checksOf]
  simp [Kind.all]

/-- The checks of a name end at its grammar, or look it up and go on if it is found. -/
lemma Conduct.of_kindChecks {kind : Kind} {name : String} {rest : List Check}
    {verdict : Option (Except Rejection Unit)} {consulted : List Consultation}
    (h : Conduct (kindChecks kind name ++ rest) verdict consulted) :
    (kind.grammar.accepts name.toList = false ∧ consulted = [])
      ∨ kind.grammar.accepts name.toList = true ∧ ∃ answer more,
        consulted = { kind, value := name, answer } :: more
          ∧ ((∃ set, answer = some set ∧ name ∈ set ∧ Conduct rest verdict more)
            ∨ more = [] ∧ ∀ set, answer = some set → name ∉ set) := by
  have read : (kind.grammar.read? name).isSome = kind.grammar.accepts name.toList := by
    unfold Grammar.CodeGrammar.read?
    split <;> simp_all
  rw [kindChecks, read] at h
  cases accepted : kind.grammar.accepts name.toList with
  | false =>
      rw [accepted] at h
      cases h
      exact .inl ⟨rfl, rfl⟩
  | true =>
      rw [accepted] at h
      cases h with
      | holds later =>
          cases later with
          | waits =>
              refine .inr ⟨rfl, none, [], rfl, .inr ⟨rfl, fun set given => ?_⟩⟩
              cases given
          | found mem later => exact .inr ⟨rfl, _, _, rfl, .inl ⟨_, rfl, mem, later⟩⟩
          | missing notMem =>
              refine .inr ⟨rfl, _, [], rfl, .inr ⟨rfl, fun set given => ?_⟩⟩
              rwa [← Option.some.inj given]

lemma lookups_checksOf (request : Request) (kinds : List Kind) :
    lookups (checksOf request kinds) = kinds.flatMap fun kind =>
      ((request.given? kind.field.name).map fun name => (kind, name)).toList := by
  induction kinds with
  | nil => rfl
  | cons kind rest ih =>
      rw [List.flatMap_cons, ← ih, ← lookups_kindChecks, ← lookups_append]
      rfl

section Kinds

variable {request : Request} {kinds : List Kind} {tail : List Check}
  {verdict : Option (Except Rejection Unit)} {consulted : List Consultation}

/-- Only the names that are checked are looked up. -/
lemma Conduct.kind_mem (h : Conduct (checksOf request kinds ++ tail) verdict consulted)
    (none : lookups tail = []) : ∀ c ∈ consulted, c.kind ∈ kinds := by
  intro c hc
  have looked := h.mem_lookups c hc
  rw [lookups_append, none, List.append_nil, lookups_checksOf] at looked
  obtain ⟨kind, mem, here⟩ := List.mem_flatMap.1 looked
  obtain ⟨name, -, same⟩ := Option.map_eq_some_iff.1 (Option.mem_toList.1 here)
  rwa [← (Prod.mk.inj same).1]

lemma found_cons_of_ne {kind earlier : Kind} {name other : String} {answer : Option (List String)}
    (different : earlier ≠ kind) :
    Found ({ kind, value := name, answer } :: consulted) earlier other
      ↔ Found consulted earlier other := by
  simp [Found, different]

/-- The first name is looked up if it is of its grammar. -/
lemma Conduct.consulted_first {first : Kind}
    (h : Conduct (whenGiven (request.given? first.field.name) (kindChecks first)
      ++ (checksOf request kinds ++ tail)) verdict consulted) (fresh : first ∉ kinds)
    (none : lookups tail = []) (name : String) :
    (∃ answer, { kind := first, value := name, answer } ∈ consulted)
      ↔ request.given? first.field.name = some name
        ∧ first.grammar.accepts name.toList = true := by
  cases given : request.given? first.field.name with
  | none =>
      rw [given] at h
      refine iff_of_false ?_ (by simp)
      rintro ⟨answer, mem⟩
      exact fresh (Conduct.kind_mem h none _ mem)
  | some other =>
      rw [given] at h
      rcases h.of_kindChecks with ⟨malformed, rfl⟩ | ⟨formed, answer, more, rfl, ended⟩
      · refine iff_of_false (by simp) ?_
        rintro ⟨same, formed⟩
        rw [Option.some.inj same, formed] at malformed
        cases malformed
      · have elsewhere : ∀ answer, { kind := first, value := name, answer } ∉ more := by
          intro answer mem
          rcases ended with ⟨-, -, -, later⟩ | ⟨rfl, -⟩
          · exact fresh (Conduct.kind_mem later none _ mem)
          · cases mem
        constructor
        · rintro ⟨answer', mem⟩
          rcases List.mem_cons.1 mem with here | there
          · rw [(Consultation.mk.inj here).2.1]
            exact ⟨rfl, formed⟩
          · exact absurd there (elsewhere answer')
        · rintro ⟨same, -⟩
          rw [Option.some.inj same]
          exact ⟨answer, List.mem_cons_self⟩

/-- **A name is looked up if it is of its grammar and all names before it were found.**  By
induction on the kinds, each of which either ends the verification or leaves it to the others. -/
theorem Conduct.consulted_iff (h : Conduct (checksOf request kinds ++ tail) verdict consulted)
    (nodup : kinds.Nodup) (none : lookups tail = []) (kind : Kind) (name : String) :
    (∃ answer, { kind, value := name, answer } ∈ consulted)
      ↔ kind ∈ kinds ∧ request.given? kind.field.name = some name
        ∧ kind.grammar.accepts name.toList = true
        ∧ ∀ earlier ∈ kinds.takeWhile (fun k => k ≠ kind), ∀ other,
            request.given? earlier.field.name = some other → Found consulted earlier other := by
  induction kinds generalizing consulted with
  | nil =>
      refine iff_of_false ?_ (by simp)
      rintro ⟨answer, mem⟩
      cases h.kind_mem none _ mem
  | cons first rest ih =>
      obtain ⟨fresh, nodup⟩ := List.nodup_cons.1 nodup
      have apart : ∀ earlier ∈ rest.takeWhile (fun k => k ≠ kind), earlier ≠ first := by
        rintro earlier mem rfl
        exact fresh ((List.takeWhile_sublist _).subset mem)
      rw [checksOf, List.flatMap_cons, List.append_assoc] at h
      by_cases same : kind = first
      -- the name of the first kind has none before it
      · subst same
        rw [List.takeWhile_cons_of_neg (by simp)]
        simp only [List.mem_cons, true_or, true_and, List.not_mem_nil, false_imp_iff, implies_true,
          and_true]
        exact h.consulted_first fresh none name
      -- any other is looked up among the rest, if the first one is absent or found
      · have after_first : kind ∈ first :: rest ↔ kind ∈ rest := by simp [same]
        rw [List.takeWhile_cons_of_pos (by simpa using Ne.symm same), after_first,
          List.forall_mem_cons]
        cases given : request.given? first.field.name with
        | none =>
            rw [given] at h
            simp only [reduceCtorEq, false_imp_iff, implies_true, true_and]
            exact ih h nodup
        | some other =>
            rw [given] at h
            rcases h.of_kindChecks with ⟨-, rfl⟩ | ⟨-, answer, more, rfl, ended⟩
            · simp [Found]
            · rcases ended with ⟨set, rfl, mem, later⟩ | ⟨rfl, missed⟩
              · have passed : ∀ value, some other = some value →
                    Found ({ kind := first, value := other, answer := some set } :: more) first
                      value := by
                  rintro value ⟨⟩
                  exact ⟨set, mem, List.mem_cons_self⟩
                have inside : (∃ answer, { kind, value := name, answer }
                      ∈ { kind := first, value := other, answer := some set } :: more)
                    ↔ ∃ answer, { kind, value := name, answer } ∈ more := by
                  simp [same]
                rw [inside, ih later nodup, and_iff_right passed]
                refine and_congr_right fun _ => and_congr_right fun _ => and_congr_right fun _ => ?_
                exact forall₂_congr fun earlier before => forall₂_congr fun value _ =>
                  (found_cons_of_ne (apart earlier before)).symm
              · refine iff_of_false (by simp [same]) ?_
                rintro ⟨-, -, -, found, -⟩
                obtain ⟨set, mem, here⟩ := found other rfl
                have answered := (Consultation.mk.inj (List.mem_singleton.1 here)).2.2
                exact missed set answered.symm mem

end Kinds

/-! ## In the checks of a request -/

section Request

variable {request : Request} {settings : Settings} {verdict : Option (Except Rejection Unit)}
  {consulted : List Consultation}

/-- A name is consulted exactly if it is `Reached`. -/
theorem Conduct.reached_iff (h : Conduct (checks request settings) verdict consulted)
    (kind : Kind) (name : String) :
    (∃ answer, { kind, value := name, answer } ∈ consulted)
      ↔ Reached request consulted kind name := by
  obtain ⟨tail, split, none⟩ := checks_eq_checksOf request settings
  rw [split] at h
  rw [h.consulted_iff (by decide) none]
  constructor
  · rintro ⟨-, given, formed, found⟩
    exact ⟨given, formed, found⟩
  · rintro ⟨given, formed, found⟩
    exact ⟨by cases kind <;> decide, given, formed, found⟩

/-- What is consulted is a part of what is looked up if all checks are passed. -/
lemma Conduct.consulted_prefix {checks : List Check} (h : Conduct checks verdict consulted) :
    consulted.map (fun c => (c.kind, c.value)) <+: lookups checks := by
  induction h with
  | accepted => exact List.prefix_rfl
  | holds _ ih => exact ih
  | fails => exact List.nil_prefix
  | waits | missing => exact List.prefix_append [_] _
  | found _ _ ih => exact (List.prefix_cons_inj _).2 ih

/-- Names are looked up in the order of the kinds. -/
theorem Conduct.kinds_sublist (h : Conduct (checks request settings) verdict consulted) :
    (consulted.map Consultation.kind).Sublist Kind.all := by
  have given : ((lookups (checks request settings)).map Prod.fst).Sublist (Kind.all.map id) := by
    rw [lookups_checks, List.map_flatMap, List.map_eq_flatMap]
    refine List.Sublist.flatMap_right _ fun kind _ => ?_
    cases request.given? kind.field.name with
    | none => exact List.nil_sublist _
    | some name => exact List.Sublist.refl _
  have prefixed := h.consulted_prefix.map Prod.fst
  rw [List.map_map] at prefixed
  rw [List.map_id] at given
  exact prefixed.sublist.trans given

end Request

end Verification

end SaleSearch

import SaleSearch.Proofs.Catalog.Progress

/-!
# Numbers within a kind

Lookups and fetches are numbered over a whole session.  Somebody who only knows of one kind would
number those of his kind alone: a lookup by how many lookups of the kind began before it, and a
fetch by how many were issued.

* `Kind.rank` counts, and `Kind.rank_inj` says that no two of a kind are given the same number.
* `Record.joined` and `Record.served` are the generations of all lookups and fetches in their order.
* `Record.numbering` are the numbers within a kind that a record tells.
* `Record.next` is the record after one more action, and `Record.Extends` that numbers stay what
  they are.
* `Tracks.joined_of_has` and `Tracks.served_of_awaits`: what a generation holds is its own.
-/

namespace SaleSearch.Catalog

/-! ## Counting -/

/-- How many of a kind there are among the first so many. -/
def Kind.rank (kind : Kind) (editions : List Edition) (n : Nat) : Nat :=
  (editions.take n).countP fun e => e.kind = kind

/-- Is the one numbered so of a kind? -/
def Kind.owns (kind : Kind) (editions : List Edition) (n : Nat) : Bool :=
  editions[n]?.any fun e => e.kind = kind

namespace Kind

variable {kind : Kind} {editions : List Edition}

lemma rank_append {n : Nat} (h : n ≤ editions.length) (more : List Edition) :
    kind.rank (editions ++ more) n = kind.rank editions n := by
  rw [rank, rank, List.take_append_of_le_length h]

lemma rank_length_append (kind : Kind) (editions more : List Edition) :
    kind.rank (editions ++ more) (editions.length + more.length)
      = kind.rank (editions ++ more) editions.length + more.countP fun e => e.kind = kind := by
  rw [rank_append (Nat.le_refl _), rank, rank, ← List.length_append, List.take_length,
    List.take_length, List.countP_append]

lemma owns_iff {n : Nat} :
    kind.owns editions n = true ↔ ∃ e, editions[n]? = some e ∧ e.kind = kind := by
  simp [owns, Option.any_eq_true]

lemma owns_eq {n : Nat} {e : Edition} (here : editions[n]? = some e) :
    kind.owns editions n = decide (e.kind = kind) := by
  rw [owns, here]
  rfl

/-- Only numbers that are taken belong to a kind. -/
lemma lt_of_owns {n : Nat} (h : kind.owns editions n = true) : n < editions.length := by
  obtain ⟨e, here, -⟩ := owns_iff.1 h
  exact (List.getElem?_eq_some_iff.1 here).1

/-- A number belongs to one kind only. -/
lemma owns_unique {kind' : Kind} {n : Nat} (h : kind.owns editions n = true)
    (h' : kind'.owns editions n = true) : kind' = kind := by
  obtain ⟨e, here, rfl⟩ := owns_iff.1 h
  rw [owns_eq here] at h'
  exact (of_decide_eq_true h').symm

/-- Each of a kind counts for those after it. -/
lemma rank_lt {i j : Nat} (own : kind.owns editions i = true) (before : i < j) :
    kind.rank editions i < kind.rank editions j := by
  obtain ⟨e, here, same⟩ := owns_iff.1 own
  calc kind.rank editions i < kind.rank editions (i + 1) := by
        simp [rank, List.take_add_one, here, same]
    _ ≤ kind.rank editions j :=
        (List.take_sublist_take_left (Nat.succ_le_of_lt before)).countP_le

lemma rank_inj {i j : Nat} (hi : kind.owns editions i = true) (hj : kind.owns editions j = true)
    (ranks : kind.rank editions i = kind.rank editions j) : i = j := by
  rcases Nat.lt_trichotomy i j with before | here | after
  · exact absurd ranks (Nat.ne_of_lt (rank_lt hi before))
  · exact here
  · exact absurd ranks.symm (Nat.ne_of_lt (rank_lt hj after))

end Kind

/-- The lookup that issued a fetch, or that is finished. -/
def Event.lookup : Event → Lookup
  | .fetch _ issuer => issuer
  | .finish lookup _ => lookup

/-- A fetch that is seen: for which generation, and by which lookup. -/
def Occurrence.issue (o : Occurrence) : Edition × Nat :=
  (o.edition, o.event.lookup.number)

/-- A renaming of the numbers of lookups and of fetches. -/
structure Numbering where
  lookup : Nat → Nat
  fetch : Nat → Nat

namespace Record

/-- The generations of the lookups in the order in which these began. -/
def joined (r : Record) : List Edition :=
  r.lookups.map Inquiry.edition

/-- The fetches in the order in which they were issued: for which generation, and by which
lookup. -/
def issues (r : Record) : List (Edition × Nat) :=
  r.fetches.map fun f => (f.edition, f.issuer)

/-- The generations of the fetches in their order. -/
def served (r : Record) : List Edition :=
  r.fetches.map Fetch.edition

/-- The numbers that lookups and fetches have among those of a kind. -/
def numbering (r : Record) (kind : Kind) : Numbering where
  lookup := kind.rank r.joined
  fetch := kind.rank r.served

lemma map_issues_fst (r : Record) : r.issues.map Prod.fst = r.served :=
  List.map_map

lemma map_issues_snd (r : Record) : r.issues.map Prod.snd = r.fetches.map Fetch.issuer :=
  List.map_map

@[simp] lemma length_joined (r : Record) : r.joined.length = r.lookups.length :=
  List.length_map _

@[simp] lemma length_served (r : Record) : r.served.length = r.fetches.length :=
  List.length_map _

/-! ## Growing records -/

/-- The generations that an action begins a lookup in. -/
def begins (r : Record) : Action → List Edition
  | .start kind _ => [r.edition kind]
  | _ => []

/-- An action puts the lookup that it begins behind the others. -/
lemma joined_act (r : Record) (action : Action) :
    (r.act action).joined = r.joined ++ r.begins action := by
  cases action with
  | start kind question => simp [act, joined, begins]
  | cancel lookup => simp [act, joined, begins, Function.comp_def]
  | hold | gate | answer | invalidate => simp [act, joined, begins]

/-- An action by itself issues no fetch. -/
lemma issues_act (r : Record) (action : Action) : (r.act action).issues = r.issues := by
  cases action with
  | answer fetch reply => simp [act, issues, Function.comp_def]
  | cancel lookup => simp [act, issues, Function.comp_def]
  | hold | gate | start | invalidate => rfl

/-- Nothing that is seen begins a lookup. -/
lemma joined_see (r : Record) (o : Occurrence) : (r.see o).joined = r.joined := by
  obtain ⟨e, event⟩ := o
  cases event with
  | fetch number issuer => rfl
  | finish lookup set => simp [see, joined, Function.comp_def]

/-- A fetch that is seen goes behind the others. -/
lemma issues_see (r : Record) (o : Occurrence) :
    (r.see o).issues = r.issues ++ (fetchesSeen [o]).map Occurrence.issue := by
  obtain ⟨e, event⟩ := o
  cases event with
  | fetch number issuer =>
      simp [see, issues, issue, fetchesSeen, Event.isFetch, Occurrence.issue, Event.lookup]
  | finish lookup set => simp [see, issues, fetchesSeen, Event.isFetch]

/-- The record after everything that was seen. -/
abbrev seeEach (r : Record) (seen : List Occurrence) : Record :=
  r.noteAll (seen.map .saw)

lemma joined_seeEach (r : Record) (seen : List Occurrence) :
    (r.seeEach seen).joined = r.joined := by
  induction seen generalizing r with
  | nil => rfl
  | cons o rest ih => exact (ih (r.see o)).trans (r.joined_see o)

/-- The fetches that are seen go behind the others, in their order. -/
lemma issues_seeEach (r : Record) (seen : List Occurrence) :
    (r.seeEach seen).issues = r.issues ++ (fetchesSeen seen).map Occurrence.issue := by
  induction seen generalizing r with
  | nil => simp [fetchesSeen, noteAll]
  | cons o rest ih =>
      refine (ih (r.see o)).trans ?_
      rw [issues_see, List.append_assoc, ← List.map_append]
      congr 2
      exact (List.filter_append ..).symm

end Record

/-! ## What belongs to a generation -/

namespace Coherent

variable {r : Record}

/-- A lookup stands at the place of its number. -/
lemma getElem?_lookups (h : Coherent r) {i : Inquiry} (hi : i ∈ r.lookups) :
    r.lookups[i.lookup.number]? = some i := by
  obtain ⟨n, bound, rfl⟩ := List.getElem_of_mem hi
  have number : (r.lookups[n]).lookup.number = n := by
    have at_n := congrArg (·[n]?) h.lookup_numbers
    simpa [bound] using at_n
  rw [number, List.getElem?_eq_getElem bound]

lemma getElem?_fetches (h : Coherent r) {f : Fetch} (hf : f ∈ r.fetches) :
    r.fetches[f.number]? = some f := by
  obtain ⟨n, bound, rfl⟩ := List.getElem_of_mem hf
  have number : (r.fetches[n]).number = n := by
    have at_n := congrArg (·[n]?) h.fetch_numbers
    simpa [bound] using at_n
  rw [number, List.getElem?_eq_getElem bound]

/-- A lookup underway in a generation has joined it. -/
lemma joined_of_underway (h : Coherent r) {e : Edition} {l : Lookup} (hl : l ∈ r.underway e) :
    r.joined[l.number]? = some e := by
  obtain ⟨i, hi, rfl, -, rfl⟩ := Record.mem_underway.1 hl
  rw [Record.joined, List.getElem?_map, h.getElem?_lookups hi]
  rfl

end Coherent

namespace Tracks

variable {r : Record} {s : Session}

/-- An unfinished lookup of a generation has joined it. -/
lemma joined_of_has (h : Tracks r s) (coherent : Coherent r) {e : Edition} {lookup : Nat}
    (here : (s.generations e).has lookup = true) : r.joined[lookup]? = some e := by
  obtain ⟨l, hl, rfl⟩ := (h.accounts e).has_iff.1 here
  exact coherent.joined_of_underway hl

/-- A fetch that a generation waits for was issued for it. -/
lemma served_of_awaits (h : Tracks r s) (coherent : Coherent r) {e : Edition} {fetch : Nat}
    (awaits : (s.generations e).awaits fetch = true) : r.served[fetch]? = some e := by
  obtain ⟨f, hf, rfl, -⟩ := h.mem_live_of_awaits awaits
  obtain ⟨issued, rfl, -⟩ := Record.mem_live.1 hf
  rw [Record.served, List.getElem?_map, coherent.getElem?_fetches issued]
  rfl

end Tracks

/-! ## Numbers along a run -/

/-- The later record has all lookups and fetches of the earlier one at their places, and maybe
more. -/
structure Record.Extends (r r' : Record) : Prop where
  joined : r.joined <+: r'.joined
  served : r.served <+: r'.served

namespace Record.Extends

variable {r r' r'' : Record} {kind : Kind}

lemma refl (r : Record) : r.Extends r :=
  ⟨List.prefix_rfl, List.prefix_rfl⟩

lemma trans (h : r.Extends r') (h' : r'.Extends r'') : r.Extends r'' :=
  ⟨h.joined.trans h'.joined, h.served.trans h'.served⟩

/-- A lookup that has joined a generation has joined it for good. -/
lemma joined_eq (h : r.Extends r') {n : Nat} {e : Edition} (here : r.joined[n]? = some e) :
    r'.joined[n]? = some e := by
  obtain ⟨more, grown⟩ := h.joined
  rw [← grown, List.getElem?_append_left (List.getElem?_eq_some_iff.1 here).1, here]

/-- The numbers within a kind of lookups that have begun do not change. -/
lemma lookup_eq (h : r.Extends r') {n : Nat} (begun : n ≤ r.joined.length) :
    (r'.numbering kind).lookup n = (r.numbering kind).lookup n := by
  obtain ⟨more, grown⟩ := h.joined
  rw [numbering, ← grown]
  exact Kind.rank_append begun more

/-- The numbers within a kind of fetches that were issued do not change. -/
lemma fetch_eq (h : r.Extends r') {n : Nat} (issued : n ≤ r.served.length) :
    (r'.numbering kind).fetch n = (r.numbering kind).fetch n := by
  obtain ⟨more, grown⟩ := h.served
  rw [numbering, ← grown]
  exact Kind.rank_append issued more

end Record.Extends

/-- The record after an action and all that is seen of it. -/
def Record.next (r : Record) (s : Session) (action : Action) : Record :=
  (r.act action).seeEach (s.step action).2

namespace Tracks

variable {r : Record} {s : Session} {kind : Kind} {action : Action}

lemma length_joined (h : Tracks r s) : r.joined.length = s.lookups :=
  r.length_joined.trans h.lookups

lemma length_served (h : Tracks r s) : r.served.length = s.fetches :=
  r.length_served.trans h.fetches

lemma next (h : Tracks r s) (coherent : Coherent r) (action : Action) :
    Tracks (r.next s action) (s.step action).1 :=
  (h.step coherent action).2

lemma coherent_next (h : Tracks r s) (coherent : Coherent r) (action : Action) :
    Coherent (r.next s action) :=
  (coherent.act action).noteAll (h.step coherent action).1

end Tracks

namespace Record

lemma joined_next (r : Record) (s : Session) (action : Action) :
    (r.next s action).joined = r.joined ++ r.begins action := by
  rw [next, joined_seeEach, joined_act]

lemma issues_next (r : Record) (s : Session) (action : Action) :
    (r.next s action).issues
      = r.issues ++ (fetchesSeen (s.step action).2).map Occurrence.issue := by
  rw [next, issues_seeEach, issues_act]

lemma served_next (r : Record) (s : Session) (action : Action) :
    (r.next s action).served
      = r.served ++ (fetchesSeen (s.step action).2).map Occurrence.edition := by
  rw [← map_issues_fst, issues_next, List.map_append, map_issues_fst, List.map_map]
  rfl

lemma extends_next (r : Record) (s : Session) (action : Action) : r.Extends (r.next s action) where
  joined := r.joined_next s action ▸ List.prefix_append ..
  served := r.served_next s action ▸ List.prefix_append ..

end Record

namespace Tracks

variable {r : Record} {s : Session} {kind : Kind} {action : Action}

/-- The next free number for a lookup goes up by one if the action begins one of the kind. -/
lemma lookups_next (h : Tracks r s) (coherent : Coherent r) (kind : Kind) (action : Action) :
    ((r.next s action).numbering kind).lookup (s.step action).1.lookups
      = ((r.next s action).numbering kind).lookup s.lookups
        + (r.begins action).countP fun e => e.kind = kind := by
  have counted := (h.next coherent action).length_joined
  rw [r.joined_next s action, List.length_append, h.length_joined] at counted
  have ranks := kind.rank_length_append r.joined (r.begins action)
  rw [h.length_joined, counted] at ranks
  rw [Record.numbering, r.joined_next s action]
  exact ranks

/-- The next free number for a fetch goes up by the fetches of the kind that are seen. -/
lemma fetches_next (h : Tracks r s) (coherent : Coherent r) (kind : Kind) (action : Action) :
    ((r.next s action).numbering kind).fetch (s.step action).1.fetches
      = ((r.next s action).numbering kind).fetch s.fetches
        + (fetchesSeen (s.step action).2).countP fun o => o.edition.kind = kind := by
  have counted := (h.next coherent action).length_served
  rw [r.served_next s action, List.length_append, h.length_served] at counted
  have ranks := kind.rank_length_append r.served
    ((fetchesSeen (s.step action).2).map Occurrence.edition)
  rw [h.length_served, counted] at ranks
  rw [Record.numbering, r.served_next s action]
  rw [List.countP_map] at ranks
  exact ranks

end Tracks

end SaleSearch.Catalog

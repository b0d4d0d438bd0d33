import SaleSearch.Proofs.Catalog.Coherence

/-!
# What a record tells of a generation

The lookups that a generation serves are those that are not finished, and the fetch that it waits
for or has an answer to is the one that was not given up.  An action is recorded before anything is
seen of it; until then the record is ahead of what it has seen, by the events that it owes.

* `Record.Accounts` is the agreement of a record with the state of a generation.
* `Record.Owes` says what has still to be seen on the way to a state, and `Record.seeAll_finishes`
  that they agree once all lookups were seen to finish.
* `Record.owes_join`, `Record.owes_drop` and `Record.owes_answer`: what is owed of a generation is
  what `Generation.join`, `Generation.drop` and `Generation.answer` show.
-/

namespace SaleSearch.Catalog

namespace Record

/-- What a record tells of a generation in this state. -/
def Accounts (r : Record) (e : Edition) : Generation → Prop
  | .idle => r.underway e = [] ∧ r.live e = []
  | .fetching runner fetch waiting =>
      r.underway e = runner :: waiting ∧ r.live e = [{
        number := fetch, edition := e, issuer := runner.number, course := .pending }]
  | .answered set =>
      r.underway e = []
        ∧ ∃ f reply, r.live e = [f] ∧ f.course = .answered reply ∧ reply.known = set

/-- What has still to be seen of a generation on its way to this state. -/
inductive Owes (r : Record) (e : Edition) : Generation → List Event → Prop
  | nothing {g : Generation} (accounts : r.Accounts e g) : Owes r e g []
  | fetch {runner : Lookup} {waiting : List Lookup} (underway : r.underway e = runner :: waiting)
      (dead : r.live e = []) : Owes r e (.fetching runner r.fetches.length waiting)
        [.fetch r.fetches.length runner]
  | finishes {set : List String} {f : Fetch} {reply : Reply} (live : r.live e = [f])
      (answered : f.course = .answered reply) (known : reply.known = set) :
      Owes r e (.answered set) ((r.underway e).map fun lookup => .finish lookup set)

/-- The record after some events of one generation. -/
abbrev seeAll (r : Record) (e : Edition) (events : List Event) : Record :=
  r.noteAll (events.map fun event => .saw ⟨e, event⟩)

/-- Each of some events of a generation is allowed after those before it. -/
abbrev AllowsEvents (r : Record) (e : Edition) (events : List Event) : Prop :=
  r.AllowsAll (events.map fun event => .saw ⟨e, event⟩)

variable {r : Record} {e : Edition} {g : Generation}

/-- The lookups underway are those that the generation has not finished. -/
lemma Accounts.underway_eq (h : r.Accounts e g) : r.underway e = g.unfinished := by
  cases g with
  | idle | fetching | answered => exact h.1

/-- A record that says the same of lookups and live fetches tells of the same state. -/
lemma Accounts.congr {r' : Record} (h : r.Accounts e g) (underway : r'.underway e = r.underway e)
    (live : r'.live e = r.live e) : r'.Accounts e g := by
  cases g <;> simpa only [Accounts, underway, live] using h

lemma Accounts.has_iff (h : r.Accounts e g) {lookup : Nat} :
    g.has lookup = true ↔ ∃ l ∈ r.underway e, l.number = lookup := by
  simp [Generation.has, h.underway_eq]

/-- The pending fetch is the one that the generation waits for. -/
lemma Accounts.pending_eq {runner : Lookup} {fetch : Nat} {waiting : List Lookup}
    (h : r.Accounts e (.fetching runner fetch waiting)) :
    r.pending e
      = [{ number := fetch, edition := e, issuer := runner.number, course := .pending }] := by
  rw [Record.pending_eq, h.2]
  rfl

/-- A generation waits for the fetch that is pending, and for no other. -/
lemma Accounts.awaits_iff (h : r.Accounts e g) {f : Fetch} (hf : f ∈ r.pending e) {number : Nat} :
    g.awaits number = true ↔ f.number = number := by
  cases g with
  | idle => simp [Record.pending_eq, h.2] at hf
  | fetching runner fetch waiting =>
      obtain rfl : f = _ := by simpa [h.pending_eq] using hf
      simp [Generation.awaits]
  | answered set =>
      obtain ⟨-, only, reply, live, answered, -⟩ := h
      simp [Record.pending_eq, live, Fetch.isPending, answered] at hf

end Record

/-! ## The end of all lookups of a generation -/

namespace Coherent

variable {r : Record} {e : Edition}

/-- The lookups underway are in the order of their numbers. -/
lemma underway_sorted (h : Coherent r) (e : Edition) :
    (r.underway e).Pairwise fun l l' => l.number < l'.number := by
  have sublist : ((r.underway e).map Lookup.number).Sublist (List.range r.lookups.length) := by
    rw [← h.lookup_numbers, Record.underway, Record.lookupsOf, List.map_map]
    exact (List.filter_sublist.trans List.filter_sublist).map _
  exact List.pairwise_map.1 (List.pairwise_lt_range.sublist sublist)

/-- If the first of the lookups underway ends, the others are left. -/
lemma underway_tail (h : Coherent r) {first : Lookup} {others : List Lookup}
    (underway : r.underway e = first :: others) :
    (first :: others).filter (fun l => l.number ≠ first.number) = others := by
  have later := (List.pairwise_cons.1 (underway ▸ h.underway_sorted e)).1
  rw [List.filter_cons_of_neg (by simp), List.filter_eq_self]
  intro l hl
  simpa using Nat.ne_of_gt (later l hl)

end Coherent

/-- What the events of one generation leave as it was. -/
structure Record.SameBut (e : Edition) (r r' : Record) : Prop where
  source : r'.source = r.source
  invalidations : r'.invalidations = r.invalidations
  lookups : r'.lookups.length = r.lookups.length
  underway : ∀ e', e' ≠ e → r'.underway e' = r.underway e'
  live : ∀ e', e' ≠ e → r'.live e' = r.live e'

namespace Record

lemma SameBut.refl (e : Edition) (r : Record) : SameBut e r r :=
  ⟨rfl, rfl, rfl, fun _ _ => rfl, fun _ _ => rfl⟩

lemma SameBut.trans {e : Edition} {r r' r'' : Record} (h : SameBut e r r') (h' : SameBut e r' r'') :
    SameBut e r r'' where
  source := h'.source.trans h.source
  invalidations := h'.invalidations.trans h.invalidations
  lookups := h'.lookups.trans h.lookups
  underway e' other := (h'.underway e' other).trans (h.underway e' other)
  live e' other := (h'.live e' other).trans (h.live e' other)

/-- A fetch is of no consequence to other generations. -/
lemma sameBut_fetch (r : Record) (e : Edition) (number : Nat) (issuer : Lookup) :
    SameBut e r (r.see ⟨e, .fetch number issuer⟩) where
  source := rfl
  invalidations := rfl
  lookups := rfl
  underway _ _ := rfl
  live e' other := by rw [live_fetch, if_neg (Ne.symm other), List.append_nil]

/-- The end of a lookup is of no consequence to other generations. -/
lemma sameBut_finish {r : Record} (h : Coherent r) {e : Edition} {lookup : Lookup}
    (underway : lookup ∈ r.underway e) (set : List String) :
    SameBut e r (r.see ⟨e, .finish lookup set⟩) where
  source := rfl
  invalidations := rfl
  lookups := List.length_map _
  live _ _ := rfl
  underway e' other := by
    rw [underway_finish, List.filter_eq_self]
    intro l hl
    have different : l.number ≠ lookup.number := fun same =>
      other (h.edition_eq_of_underway hl underway same)
    simpa using different

/-- If all lookups underway are seen to finish with the answer, this is allowed, and then the record
tells of an answered generation. -/
lemma seeAll_finishes {r : Record} (h : Coherent r) {e : Edition} {f : Fetch} {reply : Reply}
    (live : r.live e = [f]) (answered : f.course = .answered reply) {lookups : List Lookup}
    (underway : r.underway e = lookups) :
    let events := lookups.map fun lookup => Event.finish lookup reply.known
    r.AllowsEvents e events ∧ SameBut e r (r.seeAll e events)
      ∧ (r.seeAll e events).fetches = r.fetches
      ∧ (r.seeAll e events).Accounts e (.answered reply.known) := by
  induction lookups generalizing r with
  | nil => exact ⟨trivial, .refl e r, rfl, underway, f, reply, live, answered, rfl⟩
  | cons first others ih =>
      have mem : first ∈ r.underway e := by simp [underway]
      have knows : r.Knows e reply.known := ⟨f, by simp [live], reply, answered, rfl⟩
      have rest : (r.see ⟨e, .finish first reply.known⟩).underway e = others := by
        rw [underway_finish, underway]
        exact h.underway_tail underway
      obtain ⟨allowed, same, fetches, accounts⟩ := ih (h.finish mem knows) live rest
      exact ⟨⟨⟨mem, knows⟩, allowed⟩, (sameBut_finish h mem _).trans same, fetches, accounts⟩

end Record

/-! ## What the three changes owe -/

namespace Record

variable {r : Record} {e : Edition} {g : Generation}

/-- What `Generation.join` shows is owed once the lookup is recorded. -/
lemma owes_join (h : r.Accounts e g) {r' : Record} {lookup : Lookup}
    (underway : r'.underway e = r.underway e ++ [lookup]) (live : r'.live e = r.live e) :
    r'.Owes e (g.join r'.fetches.length lookup).1 (g.join r'.fetches.length lookup).2 := by
  rw [h.underway_eq] at underway
  cases g with
  | idle => exact .fetch underway (live.trans h.2)
  | fetching runner fetch waiting => exact .nothing ⟨underway, live.trans h.2⟩
  | answered set =>
      obtain ⟨-, f, reply, only, answered, known⟩ := h
      have owes := Owes.finishes (live.trans only) answered known
      rw [underway] at owes
      exact owes

/-- The cancellation of a lookup that a generation does not have leaves it as it is. -/
lemma accounts_cancel (h : r.Accounts e g) {lookup : Nat} (elsewhere : g.has lookup = false) :
    (r.act (.cancel lookup)).Accounts e g := by
  have others : ∀ l ∈ r.underway e, l.number ≠ lookup := fun l hl same => by
    simp [h.has_iff.2 ⟨l, hl, same⟩] at elsewhere
  refine h.congr ?_ ?_
  · rw [underway_cancel, List.filter_eq_self]
    simpa using others
  · rw [live_cancel, List.filter_eq_self]
    intro f hf
    cases g with
    | idle => simp [h.2] at hf
    | fetching runner fetch waiting =>
        obtain rfl : f = _ := by simpa [h.2] using hf
        have different := others runner (by simp [h.1])
        simp [Fetch.isRunBy, different]
    | answered set =>
        obtain ⟨-, only, reply, live, answered, -⟩ := h
        obtain rfl : f = only := by simpa [live] using hf
        simp [Fetch.isRunBy, Fetch.isPending, answered]

/-- What `Generation.drop` shows is owed once the cancellation is recorded.  If the lookup ran the
fetch, that is given up, and the lookups underway begin with the oldest of the others. -/
lemma owes_drop (coherent : Coherent r) (h : r.Accounts e g) {lookup : Nat}
    (here : g.has lookup = true) :
    (r.act (.cancel lookup)).Owes e (g.drop r.fetches.length lookup).1
      (g.drop r.fetches.length lookup).2 := by
  have numbers : (r.act (.cancel lookup)).fetches.length = r.fetches.length := List.length_map _
  cases g with
  | idle | answered => simp [Generation.has, Generation.unfinished] at here
  | fetching runner fetch waiting =>
      by_cases same : runner.number = lookup
      · subst same
        have underway : (r.act (.cancel runner.number)).underway e = waiting := by
          rw [underway_cancel, h.1]
          exact coherent.underway_tail h.1
        have dead : (r.act (.cancel runner.number)).live e = [] := by
          simp [live_cancel, h.2, Fetch.isRunBy, Fetch.isPending]
        rw [Generation.drop, if_pos rfl]
        cases waiting with
        | nil => exact .nothing ⟨underway, dead⟩
        | cons oldest others =>
            have owes := Owes.fetch underway dead
            rw [numbers] at owes
            exact owes
      · have underway : (r.act (.cancel lookup)).underway e
            = runner :: waiting.filter fun l => l.number ≠ lookup := by
          rw [underway_cancel, h.1, List.filter_cons_of_pos (by simpa using same)]
        have live : (r.act (.cancel lookup)).live e = r.live e := by
          simp [live_cancel, h.2, Fetch.isRunBy, same]
        rw [Generation.drop, if_neg same]
        exact .nothing ⟨underway, live.trans h.2⟩

/-- A reply to a fetch that a generation does not wait for leaves it as it is. -/
lemma accounts_answer (h : r.Accounts e g) {fetch : Nat} (elsewhere : g.awaits fetch = false)
    (reply : Reply) : (r.act (.answer fetch reply)).Accounts e g := by
  refine h.congr rfl ?_
  rw [live_answer]
  cases g with
  | idle => simp [h.2]
  | fetching runner number waiting =>
      have different : number ≠ fetch := by simpa [Generation.awaits] using elsewhere
      simp [h.2, Fetch.answer, different]
  | answered set =>
      obtain ⟨-, only, other, live, answered, -⟩ := h
      simp [live, Fetch.answer, Fetch.isPending, answered]

/-- What `Generation.answer` shows is owed once the reply is recorded. -/
lemma owes_answer (h : r.Accounts e g) {fetch : Nat} (here : g.awaits fetch = true)
    (reply : Reply) : (r.act (.answer fetch reply)).Owes e (g.answer reply.known).1
      (g.answer reply.known).2 := by
  cases g with
  | idle | answered => simp [Generation.awaits] at here
  | fetching runner number waiting =>
      obtain rfl : number = fetch := by simpa [Generation.awaits] using here
      have live : (r.act (.answer number reply)).live e
          = [{ number, edition := e, issuer := runner.number, course := .answered reply }] := by
        simp [live_answer, h.2, Fetch.answer, Fetch.isPending]
      have owes := Owes.finishes live rfl rfl
      rw [show (r.act (.answer number reply)).underway e = runner :: waiting from h.1] at owes
      exact owes

end Record

end SaleSearch.Catalog

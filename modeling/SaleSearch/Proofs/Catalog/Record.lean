import Mathlib.Data.List.Basic
import SaleSearch.Catalog.Session

/-!
# Records of sessions

What somebody could write down who sees only what is done to a session and what comes of it: which
lookups have begun, in which generation, and how each of them ended; which fetches were issued, by
whom, and what became of them.  Nothing in a record is taken from the state of a generation, so that
a statement about records is one about the behaviour of sessions.

* `Session.moments` are the actions of a run and the occurrences in between, one after another.
* `Record.of` is the record of some moments.
* `Record.underway` and `Record.live` are what a record says of one generation: the lookups that are
  not finished, and the fetches that were not given up.
-/

namespace SaleSearch.Catalog

/-- Something that is done to a session, or something that is seen of it. -/
inductive Moment where
  | did (action : Action)
  | saw (occurrence : Occurrence)

/-- The moments of a run: each action, and then what is seen of it. -/
def Session.moments (s : Session) : List Action → List Moment
  | [] => []
  | action :: rest =>
      .did action :: ((s.step action).2.map .saw ++ (s.step action).1.moments rest)

/-- What became of a lookup. -/
inductive Fate where
  | underway
  | finished (set : List String)
  | cancelled
  deriving DecidableEq

/-- A lookup that has begun, with the generation that was the current one then. -/
structure Inquiry where
  lookup : Lookup
  edition : Edition
  fate : Fate := .underway

namespace Inquiry

/-- The lookup has neither finished nor been cancelled. -/
def isUnderway (i : Inquiry) : Bool :=
  i.fate = .underway

/-- The lookup is seen to finish with a set, if it is the one numbered so. -/
def finish (lookup : Nat) (set : List String) (i : Inquiry) : Inquiry :=
  if i.lookup.number = lookup then { i with fate := .finished set } else i

/-- The lookup is cancelled, if it is the one numbered so and has not ended. -/
def cancel (lookup : Nat) (i : Inquiry) : Inquiry :=
  if i.lookup.number = lookup ∧ i.fate = .underway then { i with fate := .cancelled } else i

@[simp] lemma lookup_finish (lookup : Nat) (set : List String) (i : Inquiry) :
    (i.finish lookup set).lookup = i.lookup := by
  unfold finish
  split <;> rfl

@[simp] lemma edition_finish (lookup : Nat) (set : List String) (i : Inquiry) :
    (i.finish lookup set).edition = i.edition := by
  unfold finish
  split <;> rfl

@[simp] lemma lookup_cancel (lookup : Nat) (i : Inquiry) :
    (i.cancel lookup).lookup = i.lookup := by
  unfold cancel
  split <;> rfl

@[simp] lemma edition_cancel (lookup : Nat) (i : Inquiry) :
    (i.cancel lookup).edition = i.edition := by
  unfold cancel
  split <;> rfl

/-- A lookup that is seen to finish is not underway any more. -/
lemma isUnderway_finish (lookup : Nat) (set : List String) (i : Inquiry) :
    (i.finish lookup set).isUnderway = (i.isUnderway && decide (i.lookup.number ≠ lookup)) := by
  unfold finish isUnderway
  split
  · rename_i same
    simp [same]
  · rename_i other
    simp [other]

lemma isUnderway_cancel (lookup : Nat) (i : Inquiry) :
    (i.cancel lookup).isUnderway = (i.isUnderway && decide (i.lookup.number ≠ lookup)) := by
  unfold cancel isUnderway
  by_cases same : i.lookup.number = lookup <;> by_cases running : i.fate = .underway <;>
    simp [same, running]

end Inquiry

/-- What became of a fetch.  It is abandoned if its lookup is cancelled before there is an
answer. -/
inductive Course where
  | pending
  | answered (reply : Reply)
  | abandoned
  deriving DecidableEq

/-- A fetch that was issued, with the number of the lookup that runs it. -/
structure Fetch where
  number : Nat
  edition : Edition
  issuer : Nat
  course : Course
  deriving DecidableEq

namespace Fetch

/-- The fetch waits for its reply. -/
def isPending (f : Fetch) : Bool :=
  f.course = .pending

/-- The fetch was given up before there was a reply. -/
def isAbandoned (f : Fetch) : Bool :=
  f.course = .abandoned

/-- There was a reply to the fetch. -/
def isAnswered (f : Fetch) : Bool :=
  match f.course with
  | .answered _ => true
  | _ => false

/-- A reply reaches the fetch numbered so, if it is still pending. -/
def answer (number : Nat) (reply : Reply) (f : Fetch) : Fetch :=
  if f.number = number && f.isPending then { f with course := .answered reply } else f

/-- Does this lookup run the fetch, and does the fetch still wait for its reply? -/
def isRunBy (lookup : Nat) (f : Fetch) : Bool :=
  f.issuer = lookup && f.isPending

/-- The fetch is given up if its lookup is cancelled while it is pending. -/
def abandon (issuer : Nat) (f : Fetch) : Fetch :=
  if f.isRunBy issuer then { f with course := .abandoned } else f

@[simp] lemma number_answer (number : Nat) (reply : Reply) (f : Fetch) :
    (f.answer number reply).number = f.number := by
  unfold answer
  split <;> rfl

@[simp] lemma edition_answer (number : Nat) (reply : Reply) (f : Fetch) :
    (f.answer number reply).edition = f.edition := by
  unfold answer
  split <;> rfl

@[simp] lemma issuer_answer (number : Nat) (reply : Reply) (f : Fetch) :
    (f.answer number reply).issuer = f.issuer := by
  unfold answer
  split <;> rfl

@[simp] lemma number_abandon (issuer : Nat) (f : Fetch) :
    (f.abandon issuer).number = f.number := by
  unfold abandon
  split <;> rfl

@[simp] lemma edition_abandon (issuer : Nat) (f : Fetch) :
    (f.abandon issuer).edition = f.edition := by
  unfold abandon
  split <;> rfl

@[simp] lemma issuer_abandon (issuer : Nat) (f : Fetch) :
    (f.abandon issuer).issuer = f.issuer := by
  unfold abandon
  split <;> rfl

/-- A reply gives no fetch up. -/
lemma isAbandoned_answer (number : Nat) (reply : Reply) (f : Fetch) :
    (f.answer number reply).isAbandoned = f.isAbandoned := by
  unfold answer
  split
  · rename_i reached
    have pending : f.isPending = true := (Bool.and_eq_true_iff.1 reached).2
    have course : f.course = .pending := by simpa [isPending] using pending
    simp [isAbandoned, course]
  · rfl

/-- A fetch is given up by the lookup that runs it. -/
lemma isAbandoned_abandon (issuer : Nat) (f : Fetch) :
    (f.abandon issuer).isAbandoned = (f.isAbandoned || f.isRunBy issuer) := by
  unfold abandon
  split
  · rename_i run
    simp [isAbandoned, run]
  · rename_i run
    simp [run]

lemma isAnswered_iff {f : Fetch} : f.isAnswered = true ↔ ∃ reply, f.course = .answered reply := by
  unfold isAnswered
  split <;> simp_all

lemma answer_of_not_pending {f : Fetch} (h : f.isPending = false) (number : Nat) (reply : Reply) :
    f.answer number reply = f :=
  if_neg (by simp [h])

/-- A cancellation has no effect on the fetches that other lookups run. -/
lemma abandon_of_not_isRunBy {f : Fetch} {issuer : Nat} (h : f.isRunBy issuer = false) :
    f.abandon issuer = f :=
  if_neg (by simp [h])

end Fetch

/-- What can be written down of a session. -/
structure Record where
  source : Source := {}
  invalidations : Kind → Nat := fun _ => 0
  /-- The lookups in the order in which they began. -/
  lookups : List Inquiry := []
  /-- The fetches in the order in which they were issued. -/
  fetches : List Fetch := []

namespace Record

/-- The current generation of a kind. -/
def edition (r : Record) (kind : Kind) : Edition where
  kind := kind
  number := r.invalidations kind

/-- Record an action. -/
def act (r : Record) : Action → Record
  | .hold kind reply =>
      { r with source.replies := fun k => if k = kind then reply else r.source.replies k }
  | .gate on => { r with source.gated := on }
  | .start kind question =>
      let lookup := { number := r.lookups.length, question }
      { r with lookups := r.lookups ++ [{ lookup, edition := r.edition kind }] }
  | .answer fetch reply => { r with fetches := r.fetches.map (Fetch.answer fetch reply) }
  | .cancel lookup =>
      { r with
          lookups := r.lookups.map (Inquiry.cancel lookup)
          fetches := r.fetches.map (Fetch.abandon lookup) }
  | .invalidate kind =>
      { r with invalidations := fun k => r.invalidations k + if k = kind then 1 else 0 }

/-- A fetch as it is issued.  A source that is not gated answers it at once. -/
def issue (r : Record) (edition : Edition) (number : Nat) (issuer : Lookup) : Fetch where
  number := number
  edition := edition
  issuer := issuer.number
  course := if r.source.gated then .pending else .answered (r.source.replies edition.kind)

/-- Record an occurrence. -/
def see (r : Record) (o : Occurrence) : Record :=
  match o.event with
  | .fetch number issuer => { r with fetches := r.fetches ++ [r.issue o.edition number issuer] }
  | .finish lookup set => { r with lookups := r.lookups.map (Inquiry.finish lookup.number set) }

/-- Record a moment. -/
def note (r : Record) : Moment → Record
  | .did action => r.act action
  | .saw occurrence => r.see occurrence

/-- Record some moments one after another. -/
def noteAll (r : Record) (moments : List Moment) : Record :=
  moments.foldl note r

/-- What there is to record of some moments. -/
def of (moments : List Moment) : Record :=
  noteAll {} moments

/-- The lookups that began in a generation. -/
def lookupsOf (r : Record) (e : Edition) : List Inquiry :=
  r.lookups.filter fun i => i.edition = e

/-- The fetches that were issued for a generation. -/
def fetchesOf (r : Record) (e : Edition) : List Fetch :=
  r.fetches.filter fun f => f.edition = e

/-- The fetches of a generation that wait for their reply. -/
def pending (r : Record) (e : Edition) : List Fetch :=
  (r.fetchesOf e).filter Fetch.isPending

/-- The lookups of a generation that are not finished, the oldest first. -/
def underway (r : Record) (e : Edition) : List Lookup :=
  ((r.lookupsOf e).filter Inquiry.isUnderway).map Inquiry.lookup

/-- The fetches of a generation that were not given up. -/
def live (r : Record) (e : Edition) : List Fetch :=
  (r.fetchesOf e).filter fun f => !f.isAbandoned

/-! ## What a moment changes in a generation -/

section Effects

variable (r : Record) (e : Edition)

lemma noteAll_append (first second : List Moment) :
    r.noteAll (first ++ second) = (r.noteAll first).noteAll second :=
  List.foldl_append

/-- If each entry of a lookup is changed on its own, the lookups underway are those that were and
that the change leaves so. -/
lemma underway_map {g : Inquiry → Inquiry} {stays : Lookup → Bool}
    (edition : ∀ i, (g i).edition = i.edition) (lookup : ∀ i, (g i).lookup = i.lookup)
    (fate : ∀ i, (g i).isUnderway = (i.isUnderway && stays i.lookup)) :
    ({ r with lookups := r.lookups.map g } : Record).underway e = (r.underway e).filter stays := by
  simp only [underway, lookupsOf]
  induction r.lookups with
  | nil => rfl
  | cons i rest ih =>
      by_cases here : i.edition = e <;> cases running : i.isUnderway <;>
        cases kept : stays i.lookup <;> simp_all

/-- A new lookup is underway in the current generation of its kind. -/
lemma underway_start (kind : Kind) (question : Question) :
    (r.act (.start kind question)).underway e = r.underway e
      ++ if r.edition kind = e then [{ number := r.lookups.length, question }] else [] := by
  simp only [act, underway, lookupsOf, List.filter_append, List.map_append]
  by_cases here : r.edition kind = e <;> simp [here, Inquiry.isUnderway]

/-- A cancelled lookup is taken out of those underway. -/
lemma underway_cancel (lookup : Nat) :
    (r.act (.cancel lookup)).underway e
      = (r.underway e).filter fun l => l.number ≠ lookup :=
  underway_map r e (Inquiry.edition_cancel lookup) (Inquiry.lookup_cancel lookup)
    (Inquiry.isUnderway_cancel lookup)

lemma underway_finish (edition : Edition) (lookup : Lookup) (set : List String) :
    (r.see ⟨edition, .finish lookup set⟩).underway e
      = (r.underway e).filter fun l => l.number ≠ lookup.number :=
  underway_map r e (Inquiry.edition_finish lookup.number set)
    (Inquiry.lookup_finish lookup.number set) (Inquiry.isUnderway_finish lookup.number set)

/-- A reply changes the course of a fetch and gives none up. -/
lemma live_answer (fetch : Nat) (reply : Reply) :
    (r.act (.answer fetch reply)).live e = (r.live e).map (Fetch.answer fetch reply) := by
  simp only [act, live, fetchesOf, List.filter_map]
  congr 1
  simp only [List.filter_filter, Function.comp_def, Fetch.isAbandoned_answer, Fetch.edition_answer]

/-- The fetch of a cancelled lookup is taken out of those that were not given up. -/
lemma live_cancel (lookup : Nat) :
    (r.act (.cancel lookup)).live e = (r.live e).filter fun f => !f.isRunBy lookup := by
  simp only [act, live, fetchesOf]
  induction r.fetches with
  | nil => rfl
  | cons f rest ih =>
      by_cases here : f.edition = e <;> cases dead : f.isAbandoned <;>
        cases run : f.isRunBy lookup <;>
          simp_all [Fetch.isAbandoned_abandon, Fetch.abandon_of_not_isRunBy]

/-- A new fetch goes behind those that were not given up. -/
lemma live_fetch (edition : Edition) (number : Nat) (issuer : Lookup) :
    (r.see ⟨edition, .fetch number issuer⟩).live e
      = r.live e ++ if edition = e then [r.issue edition number issuer] else [] := by
  have started : (r.issue edition number issuer).isAbandoned = false := by
    unfold issue Fetch.isAbandoned
    dsimp only
    split <;> rfl
  have place : (r.issue edition number issuer).edition = edition := rfl
  simp only [see, live, fetchesOf, List.filter_append]
  by_cases here : edition = e
  · subst here
    simp [started, place]
  · simp [here, place]

variable {r e} in
/-- If all earlier fetches were given up, a new one is the only one that was not. -/
lemma live_first_fetch (dead : r.live e = []) {number : Nat} {issuer : Lookup} :
    (r.see ⟨e, .fetch number issuer⟩).live e = [r.issue e number issuer] := by
  rw [live_fetch, dead, if_pos rfl]
  rfl

end Effects

end Record

end SaleSearch.Catalog

import SaleSearch.Catalog.Generation
import SaleSearch.Catalog.Known

/-!
# Sessions

A catalog in use: the generations of each kind, and the source that their fetches go to. Lookups
join the current generation of a kind. An invalidation begins a new one and leaves the earlier ones
to themselves, whose lookups may still be waiting. The source answers at once with what it currently
holds, unless it is gated; then a fetch waits until it is answered explicitly. Lookups and fetches
are numbered over the whole session.

* `Session.step` is one thing that happens to the catalog or to the source.
* `Session.ask` is a lookup that has to be answered on the spot.
-/

namespace SaleSearch.Catalog

/-- What fetches go to. A gated source answers only when it is told to, and then with what it is
told; another one answers each fetch at once with what it holds. -/
structure Source where
  gated : Bool := false
  replies : Kind → Reply := fun _ => .values []

/-- A generation of a kind, by how often the kind had been invalidated before. -/
structure Edition where
  kind : Kind
  number : Nat
  deriving DecidableEq, Repr

/-- A catalog in use, with all generations that there have been. -/
structure Session where
  generations : Edition → Generation := fun _ => .idle
  /-- How often each kind has been invalidated. -/
  invalidations : Kind → Nat := fun _ => 0
  source : Source := {}
  /-- The number of the next lookup. -/
  lookups : Nat := 0
  /-- The number of the next fetch. -/
  fetches : Nat := 0

/-- Something that can be seen of a generation from outside. -/
structure Occurrence where
  edition : Edition
  event : Event
  deriving DecidableEq, Repr

namespace Occurrence

/-- The line that a source sees of a fetch. -/
def fetchLine? (o : Occurrence) : Option String :=
  match o.event with
  | .fetch number _ =>
      some (number.repr ++ ": " ++ o.edition.kind.label ++ ": " ++ o.edition.kind.query)
  | .finish .. => none

/-- The lookup that ended, with the set that it was given. -/
def finished? (o : Occurrence) : Option (Lookup × List String) :=
  match o.event with
  | .fetch .. => none
  | .finish lookup set => some (lookup, set)

end Occurrence

/-- What can be done to a session: to its source (`hold`, `gate`, `answer`), by a lookup (`start`,
`cancel`) or to its kinds (`invalidate`). -/
inductive Action where
  | hold (kind : Kind) (reply : Reply)
  | gate (on : Bool)
  | start (kind : Kind) (question : Question)
  | answer (fetch : Nat) (reply : Reply)
  | cancel (lookup : Nat)
  | invalidate (kind : Kind)
  deriving DecidableEq, Repr

/-- Invalidate every kind, one after another. -/
def Action.invalidateAll : List Action :=
  Kind.all.map .invalidate

namespace Session

/-- The current generation of a kind. -/
def edition (s : Session) (kind : Kind) : Edition where
  kind := kind
  number := s.invalidations kind

/-- Has the current generation of a kind been answered, by values or by a failure? -/
def isLoaded (s : Session) (kind : Kind) : Bool :=
  (s.generations (s.edition kind)).isAnswered

/-- All generations that there have been. -/
def editions (s : Session) : List Edition :=
  Kind.all.flatMap fun kind =>
    (List.range (s.invalidations kind + 1)).map fun number => { kind, number }

/-- The session with one generation in another state, and all else as it was. -/
def put (s : Session) (e : Edition) (g : Generation) : Session :=
  { s with generations := fun e' => if e' = e then g else s.generations e' }

/-- A change of a generation, completed by the answer of the source if the change issued a fetch and
the source is not gated. -/
def reply (s : Session) (kind : Kind) (changed : Generation × List Event) :
    Generation × List Event :=
  if changed.2.any Event.isFetch && !s.source.gated then
    let (generation, more) := changed.1.answer (s.source.replies kind).known
    (generation, changed.2 ++ more)
  else changed

/-- The session after a change of one generation, and what could be seen of it. The fetches that
were issued are counted. -/
def commit (s : Session) (edition : Edition) (changed : Generation × List Event) :
    Session × List Occurrence :=
  let (generation, events) := s.reply edition.kind changed
  ({ s.put edition generation with fetches := s.fetches + events.countP Event.isFetch },
    events.map fun event => { edition, event })

/-- A lookup begins in the current generation of a kind, under the next free number. -/
def start (s : Session) (kind : Kind) (question : Question) : Session × List Occurrence :=
  let edition := s.edition kind
  let lookup := { number := s.lookups, question }
  { s with lookups := s.lookups + 1 }.commit edition
    ((s.generations edition).join s.fetches lookup)

/-- Change the first generation of which `picks` holds, if there is one. -/
def change (s : Session) (picks : Generation → Bool)
    (how : Generation → Generation × List Event) : Session × List Occurrence :=
  match s.editions.find? fun edition => picks (s.generations edition) with
  | none => (s, [])
  | some edition => s.commit edition (how (s.generations edition))

/-- A lookup is given up, in the generation that it joined. One that has ended is not there any
more. -/
def cancel (s : Session) (lookup : Nat) : Session × List Occurrence :=
  s.change (Generation.has lookup) (Generation.drop s.fetches lookup)

/-- A fetch is answered, if a generation still waits for it. -/
def answer (s : Session) (fetch : Nat) (reply : Reply) : Session × List Occurrence :=
  s.change (Generation.awaits fetch) (Generation.answer reply.known)

/-- Does a generation still wait for the answer to this fetch? -/
def awaits (s : Session) (fetch : Nat) : Bool :=
  s.editions.any fun edition => (s.generations edition).awaits fetch

/-- From now on the current generation of the kind is a new one, which is idle. -/
def invalidate (s : Session) (kind : Kind) : Session :=
  { s with invalidations := fun k => s.invalidations k + if k = kind then 1 else 0 }

/-- Replace what the source holds of a kind. -/
def hold (s : Session) (kind : Kind) (reply : Reply) : Session :=
  { s with source.replies := fun k => if k = kind then reply else s.source.replies k }

/-- Gate the source, or let it answer at once again. -/
def gate (s : Session) (on : Bool) : Session :=
  { s with source.gated := on }

/-- One action, and what could be seen of it. -/
def step (s : Session) : Action → Session × List Occurrence
  | .hold kind reply => (s.hold kind reply, [])
  | .gate on => (s.gate on, [])
  | .start kind question => s.start kind question
  | .answer fetch reply => s.answer fetch reply
  | .cancel lookup => s.cancel lookup
  | .invalidate kind => (s.invalidate kind, [])

/-- Actions in their order, and all that could be seen of them. -/
def run (s : Session) : List Action → Session × List Occurrence
  | [] => (s, [])
  | action :: rest =>
      let (s, seen) := s.step action
      let (s, more) := s.run rest
      (s, seen ++ more)

/-- The set that a lookup was given, if what was seen contains its end. -/
def given? (lookup : Nat) (seen : List Occurrence) : Option (List String) :=
  (seen.filterMap Occurrence.finished?).findSome? fun finished =>
    if finished.1.number = lookup then some finished.2 else none

/-- A lookup on the spot: the set, or nothing if the lookup has to wait. -/
def ask (s : Session) (kind : Kind) (question : Question) :
    Option (List String) × Session × List Occurrence :=
  let (after, seen) := s.start kind question
  (given? s.lookups seen, after, seen)

/-- Which kinds are loaded, as the text of a record. -/
def summary (s : Session) : String :=
  let field (kind : Kind) := kind.name ++ ": " ++ if s.isLoaded kind then "true" else "false"
  "ReferenceData \x7b " ++ ", ".intercalate (Kind.all.map field) ++ " \x7d"

end Session

end SaleSearch.Catalog

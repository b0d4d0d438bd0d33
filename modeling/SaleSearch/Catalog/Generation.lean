import SaleSearch.Catalog.Known

/-!
# Generations

A generation is one attempt to know a set, from an invalidation to the next. It is a cell that is
filled once, and the lookups of a kind are readers of the cell that is current when they begin. The
first one fills it by a fetch.

Three things are taken for granted of such a cell, and `Generation` is made of them:

* While a fetch is under way nobody else starts one. Lookups wait for it, in the order in which they
  came (`Generation.join`).
* If the lookup that runs the fetch is dropped, the fetch is lost with it, and the cell is handed
  over to the oldest lookup that waits, which runs a fetch of its own. A lookup that is dropped
  while it waits only leaves the queue (`Generation.drop`).
* An answer fills the cell for good and wakes up every lookup that waits, and all of them, like all
  that come later, are given the same set (`Generation.answer`).

A failed fetch is an answer too, namely the empty set (`Reply.known`). What is seen of a generation
from outside are `Event`s.
-/

namespace SaleSearch.Catalog

/-- What a lookup wants to know of a set. -/
inductive Question where
  | all
  | member (value : String)
  deriving DecidableEq, Repr

/-- What a lookup is told of a set. -/
inductive Finding where
  | all (set : List String)
  | member (known : Bool)
  deriving DecidableEq, Repr

/-- The whole set, or whether the value is in it. -/
def Question.answer (set : List String) : Question → Finding
  | .all => .all set
  | .member value => .member (value ∈ set)

/-- A lookup under way. Lookups are numbered in the order in which they begin. -/
structure Lookup where
  number : Nat
  question : Question
  deriving DecidableEq, Repr

/-- The fetch numbered so was issued by a lookup, or a lookup ended with the set that it was
given. -/
inductive Event where
  | fetch (number : Nat) (issuer : Lookup)
  | finish (lookup : Lookup) (set : List String)
  deriving DecidableEq, Repr

/-- Is it the issue of a fetch, and not the end of a lookup? -/
def Event.isFetch : Event → Bool
  | .fetch .. => true
  | .finish .. => false

/-- How far the cell of a generation has been filled. -/
inductive Generation where
  /-- Nobody wants to know the set, or whoever did has given up. -/
  | idle
  /-- A lookup runs the fetch numbered so, and others wait for it, the oldest first. -/
  | fetching (runner : Lookup) (fetch : Nat) (waiting : List Lookup)
  | answered (set : List String)
  deriving DecidableEq, Repr

namespace Generation

/-- Is the cell filled, by values or by a failure? -/
def isAnswered : Generation → Bool
  | .answered _ => true
  | _ => false

/-- The lookups that are not finished, the one that runs the fetch first. -/
def unfinished : Generation → List Lookup
  | .fetching runner _ waiting => runner :: waiting
  | _ => []

/-- Is this one of the unfinished lookups? -/
def has (lookup : Nat) (g : Generation) : Bool :=
  g.unfinished.any fun l => l.number = lookup

/-- Does the generation wait for the answer to this fetch? -/
def awaits (number : Nat) : Generation → Bool
  | .fetching _ fetch _ => fetch = number
  | _ => false

/-- A lookup begins. It issues the fetch numbered `next` if there is none, waits if one is under
way, and ends at once if the cell is filled. -/
def join (next : Nat) (lookup : Lookup) : Generation → Generation × List Event
  | .idle => (.fetching lookup next [], [.fetch next lookup])
  | .fetching runner fetch waiting => (.fetching runner fetch (waiting ++ [lookup]), [])
  | .answered set => (.answered set, [.finish lookup set])

/-- The lookup that ran the fetch is gone, and the oldest one that waits issues the next fetch. -/
def handOver (next : Nat) : List Lookup → Generation × List Event
  | [] => (.idle, [])
  | oldest :: others => (.fetching oldest next others, [.fetch next oldest])

/-- A lookup is given up. If it ran the fetch the cell is handed over; if it waited it leaves the
queue. -/
def drop (next lookup : Nat) : Generation → Generation × List Event
  | .fetching runner fetch waiting =>
      if runner.number = lookup then handOver next waiting
      else (.fetching runner fetch (waiting.filter fun l => l.number ≠ lookup), [])
  | g => (g, [])

/-- The fetch is answered: the cell is filled, and every unfinished lookup ends with the set. -/
def answer (set : List String) (g : Generation) : Generation × List Event :=
  (.answered set, g.unfinished.map fun lookup => .finish lookup set)

end Generation

end SaleSearch.Catalog

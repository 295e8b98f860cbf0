import Schemata.Plan

/-!
# Inferring joins

A model that a query mentions, but does not join, is brought in along relations.
The way must be the only shortest one from the models that are there already. Two
relations between the same models are two ways.

The search is breadth first. Its tables have an entry for every model of the
catalog: how far away it is, in how many shortest ways it was reached, and the
step that reached it first. A third way says no more than a second one, so ways
are counted up to two. The way itself is read back from the target, step by step.
An entry that is not in its table is nothing, and then so is the whole search.
-/

namespace Schemata.Analysis

/-- Why no join was inferred. -/
inductive PathFault where
  | unreachable
  | ambiguous
  deriving DecidableEq, Repr

/-- The step along a relation away from a model, if the relation touches it. -/
def stepFrom? (place : ModelId) (relation : Relation) : Option Join :=
  if relation.left.model = place then some ⟨relation.left, relation.right⟩
  else if relation.right.model = place then some ⟨relation.right, relation.left⟩
  else none

/-- A table with another entry at a place, if the table has the place. -/
def setAt? {Entry : Type} (table : Array Entry) (place : Nat) (entry : Entry) :
    Option (Array Entry) :=
  if inTable : place < table.size then some (table.set place entry inTable) else none

/-- The sum of two bytes, or the largest byte if the sum is larger. -/
def saturatingAdd (first second : UInt8) : UInt8 :=
  if first.toNat + second.toNat < 256 then first + second else 255

/-- Ways that were counted and more of them, counted up to two. -/
def addWays (known more : UInt8) : UInt8 :=
  if 2 < saturatingAdd known more then 2 else saturatingAdd known more

/--
The state of a search: the distance of every model that was reached, the number of its shortest
ways, the step that reached it first, and the models whose steps are still to be taken.
-/
structure Search where
  distances : Array (Option Nat)
  counts : Array UInt8
  arrivals : Array (Option Join)
  queue : List ModelId
  deriving DecidableEq, Repr

namespace Search

/-- A search among a number of models that has reached none of them. -/
def blank (size : Nat) : Search :=
  ⟨.replicate size none, .replicate size 0, .replicate size none, []⟩

/-- Start from a model. -/
def enter (search : Search) (member : ModelId) : Option Search := do
  let distances ← setAt? search.distances member (some 0)
  let counts ← setAt? search.counts member 1
  return { search with distances, counts, queue := search.queue ++ [member] }

/--
Take a step from a model that was reached. A model that was not reached before gets its distance
and its arrival, and waits for its turn. One that this step leads to in no more steps than others
gets more ways.
-/
def take (search : Search) (join : Join) : Option Search := do
  let next := join.right.model
  let here ← (← search.distances[join.left.model]?)
  let ways ← search.counts[join.left.model]?
  match ← search.distances[next]? with
  | none =>
    let distances ← setAt? search.distances next (some (here + 1))
    let counts ← setAt? search.counts next ways
    let arrivals ← setAt? search.arrivals next (some join)
    return ⟨distances, counts, arrivals, search.queue ++ [next]⟩
  | some there =>
    if there = here + 1 then
      let known ← search.counts[next]?
      let counts ← setAt? search.counts next (addWays known ways)
      return { search with counts }
    else
      return search

/-- Take the step from a model along a relation, if the relation touches the model. -/
def follow (place : ModelId) (search : Search) (relation : Relation) : Option Search :=
  match stepFrom? place relation with
  | some join => search.take join
  | none => some search

/--
Give every model that waits its turn, in order, until none does. A model waits once at most, which
bounds the number of turns.
-/
def run (relations : List Relation) : Nat → Search → Option Search
  | 0, search => if search.queue.isEmpty then some search else none
  | turns + 1, search =>
    match search.queue with
    | [] => some search
    | place :: queue => do
      let search ← relations.foldlM (follow place) { search with queue }
      run relations turns search

/-- Read the way to a model back from its last step, in front of a path, over a number of models. -/
def readBack (arrivals : Array (Option Join)) : Nat → ModelId → List Join → Option (List Join)
  | 0, _, _ => none
  | bound + 1, place, path => do
    match ← arrivals[place]? with
    | none => return path
    | some join => readBack arrivals bound join.left.model (join :: path)

/-- What a finished search says about the way to a model. -/
def outcome (search : Search) (target : ModelId) : Option (Except PathFault (List Join)) := do
  let ways ← search.counts[target]?
  if ways = 0 then
    return .error .unreachable
  else if ways = 1 then
    let path ← readBack search.arrivals search.arrivals.size target []
    return .ok path
  else
    return .error .ambiguous

end Search

/-- Search for the only shortest way from some models to another one. -/
def searchPath (catalog : Catalog) (members : List ModelId) (target : ModelId) :
    Option (Except PathFault (List Join)) := do
  let start ← members.foldlM Search.enter (.blank catalog.models.length)
  let search ← start.run catalog.relations (catalog.models.length + members.length)
  search.outcome target

/--
The only shortest way from some models to another one. A search that leaves its tables, which none
does for models and relations of the catalog, reaches nothing.
-/
def inferPath (catalog : Catalog) (members : List ModelId) (target : ModelId) :
    Except PathFault (List Join) :=
  (searchPath catalog members target).getD (.error .unreachable)

end Schemata.Analysis

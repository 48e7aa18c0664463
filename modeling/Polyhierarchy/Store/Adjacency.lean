import Polyhierarchy.Collection.SortedMap
import Polyhierarchy.Collection.SortedSet
import Polyhierarchy.Node
/-!
# Edges in two maps

A store may keep each direct edge twice: in a map from topics to their children, and in a map from
nodes to their parents. Neither is looked up by way of the other, so a change has to be made to
both. A node whose last parent goes keeps an empty set of parents, and likewise a topic.

## Main definitions

* `SortedMap.setAt`, `SortedMap.addAt`, `SortedMap.removeAt` — maps to sets.
* `EdgeChange` — an edge is added or removed.
* `Adjacency` — direct edges in two maps.
* `Adjacency.childNodes`, `Adjacency.parentTopics` — the children of a topic, the parents of a node.
* `Adjacency.change`, `Adjacency.changeEach` — changes of single edges.
-/

namespace Polyhierarchy

/-! ### Maps to sets -/

namespace SortedMap

variable {κ β : Type} [Ranked κ] [Ranked β]

/-- The set of a key. A key without a set has the empty one. -/
def setAt (m : SortedMap κ (SortedSet β)) (k : κ) : SortedSet β := (m.get? k).getD ∅

/-- Adds an element to the set of a key, which is a new one if there was none. -/
def addAt (m : SortedMap κ (SortedSet β)) (k : κ) (b : β) : SortedMap κ (SortedSet β) :=
  m.insert k ((m.setAt k).insert b)

/-- Removes an element from the set of a key, if there is one. The set stays, empty or not. -/
def removeAt (m : SortedMap κ (SortedSet β)) (k : κ) (b : β) : SortedMap κ (SortedSet β) :=
  match m.get? k with
  | some s => m.insert k (s.erase b)
  | none => m

end SortedMap

/-! ### Two maps -/

/-- A change of a single edge. -/
inductive EdgeChange
  | add (edge : Edge)
  | remove (edge : Edge)
  deriving DecidableEq

/-- Direct edges in two maps. -/
structure Adjacency where
  /-- The children of each topic. -/
  children : SortedMap TopicId (SortedSet Node)
  /-- The parents of each node. -/
  parents : SortedMap Node (SortedSet TopicId)

namespace Adjacency

instance : EmptyCollection Adjacency := ⟨⟨∅, ∅⟩⟩

/-- The children of a topic, in order. -/
def childNodes (m : Adjacency) (a : TopicId) : List Node := (m.children.setAt a).toList

/-- The parents of a node, in order. -/
def parentTopics (m : Adjacency) (n : Node) : List TopicId := (m.parents.setAt n).toList

/-- Makes a change to both maps. Whether it has found something to do is read off the children. -/
def change (m : Adjacency) : EdgeChange → Bool × Adjacency
  | .add e => (!(m.children.setAt e.parent).contains e.child,
      ⟨m.children.addAt e.parent e.child, m.parents.addAt e.child e.parent⟩)
  | .remove e => ((m.children.setAt e.parent).contains e.child,
      ⟨m.children.removeAt e.parent e.child, m.parents.removeAt e.child e.parent⟩)

/-- Makes changes one after another. The values say of each whether it has found something to
do. -/
def changeEach : List EdgeChange → Adjacency → List Bool × Adjacency
  | [], m => ([], m)
  | c :: rest, m =>
    let (due, m) := m.change c
    let (others, m) := changeEach rest m
    (due :: others, m)

end Adjacency

end Polyhierarchy

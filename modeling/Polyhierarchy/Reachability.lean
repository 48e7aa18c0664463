import Polyhierarchy.Node
import Polyhierarchy.Collection.SortedSet
import Polyhierarchy.Store.Program
/-!
# Reachability

A node is reachable from a topic if a sequence of direct edges leads from the topic down to it. The
reachable nodes are found by a walk: from a queue of topics the first is taken, and those of its
children that are met for the first time join the queue.

## Main definitions

* `Reachability.walk` — the nodes that a walk over a relation meets.
* `Reachability.below` — the nodes other than a topic that are reachable from it.
* `Reachability.Memo` — the results of earlier walks over the same edges.
* `Reachability.descendants`, `Reachability.ancestors` — walks that ask a store for each step and
  make use of earlier results.

## Design

A walk is given a bound on the number of its steps. Every step but the first takes a topic that an
edge was followed to for the first time, so no walk takes more steps than there are edges, and one.
-/

namespace Polyhierarchy.Reachability

/-! ### Walks over a relation -/

/-- Meets the children of a topic: the nodes met so far, and the topics that are met for the first
time, in order. The start of the walk is never met. -/
def meet (start : TopicId) : SortedSet Node → List Node → SortedSet Node × List TopicId
  | seen, [] => (seen, [])
  | seen, child :: rest =>
    if child = .topic start ∨ child ∈ seen then meet start seen rest
    else
      let (seen, fresh) := meet start (seen.insert child) rest
      match child with
      | .topic id => (seen, id :: fresh)
      | .link _ => (seen, fresh)

/-- The nodes that a walk meets, given a bound on its steps, the topics that wait, and the nodes
met so far. -/
def walk (children : TopicId → List Node) (start : TopicId) :
    Nat → List TopicId → SortedSet Node → SortedSet Node
  | 0, _, seen => seen
  | _, [], seen => seen
  | steps + 1, topic :: waiting, seen =>
    let (seen, fresh) := meet start seen (children topic)
    walk children start steps (waiting ++ fresh) seen

/-- The nodes other than a topic that are reachable from it, where there are at most so many
edges. -/
def below (edges : Nat) (children : TopicId → List Node) (start : TopicId) : SortedSet Node :=
  walk children start (edges + 1) [start] ∅

/-! ### Walks that ask a store -/

/-- The results of earlier walks. They hold as long as the edges stay as they are. -/
structure Memo where
  /-- The nodes below a topic. -/
  down : List (TopicId × SortedSet Node)
  /-- The topics above a node. -/
  up : List (Node × SortedSet TopicId)

namespace Memo

/-- No results. -/
def empty : Memo := ⟨[], []⟩

/-- The nodes below a topic, if they are known. -/
def below? (m : Memo) (id : TopicId) : Option (SortedSet Node) := m.down.lookup id

/-- The topics above a node, if they are known. -/
def above? (m : Memo) (n : Node) : Option (SortedSet TopicId) := m.up.lookup n

end Memo

/-- Meets the children of a topic on the way down. What lies below a child is taken over whole if
it is known; otherwise the child is waiting to be walked. -/
def meetDown (memo : Memo) (start : TopicId) :
    SortedSet Node → List Node → SortedSet Node × List TopicId
  | seen, [] => (seen, [])
  | seen, child :: rest =>
    if child = .topic start ∨ child ∈ seen then meetDown memo start seen rest
    else
      let seen := seen.insert child
      match child with
      | .link _ => meetDown memo start seen rest
      | .topic id =>
        match memo.below? id with
        | some nodes => meetDown memo start (seen ∪ nodes) rest
        | none =>
          let (seen, fresh) := meetDown memo start seen rest
          (seen, id :: fresh)

/-- Meets the parents of a node on the way up. -/
def meetUp (memo : Memo) (start : Node) :
    SortedSet TopicId → List TopicId → SortedSet TopicId × List TopicId
  | seen, [] => (seen, [])
  | seen, parent :: rest =>
    if .topic parent = start ∨ parent ∈ seen then meetUp memo start seen rest
    else
      let seen := seen.insert parent
      match memo.above? (.topic parent) with
      | some topics => meetUp memo start (seen ∪ topics) rest
      | none =>
        let (seen, fresh) := meetUp memo start seen rest
        (seen, parent :: fresh)

/-- The purpose of the requests of a walk. -/
def purpose : String := "read descendants"

/-- Walks down from the topics that wait. -/
def walkDown (memo : Memo) (start : TopicId) :
    Nat → List TopicId → SortedSet Node → Program (SortedSet Node)
  | 0, _, seen => pure seen
  | _, [], seen => pure seen
  | steps + 1, topic :: waiting, seen => do
    let children ← Program.request purpose (.children topic)
    let (seen, fresh) := meetDown memo start seen children
    walkDown memo start steps (waiting ++ fresh) seen

/-- Walks up from the nodes that wait. -/
def walkUp (memo : Memo) (start : Node) :
    Nat → List Node → SortedSet TopicId → Program (SortedSet TopicId)
  | 0, _, seen => pure seen
  | _, [], seen => pure seen
  | steps + 1, node :: waiting, seen => do
    let parents ← Program.request purpose (.parents node)
    let (seen, fresh) := meetUp memo start seen parents
    walkUp memo start steps (waiting ++ fresh.map .topic) seen

/-- The nodes other than a topic that are reachable from it, and the results known afterwards. -/
def descendants (edges : Nat) (memo : Memo) (id : TopicId) : Program (SortedSet Node × Memo) :=
  match memo.below? id with
  | some nodes => pure (nodes, memo)
  | none => do
    let seen ← walkDown memo id (edges + 1) [id] ∅
    let nodes := seen.erase (.topic id)
    return (nodes, { memo with down := (id, nodes) :: memo.down })

/-- The topics other than a node from which it is reachable, and the results known afterwards. -/
def ancestors (edges : Nat) (memo : Memo) (node : Node) : Program (SortedSet TopicId × Memo) :=
  match memo.above? node with
  | some topics => pure (topics, memo)
  | none => do
    let seen ← walkUp memo node (edges + 1) [node] ∅
    let topics := match node with
      | .topic id => seen.erase id
      | .link _ => seen
    return (topics, { memo with up := (node, topics) :: memo.up })

end Polyhierarchy.Reachability

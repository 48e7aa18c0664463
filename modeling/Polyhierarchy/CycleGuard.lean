import Polyhierarchy.Alert
import Polyhierarchy.Reachability
/-!
# The guard against cycles

A topic must not become a parent of itself or of a topic above it. Whether it would is read off the
nodes below the topic that is to get a new parent.

## Main definitions

* `Reachability.Reader` — a way to find out what lies below a topic and what lies above a node.
* `Reachability.stored`, `Reachability.walked` — the readers of the closure and of the edges.
* `CycleGuard.wouldCreateCycle` — whether a new parent would close a cycle.
* `CycleGuard.check` — the alert that is raised in that case.
-/

namespace Polyhierarchy

namespace Reachability

/-- A way to find out what lies below a topic and what lies above a node. What it learns on the way
is its state. -/
structure Reader (σ : Type) where
  /-- The nodes other than a topic that are reachable from it. -/
  descendants : TopicId → σ → Program (SortedSet Node × σ)
  /-- The topics other than a node from which it is reachable. -/
  ancestors : Node → σ → Program (SortedSet TopicId × σ)

/-- Reads the closure that the store keeps. -/
def stored : Reader Unit where
  descendants topic _ := do
    let nodes ← Program.request purpose (.descendants topic)
    return (nodes, ())
  ancestors node _ := do
    let topics ← Program.request purpose (.ancestors node)
    return (topics, ())

/-- Walks over the direct edges, of which there are at most so many. -/
def walked (edges : Nat) : Reader Memo where
  descendants topic memo := Reachability.descendants edges memo topic
  ancestors node memo := Reachability.ancestors edges memo node

end Reachability

namespace CycleGuard

/-- Whether a topic would close a cycle as a parent of another one: it is the same, or it lies
below the other one. -/
def wouldCreateCycle {σ : Type} (reader : Reachability.Reader σ) (topic parent : TopicId) (s : σ) :
    Program (Bool × σ) :=
  if topic = parent then pure (true, s)
  else do
    let (below, s) ← reader.descendants topic s
    return (below.contains (.topic parent), s)

/-- The alert that is raised when a topic is refused as a new parent. -/
def check (topic parent : Topic) : Program (Option Alert) := do
  let (closes, _) ← wouldCreateCycle Reachability.stored topic.id parent.id ()
  return if closes then some (.cycle topic.name parent.name) else none

end CycleGuard

end Polyhierarchy

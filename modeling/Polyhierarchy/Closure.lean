import Polyhierarchy.Store.Program
/-!
# Keeping the closure

The closure of a topic is the set of the nodes below it. When an edge comes or goes, the closure of
its parent can change, and that of every topic above the parent, but no other. So those closures
are computed anew from the direct edges. Nothing is patched, so doing it twice does no harm.

## Main definitions

* `Closure.affected` — the topics whose closure can change with the children of a topic.
* `Closure.recompute` — computes the closures of some topics anew.
* `Closure.addEdge`, `Closure.removeEdge` — change one edge and keep the closure.
* `Closure.splice`, `Closure.detach` — move the children of a topic elsewhere, and cut a node out.
-/

namespace Polyhierarchy.Closure

/-- The topics whose closure can change with the children of a topic: the topic itself and all
topics above it, as the closure has them. -/
def affected (topic : TopicId) : Program (SortedSet TopicId) := do
  let above ← Program.request "read ancestors" (.ancestors (.topic topic))
  return above.insert topic

/-- Computes the closure of each topic of a list anew from the direct edges. The value is the
number of pairs written. -/
def recomputeEach : List TopicId → Program Nat
  | [] => pure 0
  | topic :: rest => do
    Program.lookAt "closure recompute"
    let nodes ← Program.request "compute reachable set" (.reachable topic)
    Program.request "write closure rows" (.replaceDescendants topic nodes)
    let others ← recomputeEach rest
    return nodes.size + others

/-- Computes the closures of some topics anew, in order. -/
def recompute (topics : SortedSet TopicId) : Program Nat := recomputeEach topics.toList

/-- Adds an edge and keeps the closure. The value says whether the edge is new. Whether it closes a
cycle is not looked at. -/
def addEdge (e : Edge) : Program Bool := do
  if ← Program.request "insert edge" (.insertEdge e) then
    let topics ← affected e.parent
    let _ ← recompute topics
    return true
  else
    return false

/-- Removes an edge and keeps the closure. The value says whether there was such an edge. The
topics above are read first, while the closure still has them. -/
def removeEdge (e : Edge) : Program Bool := do
  let topics ← affected e.parent
  if ← Program.request "delete edge" (.deleteEdge e) then
    let _ ← recompute topics
    return true
  else
    return false

/-- Moves a child from one topic to others. -/
def moveChild (topic : TopicId) (parents : SortedSet TopicId) (child : Node) : Program Unit := do
  Program.forEach
    (fun parent => do let _ ← Program.request "splice edge" (.insertEdge ⟨parent, child⟩))
    parents.toList
  let _ ← Program.request "delete spliced edge" (.deleteEdge ⟨topic, child⟩)

/-- Moves all children of a topic to other topics. The value is the list of the children. The
closure stays as it was, until the topic is detached. -/
def splice (topic : TopicId) (parents : SortedSet TopicId) : Program (List Node) := do
  let children ← Program.request "list children" (.children topic)
  Program.forEach (moveChild topic parents) children
  return children

/-- Cuts a node without children out of the hierarchy: its edges go, the closure forgets it, and
the closures of the topics above a topic are computed anew. No closure reaches anything through a
link, so for a link there is nothing to compute. -/
def detach (node : Node) : Program Unit := do
  let above ← Program.request "read ancestors" (.ancestors node)
  let parents ← Program.request "list parents" (.parents node)
  Program.forEach
    (fun parent => do let _ ← Program.request "delete parent edge" (.deleteEdge ⟨parent, node⟩))
    parents
  Program.request "purge closure" (.purge node)
  match node with
  | .topic _ => do let _ ← recompute above
  | .link _ => return ()

end Polyhierarchy.Closure

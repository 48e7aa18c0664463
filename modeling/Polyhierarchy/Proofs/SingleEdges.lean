import Polyhierarchy.Proofs.Failures
import Polyhierarchy.Proofs.Upkeep
import Polyhierarchy.Store.Adjacency

set_option relaxedAutoImplicit false
set_option autoImplicit false

/-!
# One edge after another

Edges come and go one by one, in any graph: with cycles, with loops, and between nodes that have no
rows. A change says whether it has found something to do. If it keeps the closure as well, an exact
closure stays exact, so it is exact after any sequence of such changes that begins with no edges.

## Main definitions

* `EdgeChange.applyTo`, `EdgeChange.applyAll` — the edges after a change, and after several.
* `EdgeChange.isDue` — whether a change finds something to do.
* `EdgeChange.request`, `EdgeChange.maintain` — a change of the edges alone, and one that keeps the
  closure.
* `EdgeChange.each` — does changes one after another.

## Main results

* `EdgeChange.on_each` — what changes do one after another, from what each of them does.
* `Memory.edge_changes_exact` — changes that keep the closure keep it exact.
-/

namespace Polyhierarchy

open Reachability

namespace EdgeChange

variable {E : SortedRel TopicId Node}

/-! ### Edges after changes -/

/-- The edges after a change. -/
def applyTo : EdgeChange → SortedRel TopicId Node → SortedRel TopicId Node
  | add e, E => E.insert e.parent e.child
  | remove e, E => E.erase e.parent e.child

/-- The edges after some changes, one after another. -/
def applyAll (changes : List EdgeChange) (E : SortedRel TopicId Node) : SortedRel TopicId Node :=
  changes.foldl (fun F change => change.applyTo F) E

/-- Whether a change finds something to do: an edge to add that is missing, or an edge to remove
that is there. -/
def isDue : EdgeChange → SortedRel TopicId Node → Bool
  | add e, E => !E.holds e.parent e.child
  | remove e, E => E.holds e.parent e.child

/-- Whether each of some changes finds something to do, one after another. -/
def dueEach : List EdgeChange → SortedRel TopicId Node → List Bool
  | [], _ => []
  | change :: rest, E => change.isDue E :: dueEach rest (change.applyTo E)

/-- A change that finds something to do is one that makes a difference. -/
lemma isDue_iff {change : EdgeChange} : change.isDue E = true ↔ change.applyTo E ≠ E := by
  cases change with
  | add e =>
    rw [isDue, Bool.not_eq_true', ← Bool.not_eq_true, SortedRel.holds_iff]
    refine not_congr ⟨SortedRel.insert_of_mem, fun h => ?_⟩
    rw [applyTo] at h
    rw [← h]
    exact SortedRel.mem_row_insert.2 (.inl ⟨rfl, rfl⟩)
  | remove e =>
    rw [isDue, SortedRel.holds_iff]
    constructor
    · intro h hsame
      rw [applyTo] at hsame
      rw [← hsame] at h
      exact (SortedRel.mem_row_erase.1 h).2 ⟨rfl, rfl⟩
    · intro h
      by_contra hmem
      exact h (SortedRel.erase_of_not_mem hmem)

/-! ### Programs -/

/-- Changes an edge, and leaves the closure as it is. -/
def request : EdgeChange → Program Bool
  | add e => Program.request "insert edge" (.insertEdge e)
  | remove e => Program.request "delete edge" (.deleteEdge e)

/-- Changes an edge and keeps the closure. -/
def maintain : EdgeChange → Program Bool
  | add e => Closure.addEdge e
  | remove e => Closure.removeEdge e

/-- Does changes one after another. The values say of each whether it has found something to do. -/
def each (act : EdgeChange → Program Bool) : List EdgeChange → Program (List Bool)
  | [] => pure []
  | change :: rest => do
    let due ← act change
    let others ← each act rest
    return due :: others

variable {t : Tables}

lemma on_request (change : EdgeChange) :
    change.request.on t =
      (.ok (change.isDue t.edges), { t with edges := change.applyTo t.edges }) := by
  cases change <;> rfl

lemma on_maintain (h : t.Exact) (change : EdgeChange) :
    change.maintain.on t =
      (.ok (change.isDue t.edges), t.withEdges (change.applyTo t.edges)) := by
  cases change with
  | add e => exact Closure.on_addEdge h e
  | remove e => exact Closure.on_removeEdge h e

/-- If each change does to the edges what it should, and keeps a property of the tables, then so do
several, one after another. -/
theorem on_each {act : EdgeChange → Program Bool} {P : Tables → Prop}
    (hact : ∀ change t, P t → ∃ t', (act change).on t = (.ok (change.isDue t.edges), t') ∧
      t'.edges = change.applyTo t.edges ∧ P t') (h : P t) (changes : List EdgeChange) :
    ∃ t', (each act changes).on t = (.ok (dueEach changes t.edges), t') ∧
      t'.edges = applyAll changes t.edges ∧ P t' := by
  induction changes generalizing t with
  | nil => exact ⟨t, rfl, rfl, h⟩
  | cons change rest ih =>
    obtain ⟨t₁, hon, hedges, hP⟩ := hact change t h
    obtain ⟨t₂, hrest, hedges', hP'⟩ := ih hP
    rw [hedges] at hrest hedges'
    refine ⟨t₂, ?_, hedges', hP'⟩
    simp only [each, Program.on_bind, hon, hrest]
    rfl

/-- Changes of the edges alone leave all else as it was. -/
lemma on_each_request (changes : List EdgeChange) :
    (each request changes).on t =
      (.ok (dueEach changes t.edges), { t with edges := applyAll changes t.edges }) := by
  have hstart : t = { t with edges := t.edges } := rfl
  obtain ⟨t', hon, hedges, hrest⟩ := on_each (P := fun t' => t' = { t with edges := t'.edges })
    (fun change t' ht' => ⟨_, on_request change, rfl, by rw [ht']⟩) hstart changes
  rw [hon, hrest, hedges]

end EdgeChange

namespace Memory

open EdgeChange

/-- **Single edges keep an exact closure exact, in any graph.** In a session whose closure is exact
for its edges, whatever these are, adding or removing an edge does just that to the edges, says
whether it makes a difference, and leaves a closure that is exact for the new edges; nothing else is
changed. So the closure is exact after any sequence of such changes in a session that begins with
empty tables. -/
theorem edge_changes_exact (s : Session) (mem : Memory) :
    (s.tables.Exact → ∀ change : EdgeChange, ∃ (due : Bool) (t : Tables),
      change.maintain.run store.backend .never (s, mem.limited none) =
        (.ok due, { s with tables := t }, mem.limited none) ∧
      (due = true ↔ t.edges ≠ s.tables.edges) ∧
      t.edges = change.applyTo s.tables.edges ∧
      (∀ a d, d ∈ t.closure.row a ↔ d ≠ .topic a ∧ Reaches t.edges (.topic a) d) ∧
      t = { s.tables with edges := t.edges, closure := t.closure }) ∧
    ∀ changes : List EdgeChange, ∃ t : Tables,
      (each maintain changes).run store.backend .never ({ s with tables := ∅ }, mem.limited none) =
        (.ok (dueEach changes ∅), { s with tables := t }, mem.limited none) ∧
      t.edges = applyAll changes ∅ ∧
      ∀ a d, d ∈ t.closure.row a ↔ d ≠ .topic a ∧ Reaches t.edges (.topic a) d := by
  refine ⟨fun h change => ?_, fun changes => ?_⟩
  · have hrun := change.maintain.run_store s (rfl : (mem.limited none).writesLeft = none)
    rw [on_maintain h] at hrun
    exact ⟨_, _, hrun, isDue_iff, rfl, Tables.exact_withEdges _ _, rfl⟩
  · have hact : ∀ (change : EdgeChange) (t : Tables), t.Exact →
        ∃ t', change.maintain.on t = (.ok (change.isDue t.edges), t') ∧
          t'.edges = change.applyTo t.edges ∧ t'.Exact := fun change t ht =>
      ⟨_, on_maintain ht change, rfl, Tables.exact_withEdges _ _⟩
    obtain ⟨t, hon, hedges, hexact⟩ := on_each hact Tables.coherent_empty.exact changes
    have hrun := (each maintain changes).run_store { s with tables := ∅ }
      (rfl : (mem.limited none).writesLeft = none)
    rw [hon] at hrun
    exact ⟨t, hrun, hedges, hexact⟩

/-- Two topics above each other, one of which is above itself: adding a link below it puts the link
below both, and leaves no topic below itself in the closure. -/
theorem edge_changes_exact_loop :
    let loop := applyAll [.add ⟨⟨⟨1⟩⟩, .topic ⟨⟨2⟩⟩⟩, .add ⟨⟨⟨2⟩⟩, .topic ⟨⟨1⟩⟩⟩,
      .add ⟨⟨⟨2⟩⟩, .topic ⟨⟨2⟩⟩⟩] ∅
    let s : Session := ⟨0, (∅ : Tables).withEdges loop⟩
    s.tables.Exact ∧ ∃ t : Tables,
      (maintain (.add ⟨⟨⟨2⟩⟩, .link ⟨⟨3⟩⟩⟩)).run store.backend .never (s, limited ∅ none) =
        (.ok true, { s with tables := t }, limited ∅ none) ∧
      Node.link ⟨⟨3⟩⟩ ∈ t.closure.row ⟨⟨1⟩⟩ ∧ Node.topic ⟨⟨2⟩⟩ ∉ t.closure.row ⟨⟨2⟩⟩ := by
  intro loop s
  have hexact : s.tables.Exact := Tables.exact_withEdges ∅ loop
  obtain ⟨due, t, hrun, hdue, hedges, hclosure, -⟩ :=
    (edge_changes_exact s ∅).1 hexact (.add ⟨⟨⟨2⟩⟩, .link ⟨⟨3⟩⟩⟩)
  have hdown : Step t.edges (.topic ⟨⟨1⟩⟩) (.topic ⟨⟨2⟩⟩) := by
    rw [step_topic_iff, hedges]
    decide +kernel
  have hlink : Step t.edges (.topic ⟨⟨2⟩⟩) (.link ⟨⟨3⟩⟩) := by
    rw [step_topic_iff, hedges]
    decide +kernel
  have hnew : due = true := by
    rw [hdue, hedges]
    exact isDue_iff.1 (by decide +kernel)
  have hbelow := (Relation.TransGen.single hdown).tail hlink
  exact ⟨hexact, t, hnew ▸ hrun, (hclosure _ _).2 ⟨by decide, hbelow⟩,
    fun h => ((hclosure _ _).1 h).1 rfl⟩

end Memory

end Polyhierarchy

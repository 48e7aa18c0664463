import Polyhierarchy.Proofs.SingleEdges
import Polyhierarchy.Proofs.UpwardWalk
import Polyhierarchy.Store.Adjacency

set_option relaxedAutoImplicit false
set_option autoImplicit false

/-!
# Two maps hold the same edges

Where each direct edge is kept in two maps, a change is made to both, and neither is looked up by
way of the other. So it has to be shown that they stay alike: each topic has the children in the one
map by which the other map lists it as a parent.

## Main definitions

* `Adjacency.Mirrors` — two maps hold some edges, and no others.

## Main results

* `Adjacency.Mirrors.change` — a change keeps the two maps alike, and says what it has found.
* `Adjacency.Mirrors.changeEach` — so do changes one after another.
-/

namespace Polyhierarchy

/-! ### Maps to sets -/

namespace SortedMap

variable {κ β : Type} [Ranked κ] [Ranked β] {m : SortedMap κ (SortedSet β)} {k k' : κ} {b c : β}

lemma mem_setAt_addAt : c ∈ (m.addAt k b).setAt k' ↔ k' = k ∧ c = b ∨ c ∈ m.setAt k' := by
  by_cases hk : k' = k
  · subst hk
    simp [setAt, addAt]
  · simp [setAt, addAt, get?_insert_ne _ _ hk, hk]

lemma mem_setAt_removeAt :
    c ∈ (m.removeAt k b).setAt k' ↔ c ∈ m.setAt k' ∧ ¬ (k' = k ∧ c = b) := by
  rw [removeAt]
  cases hs : m.get? k with
  | none =>
    refine (and_iff_left_of_imp ?_).symm
    rintro hc ⟨rfl, -⟩
    rw [setAt, hs] at hc
    exact SortedSet.not_mem_empty c hc
  | some s =>
    by_cases hk : k' = k
    · subst hk
      simp [setAt, hs]
    · simp [setAt, get?_insert_ne _ _ hk, hk]

end SortedMap

/-! ### Two maps -/

namespace Adjacency

open EdgeChange

/-- Two maps hold some edges, and no others: each topic has its children in the one, and each node
its parents in the other. -/
structure Mirrors (m : Adjacency) (E : SortedRel TopicId Node) : Prop where
  children : ∀ a, m.children.setAt a = E.row a
  parents : ∀ n, m.parents.setAt n = E.column n

namespace Mirrors

variable {m : Adjacency} {E : SortedRel TopicId Node}

/-- Two empty maps hold no edges. -/
lemma empty : (∅ : Adjacency).Mirrors ∅ where
  children _ := rfl
  parents _ := rfl

/-- An edge is in the one map exactly if it is in the other. -/
lemma mem_parents_iff (h : m.Mirrors E) {a : TopicId} {n : Node} :
    a ∈ m.parentTopics n ↔ n ∈ m.childNodes a := by
  rw [parentTopics, childNodes, h.children, h.parents, ← SortedSet.mem_def, ← SortedSet.mem_def,
    SortedRel.mem_column]

/-- The children in the map are those that a walk down asks for. -/
lemma childNodes_eq (h : m.Mirrors E) : m.childNodes = Reachability.childList E :=
  funext fun a => congrArg SortedSet.toList (h.children a)

/-- The parents in the map are those that a walk up asks for. -/
lemma parentTopics_eq (h : m.Mirrors E) : m.parentTopics = Reachability.parentList E :=
  funext fun n => congrArg SortedSet.toList (h.parents n)

/-- **A change keeps the two maps alike**, and says whether it has found something to do. -/
theorem change (h : m.Mirrors E) (c : EdgeChange) :
    (m.change c).1 = c.isDue E ∧ (m.change c).2.Mirrors (c.applyTo E) := by
  cases c with
  | add e =>
    refine ⟨?_, fun a => ?_, fun n => ?_⟩
    · rw [Adjacency.change, isDue, SortedRel.holds, h.children]
    · ext n
      rw [Adjacency.change, applyTo, SortedMap.mem_setAt_addAt, h.children,
        SortedRel.mem_row_insert]
    · ext a
      rw [Adjacency.change, applyTo, SortedMap.mem_setAt_addAt, h.parents, SortedRel.mem_column,
        SortedRel.mem_column, SortedRel.mem_row_insert, and_comm]
  | remove e =>
    refine ⟨?_, fun a => ?_, fun n => ?_⟩
    · rw [Adjacency.change, isDue, SortedRel.holds, h.children]
    · ext n
      rw [Adjacency.change, applyTo, SortedMap.mem_setAt_removeAt, h.children,
        SortedRel.mem_row_erase]
    · ext a
      rw [Adjacency.change, applyTo, SortedMap.mem_setAt_removeAt, h.parents, SortedRel.mem_column,
        SortedRel.mem_column, SortedRel.mem_row_erase, and_comm (a := n = e.child)]

/-- Changes one after another keep the two maps alike, and say what they have found. -/
theorem changeEach (h : m.Mirrors E) (changes : List EdgeChange) :
    (Adjacency.changeEach changes m).1 = dueEach changes E ∧
      (Adjacency.changeEach changes m).2.Mirrors (applyAll changes E) := by
  induction changes generalizing m E with
  | nil => exact ⟨rfl, h⟩
  | cons c rest ih =>
    obtain ⟨hdue, hnext⟩ := h.change c
    obtain ⟨hothers, hlast⟩ := ih hnext
    exact ⟨congrArg₂ List.cons hdue hothers, hlast⟩

end Mirrors

end Adjacency

end Polyhierarchy

import Mathlib.Data.Finset.Dedup
import Polyhierarchy.Proofs.Frontier
import Polyhierarchy.Proofs.Paths
import Polyhierarchy.Store.Tables

set_option relaxedAutoImplicit false
set_option autoImplicit false

/-!
# What a walk meets

A walk over the direct edges is bounded in its steps. The bound is never reached: each step takes a
waiting topic away, and a topic waits only once an edge has led to it for the first time. So the
walk ends with no topic waiting, and has met exactly the nodes that are reachable from its start.

## Main definitions

* `SortedSet.toSet` — the elements of a sorted set.
* `Reachability.targets` — the nodes that edges lead to.

## Main results

* `Reachability.exists_drains_below` — the bound of a walk is never reached.
* `Reachability.mem_below` — a walk finds exactly the nodes below its start, whatever the edges.
-/

namespace Polyhierarchy

namespace SortedSet

variable {α : Type} [Ranked α]

/-- The elements of a sorted set. -/
def toSet (s : SortedSet α) : Set α := {a | a ∈ s}

@[simp] lemma toSet_empty : (∅ : SortedSet α).toSet = ∅ :=
  Set.eq_empty_of_forall_notMem not_mem_empty

@[simp] lemma toSet_insert (a : α) (s : SortedSet α) :
    (s.insert a).toSet = Insert.insert a s.toSet := Set.ext fun _ => mem_insert

@[simp] lemma toSet_union (s u : SortedSet α) : (s ∪ u).toSet = s.toSet ∪ u.toSet :=
  Set.ext fun _ => mem_union

end SortedSet

namespace SortedRel

variable {α β : Type} [Ranked α] [Ranked β]

/-- The pairs are listed exactly once they are related. -/
lemma mem_pairs {r : SortedRel α β} {a : α} {b : β} : (a, b) ∈ r.pairs ↔ b ∈ r.row a := by
  simp only [pairs, List.mem_flatMap, List.mem_map, Prod.mk.injEq]
  constructor
  · rintro ⟨⟨c, s⟩, he, d, hd, rfl, rfl⟩
    rw [(get?_eq_some_iff.1 (SortedMap.mem_entries_iff.1 he)).1]
    exact hd
  · intro h
    have hne : r.row a ≠ ∅ := fun e => SortedSet.not_mem_empty b (e ▸ h)
    have hrow : (a, r.row a) ∈ r.rows.entries :=
      SortedMap.mem_entries_iff.2 (get?_eq_some_iff.2 ⟨rfl, hne⟩)
    exact ⟨(a, r.row a), hrow, b, h, rfl, rfl⟩

end SortedRel

namespace Reachability

variable {E : SortedRel TopicId Node} {start : TopicId}

/-- The children of a topic as a list. -/
def childList (E : SortedRel TopicId Node) (a : TopicId) : List Node := (E.row a).toList

/-- No edge leaves a link, so nothing lies beyond it. -/
lemma mem_empty_iff_reaches_link (l : LinkId) (v : Node) :
    v ∈ (∅ : Set Node) ↔ v ≠ .link l ∧ Reaches E (.link l) v :=
  ⟨fun hv => absurd hv (Set.notMem_empty v), fun hv => absurd hv.2 not_reaches_link⟩

/-! ### The bound -/

/-- The nodes that edges lead to. -/
def targets (E : SortedRel TopicId Node) : Finset Node := (E.pairs.map (·.2)).toFinset

lemma mem_targets {a : TopicId} {c : Node} (h : c ∈ E.row a) : c ∈ targets E :=
  List.mem_toFinset.2 (List.mem_map.2 ⟨(a, c), SortedRel.mem_pairs.2 h, rfl⟩)

/-- As many steps as there are edges, and one, suffice for a walk. -/
lemma length_add_unseen_le_size (a : TopicId) :
    [a].length + unseen (targets E) (∅ : SortedSet Node).toSet ≤ E.size + 1 := by
  have hle : (targets E).card ≤ E.size :=
    (List.toFinset_card_le _).trans (List.length_map _).le
  have hunseen := (unseen_le_card (targets E) (∅ : SortedSet Node).toSet).trans hle
  rw [List.length_singleton]
  omega

/-! ### Walks -/

/-- The frontier at the beginning of a walk. -/
lemma frontier_start (a : TopicId) :
    Frontier (Step E) (.topic a) ([a].map .topic) (∅ : SortedSet Node).toSet := by
  rw [SortedSet.toSet_empty]
  exact .init

/-- How a walk meets the children of a topic. -/
lemma meets_meet (seen : SortedSet Node) (cs : List Node) :
    Meets (Step E) (.topic start) seen.toSet cs (meet start seen cs).1.toSet
      ((meet start seen cs).2.map .topic) := by
  induction cs generalizing seen with
  | nil => exact .nil
  | cons c cs ih =>
    by_cases hc : c = .topic start ∨ c ∈ seen
    · rw [meet, if_pos hc]
      exact .skip hc (ih seen)
    · rw [meet, if_neg hc]
      have hrest := ih (seen.insert c)
      rw [SortedSet.toSet_insert] at hrest
      cases c with
      | topic id => exact .wait (fun hs => hc (.inr hs)) hrest
      | link l =>
        rw [← Set.union_empty (insert _ _)] at hrest
        exact .take (mem_empty_iff_reaches_link l) hrest

/-- The start of a walk is never met. -/
lemma start_not_mem_meet {seen : SortedSet Node} (cs : List Node) (h : .topic start ∉ seen) :
    .topic start ∉ (meet start seen cs).1 := by
  induction cs generalizing seen with
  | nil => exact h
  | cons c cs ih =>
    by_cases hc : c = .topic start ∨ c ∈ seen
    · rw [meet, if_pos hc]
      exact ih h
    · rw [meet, if_neg hc]
      have hins : .topic start ∉ seen.insert c := by
        rw [SortedSet.mem_insert, not_or]
        exact ⟨fun e => hc (.inl e.symm), h⟩
      cases c <;> exact ih hins

/-- A walk whose steps suffice is the loop without a bound, and never meets its start. -/
lemma walk_of_drains {children : TopicId → List Node} {n : Nat} {waiting : List TopicId}
    {seen nodes : SortedSet Node}
    (h : Drains (fun a seen => meet start seen (children a)) n waiting seen nodes) {steps : Nat}
    (hn : n ≤ steps) :
    walk children start steps waiting seen = nodes ∧
      (.topic start ∉ seen → .topic start ∉ nodes) := by
  induction h generalizing steps with
  | done seen => exact ⟨by cases steps <;> rfl, id⟩
  | @next n a waiting seen nodes _ ih =>
    obtain ⟨steps, rfl⟩ := Nat.exists_eq_add_of_le' (Nat.le_of_add_left_le hn)
    obtain ⟨hwalk, hstart⟩ := ih (Nat.le_of_succ_le_succ hn)
    exact ⟨hwalk, fun hs => hstart (start_not_mem_meet _ hs)⟩

/-- **The bound of a walk is never reached**: the loop without a bound ends, and has found the same
then. -/
theorem exists_drains_below (a : TopicId) :
    ∃ n, n ≤ E.size + 1 ∧
      Drains (fun b seen => meet a seen (childList E b)) n [a] ∅ (below E.size (childList E) a) ∧
      Frontier (Step E) (.topic a) [] (below E.size (childList E) a).toSet ∧
      .topic a ∉ below E.size (childList E) a := by
  obtain ⟨n, nodes, hn, hdrains, hdone⟩ := (frontier_start a).exists_drains
    (fun _ _ => step_topic_iff.symm) (fun _ _ => mem_targets)
    (fun b seen => meets_meet seen (childList E b))
  have hsteps := hn.trans (length_add_unseen_le_size a)
  obtain ⟨hwalk, hstart⟩ := walk_of_drains hdrains hsteps
  rw [below, hwalk]
  exact ⟨n, hsteps, hdrains, hdone, hstart (SortedSet.not_mem_empty _)⟩

/-- **A walk finds exactly what lies below its start**, whether or not the edges have cycles. -/
theorem mem_below {a : TopicId} {n : Node} :
    n ∈ below E.size (childList E) a ↔ n ≠ .topic a ∧ Reaches E (.topic a) n := by
  obtain ⟨-, -, -, hdone, hstart⟩ := exists_drains_below (E := E) a
  constructor
  · intro hn
    refine ⟨?_, hdone.sound n hn⟩
    rintro rfl
    exact hstart hn
  · rintro ⟨hne, hr⟩
    exact (hdone.mem_iff hne).2 hr

end Reachability

/-- The nodes that the tables find below a topic are those reachable over their edges. -/
lemma Tables.mem_below {t : Tables} {a : TopicId} {n : Node} :
    n ∈ t.below a ↔ n ≠ .topic a ∧ Reachability.Reaches t.edges (.topic a) n :=
  Reachability.mem_below

end Polyhierarchy

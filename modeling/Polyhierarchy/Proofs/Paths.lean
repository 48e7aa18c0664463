import Mathlib.Data.Fintype.EquivFin
import Mathlib.Logic.Relation
import Mathlib.Tactic.Lemma
import Polyhierarchy.Collection.SortedRel
import Polyhierarchy.Node

set_option relaxedAutoImplicit false
set_option autoImplicit false

/-!
# Paths over direct edges

A node lies below another one if a path of one or more direct edges leads down to it. This module
relates the paths over two sets of edges: edits that change the children of some topics only leave
the paths of every node alone that leads to none of these topics, and the edits that the
operations make close no cycle.

## Main definitions

* `Reachability.Step` — a direct edge, as a relation between nodes.
* `Reachability.Reaches` — one or more direct edges lead from a node to another.
* `Reachability.Acyclic` — no node is reachable from itself.

## Main results

* `Reachability.reaches_iff_of_rows_eq` — where two sets of edges differ out of reach only, the
  same nodes are reachable.
* `Reachability.reaches_iff_off_link` — the parents of a link matter for the link only.
* `Reachability.Acyclic.of_step_reaches` — edges along existing paths close no cycle.
* `Reachability.Acyclic.reaches_of_other_parents` — a node reaches what it reaches, whatever parents
  it has.
* `Reachability.Acyclic.of_new_parents` — parents that do not lie below a node close no cycle.
* `Reachability.Acyclic.wellFounded` — without cycles every way up ends.
-/

namespace Polyhierarchy.Reachability

variable {E F : SortedRel TopicId Node}

/-- A direct edge leads from one node to another. No edge leaves a link. -/
def Step (edges : SortedRel TopicId Node) (u v : Node) : Prop :=
  ∃ a, u = .topic a ∧ v ∈ edges.row a

/-- One or more direct edges lead from one node down to another. -/
abbrev Reaches (edges : SortedRel TopicId Node) : Node → Node → Prop :=
  Relation.TransGen (Step edges)

/-- No node is reachable from itself. -/
def Acyclic (edges : SortedRel TopicId Node) : Prop := ∀ n, ¬ Reaches edges n n

@[simp] lemma step_topic_iff {a : TopicId} {v : Node} : Step E (.topic a) v ↔ v ∈ E.row a := by
  simp [Step]

@[simp] lemma not_step_link {l : LinkId} {v : Node} : ¬ Step E (.link l) v := by simp [Step]

/-- A path begins with the edge to a child. -/
lemma Reaches.exists_child {a : TopicId} {v : Node} (h : Reaches E (.topic a) v) :
    ∃ c, c ∈ E.row a ∧ (c = v ∨ Reaches E c v) := by
  rcases Relation.TransGen.head'_iff.1 h with ⟨c, hc, hv⟩
  exact ⟨c, step_topic_iff.1 hc, (Relation.reflTransGen_iff_eq_or_transGen.1 hv).imp_left Eq.symm⟩

/-- A path ends with the edge from a parent. -/
lemma Reaches.exists_parent {u v : Node} (h : Reaches E u v) :
    ∃ p, v ∈ E.row p ∧ (u = .topic p ∨ Reaches E u (.topic p)) := by
  cases h with
  | single h =>
    obtain ⟨p, rfl, hv⟩ := h
    exact ⟨p, hv, .inl rfl⟩
  | tail hb h =>
    obtain ⟨p, rfl, hv⟩ := h
    exact ⟨p, hv, .inr hb⟩

/-- No path leaves a link. -/
lemma not_reaches_link {l : LinkId} {v : Node} : ¬ Reaches E (.link l) v := by
  intro h
  induction h with
  | single h => exact not_step_link h
  | tail _ _ ih => exact ih

/-! ### Comparing two sets of edges -/

/-- A path that never comes to a topic of a set `P` survives every edit that takes children from
topics in `P` only.

**Proof sketch.** Induction on the path. The parent of its last edge is the start or reachable
from it, so it is not in `P` and keeps its children. -/
lemma Reaches.of_rows_subset {P : TopicId → Prop} {u v : Node}
    (hrow : ∀ a, ¬ P a → ∀ c ∈ E.row a, c ∈ F.row a)
    (hu : ∀ p, P p → u ≠ .topic p ∧ ¬ Reaches E u (.topic p)) (h : Reaches E u v) :
    Reaches F u v := by
  induction h with
  | single h =>
    obtain ⟨a, rfl, hv⟩ := h
    exact .single (step_topic_iff.2 (hrow a (fun hp => (hu a hp).1 rfl) _ hv))
  | tail hb h ih =>
    obtain ⟨a, rfl, hv⟩ := h
    exact ih.tail (step_topic_iff.2 (hrow a (fun hp => (hu a hp).2 hb) _ hv))

/-- A node that leads to no topic of a set `P` gains no path by an edit that gives children to
topics in `P` only.

**Proof sketch.** Induction on the path over the new edges: each node on it is reachable over the
old ones, so it is not in `P` and has got no child. -/
lemma Reaches.of_rows_superset {P : TopicId → Prop} {u v : Node}
    (hrow : ∀ a, ¬ P a → ∀ c ∈ F.row a, c ∈ E.row a)
    (hu : ∀ p, P p → u ≠ .topic p ∧ ¬ Reaches E u (.topic p)) (h : Reaches F u v) :
    Reaches E u v := by
  induction h with
  | single h =>
    obtain ⟨a, rfl, hv⟩ := h
    exact .single (step_topic_iff.2 (hrow a (fun hp => (hu a hp).1 rfl) _ hv))
  | tail _ h ih =>
    obtain ⟨a, rfl, hv⟩ := h
    exact ih.tail (step_topic_iff.2 (hrow a (fun hp => (hu a hp).2 ih) _ hv))

/-- If two sets of edges give the same children to all topics outside of `P`, a node that leads to
no topic of `P` reaches the same nodes over both. -/
theorem reaches_iff_of_rows_eq {P : TopicId → Prop} {u v : Node}
    (hrow : ∀ a, ¬ P a → E.row a = F.row a)
    (hu : ∀ p, P p → u ≠ .topic p ∧ ¬ Reaches E u (.topic p)) :
    Reaches E u v ↔ Reaches F u v :=
  ⟨Reaches.of_rows_subset (fun a ha _ hc => hrow a ha ▸ hc) hu,
    Reaches.of_rows_superset (fun a ha _ hc => (hrow a ha).symm ▸ hc) hu⟩

/-! ### Cycles -/

/-- Edges that lead along existing paths close no cycle. -/
theorem Acyclic.of_step_reaches (h : Acyclic E) (hstep : ∀ u v, Step F u v → Reaches E u v) :
    Acyclic F := fun n hn => h n (Relation.TransGen.closed hstep n n hn)

/-- No topic is a child of itself. -/
lemma Acyclic.not_mem_row (h : Acyclic E) (a : TopicId) : .topic a ∉ E.row a := fun ha =>
  h (.topic a) (.single (step_topic_iff.2 ha))

/-- A parent of a topic is another topic. -/
lemma Acyclic.ne_of_mem_row (h : Acyclic E) {p a : TopicId} (hmem : .topic a ∈ E.row p) :
    p ≠ a := by
  rintro rfl
  exact h.not_mem_row p hmem

/-- A path over the old edges and new edges that all lead to `n` is an old one, or it comes to
`n`. -/
lemma Reaches.old_or_through {n u v : Node}
    (hF : ∀ a c, c ∈ F.row a → c ∈ E.row a ∨ c = n) (h : Reaches F u v) :
    Reaches E u v ∨ n = v ∨ Reaches F n v := by
  induction h with
  | single h =>
    obtain ⟨a, rfl, hv⟩ := h
    rcases hF a _ hv with hv | rfl
    · exact .inl (.single (step_topic_iff.2 hv))
    · exact .inr (.inl rfl)
  | tail _ h ih =>
    obtain ⟨a, rfl, hv⟩ := h
    rcases hF a _ hv with hv' | rfl
    · rcases ih with ih | rfl | ih
      · exact .inl (ih.tail (step_topic_iff.2 hv'))
      · exact .inr (.inr (.single (step_topic_iff.2 hv)))
      · exact .inr (.inr (ih.tail (step_topic_iff.2 hv)))
    · exact .inr (.inl rfl)

/-- No path goes on from a link, so for the paths to all other nodes it does not matter which parents
a link has. -/
lemma reaches_iff_off_link {l : LinkId} {u v : Node}
    (hrow : ∀ a c, c ≠ .link l → (c ∈ E.row a ↔ c ∈ F.row a)) (hv : v ≠ .link l) :
    Reaches E u v ↔ Reaches F u v := by
  have hoff : ∀ {E F : SortedRel TopicId Node},
      (∀ a c, c ≠ .link l → c ∈ F.row a → c ∈ E.row a) → Reaches F u v → Reaches E u v := by
    intro E F hF hr
    rcases hr.old_or_through fun a c hc => (em (c = .link l)).symm.imp_left (hF a c · hc)
      with hr | rfl | hr
    · exact hr
    · exact absurd rfl hv
    · exact absurd hr not_reaches_link
  exact ⟨hoff fun a c hc => (hrow a c hc).1, hoff fun a c hc => (hrow a c hc).2⟩

/-- Edges from new parents to a node change nothing below the node, if none of the parents is the
node or lies below it. -/
lemma reaches_iff_of_new_parents {n v : Node} {P : TopicId → Prop}
    (hF : ∀ a c, c ∈ F.row a ↔ c ∈ E.row a ∨ (c = n ∧ P a))
    (hP : ∀ p, P p → n ≠ .topic p ∧ ¬ Reaches E n (.topic p)) : Reaches E n v ↔ Reaches F n v :=
  reaches_iff_of_rows_eq (fun a ha => SortedSet.ext fun c => by simp [hF, ha]) hP

/-- Without cycles no path from a node comes back to it, so it does not matter below the node which
parents it has. -/
lemma Acyclic.reaches_of_other_parents {n v : Node} (h : Acyclic E)
    (hF : ∀ a c, c ≠ n → c ∈ E.row a → c ∈ F.row a) (hr : Reaches E n v) : Reaches F n v := by
  have hkept : ∀ {u w}, Step E u w → Reaches E n w → Step F u w := by
    rintro u w ⟨a, rfl, hw⟩ hnw
    refine step_topic_iff.2 (hF a w ?_ hw)
    rintro rfl
    exact h w hnw
  induction hr with
  | single hs => exact .single (hkept hs (.single hs))
  | tail hb hs ih => exact ih.tail (hkept hs (hb.tail hs))

/-- New parents of a node close no cycle, if none of them is the node or lies below it.

**Proof sketch.** From `n` and from each node below it no new path begins. A cycle that uses no new
edge is an old one; any other comes to `n`, so it begins below `n`, and is an old one again. -/
theorem Acyclic.of_new_parents {n : Node} {P : TopicId → Prop} (h : Acyclic E)
    (hF : ∀ a c, c ∈ F.row a → c ∈ E.row a ∨ (c = n ∧ P a))
    (hP : ∀ p, P p → n ≠ .topic p ∧ ¬ Reaches E n (.topic p)) : Acyclic F := by
  have hrow : ∀ a, ¬ P a → ∀ c ∈ F.row a, c ∈ E.row a := by
    intro a ha c hc
    rcases hF a c hc with hc | ⟨-, hp⟩
    · exact hc
    · exact absurd hp ha
  have hbelow : ∀ {v}, Reaches F n v → Reaches E n v := Reaches.of_rows_superset hrow hP
  intro m hm
  rcases hm.old_or_through fun a c hc => (hF a c hc).imp_right And.left with hm' | rfl | hn
  · exact h m hm'
  · exact h n (hbelow hm)
  · refine h m (Reaches.of_rows_superset hrow (fun p hp => ⟨?_, ?_⟩) hm)
    · rintro rfl
      exact (hP p hp).2 (hbelow hn)
    · exact fun hp' => (hP p hp).2 ((hbelow hn).trans hp')

instance : Finite Node :=
  Finite.of_injective (fun n : Node => (⟨rank n, n.rank_lt⟩ : Fin (Nat.pow 2 129))) fun _ _ h =>
    rank_injective (Fin.mk.inj h)

/-- Without cycles no way up goes on for ever: there are only as many nodes as identifiers. -/
theorem Acyclic.wellFounded (h : Acyclic E) : WellFounded (Reaches E) :=
  have : Std.Irrefl (Reaches E) := ⟨h⟩
  have : IsTrans Node (Reaches E) := ⟨fun _ _ _ => Relation.TransGen.trans⟩
  Finite.wellFounded_of_trans_of_irrefl _

end Polyhierarchy.Reachability

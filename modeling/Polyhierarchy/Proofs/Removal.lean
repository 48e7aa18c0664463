import Polyhierarchy.Proofs.History

set_option relaxedAutoImplicit false
set_option autoImplicit false

/-!
# Paths around a topic that is removed

When a topic is removed, its children move to parents of it, so no path is lost that went on from
one of these through the topic. Where they move to all of its parents, the remaining nodes lie below
each other just as before.

## Main results

* `Reachability.Reaches.of_bypass` — a path around a topic is one that was there before.
* `Reachability.Reaches.avoids_or_passes` — a path avoids a topic, or comes to it and goes on.
* `Reachability.Acyclic.reaches_bypass` — what lay below a topic lies below those that its children
  have moved to.
* `Reachability.Acyclic.reaches_bypass_column_iff` — where the children have moved to all parents,
  the other nodes reach each other just as before.
* `Memory.Reachable.deletion_keeps_paths` — what a deletion settles after every history.
-/

namespace Polyhierarchy

/-! ### Paths around a topic -/

namespace Reachability

variable {E : SortedRel TopicId Node} {x p : TopicId} {onto : SortedSet TopicId} {u v : Node}

/-- An edge between two other nodes stays when a topic is cut out. -/
lemma Step.bypass (h : Step E u v) (hu : u ≠ .topic x) (hv : v ≠ .topic x) :
    Step (E.bypass x onto) u v := by
  obtain ⟨a, rfl, hmem⟩ := h
  have ha : a ≠ x := fun e => hu (congrArg Node.topic e)
  exact step_topic_iff.2 (SortedRel.mem_row_bypass.2 ⟨ha, hv, .inl hmem⟩)

/-- A path around a topic was there before, possibly through the topic, and leads between others. -/
lemma Reaches.of_bypass (honto : ∀ p ∈ onto, .topic x ∈ E.row p)
    (h : Reaches (E.bypass x onto) u v) : u ≠ .topic x ∧ v ≠ .topic x ∧ Reaches E u v := by
  have hstep : ∀ {u v}, Step (E.bypass x onto) u v →
      u ≠ .topic x ∧ v ≠ .topic x ∧ Reaches E u v := by
    rintro _ c ⟨a, rfl, hc⟩
    obtain ⟨ha, hcx, hc | ⟨ha', hc⟩⟩ := SortedRel.mem_row_bypass.1 hc
    · exact ⟨fun e => ha (Node.topic.inj e), hcx, .single (step_topic_iff.2 hc)⟩
    · exact ⟨fun e => ha (Node.topic.inj e), hcx,
        .head (step_topic_iff.2 (honto a ha')) (.single (step_topic_iff.2 hc))⟩
  induction h with
  | single hs => exact hstep hs
  | tail _ hs ih => exact ⟨ih.1, (hstep hs).2.1, ih.2.2.trans (hstep hs).2.2⟩

/-- A path between two other nodes avoids a topic, or comes to it and goes on.

**Proof sketch.** Induction on the path. If the last edge begins at the topic, the path has come to
it. Otherwise the edge stays. -/
lemma Reaches.avoids_or_passes (onto : SortedSet TopicId) (h : Reaches E u v) (hu : u ≠ .topic x)
    (hv : v ≠ .topic x) :
    Reaches (E.bypass x onto) u v ∨ Reaches E u (.topic x) ∧ Reaches E (.topic x) v := by
  induction h with
  | single hs => exact .inl (.single (hs.bypass hu hv))
  | @tail b c hb hs ih =>
    by_cases hbx : b = .topic x
    · subst hbx
      exact .inr ⟨hb, .single hs⟩
    · exact (ih hbx).imp (fun hr => hr.tail (hs.bypass hbx hv)) fun ⟨hr, hr'⟩ => ⟨hr, hr'.tail hs⟩

/-- What lay below a topic lies below a parent that its children have moved to. -/
lemma Acyclic.reaches_bypass (h : Acyclic E) (hp : p ∈ onto) (hpx : .topic x ∈ E.row p)
    (hr : Reaches E (.topic x) v) : Reaches (E.bypass x onto) (.topic p) v := by
  have hne : ∀ {w}, Reaches E (.topic x) w → w ≠ .topic x := by
    rintro _ hw rfl
    exact h _ hw
  have hpne : p ≠ x := h.ne_of_mem_row hpx
  induction hr with
  | single hs =>
    have hrow := SortedRel.mem_row_bypass.2
      ⟨hpne, hne (.single hs), .inr ⟨hp, step_topic_iff.1 hs⟩⟩
    exact .single (step_topic_iff.2 hrow)
  | tail hb hs ih => exact ih.tail (hs.bypass (hne hb) (hne (hb.tail hs)))

/-- **Where the children of a topic have moved to all of its parents**, the other nodes reach each
other just as before.

**Proof sketch.** A path that passes the topic comes to it from one of its parents. Without cycles
the part up to that parent avoids the topic, and what lay below the topic lies below the parent. -/
theorem Acyclic.reaches_bypass_column_iff (h : Acyclic E) (hu : u ≠ .topic x)
    (hv : v ≠ .topic x) :
    Reaches (E.bypass x (E.column (.topic x))) u v ↔ Reaches E u v := by
  constructor
  · exact fun hr => (hr.of_bypass fun p hp => SortedRel.mem_column.1 hp).2.2
  · intro hr
    rcases hr.avoids_or_passes (E.column (.topic x)) hu hv with hr | ⟨hux, hxv⟩
    · exact hr
    obtain ⟨p, hpx, hup⟩ := hux.exists_parent
    have hpv := h.reaches_bypass (SortedRel.mem_column.2 hpx) hpx hxv
    rcases hup with rfl | hup
    · exact hpv
    have hpne : Node.topic p ≠ .topic x := fun e => h.ne_of_mem_row hpx (Node.topic.inj e)
    rcases hup.avoids_or_passes (E.column (.topic x)) hu hpne with hup | ⟨-, hxp⟩
    · exact hup.trans hpv
    · exact absurd (hxp.tail (step_topic_iff.2 hpx)) (h _)

/-- The edges after a topic has been cut out of edges without cycles: those that do not touch it,
and those from the topics that its children have moved to. -/
lemma Acyclic.mem_row_bypass_iff (h : Acyclic E) (honto : ∀ p ∈ onto, .topic x ∈ E.row p)
    {d : Node} :
    d ∈ (E.bypass x onto).row p ↔
      p ≠ x ∧ d ≠ .topic x ∧ d ∈ E.row p ∨ p ∈ onto ∧ d ∈ E.row x := by
  have hparent : p ∈ onto → p ≠ x := fun hp => h.ne_of_mem_row (honto p hp)
  have hchild : d ∈ E.row x → d ≠ .topic x := by
    rintro hd rfl
    exact h.not_mem_row x hd
  rw [SortedRel.mem_row_bypass]
  tauto

end Reachability

/-! ### What is settled -/

namespace Memory

open Reachability

/-- **What a deletion settles after every history.** A topic that is not a root goes with its row.
The edges that do not touch it stay, and each of its parents gets each of its children. Among all
other nodes the paths lead where they led before, so the closure only loses the pairs that the
topic occurs in. -/
theorem Reachable.deletion_keeps_paths {mem : Memory} (h : mem.Reachable) {x : TopicId}
    {row : Topic} (hrow : mem.tables.topics.get? x = some row) (hroot : row.isRoot = false) :
    ∃ t : Tables, mem.Settles (Operation.deleteTopic x) x t (mem.version + 1) ∧
      t.repositories = mem.tables.repositories ∧ t.links = mem.tables.links ∧
      t.topics.get? x = none ∧
      (∀ y, y ≠ x → t.topics.get? y = mem.tables.topics.get? y) ∧
      (∀ p c, c ∈ t.edges.row p ↔
        p ≠ x ∧ c ≠ .topic x ∧ c ∈ mem.tables.edges.row p ∨
          .topic x ∈ mem.tables.edges.row p ∧ c ∈ mem.tables.edges.row x) ∧
      (∀ u v, u ≠ .topic x → v ≠ .topic x →
        (Reaches t.edges u v ↔ Reaches mem.tables.edges u v)) ∧
      ∀ a d, d ∈ t.closure.row a ↔ a ≠ x ∧ d ≠ .topic x ∧ d ∈ mem.tables.closure.row a := by
  have hc := h.coherent
  have hacyclic := hc.hierarchical.acyclic
  have hparents : ∀ p ∈ mem.tables.edges.column (.topic x), .topic x ∈ mem.tables.edges.row p :=
    fun p hp => SortedRel.mem_column.1 hp
  refine ⟨_, settles_of_commit fun titles s =>
    ⟨s, (Operation.deleteTopic_commits hc).2 ⟨row, hrow, hroot, rfl, rfl, rfl⟩⟩, rfl, rfl,
    SortedMap.get?_erase_self _ x, fun y hy => SortedMap.get?_erase_ne _ hy, fun p c => ?_,
    fun u v hu hv => hacyclic.reaches_bypass_column_iff hu hv, fun a d => ?_⟩
  · rw [Tables.withEdges_edges, hacyclic.mem_row_bypass_iff hparents, SortedRel.mem_column]
  · rw [Tables.exact_withEdges _ _ a d, Tables.withEdges_edges, hc.exact a d]
    constructor
    · rintro ⟨hne, hr⟩
      obtain ⟨ha, hd, hr⟩ := hr.of_bypass hparents
      exact ⟨fun e => ha (congrArg Node.topic e), hd, hne, hr⟩
    · rintro ⟨ha, hd, hne, hr⟩
      have ha' : Node.topic a ≠ .topic x := fun e => ha (Node.topic.inj e)
      exact ⟨hne, (hacyclic.reaches_bypass_column_iff ha' hd).2 hr⟩

/-- If the first topic below the root of the chain is deleted, the second one moves to the root, and
the link still lies in the closure of the root. -/
theorem deletion_keeps_paths_chain :
    ∃ t : Tables, chain.Settles (Operation.deleteTopic ⟨⟨2⟩⟩) ⟨⟨2⟩⟩ t (chain.version + 1) ∧
      t.topics.get? ⟨⟨2⟩⟩ = none ∧ .topic ⟨⟨3⟩⟩ ∈ t.edges.row ⟨⟨1⟩⟩ ∧
      Node.link ⟨⟨4⟩⟩ ∈ t.closure.row ⟨⟨1⟩⟩ := by
  have hisRoot : (chain.tables.topics.get? ⟨⟨2⟩⟩).map Topic.isRoot = some false := by
    decide +kernel
  obtain ⟨row, hrow, hroot⟩ := Option.map_eq_some_iff.1 hisRoot
  obtain ⟨t, hsettles, -, -, hgone, -, hedges, -, hclosure⟩ :=
    reachable_chain.deletion_keeps_paths hrow hroot
  refine ⟨t, hsettles, hgone, (hedges _ _).2 (.inr ?_), (hclosure _ _).2 ?_⟩
  · decide +kernel
  · decide +kernel

end Memory

end Polyhierarchy

import Polyhierarchy.Proofs.History
import Polyhierarchy.Proofs.MemoWalk

set_option relaxedAutoImplicit false
set_option autoImplicit false

/-!
# The guard is sound and complete

The guard looks at what lies below one topic, though what it has to find out is whether the edges
have a cycle after one has been added. Where there is no cycle yet, these are the same: a cycle then
has to go over the new edge, so that the new parent lies below its child. It does not matter whether
the guard reads the closure or walks over the edges.

## Main results

* `Reachability.reaches_insert_iff` — the paths over one more edge.
* `Reachability.Acyclic.exists_cycle_insert_iff` — when one more edge closes a cycle.
* `CycleGuard.reads_wouldCreateCycle` — what the guard finds out with any reader that is exact.
* `Memory.Reachable.guard_exact` — the guard is sound and complete after every history.
-/

namespace Polyhierarchy

/-! ### One more edge -/

namespace Reachability

open Relation

variable {E : SortedRel TopicId Node} {p x : TopicId} {c u v : Node}

/-- A path over one more edge is an old one, or goes over that edge.

**Proof sketch.** Induction on the path. What comes before its last edge leads to the parent of the
new one over old edges, if that is the last edge. -/
lemma reaches_insert_iff :
    Reaches (E.insert p c) u v ↔
      Reaches E u v ∨ ReflTransGen (Step E) u (.topic p) ∧ ReflTransGen (Step E) c v := by
  have hold : Step E ≤ Step (E.insert p c) := by
    rintro _ w ⟨a, rfl, hw⟩
    exact step_topic_iff.2 (SortedRel.mem_row_insert.2 (.inr hw))
  have hnew : Step (E.insert p c) (.topic p) c :=
    step_topic_iff.2 (SortedRel.mem_row_insert.2 (.inl ⟨rfl, rfl⟩))
  constructor
  · intro h
    induction h with
    | single hs =>
      obtain ⟨a, rfl, hv⟩ := hs
      rcases SortedRel.mem_row_insert.1 hv with ⟨rfl, rfl⟩ | hv
      · exact .inr ⟨.refl, .refl⟩
      · exact .inl (.single (step_topic_iff.2 hv))
    | tail _ hs ih =>
      obtain ⟨a, rfl, hv⟩ := hs
      rcases SortedRel.mem_row_insert.1 hv with ⟨rfl, rfl⟩ | hv
      · exact .inr ⟨ih.elim TransGen.to_reflTransGen And.left, .refl⟩
      · exact ih.imp (fun hr => hr.tail (step_topic_iff.2 hv))
          fun ⟨hup, hdown⟩ => ⟨hup, hdown.tail (step_topic_iff.2 hv)⟩
  · rintro (h | ⟨hup, hdown⟩)
    · exact TransGen.mono hold _ _ h
    · exact .trans_right (ReflTransGen.mono hold _ _ hup)
        (.trans_left (.single hnew) (ReflTransGen.mono hold _ _ hdown))

/-- A path between topics only goes over topics. -/
lemma reaches_topic_iff {a b : TopicId} :
    Reaches E (.topic a) (.topic b) ↔ TransGen (fun a b => Node.topic b ∈ E.row a) a b := by
  constructor
  · intro h
    have hpath : ∀ v, Reaches E (.topic a) v →
        ∀ b, v = .topic b → TransGen (fun a b => Node.topic b ∈ E.row a) a b := by
      intro v hv
      induction hv with
      | single hs =>
        rintro b rfl
        exact .single (step_topic_iff.1 hs)
      | tail _ hs ih =>
        rintro b rfl
        obtain ⟨d, rfl, hb⟩ := hs
        exact (ih d rfl).tail hb
    exact hpath _ h b rfl
  · exact fun h => h.lift Node.topic fun _ _ hab => step_topic_iff.2 hab

/-- **One more edge closes a cycle** exactly if the parent is the child or lies below it, where
there was no cycle before. -/
theorem Acyclic.exists_cycle_insert_iff (h : Acyclic E) :
    (∃ y, TransGen (fun a b => Node.topic b ∈ (E.insert p (.topic x)).row a) y y) ↔
      Node.topic x = .topic p ∨ Reaches E (.topic x) (.topic p) := by
  simp only [← reaches_topic_iff, reaches_insert_iff]
  constructor
  · rintro ⟨y, hcycle | ⟨hup, hdown⟩⟩
    · exact absurd hcycle (h _)
    · exact (reflTransGen_iff_eq_or_transGen.1 (hdown.trans hup)).imp_left Eq.symm
  · intro hr
    exact ⟨p, .inr ⟨.refl, reflTransGen_iff_eq_or_transGen.2 (hr.imp_left Eq.symm)⟩⟩

end Reachability

/-! ### What the guard finds out -/

namespace CycleGuard

open Program Reachability

variable {t : Tables} {x p : TopicId}

/-- With any reader that finds exactly what lies below a topic, the guard finds out by reading only
whether a parent would close a cycle, and leaves what the reader has left, if it was asked. -/
lemma reads_wouldCreateCycle (h : t.Exact) {σ : Type} {reader : Reader σ} {s s' : σ}
    {nodes : SortedSet Node} (hreads : (reader.descendants x s).Reads t (nodes, s'))
    (hnodes : ∀ n, n ∈ nodes ↔ n ≠ .topic x ∧ Reaches t.edges (.topic x) n) :
    ∃ s'', (wouldCreateCycle reader x p s).Reads t (t.closesCycle x p, s'') ∧
      (s'' = s ∨ s'' = s') := by
  by_cases hxp : x = p
  · have hcloses : t.closesCycle x p = true := h.closesCycle_iff.2 (.inl (congrArg Node.topic hxp))
    refine ⟨s, ?_, .inl rfl⟩
    rw [wouldCreateCycle, if_pos hxp, hcloses]
    exact .done _
  · have hne : Node.topic x ≠ .topic p := fun e => hxp (Node.topic.inj e)
    have hverdict : nodes.contains (.topic p) = t.closesCycle x p := by
      rw [Bool.eq_iff_iff, SortedSet.contains_iff, hnodes, h.closesCycle_iff]
      constructor
      · exact fun hr => .inr hr.2
      · exact fun hr => ⟨hne.symm, hr.resolve_left hne⟩
    refine ⟨s', ?_, .inr rfl⟩
    rw [wouldCreateCycle, if_neg hxp, ← hverdict]
    exact hreads.bind (.done _)

end CycleGuard

namespace Memory

open Reachability

/-- **The guard is sound and complete after every history**: it says that a topic would close a
cycle as a parent exactly if the topics have a cycle once that edge is added. It says the same if it
walks over the edges, where it may begin with what any queries have left, and no fault and no
deadline stands in its way. -/
theorem Reachable.guard_exact {mem : Memory} (h : mem.Reachable) (x p : TopicId) :
    ∃ verdict : Bool,
      (verdict = true ↔ ∃ y, Relation.TransGen
        (fun a b => Node.topic b ∈ (mem.tables.edges.insert p (.topic x)).row a) y y) ∧
      (∀ d, (CycleGuard.wouldCreateCycle stored x p ()).run store.backend d (mem.begin, mem) =
        (.ok (verdict, ()), mem.begin, mem)) ∧
      ∀ edges, mem.tables.edges.size ≤ edges → ∀ memo, Learned edges mem.tables memo →
        ∃ memo', Learned edges mem.tables memo' ∧
          ∀ d, (CycleGuard.wouldCreateCycle (walked edges) x p memo).run store.backend d
            (mem.begin, mem) = (.ok (verdict, memo'), mem.begin, mem) := by
  have hc := h.coherent
  refine ⟨mem.tables.closesCycle x p, ?_, fun d => ?_, fun edges hedges memo hmemo => ?_⟩
  · rw [hc.exact.closesCycle_iff, hc.hierarchical.acyclic.exists_cycle_insert_iff]
  · have hreads : (stored.descendants x ()).Reads mem.begin.tables
        (mem.tables.closure.row x, ()) := (Program.reads_request rfl rfl).bind (.done _)
    obtain ⟨⟨⟩, hguard, -⟩ := CycleGuard.reads_wouldCreateCycle hc.exact hreads (hc.exact x)
    exact hguard.run d mem
  · obtain ⟨nodes, memo', hreads, hnodes, -⟩ :=
      reads_descendants (hmemo.downExact hedges) hedges x
    have hwalked : ((walked edges).descendants x memo).Reads mem.begin.tables (nodes, memo') :=
      hreads
    obtain ⟨memo'', hguard, hleft⟩ := CycleGuard.reads_wouldCreateCycle hc.exact hwalked hnodes
    refine ⟨memo'', ?_, fun d => hguard.run d mem⟩
    rcases hleft with rfl | rfl
    · exact hmemo
    · exact .down hmemo hreads.on_eq

/-- In the chain the guard says that the second topic below the root would close a cycle as a parent
of the first one, whether it reads the closure or walks over the edges for the first time. -/
theorem guard_exact_chain :
    (∃ y, Relation.TransGen
      (fun a b => Node.topic b ∈ (chain.tables.edges.insert ⟨⟨3⟩⟩ (.topic ⟨⟨2⟩⟩)).row a) y y) ∧
    (CycleGuard.wouldCreateCycle stored ⟨⟨2⟩⟩ ⟨⟨3⟩⟩ ()).run store.backend .never
      (chain.begin, chain) = (.ok (true, ()), chain.begin, chain) ∧
    ∃ memo, (CycleGuard.wouldCreateCycle (walked chain.tables.edges.size) ⟨⟨2⟩⟩ ⟨⟨3⟩⟩ .empty).run
      store.backend .never (chain.begin, chain) = (.ok (true, memo), chain.begin, chain) := by
  have hcycle : ∃ y, Relation.TransGen
      (fun a b => Node.topic b ∈ (chain.tables.edges.insert ⟨⟨3⟩⟩ (.topic ⟨⟨2⟩⟩)).row a) y y := by
    refine ⟨⟨⟨2⟩⟩, .tail (b := ⟨⟨3⟩⟩) (.single ?_) ?_⟩
    · decide +kernel
    · decide +kernel
  obtain ⟨verdict, hiff, hstored, hwalked⟩ := reachable_chain.guard_exact ⟨⟨2⟩⟩ ⟨⟨3⟩⟩
  obtain ⟨memo, -, hmemo⟩ := hwalked _ le_rfl .empty .empty
  rw [← hiff.2 hcycle]
  exact ⟨hcycle, hstored .never, memo, hmemo .never⟩

end Memory

end Polyhierarchy

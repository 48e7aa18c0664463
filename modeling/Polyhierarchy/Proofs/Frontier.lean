import Mathlib.Data.Set.Card
import Mathlib.Logic.Relation
import Mathlib.Tactic.Lemma

set_option relaxedAutoImplicit false
set_option autoImplicit false

/-!
# Walks along a relation

A walk takes a node from a queue and meets the nodes that the relation leads to from it. A node that
is met for the first time joins the queue, unless all that lies beyond it is known: then this is
taken over whole. When no node waits, the walk has met exactly what lies beyond its start, whether
or not the relation has cycles.

## Main definitions

* `Reachability.Meets` — how a walk meets some nodes.
* `Reachability.Expanded` — all that a node leads to has been met.
* `Reachability.Frontier` — the nodes that wait and those that have been met, at any time of a walk.
* `Reachability.unseen` — how many of some nodes have not been met.
* `Reachability.Drains` — a loop over a queue ends after a number of steps.

## Main results

* `Reachability.Meets.length_add_unseen_le` — the nodes that join the queue are paid for by those
  that have been met.
* `Reachability.Frontier.step` — a step keeps the frontier.
* `Reachability.Frontier.mem_iff` — what a walk has met when no node waits.
* `Reachability.Frontier.exists_drains` — a walk without a bound ends.
-/

namespace Polyhierarchy.Reachability

open Relation

variable {V : Type} {R : V → V → Prop} {start : V}

/-! ### Meeting nodes -/

/-- How a walk meets some nodes, one after another: from the nodes met so far, by way of those that
are to be met, to the nodes met then and those that join the queue. The start is passed over. -/
inductive Meets (R : V → V → Prop) (start : V) : Set V → List V → Set V → List V → Prop
  | nil {seen : Set V} : Meets R start seen [] seen []
  /-- A node that has been met is passed over. -/
  | skip {seen seen' : Set V} {c : V} {cs fresh : List V} : c = start ∨ c ∈ seen →
      Meets R start seen cs seen' fresh → Meets R start seen (c :: cs) seen' fresh
  /-- A node that is met for the first time joins the queue. -/
  | wait {seen seen' : Set V} {c : V} {cs fresh : List V} : c ∉ seen →
      Meets R start (insert c seen) cs seen' fresh → Meets R start seen (c :: cs) seen' (c :: fresh)
  /-- A node is met for the first time, together with all that is known to lie beyond it. -/
  | take {seen seen' nodes : Set V} {c : V} {cs fresh : List V} :
      (∀ v, v ∈ nodes ↔ v ≠ c ∧ TransGen R c v) →
      Meets R start (insert c seen ∪ nodes) cs seen' fresh →
        Meets R start seen (c :: cs) seen' fresh

/-- All that a node leads to has been met, but for the start. -/
def Expanded (R : V → V → Prop) (start : V) (seen : Set V) (v : V) : Prop :=
  ∀ w, R v w → w = start ∨ w ∈ seen

lemma Expanded.mono {seen seen' : Set V} {v : V} (h : Expanded R start seen v)
    (hs : seen ⊆ seen') : Expanded R start seen' v :=
  fun w hw => (h w hw).imp_right fun hmem => hs hmem

/-- How many of some nodes have not been met. -/
noncomputable def unseen (targets : Finset V) (seen : Set V) : Nat :=
  ((targets : Set V) \ seen).ncard

lemma unseen_le_card (targets : Finset V) (seen : Set V) : unseen targets seen ≤ targets.card := by
  rw [← Set.ncard_coe_finset]
  exact Set.ncard_le_ncard Set.sdiff_subset targets.finite_toSet

lemma unseen_anti (targets : Finset V) {seen seen' : Set V} (h : seen ⊆ seen') :
    unseen targets seen' ≤ unseen targets seen :=
  Set.ncard_le_ncard (Set.sdiff_subset_sdiff_right h) targets.finite_toSet.sdiff

/-- Each node that is met leaves fewer to meet. -/
lemma unseen_insert_lt {targets : Finset V} {seen : Set V} {c : V} (hc : c ∈ targets)
    (hs : c ∉ seen) : unseen targets (insert c seen) < unseen targets seen := by
  refine Set.ncard_lt_ncard ((Set.ssubset_iff_of_subset ?_).2 ⟨c, ⟨hc, hs⟩, ?_⟩)
    targets.finite_toSet.sdiff
  · exact Set.sdiff_subset_sdiff_right (Set.subset_insert c seen)
  · exact fun hmem => hmem.2 (Set.mem_insert c seen)

namespace Meets

variable {seen seen' : Set V} {cs fresh : List V}

/-- What has been met stays so. -/
lemma subset (h : Meets R start seen cs seen' fresh) : seen ⊆ seen' := by
  induction h with
  | nil => exact subset_rfl
  | skip _ _ ih => exact ih
  | wait _ _ ih => exact (Set.subset_insert _ _).trans ih
  | take _ _ ih => exact (Set.subset_insert _ _).trans (Set.subset_union_left.trans ih)

/-- All nodes that are to be met have been met then. -/
lemma met (h : Meets R start seen cs seen' fresh) : ∀ c ∈ cs, c = start ∨ c ∈ seen' := by
  induction h with
  | nil => exact fun _ hc => absurd hc List.not_mem_nil
  | skip hc h ih => exact List.forall_mem_cons.2 ⟨hc.imp_right fun hmem => h.subset hmem, ih⟩
  | wait _ h ih => exact List.forall_mem_cons.2 ⟨.inr (h.subset (Set.mem_insert _ _)), ih⟩
  | take _ h ih => exact List.forall_mem_cons.2 ⟨.inr (h.subset (.inl (Set.mem_insert _ _))), ih⟩

/-- Only the nodes that are to be met are met, and what lies beyond these. -/
lemma sound (h : Meets R start seen cs seen' fresh) :
    ∀ v ∈ seen', v ∈ seen ∨ ∃ c ∈ cs, ReflTransGen R c v := by
  induction h with
  | nil => exact fun v hv => .inl hv
  | skip _ _ ih =>
    intro v hv
    exact (ih v hv).imp_right fun ⟨d, hd, hr⟩ => ⟨d, List.mem_cons_of_mem _ hd, hr⟩
  | @wait _ _ c _ _ _ _ ih =>
    intro v hv
    rcases ih v hv with (rfl | hv) | ⟨d, hd, hr⟩
    · exact .inr ⟨v, List.mem_cons_self, .refl⟩
    · exact .inl hv
    · exact .inr ⟨d, List.mem_cons_of_mem _ hd, hr⟩
  | @take _ _ _ c _ _ hnodes _ ih =>
    intro v hv
    rcases ih v hv with ((rfl | hv) | hv) | ⟨d, hd, hr⟩
    · exact .inr ⟨v, List.mem_cons_self, .refl⟩
    · exact .inl hv
    · exact .inr ⟨c, List.mem_cons_self, ((hnodes v).1 hv).2.to_reflTransGen⟩
    · exact .inr ⟨d, List.mem_cons_of_mem _ hd, hr⟩

/-- The nodes that join the queue have been met. -/
lemma fresh_mem (h : Meets R start seen cs seen' fresh) : ∀ v ∈ fresh, v ∈ seen' := by
  induction h with
  | nil => exact fun _ hv => absurd hv List.not_mem_nil
  | skip _ _ ih => exact ih
  | wait _ h ih => exact List.forall_mem_cons.2 ⟨h.subset (Set.mem_insert _ _), ih⟩
  | take _ _ ih => exact ih

/-- A node that is met for the first time joins the queue, or all that it leads to has been met.

**Proof sketch.** Of a node that was taken together with what lies beyond it this is clear. What a
node leads to that lies beyond it lies beyond it as well, or is the node again. -/
lemma pending (h : Meets R start seen cs seen' fresh) :
    ∀ v ∈ seen', v ∈ seen ∨ v ∈ fresh ∨ Expanded R start seen' v := by
  induction h with
  | nil => exact fun v hv => .inl hv
  | skip _ _ ih => exact ih
  | wait _ _ ih =>
    intro v hv
    rcases ih v hv with (rfl | hv) | hv | hv
    · exact .inr (.inl List.mem_cons_self)
    · exact .inl hv
    · exact .inr (.inl (List.mem_cons_of_mem _ hv))
    · exact .inr (.inr hv)
  | @take _ seen' nodes c _ _ hnodes h ih =>
    have hbeyond : ∀ w, TransGen R c w → w ∈ seen' := by
      intro w hw
      apply h.subset
      by_cases hwc : w = c
      · exact .inl (.inl hwc)
      · exact .inr ((hnodes w).2 ⟨hwc, hw⟩)
    intro v hv
    rcases ih v hv with ((rfl | hv) | hv) | hv
    · exact .inr (.inr fun w hw => .inr (hbeyond w (.single hw)))
    · exact .inl hv
    · exact .inr (.inr fun w hw => .inr (hbeyond w (((hnodes v).1 hv).2.tail hw)))
    · exact .inr hv

/-- The nodes that join the queue are paid for by those that have been met. -/
lemma length_add_unseen_le {targets : Finset V} (h : Meets R start seen cs seen' fresh)
    (hcs : ∀ c ∈ cs, c ∈ targets) :
    fresh.length + unseen targets seen' ≤ unseen targets seen := by
  induction h with
  | nil => exact (Nat.zero_add _).le
  | skip _ _ ih => exact ih (List.forall_mem_cons.1 hcs).2
  | wait hs _ ih =>
    obtain ⟨hc, hcs⟩ := List.forall_mem_cons.1 hcs
    have hlt := unseen_insert_lt hc hs
    have hle := ih hcs
    rw [List.length_cons]
    omega
  | take _ _ ih =>
    refine (ih (List.forall_mem_cons.1 hcs).2).trans (unseen_anti targets ?_)
    exact (Set.subset_insert _ _).trans Set.subset_union_left

end Meets

/-! ### The frontier of a walk -/

/-- The nodes that wait and those that have been met, at any time of a walk. -/
structure Frontier (R : V → V → Prop) (start : V) (waiting : List V) (seen : Set V) : Prop where
  /-- Only nodes beyond the start have been met. -/
  sound : ∀ v ∈ seen, TransGen R start v
  /-- Only the start and nodes that have been met wait. -/
  queued : ∀ v ∈ waiting, v = start ∨ v ∈ seen
  /-- Of the others, all that they lead to has been met. -/
  pending : ∀ v, v = start ∨ v ∈ seen → v ∈ waiting ∨ Expanded R start seen v

namespace Frontier

variable {seen seen' : Set V} {v : V} {cs waiting fresh : List V}

/-- At the beginning the start waits, and nothing has been met. -/
lemma init : Frontier R start [start] ∅ where
  sound _ hv := absurd hv (Set.notMem_empty _)
  queued _ hv := .inl (List.mem_singleton.1 hv)
  pending _ hv := .inl (List.mem_singleton.2 (hv.resolve_right (Set.notMem_empty _)))

/-- **A step keeps the frontier**: the first node of the queue is taken, and meets what it leads
to. -/
theorem step (h : Frontier R start (v :: waiting) seen) (hcs : ∀ c, c ∈ cs ↔ R v c)
    (hm : Meets R start seen cs seen' fresh) : Frontier R start (waiting ++ fresh) seen' where
  sound w hw := by
    rcases hm.sound w hw with hw | ⟨c, hc, hr⟩
    · exact h.sound w hw
    · have hvc := (hcs c).1 hc
      rcases h.queued v List.mem_cons_self with rfl | hv
      · exact .trans_left (.single hvc) hr
      · exact .trans_left ((h.sound v hv).tail hvc) hr
  queued w hw := by
    rcases List.mem_append.1 hw with hw | hw
    · exact (h.queued w (List.mem_cons_of_mem _ hw)).imp_right fun hmem => hm.subset hmem
    · exact .inr (hm.fresh_mem w hw)
  pending w hw := by
    have hold : w = start ∨ w ∈ seen → w ∈ waiting ++ fresh ∨ Expanded R start seen' w := by
      intro hw
      rcases h.pending w hw with hmem | hexp
      · rcases List.mem_cons.1 hmem with rfl | hmem
        · exact .inr fun c hc => hm.met c ((hcs c).2 hc)
        · exact .inl (List.mem_append_left _ hmem)
      · exact .inr (hexp.mono hm.subset)
    rcases hw with hw | hw
    · exact hold (.inl hw)
    · rcases hm.pending w hw with hw | hw | hw
      · exact hold (.inr hw)
      · exact .inl (List.mem_append_right _ hw)
      · exact .inr hw

/-- When no node waits, all that lies beyond the start has been met. -/
lemma complete (h : Frontier R start [] seen) {w : V} (hw : TransGen R start w) :
    w = start ∨ w ∈ seen := by
  have hexp : ∀ v, v = start ∨ v ∈ seen → Expanded R start seen v := fun v hv =>
    (h.pending v hv).resolve_left List.not_mem_nil
  induction hw with
  | single hs => exact hexp start (.inl rfl) _ hs
  | tail _ hs ih => exact hexp _ ih _ hs

/-- **When no node waits, a walk has met exactly what lies beyond its start.** -/
theorem mem_iff (h : Frontier R start [] seen) {w : V} (hne : w ≠ start) :
    w ∈ seen ↔ TransGen R start w :=
  ⟨h.sound w, fun hw => (h.complete hw).resolve_left hne⟩

end Frontier

/-! ### Loops over a queue -/

/-- A loop over a queue, without a bound, ends after a number of steps. A step takes the first
element of the queue, changes a state, and lets some elements join the queue. -/
inductive Drains {α σ : Type} (step : α → σ → σ × List α) : Nat → List α → σ → σ → Prop
  | done (s : σ) : Drains step 0 [] s s
  | next {n : Nat} {a : α} {waiting : List α} {s result : σ} :
      Drains step n (waiting ++ (step a s).2) (step a s).1 result →
        Drains step (n + 1) (a :: waiting) s result

/-- **A walk without a bound ends** with no node waiting, if there are finitely many nodes to meet.

**Proof sketch.** Induction on the number of nodes that wait and of those that have not been met.
A step takes one node from the queue, and each node that joins it had not been met. -/
theorem Frontier.exists_drains {α σ : Type} {step : α → σ → σ × List α} {toNode : α → V}
    {elems : σ → Set V} {next : α → List V} {targets : Finset V}
    (hnext : ∀ a c, c ∈ next a ↔ R (toNode a) c) (htargets : ∀ a, ∀ c ∈ next a, c ∈ targets)
    (hstep : ∀ a s, Meets R start (elems s) (next a) (elems (step a s).1)
      ((step a s).2.map toNode))
    {waiting : List α} {s : σ} (h : Frontier R start (waiting.map toNode) (elems s)) :
    ∃ n result, n ≤ waiting.length + unseen targets (elems s) ∧ Drains step n waiting s result ∧
      Frontier R start [] (elems result) := by
  generalize hleft : waiting.length + unseen targets (elems s) = left
  induction left using Nat.strong_induction_on generalizing waiting s with
  | _ left ih =>
    cases waiting with
    | nil => exact ⟨0, s, Nat.zero_le _, .done s, h⟩
    | cons a waiting =>
      have hbudget := (hstep a s).length_add_unseen_le (htargets a)
      have hrest := h.step (hnext a) (hstep a s)
      rw [← List.map_append] at hrest
      rw [List.length_map] at hbudget
      rw [List.length_cons] at hleft
      obtain ⟨n, result, hn, hdrains, hdone⟩ :=
        ih _ (by rw [List.length_append]; omega) hrest rfl
      rw [List.length_append] at hn
      exact ⟨n + 1, result, by omega, .next hdrains, hdone⟩

end Polyhierarchy.Reachability

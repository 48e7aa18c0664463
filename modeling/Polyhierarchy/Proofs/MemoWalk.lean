import Polyhierarchy.CycleGuard
import Polyhierarchy.Proofs.Evaluation
import Polyhierarchy.Proofs.Walk

set_option relaxedAutoImplicit false
set_option autoImplicit false

/-!
# Walks that make use of earlier ones

A walk that asks a store for each step takes over whole what earlier walks over the same edges have
found. What these have found is right, so the walk finds just what it would find without them, and
what it finds can be used again.

## Main definitions

* `Reachability.Memo.DownExact` — what a memo holds below topics is right.
* `Reachability.stepDown` — a step of a walk down.
* `Reachability.Learned` — the memos that queries over the same edges leave, one after another.

## Main results

* `Reachability.exists_drains_down` — a walk down without a bound ends.
* `Reachability.reads_descendants` — a walk with a memo finds exactly the nodes below its start.
* `Reachability.Learned.downExact` — whatever queries have left, it is right.
-/

namespace Polyhierarchy.Reachability

open Program

variable {E : SortedRel TopicId Node} {t : Tables} {start : TopicId} {memo : Memo}

/-- What holds of all entries that are found in a list still does with a new entry of which it
holds. -/
lemma forall_lookup_cons {κ ν : Type} [BEq κ] [LawfulBEq κ] {P : κ → ν → Prop}
    {entries : List (κ × ν)} (h : ∀ k v, entries.lookup k = some v → P k v) {k : κ} {v : ν}
    (hnew : P k v) : ∀ k' v', ((k, v) :: entries).lookup k' = some v' → P k' v' := by
  intro k' v' hlook
  rw [List.lookup_cons] at hlook
  split at hlook
  next heq =>
    obtain rfl := beq_iff_eq.1 heq
    obtain rfl := Option.some.inj hlook
    exact hnew
  next => exact h k' v' hlook

/-- What a memo holds below topics is what is reachable from them. -/
def Memo.DownExact (E : SortedRel TopicId Node) (memo : Memo) : Prop :=
  ∀ id nodes, memo.below? id = some nodes →
    ∀ n, n ∈ nodes ↔ n ≠ .topic id ∧ Reaches E (.topic id) n

lemma Memo.downExact_empty : Memo.empty.DownExact E := fun _ _ h => nomatch h

/-- What is right can be added. -/
lemma Memo.DownExact.cons (h : memo.DownExact E) {id : TopicId} {nodes : SortedSet Node}
    (hnodes : ∀ n, n ∈ nodes ↔ n ≠ .topic id ∧ Reaches E (.topic id) n) :
    Memo.DownExact E { memo with down := (id, nodes) :: memo.down } :=
  forall_lookup_cons h hnodes

/-! ### One walk -/

/-- How a walk with a memo meets the children of a topic. -/
lemma meets_meetDown (h : memo.DownExact E) (seen : SortedSet Node) (cs : List Node) :
    Meets (Step E) (.topic start) seen.toSet cs (meetDown memo start seen cs).1.toSet
      ((meetDown memo start seen cs).2.map .topic) := by
  induction cs generalizing seen with
  | nil => exact .nil
  | cons c cs ih =>
    by_cases hc : c = .topic start ∨ c ∈ seen
    · rw [meetDown, if_pos hc]
      exact .skip hc (ih seen)
    · rw [meetDown, if_neg hc]
      cases c with
      | link l =>
        have hrest := ih (seen.insert (.link l))
        rw [SortedSet.toSet_insert, ← Set.union_empty (insert _ _)] at hrest
        exact .take (mem_empty_iff_reaches_link l) hrest
      | topic id =>
        dsimp only
        cases hknown : memo.below? id with
        | none =>
          have hrest := ih (seen.insert (.topic id))
          rw [SortedSet.toSet_insert] at hrest
          exact .wait (fun hs => hc (.inr hs)) hrest
        | some nodes =>
          have hrest := ih (seen.insert (.topic id) ∪ nodes)
          rw [SortedSet.toSet_union, SortedSet.toSet_insert] at hrest
          exact .take (h id nodes hknown) hrest

/-- A step of a walk down: a topic meets its children. -/
def stepDown (memo : Memo) (start : TopicId) (children : TopicId → List Node) (a : TopicId)
    (seen : SortedSet Node) : SortedSet Node × List TopicId := meetDown memo start seen (children a)

/-- A walk down whose steps suffice only reads, and finds what the loop without a bound does. -/
lemma reads_walkDown {n : Nat} {waiting : List TopicId} {seen nodes : SortedSet Node}
    (h : Drains (stepDown memo start (childList t.edges)) n waiting seen nodes) {steps : Nat}
    (hn : n ≤ steps) : (walkDown memo start steps waiting seen).Reads t nodes := by
  induction h generalizing steps with
  | done seen => cases steps <;> exact .done seen
  | next _ ih =>
    obtain ⟨steps, rfl⟩ := Nat.exists_eq_add_of_le' (Nat.le_of_add_left_le hn)
    exact (reads_request rfl rfl).bind (ih (Nat.le_of_succ_le_succ hn))

/-- **A walk down without a bound ends.** What is taken over from the memo has been met and does not
join the queue, so as many steps as there are edges, and one, suffice all the more. -/
theorem exists_drains_down (h : memo.DownExact E) (id : TopicId) :
    ∃ n nodes, n ≤ E.size + 1 ∧ Drains (stepDown memo id (childList E)) n [id] ∅ nodes ∧
      Frontier (Step E) (.topic id) [] nodes.toSet := by
  obtain ⟨n, nodes, hn, hdrains, hdone⟩ := (frontier_start id).exists_drains
    (fun _ _ => step_topic_iff.symm) (fun _ _ => mem_targets)
    (fun a seen => meets_meetDown h seen (childList E a))
  exact ⟨n, nodes, hn.trans (length_add_unseen_le_size id), hdrains, hdone⟩

/-- **A walk with a memo finds exactly the nodes below its start**, by reading only, and adds to the
memo what it has found, whether or not the edges have cycles. -/
theorem reads_descendants (h : memo.DownExact t.edges) {edges : Nat} (hedges : t.edges.size ≤ edges)
    (id : TopicId) :
    ∃ nodes memo', (descendants edges memo id).Reads t (nodes, memo') ∧
      (∀ n, n ∈ nodes ↔ n ≠ .topic id ∧ Reaches t.edges (.topic id) n) ∧
      memo'.DownExact t.edges := by
  rw [descendants]
  cases hknown : memo.below? id with
  | some nodes => exact ⟨nodes, memo, .done _, h id nodes hknown, h⟩
  | none =>
    obtain ⟨n, nodes, hn, hdrains, hdone⟩ := exists_drains_down h id
    have hreads := reads_walkDown hdrains (hn.trans (Nat.succ_le_succ hedges))
    have hexact : ∀ n, n ∈ nodes.erase (.topic id) ↔
        n ≠ .topic id ∧ Reaches t.edges (.topic id) n := by
      intro n
      rw [SortedSet.mem_erase, and_comm]
      exact and_congr_right fun hne => hdone.mem_iff hne
    exact ⟨_, _, hreads.bind (.done _), hexact, h.cons hexact⟩

/-! ### One query after another -/

/-- The memos that come about when one query after another is answered over the same tables, with
the same bound on the number of edges. -/
inductive Learned (edges : Nat) (t : Tables) : Memo → Prop
  /-- At the beginning nothing is known. -/
  | empty : Learned edges t .empty
  /-- What lies below a topic has been asked for. -/
  | down {memo memo' : Memo} {id : TopicId} {nodes : SortedSet Node} {t' : Tables} :
      Learned edges t memo →
      ((walked edges).descendants id memo).on t = (.ok (nodes, memo'), t') → Learned edges t memo'
  /-- What lies above a node has been asked for. -/
  | up {memo memo' : Memo} {node : Node} {topics : SortedSet TopicId} {t' : Tables} :
      Learned edges t memo →
      ((walked edges).ancestors node memo).on t = (.ok (topics, memo'), t') → Learned edges t memo'

/-- A walk up leaves alone what is known below topics. -/
lemma down_eq_of_on_ancestors {edges : Nat} {memo' : Memo} {node : Node}
    {topics : SortedSet TopicId} {t' : Tables}
    (h : (ancestors edges memo node).on t = (.ok (topics, memo'), t')) :
    memo'.down = memo.down := by
  rw [ancestors] at h
  cases hknown : memo.above? node with
  | some known =>
    rw [hknown] at h
    cases h
    rfl
  | none =>
    rw [hknown, on_bind_eq_ok] at h
    obtain ⟨_, _, -, hdone⟩ := h
    cases hdone
    rfl

/-- **Whatever queries have left below topics is right.** -/
theorem Learned.downExact {edges : Nat} (h : Learned edges t memo) (hedges : t.edges.size ≤ edges) :
    memo.DownExact t.edges := by
  induction h with
  | empty => exact Memo.downExact_empty
  | @down _ _ id _ _ _ hon ih =>
    obtain ⟨_, _, hreads, -, hexact⟩ := reads_descendants ih hedges id
    have hsame := hreads.on_eq.symm.trans hon
    cases hsame
    exact hexact
  | up _ hon ih =>
    have hdown := down_eq_of_on_ancestors hon
    intro id nodes hlook
    rw [Memo.below?, hdown] at hlook
    exact ih id nodes hlook

end Polyhierarchy.Reachability

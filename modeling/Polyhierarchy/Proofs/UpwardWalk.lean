import Polyhierarchy.Proofs.MemoWalk

set_option relaxedAutoImplicit false
set_option autoImplicit false

/-!
# Walks up

A walk up from a node goes from children to parents. It is a walk along the relation of the edges
taken the other way round, so it finds the topics from which the node is reachable: a topic lies
above a node exactly if the node lies below the topic.

## Main definitions

* `Reachability.sources` — the topics that edges leave.
* `Reachability.upward` — topics as nodes that a walk up has met.
* `Reachability.Memo.UpExact` — what a memo holds above nodes is right.
* `Reachability.stepUp` — a step of a walk up.

## Main results

* `Reachability.exists_drains_up` — a walk up without a bound ends.
* `Reachability.reads_ancestors` — a walk up finds exactly the topics above its start.
* `Reachability.Learned.upExact` — whatever queries have left above nodes is right.
-/

namespace Polyhierarchy.Reachability

open Program Relation

variable {E : SortedRel TopicId Node} {t : Tables} {start : Node} {memo : Memo}

/-! ### Edges the other way round -/

/-- The parents of a node as a list. -/
def parentList (E : SortedRel TopicId Node) (n : Node) : List TopicId := (E.column n).toList

/-- Topics as nodes that a walk up has met. -/
def upward (topics : SortedSet TopicId) : Set Node := Node.topic '' topics.toSet

@[simp] lemma upward_empty : upward ∅ = ∅ := by
  rw [upward, SortedSet.toSet_empty, Set.image_empty]

@[simp] lemma upward_insert (a : TopicId) (topics : SortedSet TopicId) :
    upward (topics.insert a) = insert (.topic a) (upward topics) := by
  rw [upward, SortedSet.toSet_insert, Set.image_insert_eq, upward]

@[simp] lemma upward_union (topics others : SortedSet TopicId) :
    upward (topics ∪ others) = upward topics ∪ upward others := by
  rw [upward, SortedSet.toSet_union, Set.image_union, upward, upward]

lemma topic_mem_upward {a : TopicId} {topics : SortedSet TopicId} :
    .topic a ∈ upward topics ↔ a ∈ topics :=
  ⟨fun ⟨_, ha, h⟩ => Node.topic.inj h ▸ ha, fun ha => ⟨a, ha, rfl⟩⟩

/-- Nothing but topics lies above a node. -/
lemma mem_upward_iff {n : Node} {topics : SortedSet TopicId}
    (h : ∀ a, a ∈ topics ↔ .topic a ≠ n ∧ Reaches E (.topic a) n) (v : Node) :
    v ∈ upward topics ↔ v ≠ n ∧ TransGen (Function.swap (Step E)) n v := by
  rw [transGen_swap]
  cases v with
  | topic a => exact topic_mem_upward.trans (h a)
  | link l =>
    constructor
    · rintro ⟨_, _, hl⟩
      cases hl
    · rintro ⟨-, hr⟩
      exact absurd hr not_reaches_link

lemma mem_map_parentList {n v : Node} :
    v ∈ (parentList E n).map .topic ↔ Function.swap (Step E) n v := by
  rw [List.mem_map]
  constructor
  · rintro ⟨a, ha, rfl⟩
    exact ⟨a, rfl, SortedRel.mem_column.1 ha⟩
  · rintro ⟨a, rfl, ha⟩
    exact ⟨a, SortedRel.mem_column.2 ha, rfl⟩

/-- The topics that edges leave. -/
def sources (E : SortedRel TopicId Node) : Finset Node :=
  (E.pairs.map fun p => Node.topic p.1).toFinset

lemma mem_sources {n v : Node} (h : v ∈ (parentList E n).map .topic) : v ∈ sources E := by
  obtain ⟨a, ha, rfl⟩ := List.mem_map.1 h
  exact List.mem_toFinset.2 (List.mem_map.2
    ⟨(a, n), SortedRel.mem_pairs.2 (SortedRel.mem_column.1 ha), rfl⟩)

/-! ### One walk -/

/-- What a memo holds above nodes are the topics from which these are reachable. -/
def Memo.UpExact (E : SortedRel TopicId Node) (memo : Memo) : Prop :=
  ∀ n topics, memo.above? n = some topics →
    ∀ a, a ∈ topics ↔ .topic a ≠ n ∧ Reaches E (.topic a) n

lemma Memo.upExact_empty : Memo.empty.UpExact E := fun _ _ h => nomatch h

/-- What is right can be added. -/
lemma Memo.UpExact.cons (h : memo.UpExact E) {n : Node} {topics : SortedSet TopicId}
    (htopics : ∀ a, a ∈ topics ↔ .topic a ≠ n ∧ Reaches E (.topic a) n) :
    Memo.UpExact E { memo with up := (n, topics) :: memo.up } :=
  forall_lookup_cons h htopics

/-- How a walk up with a memo meets the parents of a node. -/
lemma meets_meetUp (h : memo.UpExact E) (seen : SortedSet TopicId) (ps : List TopicId) :
    Meets (Function.swap (Step E)) start (upward seen) (ps.map .topic)
      (upward (meetUp memo start seen ps).1) ((meetUp memo start seen ps).2.map .topic) := by
  induction ps generalizing seen with
  | nil => exact .nil
  | cons p ps ih =>
    by_cases hp : .topic p = start ∨ p ∈ seen
    · rw [meetUp, if_pos hp]
      exact .skip (hp.imp_right topic_mem_upward.2) (ih seen)
    · rw [meetUp, if_neg hp]
      dsimp only
      cases hknown : memo.above? (.topic p) with
      | none =>
        have hrest := ih (seen.insert p)
        rw [upward_insert] at hrest
        exact .wait (fun hs => hp (.inr (topic_mem_upward.1 hs))) hrest
      | some topics =>
        have hrest := ih (seen.insert p ∪ topics)
        rw [upward_union, upward_insert] at hrest
        exact .take (mem_upward_iff (h _ topics hknown)) hrest

/-- A step of a walk up: a node meets its parents. -/
def stepUp (memo : Memo) (start : Node) (parents : Node → List TopicId) (v : Node)
    (seen : SortedSet TopicId) : SortedSet TopicId × List Node :=
  let (seen, fresh) := meetUp memo start seen (parents v)
  (seen, fresh.map .topic)

/-- A walk up whose steps suffice only reads, and finds what the loop without a bound does. -/
lemma reads_walkUp {n : Nat} {waiting : List Node} {seen topics : SortedSet TopicId}
    (h : Drains (stepUp memo start (parentList t.edges)) n waiting seen topics) {steps : Nat}
    (hn : n ≤ steps) : (walkUp memo start steps waiting seen).Reads t topics := by
  induction h generalizing steps with
  | done seen => cases steps <;> exact .done seen
  | next _ ih =>
    obtain ⟨steps, rfl⟩ := Nat.exists_eq_add_of_le' (Nat.le_of_add_left_le hn)
    exact (reads_request rfl rfl).bind (ih (Nat.le_of_succ_le_succ hn))

/-- **A walk up without a bound ends.** Each step but the first takes a topic that an edge leaves,
and that had not been met. -/
theorem exists_drains_up (h : memo.UpExact E) (n : Node) :
    ∃ k topics, k ≤ E.size + 1 ∧ Drains (stepUp memo n (parentList E)) k [n] ∅ topics ∧
      Frontier (Function.swap (Step E)) n [] (upward topics) := by
  have hinit : Frontier (Function.swap (Step E)) n ([n].map id) (upward ∅) := by
    rw [upward_empty]
    exact .init
  have hmeets : ∀ v seen, Meets (Function.swap (Step E)) n (upward seen)
      ((parentList E v).map .topic) (upward (stepUp memo n (parentList E) v seen).1)
      ((stepUp memo n (parentList E) v seen).2.map id) := by
    intro v seen
    rw [List.map_id]
    exact meets_meetUp h seen (parentList E v)
  obtain ⟨k, topics, hk, hdrains, hdone⟩ := hinit.exists_drains (fun _ _ => mem_map_parentList)
    (fun _ _ => mem_sources) hmeets
  have hle : (sources E).card ≤ E.size :=
    (List.toFinset_card_le _).trans (List.length_map _).le
  have hunseen := (unseen_le_card (sources E) (upward ∅)).trans hle
  rw [List.length_singleton] at hk
  exact ⟨k, topics, by omega, hdrains, hdone⟩

/-- **A walk up with a memo finds exactly the topics above its start**, by reading only, and adds to
the memo what it has found, whether or not the edges have cycles. -/
theorem reads_ancestors (h : memo.UpExact t.edges) {edges : Nat} (hedges : t.edges.size ≤ edges)
    (n : Node) :
    ∃ topics memo', (ancestors edges memo n).Reads t (topics, memo') ∧
      (∀ a, a ∈ topics ↔ .topic a ≠ n ∧ Reaches t.edges (.topic a) n) ∧
      memo'.UpExact t.edges := by
  rw [ancestors]
  cases hknown : memo.above? n with
  | some topics => exact ⟨topics, memo, .done _, h n topics hknown, h⟩
  | none =>
    obtain ⟨k, topics, hk, hdrains, hdone⟩ := exists_drains_up h n
    have hreads := reads_walkUp hdrains (hk.trans (Nat.succ_le_succ hedges))
    have hmem : ∀ a, .topic a ≠ n → (a ∈ topics ↔ Reaches t.edges (.topic a) n) := by
      intro a hne
      rw [← topic_mem_upward, hdone.mem_iff hne, transGen_swap]
    cases n with
    | topic id =>
      have hexact : ∀ a, a ∈ topics.erase id ↔
          Node.topic a ≠ .topic id ∧ Reaches t.edges (.topic a) (.topic id) := by
        intro a
        have hne : Node.topic a ≠ .topic id ↔ a ≠ id := by simp
        rw [SortedSet.mem_erase, and_comm, ← hne]
        exact and_congr_right (hmem a)
      exact ⟨_, _, hreads.bind (.done _), hexact, h.cons hexact⟩
    | link l =>
      have hexact : ∀ a, a ∈ topics ↔
          Node.topic a ≠ .link l ∧ Reaches t.edges (.topic a) (.link l) := by
        intro a
        have hne : Node.topic a ≠ .link l := by simp
        exact (hmem a hne).trans (and_iff_right hne).symm
      exact ⟨_, _, hreads.bind (.done _), hexact, h.cons hexact⟩

/-! ### One query after another -/

/-- A walk down leaves alone what is known above nodes. -/
lemma up_eq_of_on_descendants {edges : Nat} {memo' : Memo} {id : TopicId}
    {nodes : SortedSet Node} {t' : Tables}
    (h : (descendants edges memo id).on t = (.ok (nodes, memo'), t')) : memo'.up = memo.up := by
  rw [descendants] at h
  cases hknown : memo.below? id with
  | some known =>
    rw [hknown] at h
    cases h
    rfl
  | none =>
    rw [hknown, on_bind_eq_ok] at h
    obtain ⟨_, _, -, hdone⟩ := h
    cases hdone
    rfl

/-- **Whatever queries have left above nodes is right.** -/
theorem Learned.upExact {edges : Nat} (h : Learned edges t memo) (hedges : t.edges.size ≤ edges) :
    memo.UpExact t.edges := by
  induction h with
  | empty => exact Memo.upExact_empty
  | @up _ _ n _ _ _ hon ih =>
    obtain ⟨_, _, hreads, -, hexact⟩ := reads_ancestors ih hedges n
    have hsame := hreads.on_eq.symm.trans hon
    cases hsame
    exact hexact
  | down _ hon ih =>
    have hup := up_eq_of_on_descendants hon
    intro n topics hlook
    rw [Memo.above?, hup] at hlook
    exact ih n topics hlook

end Polyhierarchy.Reachability

import Polyhierarchy.Closure
import Polyhierarchy.Proofs.Evaluation
import Polyhierarchy.Proofs.Walk

set_option relaxedAutoImplicit false
set_option autoImplicit false

/-!
# Keeping the closure exact

The closure is exact if its pairs are those of a topic and another node that is reachable from it.
Then it is a function of the edges. Each edit of the edges computes the closures of some topics anew
and leaves the others. It is enough to compute those of the topics above the edit, and these can be
read off the closure as it was before: a topic that does not lead to the edit loses and gains no
path by it.

So on tables with an exact closure, every edit has a plain equation: it changes the edges, and the
closure is that of the new edges.

## Main definitions

* `Tables.closureOf` — the closure that belongs to a set of edges.
* `Tables.Exact` — the closure is the one that belongs to the edges.
* `Tables.withEdges` — the tables with other edges and the closure that belongs to them.
* `SortedRel.handOver`, `SortedRel.bypass` — the edges after the children of a topic have moved to
  others, and after the topic has then been cut out.

## Main results

* `Closure.on_addEdge`, `Closure.on_removeEdge` — single edges, in any graph.
* `Closure.on_detach_topic` — cutting a topic out after its children have moved to parents of it.
* `Closure.on_detach_link` — cutting a link out.
-/

namespace Polyhierarchy

open Reachability

/-! ### Rows of relations after many edits -/

namespace SortedRel

variable {α β : Type} [Ranked α] [Ranked β]

/-- A row after some rows have been replaced. -/
lemma mem_row_foldl_setRow {f : α → SortedSet β} {l : List α} {r : SortedRel α β} {b : α} {d : β} :
    d ∈ (l.foldl (fun c a => c.setRow a (f a)) r).row b ↔
      b ∈ l ∧ d ∈ f b ∨ b ∉ l ∧ d ∈ r.row b := by
  induction l generalizing r with
  | nil => simp
  | cons a l ih =>
    rw [List.foldl_cons, ih, mem_row_setRow, List.mem_cons]
    by_cases hba : b = a
    · subst hba
      tauto
    · tauto

/-- A pair that is related already is not related once more. -/
lemma insert_of_mem {r : SortedRel α β} {a : α} {b : β} (h : b ∈ r.row a) : r.insert a b = r := by
  ext c d
  rw [mem_row_insert]
  constructor
  · rintro (⟨rfl, rfl⟩ | h')
    · exact h
    · exact h'
  · exact .inr

/-- A pair that is not related cannot be taken out. -/
lemma erase_of_not_mem {r : SortedRel α β} {a : α} {b : β} (h : b ∉ r.row a) :
    r.erase a b = r := by
  ext c d
  rw [mem_row_erase]
  refine ⟨And.left, fun h' => ⟨h', ?_⟩⟩
  rintro ⟨rfl, rfl⟩
  exact h h'

/-- The relation after some more left elements have been related to a right element. -/
def withParents (r : SortedRel α β) (b : β) (l : List α) : SortedRel α β :=
  l.foldl (fun s a => s.insert a b) r

/-- The relation after some left elements have been unrelated from a right element. -/
def withoutParents (r : SortedRel α β) (b : β) (l : List α) : SortedRel α β :=
  l.foldl (fun s a => s.erase a b) r

lemma mem_row_withParents {l : List α} {r : SortedRel α β} {b d : β} {a : α} :
    d ∈ (r.withParents b l).row a ↔ d ∈ r.row a ∨ d = b ∧ a ∈ l := by
  unfold withParents
  induction l generalizing r with
  | nil => simp
  | cons p l ih =>
    rw [List.foldl_cons, ih, mem_row_insert, List.mem_cons]
    tauto

lemma mem_row_withoutParents {l : List α} {r : SortedRel α β} {b d : β} {a : α} :
    d ∈ (r.withoutParents b l).row a ↔ d ∈ r.row a ∧ ¬ (a ∈ l ∧ d = b) := mem_row_foldl_erase

/-- The relation after exactly the left elements of a set have been related to a right element. -/
def setParents (r : SortedRel α β) (b : β) (s : SortedSet α) : SortedRel α β :=
  (r.withParents b s.toList).withoutParents b ((r.column b).difference s).toList

lemma mem_row_setParents {s : SortedSet α} {r : SortedRel α β} {b d : β} {a : α} :
    d ∈ (r.setParents b s).row a ↔ d = b ∧ a ∈ s ∨ d ≠ b ∧ d ∈ r.row a := by
  rw [setParents, mem_row_withoutParents, mem_row_withParents, ← SortedSet.mem_def,
    ← SortedSet.mem_def, SortedSet.mem_difference, mem_column]
  by_cases hd : d = b
  · subst hd
    tauto
  · tauto

/-- Adding parents keeps those that there are. -/
lemma withParents_eq_setParents (r : SortedRel α β) (b : β) (s : SortedSet α) :
    r.withParents b s.toList = r.setParents b (r.column b ∪ s) := by
  ext a d
  rw [mem_row_withParents, mem_row_setParents, ← SortedSet.mem_def, SortedSet.mem_union,
    mem_column]
  by_cases hd : d = b
  · subst hd
    tauto
  · tauto

/-- It is the same to add only the parents that are missing. -/
lemma setParents_eq (r : SortedRel α β) (b : β) (s : SortedSet α) :
    r.setParents b s = (r.withParents b (s.difference (r.column b)).toList).withoutParents b
      ((r.column b).difference s).toList := by
  ext a d
  rw [mem_row_setParents, mem_row_withoutParents, mem_row_withParents, ← SortedSet.mem_def,
    ← SortedSet.mem_def, SortedSet.mem_difference, SortedSet.mem_difference, mem_column]
  by_cases hd : d = b
  · subst hd
    tauto
  · tauto

/-- The edges after all children of a topic have moved to other topics. -/
def handOver (E : SortedRel TopicId Node) (x : TopicId) (onto : SortedSet TopicId) :
    SortedRel TopicId Node :=
  (E.row x).toList.foldl (fun F c => (F.withParents c onto.toList).erase x c) E

/-- The edges after a topic has been cut out and its children have moved to other topics. -/
def bypass (E : SortedRel TopicId Node) (x : TopicId) (onto : SortedSet TopicId) :
    SortedRel TopicId Node := (E.handOver x onto).eraseRight (.topic x)

/-- The edges after some children have moved, one after another. -/
lemma mem_row_foldl_move {l : List Node} {E : SortedRel TopicId Node} {x p : TopicId}
    {onto : SortedSet TopicId} {d : Node} :
    d ∈ (l.foldl (fun F c => (F.withParents c onto.toList).erase x c) E).row p ↔
      (d ∈ E.row p ∨ d ∈ l ∧ p ∈ onto) ∧ ¬ (p = x ∧ d ∈ l) := by
  induction l generalizing E with
  | nil => simp
  | cons c l ih =>
    rw [List.foldl_cons, ih, mem_row_erase, mem_row_withParents, List.mem_cons,
      ← SortedSet.mem_def]
    tauto

lemma mem_row_handOver {E : SortedRel TopicId Node} {x p : TopicId} {onto : SortedSet TopicId}
    {d : Node} :
    d ∈ (E.handOver x onto).row p ↔ p ≠ x ∧ (d ∈ E.row p ∨ p ∈ onto ∧ d ∈ E.row x) := by
  rw [handOver, mem_row_foldl_move, ← SortedSet.mem_def]
  by_cases hp : p = x
  · subst hp
    tauto
  · tauto

/-- After a topic has been cut out, no edge touches it, and the topics that its children have moved
to have these besides their own. -/
lemma mem_row_bypass {E : SortedRel TopicId Node} {x p : TopicId} {onto : SortedSet TopicId}
    {d : Node} :
    d ∈ (E.bypass x onto).row p ↔
      p ≠ x ∧ d ≠ .topic x ∧ (d ∈ E.row p ∨ p ∈ onto ∧ d ∈ E.row x) := by
  rw [bypass, mem_row_eraseRight, mem_row_handOver]
  tauto

end SortedRel

/-! ### Exact closures -/

namespace Tables

/-- The closure that belongs to a set of edges. -/
def closureOf (E : SortedRel TopicId Node) : SortedRel TopicId Node :=
  (E.rows.entries.map (·.1)).foldl
    (fun c a => c.setRow a (Reachability.below E.size (childList E) a)) ∅

/-- The closure of edges relates each topic to the other nodes that are reachable from it. -/
lemma mem_row_closureOf {E : SortedRel TopicId Node} {a : TopicId} {d : Node} :
    d ∈ (closureOf E).row a ↔ d ≠ .topic a ∧ Reaches E (.topic a) d := by
  rw [closureOf, SortedRel.mem_row_foldl_setRow]
  constructor
  · rintro (⟨-, h⟩ | ⟨-, h⟩)
    · exact Reachability.mem_below.1 h
    · exact absurd h (SortedRel.not_mem_row_empty a d)
  · rintro ⟨hne, h⟩
    obtain ⟨c, hc, -⟩ := h.exists_child
    have hrow : E.rows.get? a = some (E.row a) :=
      SortedRel.get?_eq_some_iff.2 ⟨rfl, fun e => SortedSet.not_mem_empty c (e ▸ hc)⟩
    have ha : a ∈ E.rows.entries.map (·.1) :=
      List.mem_map.2 ⟨(a, E.row a), SortedMap.mem_entries_iff.2 hrow, rfl⟩
    exact .inl ⟨ha, Reachability.mem_below.2 ⟨hne, h⟩⟩

/-- The closure relates each topic to the other nodes that are reachable from it over the edges, and
to nothing else. -/
def Exact (t : Tables) : Prop :=
  ∀ a d, d ∈ t.closure.row a ↔ d ≠ .topic a ∧ Reaches t.edges (.topic a) d

/-- The tables with other edges, and the closure that belongs to them. -/
def withEdges (t : Tables) (E : SortedRel TopicId Node) : Tables :=
  { t with edges := E, closure := closureOf E }

variable {t : Tables} {E F : SortedRel TopicId Node}

@[simp] lemma withEdges_repositories : (t.withEdges E).repositories = t.repositories := rfl

@[simp] lemma withEdges_topics : (t.withEdges E).topics = t.topics := rfl

@[simp] lemma withEdges_links : (t.withEdges E).links = t.links := rfl

@[simp] lemma withEdges_edges : (t.withEdges E).edges = E := rfl

@[simp] lemma withEdges_withEdges : (t.withEdges E).withEdges F = t.withEdges F := rfl

lemma exact_withEdges (t : Tables) (E : SortedRel TopicId Node) : (t.withEdges E).Exact :=
  fun _ _ => mem_row_closureOf

/-- An exact closure is a function of the edges. -/
lemma Exact.closure_eq (h : t.Exact) : t.closure = closureOf t.edges := by
  ext a d
  rw [h a d, mem_row_closureOf]

lemma Exact.withEdges_self (h : t.Exact) : t.withEdges t.edges = t := by
  rw [withEdges, ← h.closure_eq]

/-- A topic that does not lead to `x` keeps its closure if only `x` and its parents get other
children.

**Proof sketch.** Whatever leads to a parent of `x` leads to `x`. So the topic leads to no topic
that gets other children, and `reaches_iff_of_rows_eq` applies. -/
lemma Exact.mem_row_iff_of_unaffected (h : t.Exact) {x a : TopicId} {P : TopicId → Prop} {d : Node}
    (hP : ∀ p, P p → p = x ∨ .topic x ∈ t.edges.row p)
    (hrow : ∀ b, ¬ P b → t.edges.row b = F.row b) (hax : a ≠ x)
    (ha : .topic x ∉ t.closure.row a) :
    d ∈ t.closure.row a ↔ d ≠ .topic a ∧ Reaches F (.topic a) d := by
  have hxa : Node.topic x ≠ .topic a := fun e => hax (Node.topic.inj e).symm
  have hx : ¬ Reaches t.edges (.topic a) (.topic x) := fun hr => ha ((h a _).2 ⟨hxa, hr⟩)
  have hoff : ∀ p, P p → Node.topic a ≠ .topic p ∧ ¬ Reaches t.edges (.topic a) (.topic p) := by
    intro p hp
    rcases hP p hp with rfl | hpx
    · exact ⟨fun e => hxa e.symm, hx⟩
    · refine ⟨?_, fun hr => hx (hr.tail (step_topic_iff.2 hpx))⟩
      rintro ⟨rfl⟩
      exact hx (.single (step_topic_iff.2 hpx))
  rw [h a d, reaches_iff_of_rows_eq hrow hoff]

end Tables

/-! ### What the edits do -/

namespace Closure

open Program Tables

variable {t : Tables}

lemma on_affected (p : TopicId) :
    (affected p).on t = (.ok ((t.closure.column (.topic p)).insert p), t) := by
  simp [affected, Memory.reply, Memory.answer]

/-- Computing closures anew replaces one row after another. -/
lemma on_recomputeEach (l : List TopicId) :
    (recomputeEach l).on t = (.ok (l.foldr (fun a n => (t.below a).size + n) 0),
      { t with closure := l.foldl (fun c a => c.setRow a (t.below a)) t.closure }) := by
  induction l generalizing t with
  | nil => rfl
  | cons a l ih =>
    simp only [recomputeEach, on_bind, on_lookAt, on_request, Memory.reply, Memory.answer,
      Memory.Working.writeClosure, ih, pure_eq, on_done, List.foldr_cons, List.foldl_cons]
    rfl

/-- If the closures of all other topics belong to the edges already, then after some have been
computed anew all do. -/
lemma on_recompute {A : SortedSet TopicId}
    (h : ∀ a, a ∉ A → ∀ d, d ∈ t.closure.row a ↔ d ≠ .topic a ∧ Reaches t.edges (.topic a) d) :
    (recompute A).on t = (.ok (A.toList.foldr (fun a n => (t.below a).size + n) 0),
      t.withEdges t.edges) := by
  have hclosure : A.toList.foldl (fun c a => c.setRow a (t.below a)) t.closure =
      closureOf t.edges := by
    ext a d
    rw [SortedRel.mem_row_foldl_setRow, mem_row_closureOf, Tables.mem_below, ← SortedSet.mem_def]
    by_cases ha : a ∈ A
    · tauto
    · have hrow := h a ha d
      tauto
  rw [recompute, on_recomputeEach, hclosure]
  rfl

/-- If a topic gets other children, it is enough to compute the closures anew that an exact closure
has it in, and its own. -/
lemma on_recompute_above (h : t.Exact) {x : TopicId} {F : SortedRel TopicId Node}
    (hrow : ∀ b, b ≠ x → t.edges.row b = F.row b) :
    ∃ n, (recompute ((t.closure.column (.topic x)).insert x)).on { t with edges := F } =
      (.ok n, t.withEdges F) := by
  refine ⟨_, on_recompute (t := { t with edges := F }) fun a ha d => ?_⟩
  rw [SortedSet.mem_insert, not_or, SortedRel.mem_column] at ha
  exact h.mem_row_iff_of_unaffected (P := (· = x)) (fun p hp => .inl hp) hrow ha.1 ha.2

/-- Adding an edge to tables with an exact closure adds just that edge, and the closure is that of
the new edges. The value says whether the edge is new. -/
theorem on_addEdge (h : t.Exact) (e : Edge) :
    (addEdge e).on t =
      (.ok (!t.edges.holds e.parent e.child),
        t.withEdges (t.edges.insert e.parent e.child)) := by
  cases hold : t.edges.holds e.parent e.child with
  | true =>
    have hins := SortedRel.insert_of_mem (SortedRel.holds_iff.1 hold)
    simp [addEdge, Memory.reply, Memory.answer, Memory.Working.edit, hold, hins, h.withEdges_self]
  | false =>
    have hrow : ∀ b, b ≠ e.parent →
        t.edges.row b = (t.edges.insert e.parent e.child).row b := by
      intro b hb
      rw [SortedRel.insert, SortedRel.row_setRow_ne _ _ hb]
    obtain ⟨n, hre⟩ := on_recompute_above h hrow
    simp only [addEdge, on_bind, on_request, Memory.reply, Memory.answer, Memory.Working.edit, hold,
      Bool.not_false, if_true, on_affected, hre, pure_eq, on_done]

/-- Removing an edge from tables with an exact closure removes just that edge, and the closure is
that of the edges left. The value says whether there was such an edge. -/
theorem on_removeEdge (h : t.Exact) (e : Edge) :
    (removeEdge e).on t =
      (.ok (t.edges.holds e.parent e.child), t.withEdges (t.edges.erase e.parent e.child)) := by
  cases hold : t.edges.holds e.parent e.child with
  | false =>
    have hmem : e.child ∉ t.edges.row e.parent := fun hm => by
      rw [← SortedRel.holds_iff, hold] at hm
      exact Bool.false_ne_true hm
    simp [removeEdge, on_affected, Memory.reply, Memory.answer, Memory.Working.edit, hold,
      SortedRel.erase_of_not_mem hmem, h.withEdges_self]
  | true =>
    have hrow : ∀ b, b ≠ e.parent →
        t.edges.row b = (t.edges.erase e.parent e.child).row b := by
      intro b hb
      rw [SortedRel.erase, SortedRel.row_setRow_ne _ _ hb]
    obtain ⟨n, hre⟩ := on_recompute_above h hrow
    simp only [removeEdge, on_bind, on_affected, on_request, Memory.reply, Memory.answer,
      Memory.Working.edit, hold, if_true, hre, pure_eq, on_done]

/-- A loop that changes edges one by one and keeps the closure. -/
lemma on_forEach_withEdges {γ : Type} {f : γ → Program Unit}
    {g : SortedRel TopicId Node → γ → SortedRel TopicId Node}
    (hbody : ∀ c t, t.Exact → (f c).on t = (.ok (), t.withEdges (g t.edges c))) (h : t.Exact)
    (l : List γ) : (forEach f l).on t = (.ok (), t.withEdges (l.foldl g t.edges)) := by
  induction l generalizing t with
  | nil => rw [forEach, on_done, List.foldl_nil, h.withEdges_self]
  | cons c l ih =>
    rw [forEach, on_bind, hbody c t h]
    exact ih (exact_withEdges t _)

/-! ### Cutting nodes out -/

/-- A loop that edits the edges only. -/
lemma on_forEach_edges {γ : Type} {f : γ → Program Unit}
    {g : SortedRel TopicId Node → γ → SortedRel TopicId Node}
    (hbody : ∀ c t, (f c).on t = (.ok (), { t with edges := g t.edges c })) (l : List γ) :
    (forEach f l).on t = (.ok (), { t with edges := l.foldl g t.edges }) := by
  induction l generalizing t with
  | nil => rfl
  | cons c l ih =>
    rw [forEach, on_bind, hbody]
    exact ih

lemma on_moveChild (x : TopicId) (onto : SortedSet TopicId) (c : Node) :
    (moveChild x onto c).on t =
      (.ok (), { t with edges := (t.edges.withParents c onto.toList).erase x c }) := by
  rw [moveChild, on_bind, on_forEach_edges (g := fun F p => F.insert p c) fun _ _ => rfl]
  rfl

/-- The children of a topic move to other topics. The closure stays as it was. -/
lemma on_splice (x : TopicId) (onto : SortedSet TopicId) :
    (splice x onto).on t =
      (.ok (t.edges.row x).toList, { t with edges := t.edges.handOver x onto }) := by
  rw [splice, on_bind, on_request]
  simp only [Memory.reply, Memory.answer, on_bind]
  rw [on_forEach_edges (g := fun F c => (F.withParents c onto.toList).erase x c)
    fun c _ => on_moveChild x onto c]
  rfl

/-- The edges from some parents of a node go. -/
lemma on_forEach_deleteEdge (n : Node) (l : List TopicId) :
    (forEach (fun p => do
      let _ ← request "delete parent edge" (.deleteEdge ⟨p, n⟩)) l).on t =
        (.ok (), { t with edges := t.edges.withoutParents n l }) :=
  on_forEach_edges (g := fun F p => F.erase p n) (fun _ _ => rfl) l

/-- To detach a node, its edges go and the closure forgets it. For a topic, the closures of the
topics above it are then computed anew. -/
lemma on_detach (n : Node) :
    (detach n).on t =
      (match n with
        | .topic _ => do let _ ← recompute (t.closure.column n)
        | .link _ => pure () : Program Unit).on
        (Memory.purge { t with edges := t.edges.eraseRight n } n) := by
  rw [detach, on_bind, on_request]
  simp only [Memory.reply, Memory.answer]
  rw [on_bind, on_request]
  simp only [Memory.reply, Memory.answer]
  rw [on_bind, on_forEach_deleteEdge]
  rfl

/-- **A topic is cut out** of tables with an exact closure, after its children have moved to some of
its parents: the closure is that of the edges left.

**Proof sketch.** The topics above `x` are read off the closure as it was before its children moved.
Any other topic leads neither to `x` nor to a parent of it, so its row stays as it was and holds no
pair with `x`. The row of `x` is empty, and no edge leaves `x`. -/
theorem on_detach_topic (h : t.Exact) {x : TopicId} {onto : SortedSet TopicId}
    (honto : ∀ p ∈ onto, .topic x ∈ t.edges.row p) :
    (detach (.topic x)).on { t with edges := t.edges.handOver x onto } =
      (.ok (), t.withEdges (t.edges.bypass x onto)) := by
  have hrow : ∀ b, ¬ (b = x ∨ .topic x ∈ t.edges.row b) →
      t.edges.row b = (t.edges.bypass x onto).row b := by
    intro b hb
    rw [not_or] at hb
    ext c
    rw [SortedRel.mem_row_bypass]
    constructor
    · refine fun hc => ⟨hb.1, ?_, .inl hc⟩
      rintro rfl
      exact hb.2 hc
    · rintro ⟨-, -, hc | ⟨hb', -⟩⟩
      · exact hc
      · exact absurd (honto b hb') hb.2
  have hleft : ∀ a, a ∉ t.closure.column (.topic x) → ∀ d,
      d ∈ ((t.closure.setRow x ∅).eraseRight (.topic x)).row a ↔
        d ≠ .topic a ∧ Reaches (t.edges.bypass x onto) (.topic a) d := by
    intro a ha d
    rw [SortedRel.mem_column] at ha
    rw [SortedRel.mem_row_eraseRight, SortedRel.mem_row_setRow]
    by_cases hax : a = x
    · subst hax
      constructor
      · rintro ⟨⟨-, hd⟩ | ⟨hne, -⟩, -⟩
        · exact absurd hd (SortedSet.not_mem_empty d)
        · exact absurd rfl hne
      · rintro ⟨-, hr⟩
        obtain ⟨c, hc, -⟩ := hr.exists_child
        exact absurd rfl (SortedRel.mem_row_bypass.1 hc).1
    · rw [← h.mem_row_iff_of_unaffected (P := fun p => p = x ∨ .topic x ∈ t.edges.row p)
        (fun p hp => hp) hrow hax ha]
      constructor
      · rintro ⟨⟨rfl, -⟩ | ⟨-, hd⟩, -⟩
        · exact absurd rfl hax
        · exact hd
      · intro hd
        refine ⟨.inr ⟨hax, hd⟩, ?_⟩
        rintro rfl
        exact ha hd
  have hre := on_recompute (t := Memory.purge
    { t with edges := (t.edges.handOver x onto).eraseRight (.topic x) } (.topic x)) hleft
  rw [on_detach, on_bind]
  dsimp only
  rw [hre]
  rfl

/-- **A link is cut out** of tables with an exact closure. No path goes on from a link, so the pairs
that go with it are those of the link itself. -/
theorem on_detach_link (h : t.Exact) (l : LinkId) :
    (detach (.link l)).on t = (.ok (), t.withEdges (t.edges.eraseRight (.link l))) := by
  have hreach : ∀ u v, Reaches (t.edges.eraseRight (.link l)) u v ↔
      Reaches t.edges u v ∧ v ≠ .link l := by
    intro u v
    have hrow : ∀ a c, c ≠ .link l →
        (c ∈ (t.edges.eraseRight (.link l)).row a ↔ c ∈ t.edges.row a) :=
      fun a c hc => SortedRel.mem_row_eraseRight.trans (and_iff_left hc)
    constructor
    · intro hr
      obtain ⟨p, hp, -⟩ := hr.exists_parent
      have hne := (SortedRel.mem_row_eraseRight.1 hp).2
      exact ⟨(reaches_iff_off_link hrow hne).1 hr, hne⟩
    · exact fun ⟨hr, hne⟩ => (reaches_iff_off_link hrow hne).2 hr
  have hclosure : t.closure.eraseRight (.link l) =
      closureOf (t.edges.eraseRight (.link l)) := by
    ext a d
    rw [SortedRel.mem_row_eraseRight, mem_row_closureOf, h a d, hreach, and_assoc]
  rw [on_detach, withEdges, ← hclosure]
  rfl

end Closure

end Polyhierarchy

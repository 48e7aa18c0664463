import Mathlib.Logic.Function.Basic
import Polyhierarchy.Proofs.Upkeep

set_option relaxedAutoImplicit false
set_option autoImplicit false

/-!
# Coherent tables

The rows say of each stored node to which repository it belongs and whether it is the root there.
Tables are coherent if the edges and the closure agree with that: the edges have no cycle and stay
within repositories, every node but the roots has a parent, each repository has the root that its
row names, and the closure is exact. This module says how single changes of the tables keep them
coherent; what the operations do is put together from such changes.

## Main definitions

* `Place` — the repository of a node, and whether the node is its root.
* `Tables.place?` — the place of a node, if it is stored.
* `Hierarchical` — edges that make hierarchies of the placed nodes.
* `Rooted` — each repository has the root that its row names, and owns what is placed in it.
* `Tables.Coherent` — the tables as the operations keep them.

## Main results

* `Hierarchical.reparent` — a node, new or not, may get any parents that do not lie below it.
* `Hierarchical.cutOut` — a node may go if its children move to parents of it.
* `Hierarchical.reaches_of_root` — every node but the roots lies below the root of its repository.
-/

namespace Polyhierarchy

open Reachability

/-- Where a node belongs: its repository, and whether it is the root there. -/
structure Place where
  /-- The repository. -/
  repository : RepositoryId
  /-- Whether the node is the root of the repository. -/
  isRoot : Bool
  deriving DecidableEq

/-- Edges that make hierarchies of the nodes that have a place. -/
structure Hierarchical (place? : Node → Option Place) (E : SortedRel TopicId Node) : Prop where
  /-- No node is reachable from itself. -/
  acyclic : Acyclic E
  /-- An edge leads from a node to another one of the same repository, which is not its root. -/
  within : ∀ p c, c ∈ E.row p →
    ∃ r b, place? (.topic p) = some ⟨r, b⟩ ∧ place? c = some ⟨r, false⟩
  /-- Every node that is not a root has a parent. -/
  exists_parent : ∀ n r, place? n = some ⟨r, false⟩ → ∃ p, n ∈ E.row p

namespace Hierarchical

variable {place? : Node → Option Place} {E F : SortedRel TopicId Node} {n : Node}
  {r : RepositoryId}

/-- A path stays within a repository. -/
lemma within_of_reaches (h : Hierarchical place? E) {u v : Node} (hr : Reaches E u v) :
    ∃ r b, place? u = some ⟨r, b⟩ ∧ place? v = some ⟨r, false⟩ := by
  induction hr with
  | single hs =>
    obtain ⟨p, rfl, hv⟩ := hs
    exact h.within p _ hv
  | tail _ hs ih =>
    obtain ⟨p, rfl, hv⟩ := hs
    obtain ⟨r, b, hu, hp⟩ := ih
    obtain ⟨r', b', hp', hv'⟩ := h.within p _ hv
    rw [hp] at hp'
    cases hp'
    exact ⟨r, b, hu, hv'⟩

/-- **Every node of a repository other than its root lies below the root.**

**Proof sketch.** Induction on the node from above: without cycles every way up ends. The node has
a parent in its repository, and this is the root or lies below it. -/
theorem reaches_of_root (h : Hierarchical place? E) {x : TopicId}
    (hroot : ∀ m, place? m = some ⟨r, true⟩ → m = .topic x) (hn : place? n = some ⟨r, false⟩) :
    Reaches E (.topic x) n := by
  induction n using h.acyclic.wellFounded.induction with
  | _ n ih =>
    obtain ⟨p, hp⟩ := h.exists_parent n r hn
    obtain ⟨r', b, hpp, hn'⟩ := h.within p n hp
    rw [hn] at hn'
    cases hn'
    have hstep : Step E (.topic p) n := step_topic_iff.2 hp
    cases b with
    | true =>
      rw [← hroot _ hpp]
      exact .single hstep
    | false => exact (ih (.topic p) (.single hstep) hpp).tail hstep

/-- A node that has no place touches no edge. -/
lemma not_mem_row_of_place_none (h : Hierarchical place? E) (hn : place? n = none) (p : TopicId) :
    n ∉ E.row p := by
  intro hp
  obtain ⟨r, b, -, hn'⟩ := h.within p n hp
  rw [hn] at hn'
  cases hn'

/-- No parent of a node is the node or lies below it. -/
lemma not_below_of_mem_row (h : Hierarchical place? E) {p : TopicId} (hp : n ∈ E.row p) :
    n ≠ .topic p ∧ ¬ Reaches E n (.topic p) := by
  constructor
  · rintro rfl
    exact h.acyclic.not_mem_row p hp
  · exact fun hr => h.acyclic n (hr.tail (step_topic_iff.2 hp))

/-- Nothing lies below a node that has no place. -/
lemma not_below_of_place_none (h : Hierarchical place? E) (hn : place? n = none) {p : TopicId}
    {v : Place} (hp : place? (.topic p) = some v) : n ≠ .topic p ∧ ¬ Reaches E n (.topic p) := by
  constructor
  · rintro rfl
    rw [hn] at hp
    cases hp
  · intro hr
    obtain ⟨r, b, hn', -⟩ := h.within_of_reaches hr
    rw [hn] at hn'
    cases hn'

/-- **A node gets other parents**, or its first ones if it is new: they have to be of its
repository, and none of them may be the node or lie below it.

**Proof sketch.** The new edges close no cycle by `Acyclic.of_new_parents`. The other edges keep
their ends, and the other nodes their parents. -/
theorem reparent (h : Hierarchical place? E) (hn : place? n = none ∨ place? n = some ⟨r, false⟩)
    {ps : SortedSet TopicId} (hne : ∃ p, p ∈ ps)
    (hplace : ∀ p ∈ ps, ∃ b, place? (.topic p) = some ⟨r, b⟩)
    (hbelow : ∀ p ∈ ps, n ≠ .topic p ∧ ¬ Reaches E n (.topic p)) :
    Hierarchical (Function.update place? n (some ⟨r, false⟩)) (E.setParents n ps) where
  acyclic := by
    refine h.acyclic.of_new_parents (n := n) (P := (· ∈ ps)) (fun p c hc => ?_) hbelow
    rcases SortedRel.mem_row_setParents.1 hc with hc | ⟨-, hc⟩
    · exact .inr hc
    · exact .inl hc
  within p c hc := by
    rcases SortedRel.mem_row_setParents.1 hc with ⟨rfl, hp⟩ | ⟨hcn, hc⟩
    · obtain ⟨b, hb⟩ := hplace p hp
      refine ⟨r, b, ?_, Function.update_self ..⟩
      rw [Function.update_of_ne (hbelow p hp).1.symm, hb]
    · obtain ⟨r', b, hp, hc'⟩ := h.within p c hc
      rw [Function.update_of_ne hcn]
      by_cases hpn : .topic p = n
      · subst hpn
        rcases hn with hn | hn <;> rw [hp] at hn <;> cases hn
        exact ⟨_, false, Function.update_self .., hc'⟩
      · exact ⟨r', b, by rw [Function.update_of_ne hpn, hp], hc'⟩
  exists_parent m r' hm := by
    by_cases hmn : m = n
    · obtain ⟨p, hp⟩ := hne
      exact ⟨p, SortedRel.mem_row_setParents.2 (.inl ⟨hmn, hp⟩)⟩
    · rw [Function.update_of_ne hmn] at hm
      obtain ⟨p, hp⟩ := h.exists_parent m r' hm
      exact ⟨p, SortedRel.mem_row_setParents.2 (.inr ⟨hmn, hp⟩)⟩

/-- A node gets more parents. If it is new, it has to get some. -/
lemma addParents (h : Hierarchical place? E) {ps : SortedSet TopicId}
    (hn : place? n = none ∧ (∃ p, p ∈ ps) ∨ place? n = some ⟨r, false⟩)
    (hplace : ∀ p ∈ ps, ∃ b, place? (.topic p) = some ⟨r, b⟩)
    (hbelow : ∀ p ∈ ps, n ≠ .topic p ∧ ¬ Reaches E n (.topic p)) :
    Hierarchical (Function.update place? n (some ⟨r, false⟩)) (E.withParents n ps.toList) := by
  rw [SortedRel.withParents_eq_setParents]
  apply h.reparent (hn.imp_left And.left)
  · rcases hn with ⟨-, p, hp⟩ | hn
    · exact ⟨p, SortedSet.mem_union.2 (.inr hp)⟩
    · obtain ⟨p, hp⟩ := h.exists_parent n r hn
      exact ⟨p, SortedSet.mem_union.2 (.inl (SortedRel.mem_column.2 hp))⟩
  · intro p hp
    rcases SortedSet.mem_union.1 hp with hp | hp
    · obtain ⟨r', b, hpp, hn'⟩ := h.within p n (SortedRel.mem_column.1 hp)
      rcases hn with ⟨hn, -⟩ | hn <;> rw [hn] at hn' <;> cases hn'
      exact ⟨b, hpp⟩
    · exact hplace p hp
  · intro p hp
    rcases SortedSet.mem_union.1 hp with hp | hp
    · exact h.not_below_of_mem_row (SortedRel.mem_column.1 hp)
    · exact hbelow p hp

/-- **A node goes**, and its children, if it has any, move to some of its parents.

**Proof sketch.** Each new edge shortens a path of two old ones. A child of the node gets a parent
of it as its own. -/
theorem cutOut (h : Hierarchical place? E) {P : TopicId → Prop} (hne : ∃ p, P p)
    (hP : ∀ p, P p → n ∈ E.row p)
    (hF : ∀ p c, c ∈ F.row p ↔ .topic p ≠ n ∧ c ≠ n ∧ (c ∈ E.row p ∨ P p ∧ Step E n c)) :
    Hierarchical (Function.update place? n none) F where
  acyclic := by
    refine h.acyclic.of_step_reaches fun u v ⟨p, hu, hv⟩ => ?_
    subst hu
    rcases ((hF p v).1 hv).2.2 with hv | ⟨hp, hs⟩
    · exact .single (step_topic_iff.2 hv)
    · exact .tail (.single (step_topic_iff.2 (hP p hp))) hs
  within p c hc := by
    obtain ⟨hpn, hcn, hc⟩ := (hF p c).1 hc
    rw [Function.update_of_ne hpn, Function.update_of_ne hcn]
    rcases hc with hc | ⟨hp, hs⟩
    · exact h.within p c hc
    · exact h.within_of_reaches (.tail (.single (step_topic_iff.2 (hP p hp))) hs)
  exists_parent m r hm := by
    have hmn : m ≠ n := by
      rintro rfl
      rw [Function.update_self] at hm
      cases hm
    rw [Function.update_of_ne hmn] at hm
    obtain ⟨p, hp⟩ := h.exists_parent m r hm
    by_cases hpn : .topic p = n
    · obtain ⟨q, hq⟩ := hne
      refine ⟨q, (hF q m).2 ⟨?_, hmn, .inr ⟨hq, hpn ▸ step_topic_iff.2 hp⟩⟩⟩
      rintro rfl
      exact h.acyclic.not_mem_row q (hP q hq)
    · exact ⟨p, (hF p m).2 ⟨hpn, hmn, .inl hp⟩⟩

/-- A new root changes no edge. -/
lemma addRoot (h : Hierarchical place? E) (hn : place? n = none) :
    Hierarchical (Function.update place? n (some ⟨r, true⟩)) E where
  acyclic := h.acyclic
  within p c hc := by
    obtain ⟨r', b, hp, hc'⟩ := h.within p c hc
    refine ⟨r', b, ?_, ?_⟩
    · rwa [Function.update_of_ne]
      rintro rfl
      rw [hn] at hp
      cases hp
    · rwa [Function.update_of_ne]
      rintro rfl
      exact h.not_mem_row_of_place_none hn p hc
  exists_parent m r' hm := by
    by_cases hmn : m = n
    · subst hmn
      rw [Function.update_self] at hm
      cases hm
    · rw [Function.update_of_ne hmn] at hm
      exact h.exists_parent m r' hm

end Hierarchical

/-! ### Repositories and their roots -/

/-- Each repository has the root that its row names, and no other, and what has a place in a
repository has it in a stored one. -/
structure Rooted (repositories : SortedMap RepositoryId Repository)
    (place? : Node → Option Place) : Prop where
  /-- The roots are those that the rows of the repositories name. -/
  root_iff : ∀ x r, place? (.topic x) = some ⟨r, true⟩ ↔
    ∃ row, repositories.get? r = some row ∧ row.rootTopic = x
  /-- The repository of a node is stored. -/
  owned : ∀ n r b, place? n = some ⟨r, b⟩ → ∃ row, repositories.get? r = some row

namespace Rooted

variable {repositories : SortedMap RepositoryId Repository} {place? : Node → Option Place}
  {n : Node}

/-- A node that is not a root may come, go, or move to another stored repository. -/
lemma update (h : Rooted repositories place?) (hn : ∀ r, place? n ≠ some ⟨r, true⟩)
    {v : Option Place}
    (hv : ∀ r b, v = some ⟨r, b⟩ → b = false ∧ ∃ row, repositories.get? r = some row) :
    Rooted repositories (Function.update place? n v) where
  root_iff x r := by
    rw [← h.root_iff]
    by_cases hx : .topic x = n
    · subst hx
      rw [Function.update_self]
      constructor
      · intro hvr
        exact absurd (hv r true hvr).1 (by decide)
      · exact fun hr => absurd hr (hn r)
    · rw [Function.update_of_ne hx]
  owned m r b hm := by
    by_cases hmn : m = n
    · subst hmn
      rw [Function.update_self] at hm
      exact (hv r b hm).2
    · rw [Function.update_of_ne hmn] at hm
      exact h.owned m r b hm

/-- A new repository comes with its root. -/
lemma create (h : Rooted repositories place?) {r : RepositoryId} {row : Repository}
    (hr : repositories.get? r = none) (hroot : place? (.topic row.rootTopic) = none) :
    Rooted (repositories.insert r row)
      (Function.update place? (.topic row.rootTopic) (some ⟨r, true⟩)) where
  root_iff x r' := by
    by_cases hx : x = row.rootTopic
    · subst hx
      rw [Function.update_self]
      constructor
      · rintro ⟨⟩
        exact ⟨row, SortedMap.get?_insert_self .., rfl⟩
      · rintro ⟨row', hrow', hroot'⟩
        by_cases hrr : r' = r
        · rw [hrr]
        · rw [SortedMap.get?_insert_ne _ _ hrr] at hrow'
          have hplace := (h.root_iff _ _).2 ⟨row', hrow', hroot'⟩
          rw [hroot] at hplace
          cases hplace
    · rw [Function.update_of_ne (fun e => hx (Node.topic.inj e)), h.root_iff]
      by_cases hrr : r' = r
      · subst hrr
        rw [SortedMap.get?_insert_self, hr]
        constructor
        · rintro ⟨_, ⟨⟩, -⟩
        · rintro ⟨_, ⟨⟩, hx'⟩
          exact absurd hx'.symm hx
      · rw [SortedMap.get?_insert_ne _ _ hrr]
  owned m r' b hm := by
    by_cases hrr : r' = r
    · exact ⟨row, by rw [hrr, SortedMap.get?_insert_self]⟩
    · rw [SortedMap.get?_insert_ne _ _ hrr]
      by_cases hmn : m = .topic row.rootTopic
      · subst hmn
        rw [Function.update_self] at hm
        cases hm
        exact absurd rfl hrr
      · rw [Function.update_of_ne hmn] at hm
        exact h.owned m r' b hm

end Rooted

/-! ### Coherent tables -/

namespace SortedMap

variable {κ ν : Type} [Ranked κ] {key : ν → κ} {m : SortedMap κ ν}

/-- Every value is stored under a key of its own. -/
def KeyedBy (m : SortedMap κ ν) (key : ν → κ) : Prop := ∀ k v, m.get? k = some v → key v = k

lemma KeyedBy.insert (h : m.KeyedBy key) {k : κ} {v : ν} (hv : key v = k) :
    (m.insert k v).KeyedBy key := by
  intro k' v' hv'
  by_cases hk : k' = k
  · subst hk
    rw [get?_insert_self] at hv'
    cases hv'
    exact hv
  · rw [get?_insert_ne _ _ hk] at hv'
    exact h k' v' hv'

lemma KeyedBy.erase (h : m.KeyedBy key) (k : κ) : (m.erase k).KeyedBy key := by
  intro k' v hv
  by_cases hk : k' = k
  · subst hk
    rw [get?_erase_self] at hv
    cases hv
  · rw [get?_erase_ne _ hk] at hv
    exact h k' v hv

/-- A value is in the map if it is stored under its own key. -/
lemma KeyedBy.mem_values_iff (h : m.KeyedBy key) {v : ν} :
    v ∈ m.values ↔ m.get? (key v) = some v := by
  rw [SortedMap.mem_values_iff]
  constructor
  · rintro ⟨k, hk⟩
    rw [h k v hk]
    exact hk
  · exact fun hv => ⟨key v, hv⟩

/-- No value is in the map twice. -/
lemma KeyedBy.nodup_values (h : m.KeyedBy key) : m.values.Nodup := by
  have hkeys : m.values.map key = m.entries.map (·.1) := by
    rw [values, List.map_map]
    exact List.map_congr_left fun e he => h e.1 e.2 (mem_entries_iff.1 he)
  have hnodup : (m.entries.map (·.1)).Nodup := m.sorted.imp fun hlt he =>
    absurd hlt (by rw [he]; exact Nat.lt_irrefl _)
  exact .of_map key (hkeys ▸ hnodup)

end SortedMap

namespace Tables

/-- The place of a node, if it is stored. -/
def place? (t : Tables) : Node → Option Place
  | .topic id => (t.topics.get? id).map fun row => ⟨row.repository, row.isRoot⟩
  | .link id => (t.links.get? id).map fun row => ⟨row.repository, false⟩

/-- Every row is stored under its own identifier. -/
structure Keyed (t : Tables) : Prop where
  /-- A repository is stored under its identifier. -/
  repositories : t.repositories.KeyedBy Repository.id
  /-- A topic is stored under its identifier. -/
  topics : t.topics.KeyedBy Topic.id
  /-- A link is stored under its identifier. -/
  links : t.links.KeyedBy Link.id

/-- The rows, the edges and the closure agree with each other. -/
structure Coherent (t : Tables) : Prop where
  /-- The closure belongs to the edges. -/
  exact : t.Exact
  /-- Rows are stored under their identifiers. -/
  keyed : t.Keyed
  /-- Each repository has its root. -/
  rooted : Rooted t.repositories t.place?
  /-- The edges make hierarchies of the stored nodes. -/
  hierarchical : Hierarchical t.place? t.edges

variable {t : Tables} {F : SortedRel TopicId Node}

lemma place?_topic_eq_some {id : TopicId} {r : RepositoryId} {b : Bool} :
    t.place? (.topic id) = some ⟨r, b⟩ ↔
      ∃ row, t.topics.get? id = some row ∧ row.repository = r ∧ row.isRoot = b := by
  simp [place?]

lemma place?_link_eq_some {id : LinkId} {r : RepositoryId} {b : Bool} :
    t.place? (.link id) = some ⟨r, b⟩ ↔
      ∃ row, t.links.get? id = some row ∧ row.repository = r ∧ b = false := by
  simp [place?, eq_comm]

/-- No link is a root. -/
lemma place?_link_ne_root (id : LinkId) (r : RepositoryId) :
    t.place? (.link id) ≠ some ⟨r, true⟩ := by
  intro h
  obtain ⟨-, -, -, ⟨⟩⟩ := place?_link_eq_some.1 h

/-- Nothing is stored, so nothing is wrong. -/
lemma coherent_empty : Coherent ∅ where
  exact a d := by
    constructor
    · exact fun h => absurd h (SortedRel.not_mem_row_empty a d)
    · rintro ⟨-, h⟩
      obtain ⟨c, hc, -⟩ := h.exists_child
      exact absurd hc (SortedRel.not_mem_row_empty a c)
  keyed :=
    { repositories := fun _ _ h => nomatch h
      topics := fun _ _ h => nomatch h
      links := fun _ _ h => nomatch h }
  rooted :=
    { root_iff := fun _ _ => ⟨fun h => (nomatch h), fun ⟨_, h, _⟩ => (nomatch h)⟩
      owned := fun n _ _ h => by cases n <;> cases h }
  hierarchical :=
    { acyclic := fun n h => by
        obtain ⟨p, hp, -⟩ := h.exists_parent
        exact absurd hp (SortedRel.not_mem_row_empty p n)
      within := fun p c h => absurd h (SortedRel.not_mem_row_empty p c)
      exists_parent := fun n _ h => by cases n <;> cases h }

/-! ### Places after a change of the rows -/

lemma place?_insertTopic (t : Tables) (id : TopicId) (row : Topic) :
    place? { t with topics := t.topics.insert id row } =
      Function.update t.place? (.topic id) (some ⟨row.repository, row.isRoot⟩) := by
  refine Function.eq_update_iff.2 ⟨by simp [place?], fun m hm => ?_⟩
  cases m with
  | topic a => simp only [place?, SortedMap.get?_insert_ne _ _ fun e => hm (congrArg _ e)]
  | link l => rfl

lemma place?_eraseTopic (t : Tables) (id : TopicId) :
    place? { t with topics := t.topics.erase id } = Function.update t.place? (.topic id) none := by
  refine Function.eq_update_iff.2 ⟨by simp [place?], fun m hm => ?_⟩
  cases m with
  | topic a => simp only [place?, SortedMap.get?_erase_ne _ fun e => hm (congrArg _ e)]
  | link l => rfl

lemma place?_insertLink (t : Tables) (id : LinkId) (row : Link) :
    place? { t with links := t.links.insert id row } =
      Function.update t.place? (.link id) (some ⟨row.repository, false⟩) := by
  refine Function.eq_update_iff.2 ⟨by simp [place?], fun m hm => ?_⟩
  cases m with
  | topic a => rfl
  | link l => simp only [place?, SortedMap.get?_insert_ne _ _ fun e => hm (congrArg _ e)]

lemma place?_eraseLink (t : Tables) (id : LinkId) :
    place? { t with links := t.links.erase id } = Function.update t.place? (.link id) none := by
  refine Function.eq_update_iff.2 ⟨by simp [place?], fun m hm => ?_⟩
  cases m with
  | topic a => rfl
  | link l => simp only [place?, SortedMap.get?_erase_ne _ fun e => hm (congrArg _ e)]

/-! ### Changes that keep tables coherent -/

namespace Coherent

/-- A node that is not a root comes, goes or moves, with edges that make hierarchies of the nodes
that there are then. -/
lemma rearrange (h : t.Coherent) {u : Tables} {n : Node} {v : Option Place}
    (hplace : u.place? = Function.update t.place? n v)
    (hrepositories : u.repositories = t.repositories) (hkeyed : u.Keyed)
    (hn : ∀ r, t.place? n ≠ some ⟨r, true⟩)
    (hv : ∀ r b, v = some ⟨r, b⟩ → b = false ∧ ∃ row, t.repositories.get? r = some row)
    (hF : Hierarchical (Function.update t.place? n v) F) : (u.withEdges F).Coherent where
  exact := exact_withEdges u F
  keyed := ⟨hkeyed.repositories, hkeyed.topics, hkeyed.links⟩
  rooted := by
    have hrooted := h.rooted.update hn hv
    rw [← hplace, ← hrepositories] at hrooted
    exact hrooted
  hierarchical := by
    rw [← hplace] at hF
    exact hF

/-- A node that is not a root gets other parents in its repository, none of which is the node or
lies below it. -/
lemma setParents (h : t.Coherent) {n : Node} {r : RepositoryId}
    (hn : t.place? n = some ⟨r, false⟩) {ps : SortedSet TopicId} (hne : ∃ p, p ∈ ps)
    (hplace : ∀ p ∈ ps, ∃ b, t.place? (.topic p) = some ⟨r, b⟩)
    (hbelow : ∀ p ∈ ps, n ≠ .topic p ∧ ¬ Reaches t.edges n (.topic p)) :
    (t.withEdges (t.edges.setParents n ps)).Coherent := by
  have hedges := h.hierarchical.reparent (.inr hn) hne hplace hbelow
  rw [← hn, Function.update_eq_self] at hedges
  exact
    { exact := exact_withEdges t _
      keyed := ⟨h.keyed.repositories, h.keyed.topics, h.keyed.links⟩
      rooted := h.rooted
      hierarchical := hedges }

/-- A new topic that is not a root, with edges that make hierarchies of it too. -/
lemma addTopic (h : t.Coherent) (row : Topic) (hnew : t.topics.get? row.id = none)
    (hroot : row.isRoot = false) {owner : Repository}
    (howner : t.repositories.get? row.repository = some owner)
    (hF : Hierarchical
      (Function.update t.place? (.topic row.id) (some ⟨row.repository, false⟩)) F) :
    (Tables.withEdges { t with topics := t.topics.insert row.id row } F).Coherent := by
  have hplace := place?_insertTopic t row.id row
  rw [hroot] at hplace
  apply h.rearrange hplace rfl ⟨h.keyed.repositories, h.keyed.topics.insert rfl, h.keyed.links⟩
  · intro r
    simp [place?, hnew]
  · rintro _ _ ⟨⟩
    exact ⟨rfl, owner, howner⟩
  · exact hF

/-- A new link, with edges that make hierarchies of it too. -/
lemma addLink (h : t.Coherent) (row : Link) {owner : Repository}
    (howner : t.repositories.get? row.repository = some owner)
    (hF : Hierarchical
      (Function.update t.place? (.link row.id) (some ⟨row.repository, false⟩)) F) :
    (Tables.withEdges { t with links := t.links.insert row.id row } F).Coherent := by
  apply h.rearrange (place?_insertLink t row.id row) rfl
    ⟨h.keyed.repositories, h.keyed.topics, h.keyed.links.insert rfl⟩ (place?_link_ne_root row.id)
  · rintro _ _ ⟨⟩
    exact ⟨rfl, owner, howner⟩
  · exact hF

/-- A topic that is not a root goes, with edges that make hierarchies of the others. -/
lemma removeTopic (h : t.Coherent) {x : TopicId} {row : Topic} (hx : t.topics.get? x = some row)
    (hroot : row.isRoot = false)
    (hF : Hierarchical (Function.update t.place? (.topic x) none) F) :
    (Tables.withEdges { t with topics := t.topics.erase x } F).Coherent := by
  apply h.rearrange (place?_eraseTopic t x) rfl
    ⟨h.keyed.repositories, h.keyed.topics.erase x, h.keyed.links⟩
  · intro r
    simp [place?, hx, hroot]
  · rintro _ _ ⟨⟩
  · exact hF

/-- A link goes, with edges that make hierarchies of the other nodes. -/
lemma removeLink (h : t.Coherent) {l : LinkId}
    (hF : Hierarchical (Function.update t.place? (.link l) none) F) :
    (Tables.withEdges { t with links := t.links.erase l } F).Coherent := by
  apply h.rearrange (place?_eraseLink t l) rfl
    ⟨h.keyed.repositories, h.keyed.topics, h.keyed.links.erase l⟩ (place?_link_ne_root l)
  · rintro _ _ ⟨⟩
  · exact hF

/-- A topic stays where it is, and the rest of its row changes. -/
lemma setTopic (h : t.Coherent) (row : Topic)
    (hplace : t.place? (.topic row.id) = some ⟨row.repository, row.isRoot⟩) :
    Coherent { t with topics := t.topics.insert row.id row } := by
  have hsame := place?_insertTopic t row.id row
  rw [← hplace, Function.update_eq_self] at hsame
  exact
    { exact := h.exact
      keyed := ⟨h.keyed.repositories, h.keyed.topics.insert rfl, h.keyed.links⟩
      rooted := hsame.symm ▸ h.rooted
      hierarchical := hsame.symm ▸ h.hierarchical }

/-- A new repository comes with its root. -/
lemma addRepository (h : t.Coherent) (owner : Repository) (root : Topic)
    (hnew : t.repositories.get? owner.id = none) (hnewRoot : t.topics.get? root.id = none)
    (hid : owner.rootTopic = root.id) (howner : root.repository = owner.id)
    (hroot : root.isRoot = true) :
    Coherent { t with
      repositories := t.repositories.insert owner.id owner
      topics := t.topics.insert root.id root } := by
  have hnone : t.place? (.topic root.id) = none := by simp [place?, hnewRoot]
  have hplace := place?_insertTopic { t with
    repositories := t.repositories.insert owner.id owner } root.id root
  have hrooted := h.rooted.create hnew (hid ▸ hnone)
  rw [hroot, howner] at hplace
  rw [hid] at hrooted
  exact
    { exact := h.exact
      keyed := ⟨h.keyed.repositories.insert rfl, h.keyed.topics.insert rfl, h.keyed.links⟩
      rooted := hplace.symm ▸ hrooted
      hierarchical := hplace.symm ▸ h.hierarchical.addRoot hnone }

end Coherent

end Tables

end Polyhierarchy

import Polyhierarchy.Proofs.Searching

set_option relaxedAutoImplicit false
set_option autoImplicit false

/-!
# What a move settles

A topic that is moved gets those of the parents asked for that are not the topic and do not lie
below it. The guard reads the closure as the parents taken so far have left it, and parents that the
topic has already are not shown to the guard. Neither matters: a parent that closes no cycle changes
nothing below the topic, and a parent that the topic has lies above it. So what a move settles is a
function of the set of parents asked for and of what lies below the topic.

## Main definitions

* `Tables.SameButParents` — two tables differ in the parents of one node only.
* `Tables.refused` — the topics that are refused as parents, in order.

## Main results

* `Tables.Coherent.enumerates_refused` — those are refused that lie within the topic.
* `Tables.SameButParents.moved_eq` — tables that differ in the parents of a topic become the same
  when the topic is moved.
* `Memory.settles_updateParents_of_same` — neither the order of a request nor the parents that the
  topic had make a difference.
* `Memory.Reachable.parents_replaced` — what a move settles after every history.
-/

namespace Polyhierarchy

open Reachability

namespace Tables

variable {t u : Tables} {n : Node} {x : TopicId} {ids : List TopicId}

/-- Two tables hold the same rows and the same edges, but for the edges to one node. -/
structure SameButParents (n : Node) (t u : Tables) : Prop where
  /-- The repositories are the same. -/
  repositories : u.repositories = t.repositories
  /-- The topics are the same. -/
  topics : u.topics = t.topics
  /-- The links are the same. -/
  links : u.links = t.links
  /-- The edges to all other nodes are the same. -/
  edges : ∀ p c, c ≠ n → (c ∈ u.edges.row p ↔ c ∈ t.edges.row p)

/-! ### Who is refused -/

/-- The topics that are refused as parents of a topic, in the order of their identifiers. -/
def refused (t : Tables) (x : TopicId) (ids : List TopicId) : List Topic :=
  (t.topicsOf (SortedSet.ofList ids).toList).filter fun p => t.closesCycle x p.id

/-- A topic would close a cycle as a parent if it lies within the other one. -/
lemma Exact.closesCycle_iff_within (h : t.Exact) {p : TopicId} :
    t.closesCycle x p = true ↔ Within t.edges x (.topic p) := by
  rw [h.closesCycle_iff, Within, eq_comm]

/-- Those are accepted that are asked for and do not lie within the topic. -/
lemma Exact.mem_acceptedParents (h : t.Exact) {p : TopicId} :
    p ∈ t.acceptedParents x ids ↔ p ∈ ids ∧ ¬ Within t.edges x (.topic p) := by
  rw [acceptedParents, SortedSet.mem_filter, SortedSet.mem_ofList, Bool.not_eq_true',
    ← Bool.not_eq_true, h.closesCycle_iff_within]

/-- **Those are refused that are asked for and lie within the topic**, each once and in the order of
their identifiers, if all that are asked for are topics of one repository. -/
theorem Coherent.enumerates_refused (h : t.Coherent) {r : RepositoryId}
    (hids : ∀ p ∈ ids, t.IsTopicOf r p) :
    Enumerates (fun a b : Topic => rank a.id < rank b.id)
      (fun p => t.topics.get? p.id = some p ∧ p.id ∈ ids ∧ Within t.edges x (.topic p.id))
      (t.refused x ids) := by
  have hids' : ∀ p ∈ SortedSet.ofList ids, t.IsTopicOf r p :=
    fun p hp => hids p (SortedSet.mem_ofList.1 hp)
  have hordered : (t.refused x ids).Pairwise fun a b => rank a.id < rank b.id := by
    have hsorted := (SortedSet.ofList ids).sorted
    rw [← h.keyed.topicsOf_ids hids', List.pairwise_map] at hsorted
    exact hsorted.filter _
  refine ⟨hordered, hordered.imp fun hlt heq => ?_, fun p => ?_⟩
  · rw [heq] at hlt
    exact Nat.lt_irrefl _ hlt
  · rw [refused, List.mem_filter, mem_topicsOf, h.exact.closesCycle_iff_within]
    constructor
    · rintro ⟨⟨id, hid, hp⟩, hwithin⟩
      obtain rfl : p.id = id := h.keyed.topics id p hp
      exact ⟨hp, SortedSet.mem_ofList.1 hid, hwithin⟩
    · rintro ⟨hp, hid, hwithin⟩
      exact ⟨⟨p.id, SortedSet.mem_ofList.2 hid, hp⟩, hwithin⟩

/-! ### Other parents before the move -/

namespace SameButParents

lemma refl (n : Node) (t : Tables) : SameButParents n t t := ⟨rfl, rfl, rfl, fun _ _ _ => Iff.rfl⟩

/-- Below a topic nothing depends on its parents, so neither do the verdicts of the guard. -/
lemma closesCycle_eq (hsame : SameButParents (.topic x) t u) (h : t.Coherent) (h' : u.Coherent)
    (p : TopicId) : u.closesCycle x p = t.closesCycle x p := by
  rw [Bool.eq_iff_iff, h.exact.closesCycle_iff, h'.exact.closesCycle_iff]
  refine or_congr_right ⟨fun hr => ?_, fun hr => ?_⟩
  · exact h'.hierarchical.acyclic.reaches_of_other_parents
      (fun a c hc => (hsame.edges a c hc).1) hr
  · exact h.hierarchical.acyclic.reaches_of_other_parents
      (fun a c hc => (hsame.edges a c hc).2) hr

/-- The same topics are accepted and refused, whatever parents the topic has, and in whatever order
and however often they are asked for. -/
lemma verdicts_eq (hsame : SameButParents (.topic x) t u) (h : t.Coherent) (h' : u.Coherent)
    {ids' : List TopicId} (hids : ∀ p, p ∈ ids' ↔ p ∈ ids) :
    u.acceptedParents x ids' = t.acceptedParents x ids ∧ u.refused x ids' = t.refused x ids := by
  have hset : SortedSet.ofList ids' = SortedSet.ofList ids := by
    ext p
    rw [SortedSet.mem_ofList, SortedSet.mem_ofList, hids]
  have hverdict : u.closesCycle x = t.closesCycle x := funext (hsame.closesCycle_eq h h')
  rw [acceptedParents, refused, topicsOf, hset, hverdict, hsame.topics]
  exact ⟨rfl, rfl⟩

/-- Tables that differ in the parents of a node become the same once it gets the same parents. -/
lemma moved_eq (hsame : SameButParents n t u) (ps : SortedSet TopicId) :
    u.withEdges (u.edges.setParents n ps) = t.withEdges (t.edges.setParents n ps) := by
  have hedges : u.edges.setParents n ps = t.edges.setParents n ps := by
    ext p c
    rw [SortedRel.mem_row_setParents, SortedRel.mem_row_setParents]
    exact or_congr_right (and_congr_right (hsame.edges p c))
  rw [hedges, withEdges, withEdges, hsame.repositories, hsame.topics, hsame.links]

end SameButParents

/-- A node that gets other parents gets just these, and nothing else changes. -/
lemma sameButParents_setParents (t : Tables) (n : Node) (ps : SortedSet TopicId) :
    t.SameButParents n (t.withEdges (t.edges.setParents n ps)) where
  repositories := rfl
  topics := rfl
  links := rfl
  edges p c hc := by
    rw [withEdges_edges, SortedRel.mem_row_setParents]
    tauto

end Tables

/-! ### What is settled -/

namespace Memory

/-- What a move settles, in terms of the guard. -/
lemma settles_updateParents {mem : Memory} (h : mem.tables.Coherent) {x : TopicId} {row : Topic}
    (hrow : mem.tables.topics.get? x = some row) (hroot : row.isRoot = false)
    {ids : List TopicId} (hids : ∀ p ∈ ids, mem.tables.IsTopicOf row.repository p) :
    let accepted := mem.tables.acceptedParents x ids
    let alerts := (mem.tables.refused x ids).map fun p => Alert.cycle row.name p.name
    ((∃ p, p ∈ accepted) → mem.Settles (Operation.updateParents x ids) ⟨row, alerts⟩
      (mem.tables.withEdges (mem.tables.edges.setParents (.topic x) accepted))
      (mem.version + 1)) ∧
    ((∀ p, p ∉ accepted) → mem.Settles (Operation.updateParents x ids)
      ⟨row, alerts ++ [.parentsUnchanged row.name]⟩ mem.tables mem.version) := by
  obtain rfl : row.id = x := h.keyed.topics x row hrow
  intro accepted alerts
  constructor
  · intro hne
    refine settles_of_commit fun titles s => ⟨s, ?_⟩
    rw [Operation.on_updateParents h hrow hroot hids, SortedSet.isEmpty_eq_false_iff.2 hne]
    rfl
  · intro hnone
    refine settles_of_discard fun titles s => ⟨mem.tables, s, ?_⟩
    have hempty : accepted.isEmpty = true := by
      rw [← Bool.not_eq_false, SortedSet.isEmpty_eq_false_iff, not_exists]
      exact hnone
    rw [Operation.on_updateParents h hrow hroot hids, if_pos hempty]
    rfl

/-- In a state that differs in the parents of the topic only, a move to the same parents settles the
same. -/
lemma settles_updateParents_of_same {mem mem' : Memory} (h : mem.tables.Coherent)
    (h' : mem'.tables.Coherent) {x : TopicId} {row : Topic}
    (hsame : mem.tables.SameButParents (.topic x) mem'.tables)
    (hrow : mem.tables.topics.get? x = some row) (hroot : row.isRoot = false)
    {ids ids' : List TopicId} (hids : ∀ p ∈ ids, mem.tables.IsTopicOf row.repository p)
    (hids' : ∀ p, p ∈ ids' ↔ p ∈ ids) :
    let accepted := mem.tables.acceptedParents x ids
    let alerts := (mem.tables.refused x ids).map fun p => Alert.cycle row.name p.name
    ((∃ p, p ∈ accepted) → mem'.Settles (Operation.updateParents x ids') ⟨row, alerts⟩
      (mem.tables.withEdges (mem.tables.edges.setParents (.topic x) accepted))
      (mem'.version + 1)) ∧
    ((∀ p, p ∉ accepted) → mem'.Settles (Operation.updateParents x ids')
      ⟨row, alerts ++ [.parentsUnchanged row.name]⟩ mem'.tables mem'.version) := by
  intro accepted alerts
  have hrow' : mem'.tables.topics.get? x = some row := by rw [hsame.topics, hrow]
  have htopics' : ∀ p ∈ ids', mem'.tables.IsTopicOf row.repository p := by
    intro p hp
    rw [Tables.IsTopicOf, hsame.topics]
    exact hids p ((hids' p).1 hp)
  obtain ⟨haccepted, hrefused⟩ := hsame.verdicts_eq h h' hids'
  have hsettles := settles_updateParents h' hrow' hroot htopics'
  rw [haccepted, hrefused] at hsettles
  rw [← hsame.moved_eq]
  exact hsettles

/-- **What a move settles after every history.** Let a topic that is not a root be asked to move
below some topics of its repository. Those of them that are the topic or lie below it are refused,
each with an alert, in the order of their identifiers. If any are left, the topic gets just these as
parents and all else stays as it was; otherwise nothing is committed, and there is one more alert.
Neither the order of the request nor the parents that the topic had before make a difference. -/
theorem Reachable.parents_replaced {mem : Memory} (h : mem.Reachable) {x : TopicId} {row : Topic}
    (hrow : mem.tables.topics.get? x = some row) (hroot : row.isRoot = false)
    {ids : List TopicId} (hids : ∀ p ∈ ids, mem.tables.IsTopicOf row.repository p) :
    ∃ refused : List Topic,
      Enumerates (fun a b : Topic => rank a.id < rank b.id)
        (fun p => mem.tables.topics.get? p.id = some p ∧ p.id ∈ ids ∧
          Within mem.tables.edges x (.topic p.id)) refused ∧
      let alerts := refused.map fun p => Alert.cycle row.name p.name
      ((∃ p ∈ ids, ¬ Within mem.tables.edges x (.topic p)) → ∃ t : Tables,
        mem.Settles (Operation.updateParents x ids) ⟨row, alerts⟩ t (mem.version + 1) ∧
        (∀ p, .topic x ∈ t.edges.row p ↔ p ∈ ids ∧ ¬ Within mem.tables.edges x (.topic p)) ∧
        mem.tables.SameButParents (.topic x) t ∧ t.Exact ∧
        ∀ (mem' : Memory) (ids' : List TopicId), mem'.Reachable →
          mem.tables.SameButParents (.topic x) mem'.tables → (∀ p, p ∈ ids' ↔ p ∈ ids) →
            mem'.Settles (Operation.updateParents x ids') ⟨row, alerts⟩ t (mem'.version + 1)) ∧
      ((∀ p ∈ ids, Within mem.tables.edges x (.topic p)) →
        mem.Settles (Operation.updateParents x ids)
          ⟨row, alerts ++ [.parentsUnchanged row.name]⟩ mem.tables mem.version ∧
        ∀ (mem' : Memory) (ids' : List TopicId), mem'.Reachable →
          mem.tables.SameButParents (.topic x) mem'.tables → (∀ p, p ∈ ids' ↔ p ∈ ids) →
            mem'.Settles (Operation.updateParents x ids')
              ⟨row, alerts ++ [.parentsUnchanged row.name]⟩ mem'.tables mem'.version) := by
  have hc := h.coherent
  -- the request itself is the case of the same state and the same list
  have hall := fun (mem' : Memory) (ids' : List TopicId) (h' : mem'.Reachable)
      (hsame : mem.tables.SameButParents (.topic x) mem'.tables)
      (hids' : ∀ p, p ∈ ids' ↔ p ∈ ids) =>
    settles_updateParents_of_same hc h'.coherent hsame hrow hroot hids hids'
  have hself := hall mem ids h (.refl _ _) fun _ => Iff.rfl
  refine ⟨mem.tables.refused x ids, hc.enumerates_refused hids, fun hfree => ?_, fun hwithin => ?_⟩
  · obtain ⟨p, hp, hout⟩ := hfree
    have haccepted : ∃ p, p ∈ mem.tables.acceptedParents x ids :=
      ⟨p, hc.exact.mem_acceptedParents.2 ⟨hp, hout⟩⟩
    refine ⟨_, hself.1 haccepted, fun q => ?_, mem.tables.sameButParents_setParents _ _,
      mem.tables.exact_withEdges _,
      fun mem' ids' h' hsame hids' => (hall mem' ids' h' hsame hids').1 haccepted⟩
    rw [Tables.withEdges_edges, SortedRel.mem_row_setParents, hc.exact.mem_acceptedParents]
    tauto
  · have hnone : ∀ p, p ∉ mem.tables.acceptedParents x ids := by
      intro p hp
      obtain ⟨hmem, hout⟩ := hc.exact.mem_acceptedParents.1 hp
      exact hout (hwithin p hmem)
    exact ⟨hself.2 hnone,
      fun mem' ids' h' hsame hids' => (hall mem' ids' h' hsame hids').2 hnone⟩

/-- In the chain, the second topic below the root is asked to move below the root and itself: it
gets the root as its only parent, and is refused itself. -/
theorem parents_replaced_chain : ∃ (row : Topic) (t : Tables),
    chain.tables.topics.get? ⟨⟨3⟩⟩ = some row ∧
    chain.Settles (Operation.updateParents ⟨⟨3⟩⟩ [⟨⟨1⟩⟩, ⟨⟨3⟩⟩, ⟨⟨1⟩⟩])
      ⟨row, [.cycle row.name row.name]⟩ t (chain.version + 1) ∧
    ∀ p, .topic ⟨⟨3⟩⟩ ∈ t.edges.row p ↔ p = ⟨⟨1⟩⟩ := by
  have hplace : (chain.tables.topics.get? ⟨⟨3⟩⟩).map (fun row => (row.repository, row.isRoot)) =
      some (⟨⟨1⟩⟩, false) := by decide +kernel
  obtain ⟨row, hrow, heq⟩ := Option.map_eq_some_iff.1 hplace
  obtain ⟨hrepo, hroot⟩ := Prod.mk.inj heq
  have hid : row.id = ⟨⟨3⟩⟩ := reachable_chain.coherent.keyed.topics _ row hrow
  have hids : ∀ p ∈ [(⟨⟨1⟩⟩ : TopicId), ⟨⟨3⟩⟩, ⟨⟨1⟩⟩], chain.tables.IsTopicOf row.repository p := by
    have hstored : ∀ p ∈ [(⟨⟨1⟩⟩ : TopicId), ⟨⟨3⟩⟩, ⟨⟨1⟩⟩],
        (chain.tables.topics.get? p).map Topic.repository = some ⟨⟨1⟩⟩ := by decide +kernel
    rw [hrepo]
    exact fun p hp => Option.map_eq_some_iff.1 (hstored p hp)
  have hasked : ∀ p : TopicId, p ∈ [(⟨⟨1⟩⟩ : TopicId), ⟨⟨3⟩⟩, ⟨⟨1⟩⟩] ↔ p = ⟨⟨1⟩⟩ ∨ p = ⟨⟨3⟩⟩ := by
    intro p
    simp only [List.mem_cons, List.not_mem_nil, or_false]
    tauto
  have hfree : ¬ Within chain.tables.edges ⟨⟨3⟩⟩ (.topic ⟨⟨1⟩⟩) := by
    rw [← reachable_chain.coherent.exact.isWithin_iff]
    decide +kernel
  obtain ⟨refused, henum, hmoves, -⟩ := reachable_chain.parents_replaced hrow hroot hids
  have hrefused : refused = [row] := by
    rw [← List.perm_singleton, List.perm_ext_iff_of_nodup henum.nodup (List.nodup_singleton row)]
    intro p
    rw [henum.mem_iff, hasked, List.mem_singleton]
    constructor
    · rintro ⟨hp, h1 | h3, hwithin⟩
      · exact absurd (h1 ▸ hwithin) hfree
      · rw [h3, hrow] at hp
        exact (Option.some.inj hp).symm
    · rintro rfl
      exact ⟨hid ▸ hrow, .inr hid, .inl (congrArg Node.topic hid)⟩
  obtain ⟨t, hsettles, hparents, -⟩ := hmoves ⟨⟨⟨1⟩⟩, (hasked _).2 (.inl rfl), hfree⟩
  rw [hrefused] at hsettles
  refine ⟨row, t, hrow, hsettles, fun p => ?_⟩
  rw [hparents, hasked]
  constructor
  · rintro ⟨h1 | rfl, hout⟩
    · exact h1
    · exact absurd (.inl rfl) hout
  · rintro rfl
    exact ⟨.inl rfl, hfree⟩

end Memory

end Polyhierarchy

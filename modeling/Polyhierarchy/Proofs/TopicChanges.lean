import Polyhierarchy.Operation.Topics
import Polyhierarchy.Proofs.Lookups

set_option relaxedAutoImplicit false
set_option autoImplicit false

/-!
# What the operations on topics commit

For each operation, the tables that it commits are given by the tables that its session began with.
They are coherent again. Most operations add no edge but along existing paths, or to a node that
nothing lies below yet; only a move may close a cycle, and consults the guard.

## Main definitions

* `Tables.closesCycle` — whether a topic would close a cycle as a parent of another one.

## Main results

* `Operation.on_offerParents` — the parents that a topic gets, and the alerts for the others.
* `Operation.on_updateParents`, `Operation.on_mergeTopic` — what a move and a merge come to.
* `Operation.createRepository_commits`, `Operation.upsertTopic_commits`,
  `Operation.updateParents_commits`, `Operation.deleteTopic_commits`,
  `Operation.mergeTopic_commits`, `Operation.saveRenamed_commits`,
  `Operation.updateSynonyms_commits`, `Operation.changeTimeRange_commits` — what is committed, and
  when.
* `Operation.updateParents_coherent` and its like for each operation — the tables stay coherent.
-/

namespace Polyhierarchy

open Program Reachability

/-! ### The guard -/

namespace Tables

variable {t : Tables}

/-- Whether a topic would close a cycle as a parent of another one, as the closure has it. -/
def closesCycle (t : Tables) (x p : TopicId) : Bool :=
  decide (x = p) || t.closure.holds x (.topic p)

/-- Those of some topics that would close no cycle as parents of another one. -/
def acceptedParents (t : Tables) (x : TopicId) (ids : List TopicId) : SortedSet TopicId :=
  (SortedSet.ofList ids).filter fun p => !t.closesCycle x p

/-- The alerts for the other ones. -/
def refusals (t : Tables) (row : Topic) (ids : List TopicId) : List Alert :=
  ((t.topicsOf (SortedSet.ofList ids).toList).filter fun p => t.closesCycle row.id p.id).map
    fun p => .cycle row.name p.name

/-- Where the closure is exact, a topic would close a cycle if it is the other one or lies below
it. -/
lemma Exact.closesCycle_iff (h : t.Exact) {x p : TopicId} :
    t.closesCycle x p = true ↔
      Node.topic x = .topic p ∨ Reaches t.edges (.topic x) (.topic p) := by
  rw [closesCycle, Bool.or_eq_true, decide_eq_true_iff, SortedRel.holds_iff, h x]
  by_cases hxp : x = p
  · simp [hxp]
  · have hne : Node.topic p ≠ .topic x := fun e => hxp (Node.topic.inj e).symm
    simp [hxp, hne]

end Tables

namespace Operation

variable {t t' : Tables} {τ : Type} {titles : TitleSource τ} {s s' : τ}

lemma on_check (row parent : Topic) :
    (CycleGuard.check row parent).on t =
      (.ok (if t.closesCycle row.id parent.id then some (.cycle row.name parent.name) else none),
        t) := by
  by_cases hid : row.id = parent.id
  · simp [CycleGuard.check, CycleGuard.wouldCreateCycle, Tables.closesCycle, hid]
  · simp [CycleGuard.check, CycleGuard.wouldCreateCycle, Tables.closesCycle, hid,
      Reachability.stored, Memory.reply, Memory.answer, SortedRel.holds]

lemma on_addParents (h : t.Exact) (c : Node) (ps : List TopicId) :
    (addParents c ps).on t = (.ok (), t.withEdges (t.edges.withParents c ps)) :=
  Closure.on_forEach_withEdges (fun p t ht => by
    rw [on_bind, Closure.on_addEdge ht]
    rfl) h ps

lemma on_removeParents (h : t.Exact) (c : Node) (ps : SortedSet TopicId) :
    (removeParents c ps).on t = (.ok (), t.withEdges (t.edges.withoutParents c ps.toList)) :=
  Closure.on_forEach_withEdges (fun p t ht => by
    rw [on_bind, Closure.on_removeEdge ht]
    rfl) h ps.toList

/-- A parent that is added closes no cycle, so whether another one would is not changed by it. -/
lemma closesCycle_withParent (h : t.Exact) {x p : TopicId} (hp : t.closesCycle x p = false)
    (q : TopicId) :
    (t.withEdges (t.edges.insert p (.topic x))).closesCycle x q = t.closesCycle x q := by
  have hiff : Reaches t.edges (.topic x) (.topic q) ↔
      Reaches (t.edges.insert p (.topic x)) (.topic x) (.topic q) := by
    refine reaches_iff_of_new_parents (P := (· = p)) (n := .topic x) (fun a c => ?_) ?_
    · rw [SortedRel.mem_row_insert]
      tauto
    · rintro _ rfl
      rw [← Bool.not_eq_true, h.closesCycle_iff, not_or] at hp
      exact hp
  rw [Bool.eq_iff_iff, h.closesCycle_iff, (Tables.exact_withEdges t _).closesCycle_iff, hiff]
  rfl

/-- **What a topic gets of the parents that it is offered**: all those that close no cycle, with an
alert for each of the others. The order of the offers does not matter for who is refused.

**Proof sketch.** Induction on the offers. A parent that was one before is kept, and closes no
cycle. Adding one that closes none changes nothing below the topic, so the offers that are left are
judged as they would have been at the beginning. -/
theorem on_offerParents {row : Topic} {current : SortedSet TopicId} (rows : List Topic)
    (h : t.Exact) (hcur : ∀ p ∈ current,
      .topic row.id ∈ t.edges.row p ∧ t.closesCycle row.id p = false) :
    (offerParents row current rows).on t =
      (.ok (SortedSet.ofList ((rows.filter fun p => !t.closesCycle row.id p.id).map (·.id)),
          (rows.filter fun p => t.closesCycle row.id p.id).map fun p => .cycle row.name p.name),
        t.withEdges (t.edges.withParents (.topic row.id)
          ((rows.filter fun p => !t.closesCycle row.id p.id).map (·.id)))) := by
  have hofList : ∀ (p : TopicId) (l : List TopicId),
      (SortedSet.ofList l).insert p = SortedSet.ofList (p :: l) := by
    intro p l
    ext q
    rw [SortedSet.mem_insert, SortedSet.mem_ofList, SortedSet.mem_ofList, List.mem_cons]
  induction rows generalizing t with
  | nil => exact Prod.ext rfl h.withEdges_self.symm
  | cons p rows ih =>
    cases hp : t.closesCycle row.id p.id with
    | true =>
      have hnew : p.id ∉ current := by
        intro hmem
        rw [(hcur p.id hmem).2] at hp
        cases hp
      simp [offerParents, hnew, on_check, hp, ih h hcur]
    | false =>
      by_cases hold : p.id ∈ current
      · have hsame := SortedRel.insert_of_mem (hcur p.id hold).1
        simp [offerParents, hold, hp, ih h hcur, hofList, SortedRel.withParents, hsame]
      · have hcur' : ∀ q ∈ current,
            .topic row.id ∈ (t.withEdges (t.edges.insert p.id (.topic row.id))).edges.row q ∧
              (t.withEdges (t.edges.insert p.id (.topic row.id))).closesCycle row.id q = false := by
          intro q hq
          rw [closesCycle_withParent h hp]
          exact ⟨SortedRel.mem_row_insert.2 (.inr (hcur q hq).1), (hcur q hq).2⟩
        have hrest := ih (Tables.exact_withEdges t _) hcur'
        rw [Tables.withEdges_withEdges] at hrest
        simp [offerParents, hold, on_check, hp, Closure.on_addEdge h, hrest,
          closesCycle_withParent h hp, hofList, SortedRel.withParents]

/-! ### Look-ups and removal -/

lemma on_movableTopic_eq_ok {id : TopicId} {attempt : String} {row : Topic} :
    (movableTopic id attempt).on t = (.ok row, t') ↔
      t.topics.get? id = some row ∧ row.isRoot = false ∧ t = t' := by
  rw [movableTopic, on_bind_eq_ok]
  constructor
  · rintro ⟨row', t₁, hrow, h⟩
    obtain ⟨hfound, rfl⟩ := Lookup.on_topic_eq_ok.1 hrow
    cases hroot : row'.isRoot with
    | true => simp [hroot] at h
    | false =>
      simp only [hroot, Bool.false_eq_true, if_false, pure_eq, on_done, Prod.mk.injEq,
        Except.ok.injEq] at h
      obtain ⟨rfl, rfl⟩ := h
      exact ⟨hfound, hroot, rfl⟩
  · rintro ⟨hrow, hroot, rfl⟩
    refine ⟨row, t, Lookup.on_topic_eq_ok.2 ⟨hrow, rfl⟩, ?_⟩
    simp [hroot]

/-- A topic goes, and its children move to parents of it. -/
lemma on_removeTopic (h : t.Exact) {x : TopicId} {onto : SortedSet TopicId}
    (honto : ∀ p ∈ onto, .topic x ∈ t.edges.row p) :
    (removeTopic x onto).on t = (.ok (),
      Tables.withEdges { t with topics := t.topics.erase x } (t.edges.bypass x onto)) := by
  rw [removeTopic, on_bind, Closure.on_splice]
  dsimp only
  rw [on_bind, Closure.on_detach_topic h honto]
  rfl

/-! ### Repositories -/

/-- A repository whose identifier is new is created with its root. -/
theorem createRepository_commits (h : t.Coherent) {name : String} {id : RepositoryId}
    {root : TopicId} {now : Instant} (hid : t.repositories.get? id = none) :
    (createRepository name id root now).on titles (t, s) =
      let owner := ⟨id, String.ofList (Text.trim name.toList), root, now⟩
      let top := Topic.newRoot root id now
      (.ok (.commit ⟨owner, top⟩), { t with
        repositories := t.repositories.insert id owner
        topics := t.topics.insert root top }, s) := by
  have hnamed : ∀ owner, Tables.topicNamed { t with
      repositories := t.repositories.insert id owner } (Topic.newRoot root id now).repository
      (Topic.newRoot root id now).name = none := fun _ => h.topicNamed_eq_none hid _
  simp [createRepository, on, Memory.reply, Memory.answer, Memory.Working.edit,
    Memory.insertTopic, hnamed]
  rfl

/-- A new repository keeps the tables coherent. -/
theorem createRepository_coherent (h : t.Coherent) {name : String} {id : RepositoryId}
    {root : TopicId} {now : Instant} (hid : t.repositories.get? id = none)
    (hroot : t.topics.get? root = none) {v : CreatedRepository}
    (hc : (createRepository name id root now).on titles (t, s) = (.ok (.commit v), t', s')) :
    t'.Coherent := by
  rw [createRepository_commits h hid] at hc
  obtain ⟨-, rfl, -⟩ := hc
  exact h.addRepository ⟨id, String.ofList (Text.trim name.toList), root, now⟩
    (Topic.newRoot root id now) hid hroot rfl rfl rfl

/-! ### Creation -/

/-- A topic is created exactly if its name is valid and not taken in its repository, and the
parents that the caller means are topics of the repository. -/
theorem upsertTopic_commits (h : t.Coherent) {repository : RepositoryId} {name : String}
    {description : Option String} {parentIds : List TopicId} {id : TopicId} {now : Instant}
    {v : Upserted Topic} :
    (upsertTopic repository name description parentIds id now).on titles (t, s) =
        (.ok (.commit v), t', s') ↔
      ∃ owner row, t.repositories.get? repository = some owner ∧
        (normalizeName name).2 = true ∧
        row = Topic.new id owner.id (.ofName (normalizeName name).1) description now ∧
        t.topicNamed row.repository row.name = none ∧
        (∀ p ∈ owner.parentSet parentIds, t.IsTopicOf owner.id p) ∧
        v = ⟨some row, true, []⟩ ∧
        t' = Tables.withEdges { t with topics := t.topics.insert id row }
          (t.edges.withParents (.topic id) (owner.parentSet parentIds).toList) ∧ s' = s := by
  rw [upsertTopic]
  rcases normalizeName name with ⟨n, _ | _⟩
  · simp [on]
  dsimp only
  simp only [Bool.not_true, Bool.false_eq_true, if_false]
  rw [on_session_eq_ok]
  rw [Lookup.on_lock, on_bind_eq_ok]
  simp only [on_bind_eq_ok, Lookup.on_repository_eq_ok, on_request, Memory.reply, Memory.answer,
    Prod.mk.injEq, Except.ok.injEq]
  constructor
  · rintro ⟨⟨owner, _, ⟨howner, rfl⟩, rows, _, hfound, _, _, ⟨rfl, rfl⟩, hc⟩, rfl⟩
    obtain ⟨hps, rfl, rfl⟩ := (Lookup.on_parents_eq_ok h.keyed).1 hfound
    cases hnamed : t.topicNamed (Topic.new id owner.id (.ofName n) description now).repository
        (Topic.new id owner.id (.ofName n) description now).name with
    | some old => simp [Memory.insertTopic, hnamed] at hc
    | none =>
      have hadd := on_addParents (t := { t with
        topics := t.topics.insert (Topic.new id owner.id (.ofName n) description now).id
          (Topic.new id owner.id (.ofName n) description now) }) h.exact
      simp [Memory.insertTopic, hnamed, h.keyed.topicsOf_ids hps, hadd] at hc
      exact ⟨owner, _, howner, trivial, rfl, hnamed, hps, hc.1.symm, hc.2.symm, rfl⟩
  · rintro ⟨owner, row, howner, -, rfl, hnamed, hps, rfl, rfl, rfl⟩
    have hadd := on_addParents (t := { t with
      topics := t.topics.insert (Topic.new id owner.id (.ofName n) description now).id
        (Topic.new id owner.id (.ofName n) description now) }) h.exact
    refine ⟨⟨owner, t, ⟨howner, rfl⟩, _, t, (Lookup.on_parents_eq_ok h.keyed).2 ⟨hps, rfl, rfl⟩,
      _, _, ⟨rfl, rfl⟩, ?_⟩, rfl⟩
    simp [Memory.insertTopic, hnamed, h.keyed.topicsOf_ids hps, hadd]
    rfl

/-- A new topic keeps the tables coherent: nothing lies below it yet. -/
theorem upsertTopic_coherent (h : t.Coherent) {repository : RepositoryId} {name : String}
    {description : Option String} {parentIds : List TopicId} {id : TopicId} {now : Instant}
    {v : Upserted Topic} (hid : t.topics.get? id = none)
    (hc : (upsertTopic repository name description parentIds id now).on titles (t, s) =
      (.ok (.commit v), t', s')) : t'.Coherent := by
  obtain ⟨owner, row, howner, -, rfl, -, hps, -, rfl, -⟩ := (upsertTopic_commits h).1 hc
  have hnone : t.place? (.topic id) = none := by simp [Tables.place?, hid]
  have hplace : ∀ p ∈ owner.parentSet parentIds, ∃ b, t.place? (.topic p) = some ⟨owner.id, b⟩ :=
    fun p hp => (hps p hp).place?
  have hedges := h.hierarchical.addParents (r := owner.id)
    (.inl ⟨hnone, owner.exists_mem_parentSet parentIds⟩) hplace fun p hp => by
      obtain ⟨b, hb⟩ := hplace p hp
      exact h.hierarchical.not_below_of_place_none hnone hb
  rw [← h.keyed.repositories _ owner howner] at howner
  exact h.addTopic (Topic.new id owner.id (.ofName (normalizeName name).1) description now) hid rfl
    howner hedges

/-! ### Moves -/

/-- A stored topic is offered stored topics as parents. -/
lemma on_offerParents_stored (h : t.Coherent) (row : Topic) {r : RepositoryId}
    {ids : List TopicId} (hps : ∀ p ∈ SortedSet.ofList ids, t.IsTopicOf r p) :
    (offerParents row (SortedSet.ofList (t.edges.column (.topic row.id)).toList)
        (t.topicsOf (SortedSet.ofList ids).toList)).on t =
      (.ok (t.acceptedParents row.id ids, t.refusals row ids), t.withEdges
        (t.edges.withParents (.topic row.id) (t.acceptedParents row.id ids).toList)) := by
  have hcur : ∀ p ∈ SortedSet.ofList (t.edges.column (.topic row.id)).toList,
      .topic row.id ∈ t.edges.row p ∧ t.closesCycle row.id p = false := by
    intro p hp
    rw [SortedSet.ofList_toList, SortedRel.mem_column] at hp
    obtain ⟨hne, hr⟩ := h.hierarchical.not_below_of_mem_row hp
    rw [← Bool.not_eq_true, h.exact.closesCycle_iff, not_or]
    exact ⟨hp, hne, hr⟩
  have hacc : ((t.topicsOf (SortedSet.ofList ids).toList).filter
      fun p => !t.closesCycle row.id p.id).map (·.id) = (t.acceptedParents row.id ids).toList := by
    have hfilter := congrArg (List.filter fun p => !t.closesCycle row.id p)
      (h.keyed.topicsOf_ids hps)
    rw [List.filter_map] at hfilter
    exact hfilter
  rw [on_offerParents _ h.exact hcur, hacc, SortedSet.ofList_toList]
  rfl

/-- What a move of a stored topic comes to, where it names topics of its repository: if no parent
can be taken there is nothing to commit, and otherwise the topic gets exactly those that can. -/
theorem on_updateParents (h : t.Coherent) {id : TopicId} {row : Topic}
    (hrow : t.topics.get? id = some row) (hroot : row.isRoot = false) {parentIds : List TopicId}
    (hps : ∀ p ∈ parentIds, t.IsTopicOf row.repository p) :
    (updateParents id parentIds).on titles (t, s) =
      if (t.acceptedParents id parentIds).isEmpty then
        (.ok (.discard ⟨row, t.refusals row parentIds ++ [.parentsUnchanged row.name]⟩), t, s)
      else
        (.ok (.commit ⟨row, t.refusals row parentIds⟩),
          t.withEdges (t.edges.setParents (.topic id) (t.acceptedParents id parentIds)), s) := by
  obtain rfl : row.id = id := h.keyed.topics id row hrow
  have hps' : ∀ p ∈ SortedSet.ofList parentIds, t.IsTopicOf row.repository p :=
    fun p hp => hps p (SortedSet.mem_ofList.1 hp)
  rw [updateParents, on, on_bind, on_movableTopic_eq_ok.2 ⟨hrow, hroot, rfl⟩]
  dsimp only
  rw [Lookup.on_lock, on_bind, (Lookup.on_topicsOf_eq_ok h.keyed).2 ⟨hps', rfl, rfl⟩]
  dsimp only
  rw [on_bind, on_request]
  simp only [Memory.reply, Memory.answer]
  rw [on_bind, on_offerParents_stored h row hps']
  cases hne : (t.acceptedParents row.id parentIds).isEmpty with
  | true =>
    have hsame : t.withEdges (t.edges.withParents (.topic row.id)
        (t.acceptedParents row.id parentIds).toList) = t := by
      rw [SortedSet.eq_empty_of_isEmpty hne]
      exact h.exact.withEdges_self
    simp [hne, hsame]
  | false =>
    simp only [hne, Bool.false_eq_true, if_false, on_bind,
      on_removeParents (Tables.exact_withEdges t _), pure_eq, on_done, SortedSet.ofList_toList]
    rfl

/-- **A topic is moved** exactly if it is stored and not a root, and some of the parents that are
asked for, which have to be topics of its repository, closes no cycle. It gets exactly those that
close none. -/
theorem updateParents_commits (h : t.Coherent) {id : TopicId} {parentIds : List TopicId}
    {v : Updated Topic} :
    (updateParents id parentIds).on titles (t, s) = (.ok (.commit v), t', s') ↔
      ∃ row, t.topics.get? id = some row ∧ row.isRoot = false ∧
        (∀ p ∈ parentIds, t.IsTopicOf row.repository p) ∧
        (∃ p, p ∈ t.acceptedParents id parentIds) ∧ v = ⟨row, t.refusals row parentIds⟩ ∧
        t' = t.withEdges (t.edges.setParents (.topic id) (t.acceptedParents id parentIds)) ∧
        s' = s := by
  constructor
  · intro hc
    have hbody := hc
    rw [updateParents, on_session_eq_ok, on_bind_eq_ok] at hbody
    obtain ⟨⟨row, _, hlook, hrest⟩, rfl⟩ := hbody
    obtain ⟨hrow, hroot, rfl⟩ := on_movableTopic_eq_ok.1 hlook
    rw [Lookup.on_lock, on_bind_eq_ok] at hrest
    obtain ⟨rows, _, hrows, -⟩ := hrest
    have hps : ∀ p ∈ parentIds, t.IsTopicOf row.repository p := fun p hp =>
      ((Lookup.on_topicsOf_eq_ok h.keyed).1 hrows).1 p (SortedSet.mem_ofList.2 hp)
    rw [on_updateParents h hrow hroot hps] at hc
    cases hne : (t.acceptedParents id parentIds).isEmpty with
    | true => simp [hne] at hc
    | false =>
      simp only [hne, Bool.false_eq_true, if_false, Prod.mk.injEq, Except.ok.injEq,
        Ending.commit.injEq] at hc
      exact ⟨row, hrow, hroot, hps, SortedSet.isEmpty_eq_false_iff.1 hne, hc.1.symm, hc.2.1.symm,
        rfl⟩
  · rintro ⟨row, hrow, hroot, hps, hne, rfl, rfl, rfl⟩
    rw [on_updateParents h hrow hroot hps, SortedSet.isEmpty_eq_false_iff.2 hne]
    rfl

/-- A move keeps the tables coherent: no parent that is taken closes a cycle. -/
theorem updateParents_coherent (h : t.Coherent) {id : TopicId} {parentIds : List TopicId}
    {v : Updated Topic}
    (hc : (updateParents id parentIds).on titles (t, s) = (.ok (.commit v), t', s')) :
    t'.Coherent := by
  obtain ⟨row, hrow, hroot, hps, hne, -, rfl, -⟩ := (updateParents_commits h).1 hc
  have hplace : t.place? (.topic id) = some ⟨row.repository, false⟩ :=
    Tables.place?_topic_eq_some.2 ⟨row, hrow, rfl, hroot⟩
  apply h.setParents hplace hne
  · intro p hp
    exact (hps p (SortedSet.mem_ofList.1 (SortedSet.mem_filter.1 hp).1)).place?
  · intro p hp
    have hfree := (SortedSet.mem_filter.1 hp).2
    rw [Bool.not_eq_true', ← Bool.not_eq_true, h.exact.closesCycle_iff, not_or] at hfree
    exact hfree

/-! ### Removal -/

/-- **A topic is deleted** exactly if it is stored and not a root. Its children move to each of its
parents. -/
theorem deleteTopic_commits (h : t.Coherent) {id a : TopicId} :
    (deleteTopic id).on titles (t, s) = (.ok (.commit a), t', s') ↔
      ∃ row, t.topics.get? id = some row ∧ row.isRoot = false ∧ a = id ∧
        t' = Tables.withEdges { t with topics := t.topics.erase id }
          (t.edges.bypass id (t.edges.column (.topic id))) ∧ s' = s := by
  have hremove : (removeTopic id (t.edges.column (.topic id))).on t = (.ok (),
      Tables.withEdges { t with topics := t.topics.erase id }
        (t.edges.bypass id (t.edges.column (.topic id)))) :=
    on_removeTopic h.exact fun p hp => SortedRel.mem_column.1 hp
  rw [deleteTopic, on_session_eq_ok, on_bind_eq_ok]
  constructor
  · rintro ⟨⟨row, _, hrow, hc⟩, rfl⟩
    obtain ⟨hfound, hroot, rfl⟩ := on_movableTopic_eq_ok.1 hrow
    obtain rfl : row.id = id := h.keyed.topics id row hfound
    rw [Lookup.on_lock, on_bind, on_request] at hc
    simp only [Memory.reply, Memory.answer, SortedSet.ofList_toList, on_bind, hremove, pure_eq,
      on_done, Prod.mk.injEq, Except.ok.injEq, Ending.commit.injEq] at hc
    exact ⟨row, hfound, hroot, hc.1.symm, hc.2.symm, rfl⟩
  · rintro ⟨row, hfound, hroot, rfl, rfl, rfl⟩
    obtain rfl : row.id = a := h.keyed.topics a row hfound
    refine ⟨⟨row, t, on_movableTopic_eq_ok.2 ⟨hfound, hroot, rfl⟩, ?_⟩, rfl⟩
    rw [Lookup.on_lock, on_bind, on_request]
    simp only [Memory.reply, Memory.answer, SortedSet.ofList_toList, on_bind, hremove, pure_eq,
      on_done]

/-- The tables stay coherent if a topic that is not a root goes and its children move to some of its
parents. -/
lemma removeTopic_coherent (h : t.Coherent) {x : TopicId} {row : Topic}
    (hrow : t.topics.get? x = some row) (hroot : row.isRoot = false) {onto : SortedSet TopicId}
    (hne : ∃ p, p ∈ onto) (honto : ∀ p ∈ onto, .topic x ∈ t.edges.row p) :
    (Tables.withEdges { t with topics := t.topics.erase x } (t.edges.bypass x onto)).Coherent := by
  apply h.removeTopic hrow hroot
  apply h.hierarchical.cutOut hne honto
  intro p c
  rw [SortedRel.mem_row_bypass, step_topic_iff, ne_eq p, ← Node.topic.injEq]

/-- A deletion keeps the tables coherent. -/
theorem deleteTopic_coherent (h : t.Coherent) {id a : TopicId}
    (hc : (deleteTopic id).on titles (t, s) = (.ok (.commit a), t', s')) : t'.Coherent := by
  obtain ⟨row, hrow, hroot, -, rfl, -⟩ := (deleteTopic_commits h).1 hc
  obtain ⟨p, hp⟩ := h.hierarchical.exists_parent (.topic id) row.repository
    (Tables.place?_topic_eq_some.2 ⟨row, hrow, rfl, hroot⟩)
  exact removeTopic_coherent h hrow hroot ⟨p, SortedRel.mem_column.2 hp⟩
    fun q hq => SortedRel.mem_column.1 hq

/-! ### Merging and renaming -/

/-- The tables after the target of a merge has taken the synonyms over, if its new name is not
taken. Its place stays the same. -/
lemma on_takeSynonyms (target source : Topic)
    (ht : t.topics.get? target.id = some target) :
    ∃ u : Updated Topic, (takeSynonyms target source).on t =
        (.ok u, { t with topics := t.topics.insert target.id u.row }) ∧
      u.row.id = target.id ∧ u.row.repository = target.repository ∧
      u.row.isRoot = target.isRoot ∧
      (u.row = target ∨
        u.row = target.withSynonyms (target.synonyms.pushAll source.synonyms.toList) ∧
          (Lookup.nameClash u.row).on t = (.ok none, t)) := by
  have hsame : t.topics.insert target.id target = t.topics := SortedMap.insert_of_get? ht
  rw [takeSynonyms]
  split
  · exact ⟨⟨target, []⟩, by rw [hsame]; rfl, rfl, rfl, rfl, .inl rfl⟩
  · obtain ⟨clash, hclash⟩ := Lookup.on_nameClash (t := t)
      (target.withSynonyms (target.synonyms.pushAll source.synonyms.toList))
    rw [on_bind, hclash]
    cases clash with
    | some alert => exact ⟨⟨target, [alert]⟩, by rw [hsame]; rfl, rfl, rfl, rfl, .inl rfl⟩
    | none =>
      refine ⟨⟨target.withSynonyms (target.synonyms.pushAll source.synonyms.toList), []⟩, ?_, rfl,
        rfl, rfl, .inr ⟨rfl, hclash⟩⟩
      simp [Memory.reply, Memory.answer, Topic.withSynonyms, Topic.refreshName, ht,
        Memory.Working.edit]

/-- What a merge of a stored topic into a parent of it comes to: the parent gets its children, and
then takes its synonyms over. -/
lemma on_mergeTopic (h : t.Coherent) {row parent : Topic}
    (hrow : t.topics.get? row.id = some row) (hroot : row.isRoot = false)
    (hmem : .topic row.id ∈ t.edges.row parent.id)
    (hparent : t.topics.get? parent.id = some parent) {u : Updated Topic}
    (hu : (takeSynonyms parent row).on
      (Tables.withEdges { t with topics := t.topics.erase row.id }
        (t.edges.bypass row.id (SortedSet.singleton parent.id))) = (.ok u, t')) :
    (mergeTopic row.id parent.id).on titles (t, s) =
      (.ok (.commit ⟨u.row, row.id, u.alerts⟩), t', s) := by
  rw [mergeTopic, on, on_bind, on_movableTopic_eq_ok.2 ⟨hrow, hroot, rfl⟩]
  dsimp only
  rw [Lookup.on_lock, on_bind, on_request]
  simp only [Memory.reply, Memory.answer]
  rw [if_neg (not_not.2 (SortedSet.mem_def.1 (SortedRel.mem_column.2 hmem))), on_bind,
    Lookup.on_topic_eq_ok.2 ⟨hparent, rfl⟩]
  dsimp only
  rw [on_bind, on_removeTopic h.exact (SortedSet.forall_mem_singleton.2 hmem)]
  simp only [on_bind, hu, pure_eq, on_done]

/-- **A topic is merged into another one** only if it is not a root and the other one is a parent of
it. The parent gets its children, and is stored with a row that differs at most in its names: it may
have taken over the synonyms, if its new name is free once the other topic is gone. -/
theorem mergeTopic_commits (h : t.Coherent) {source target : TopicId} {v : Merged}
    (hc : (mergeTopic source target).on titles (t, s) = (.ok (.commit v), t', s')) :
    ∃ row parent, t.topics.get? source = some row ∧ row.isRoot = false ∧
      .topic source ∈ t.edges.row target ∧ t.topics.get? target = some parent ∧
      v.topic.id = target ∧ v.topic.repository = parent.repository ∧
      v.topic.isRoot = parent.isRoot ∧
      (v.topic = parent ∨
        v.topic = parent.withSynonyms (parent.synonyms.pushAll row.synonyms.toList) ∧
          ∃ u, u.topics = t.topics.erase source ∧
            (Lookup.nameClash v.topic).on u = (.ok none, u)) ∧ v.gone = source ∧
      t' = Tables.withEdges { t with
          topics := (t.topics.erase source).insert target v.topic }
        (t.edges.bypass source (SortedSet.singleton target)) ∧ s' = s := by
  have hbody := hc
  rw [mergeTopic, on_session_eq_ok, on_bind_eq_ok] at hbody
  obtain ⟨⟨row, _, hlook, hrest⟩, rfl⟩ := hbody
  obtain ⟨hrow, hroot, rfl⟩ := on_movableTopic_eq_ok.1 hlook
  obtain rfl : row.id = source := h.keyed.topics source row hrow
  rw [Lookup.on_lock, on_bind, on_request] at hrest
  simp only [Memory.reply, Memory.answer] at hrest
  split at hrest
  · simp at hrest
  next hmem =>
  rw [not_not, ← SortedSet.mem_def, SortedRel.mem_column] at hmem
  rw [on_bind_eq_ok] at hrest
  obtain ⟨parent, _, hlook', -⟩ := hrest
  obtain ⟨hparent, rfl⟩ := Lookup.on_topic_eq_ok.1 hlook'
  obtain rfl : parent.id = target := h.keyed.topics target parent hparent
  have hne : parent.id ≠ row.id := h.hierarchical.acyclic.ne_of_mem_row hmem
  obtain ⟨u, hu, hid, hrepo, hisRoot, hnames⟩ := on_takeSynonyms parent row
    (t := Tables.withEdges { t with topics := t.topics.erase row.id }
      (t.edges.bypass row.id (SortedSet.singleton parent.id)))
    (by rw [Tables.withEdges_topics, SortedMap.get?_erase_ne _ hne, hparent])
  rw [on_mergeTopic h hrow hroot hmem hparent hu] at hc
  simp only [Prod.mk.injEq, Except.ok.injEq, Ending.commit.injEq] at hc
  obtain ⟨rfl, rfl, -⟩ := hc
  exact ⟨row, parent, hrow, hroot, hmem, hparent, hid, hrepo, hisRoot,
    hnames.imp_right fun htaken => ⟨htaken.1, _, rfl, htaken.2⟩, rfl, rfl, rfl⟩

/-- A merge keeps the tables coherent. -/
theorem mergeTopic_coherent (h : t.Coherent) {source target : TopicId} {v : Merged}
    (hc : (mergeTopic source target).on titles (t, s) = (.ok (.commit v), t', s')) :
    t'.Coherent := by
  obtain ⟨row, parent, hrow, hroot, hmem, hparent, hid, hrepo, hisRoot, -, -, rfl, -⟩ :=
    mergeTopic_commits h hc
  have hremoved := removeTopic_coherent h hrow hroot ⟨target, SortedSet.mem_singleton.2 rfl⟩
    (SortedSet.forall_mem_singleton.2 hmem)
  have hne : target ≠ source := h.hierarchical.acyclic.ne_of_mem_row hmem
  have hset := hremoved.setTopic v.topic
  rw [hid, hrepo, hisRoot] at hset
  exact hset (Tables.place?_topic_eq_some.2
    ⟨parent, (SortedMap.get?_erase_ne _ hne).trans hparent, rfl, rfl⟩)

/-- A row is stored with another name exactly if the name is not taken. -/
lemma saveRenamed_commits {row renamed old : Topic} {alerts : List Alert} {v : Updated Topic}
    (hold : t.topics.get? renamed.id = some old) :
    (saveRenamed row renamed alerts).on t = (.ok (.commit v), t') ↔
      (Lookup.nameClash renamed).on t = (.ok none, t) ∧ v = ⟨renamed, alerts⟩ ∧
        t' = { t with topics := t.topics.insert renamed.id renamed } := by
  obtain ⟨clash, hclash⟩ := Lookup.on_nameClash (t := t) renamed
  rw [saveRenamed, on_bind, hclash]
  cases clash with
  | some alert => simp
  | none => simp [Memory.reply, Memory.answer, Memory.Working.edit, hold, eq_comm (a := v),
      eq_comm (a := t')]

/-- The tables stay coherent if the row of a topic changes but not its place. -/
lemma saveRenamed_coherent (h : t.Coherent) {row renamed : Topic} {alerts : List Alert}
    {v : Updated Topic} (hrow : t.topics.get? row.id = some row)
    (hc : (saveRenamed row renamed alerts).on t = (.ok (.commit v), t'))
    (hid : renamed.id = row.id) (hrepo : renamed.repository = row.repository)
    (hroot : renamed.isRoot = row.isRoot) : t'.Coherent := by
  obtain ⟨-, -, rfl⟩ := (saveRenamed_commits (hid ▸ hrow)).1 hc
  apply h.setTopic renamed
  rw [hid, hrepo, hroot]
  exact Tables.place?_topic_eq_some.2 ⟨row, hrow, rfl, rfl⟩

/-- A topic gets other synonyms only if it is stored and one of them is valid. -/
lemma updateSynonyms_commits {id : TopicId} {synonyms : List Synonym} {v : Updated Topic}
    (hc : (updateSynonyms id synonyms).on titles (t, s) = (.ok (.commit v), t', s')) :
    ∃ row, t.topics.get? id = some row ∧ (cleanSynonyms synonyms ∅).1.toList ≠ [] ∧
      (saveRenamed row (row.withSynonyms (cleanSynonyms synonyms ∅).1)
        (cleanSynonyms synonyms ∅).2).on t = (.ok (.commit v), t') := by
  rw [updateSynonyms, on_session_eq_ok, on_bind_eq_ok] at hc
  obtain ⟨⟨row, _, hrow, hc⟩, -⟩ := hc
  obtain ⟨hfound, rfl⟩ := Lookup.on_topic_eq_ok.1 hrow
  split at hc
  · simp at hc
  next hvalid =>
    rw [Lookup.on_lock] at hc
    exact ⟨row, hfound, fun hnil => hvalid (List.isEmpty_iff.2 hnil), hc⟩

/-- Other synonyms keep the tables coherent. -/
theorem updateSynonyms_coherent (h : t.Coherent) {id : TopicId} {synonyms : List Synonym}
    {v : Updated Topic}
    (hc : (updateSynonyms id synonyms).on titles (t, s) = (.ok (.commit v), t', s')) :
    t'.Coherent := by
  obtain ⟨row, hrow, -, hsave⟩ := updateSynonyms_commits hc
  obtain rfl : row.id = id := h.keyed.topics id row hrow
  exact saveRenamed_coherent h hrow hsave rfl rfl rfl

/-- A topic gets another time range only if it is stored. -/
lemma changeTimeRange_commits {id : TopicId} {range : Option TimeRange} {v : Updated Topic}
    (hc : (changeTimeRange id range).on titles (t, s) = (.ok (.commit v), t', s')) :
    ∃ row, t.topics.get? id = some row ∧
      (saveRenamed row (row.withTimeRange range) []).on t = (.ok (.commit v), t') := by
  rw [changeTimeRange, on_session_eq_ok, on_bind_eq_ok] at hc
  obtain ⟨⟨row, _, hrow, hc⟩, -⟩ := hc
  obtain ⟨hfound, rfl⟩ := Lookup.on_topic_eq_ok.1 hrow
  rw [Lookup.on_lock] at hc
  exact ⟨row, hfound, hc⟩

/-- Another time range keeps the tables coherent. -/
theorem changeTimeRange_coherent (h : t.Coherent) {id : TopicId} {range : Option TimeRange}
    {v : Updated Topic}
    (hc : (changeTimeRange id range).on titles (t, s) = (.ok (.commit v), t', s')) :
    t'.Coherent := by
  obtain ⟨row, hrow, hsave⟩ := changeTimeRange_commits hc
  obtain rfl : row.id = id := h.keyed.topics id row hrow
  exact saveRenamed_coherent h hrow hsave rfl rfl rfl

end Operation

end Polyhierarchy

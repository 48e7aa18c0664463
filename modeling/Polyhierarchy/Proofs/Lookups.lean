import Polyhierarchy.Operation.Lookup
import Polyhierarchy.Proofs.Coherence

set_option relaxedAutoImplicit false
set_option autoImplicit false

/-!
# What look-ups find

A look-up reads the tables and leaves them as they are. So an operation that has gone on after its
look-ups works on the tables that it began with, and its look-ups have found what these hold.

## Main definitions

* `Tables.IsTopicOf` — a stored topic of a repository.
* `Repository.parentSet` — the parents that a caller means: those that are named, or the root.

## Main results

* `Lookup.on_topic_eq_ok`, `Lookup.on_link_eq_ok`, `Lookup.on_repository_eq_ok`,
  `Lookup.on_topicsOf_eq_ok`, `Lookup.on_parents_eq_ok` — when a look-up succeeds, and with what.
* `Tables.Keyed.topicsOf_ids` — the topics found are those that were looked up, in order.
-/

namespace Polyhierarchy

open Program

namespace SortedSet

variable {α : Type} [Ranked α]

/-- The set of the elements of a set. -/
@[simp] lemma ofList_toList (s : SortedSet α) : ofList s.toList = s :=
  SortedSet.ext fun _ => mem_ofList

/-- A set is empty exactly if it has no element. -/
lemma isEmpty_eq_false_iff {s : SortedSet α} : s.isEmpty = false ↔ ∃ a, a ∈ s := by
  rw [isEmpty, List.isEmpty_eq_false_iff_exists_mem]
  rfl

lemma forall_mem_singleton {a : α} {P : α → Prop} : (∀ b ∈ singleton a, P b) ↔ P a :=
  ⟨fun h => h a (mem_singleton.2 rfl), fun h b hb => by rwa [mem_singleton.1 hb]⟩

end SortedSet

namespace Tables

variable {t : Tables}

/-- Whether a topic is stored and belongs to a repository. -/
def IsTopicOf (t : Tables) (r : RepositoryId) (id : TopicId) : Prop :=
  ∃ row, t.topics.get? id = some row ∧ row.repository = r

/-- A topic of a repository has its place there. -/
lemma IsTopicOf.place? {r : RepositoryId} {id : TopicId} (h : t.IsTopicOf r id) :
    ∃ b, t.place? (.topic id) = some ⟨r, b⟩ := by
  obtain ⟨row, hrow, rfl⟩ := h
  exact ⟨row.isRoot, place?_topic_eq_some.2 ⟨row, hrow, rfl, rfl⟩⟩

lemma mem_topicsOf {ids : SortedSet TopicId} {row : Topic} :
    row ∈ t.topicsOf ids.toList ↔ ∃ id ∈ ids, t.topics.get? id = some row := by
  simp [topicsOf, SortedSet.mem_def]

/-- If a set holds topics of a repository only, then looking them up gives a row for each, in
order. -/
lemma Keyed.topicsOf_ids (h : t.Keyed) {r : RepositoryId} {ids : SortedSet TopicId}
    (hids : ∀ id ∈ ids, t.IsTopicOf r id) :
    (t.topicsOf ids.toList).map (·.id) = ids.toList := by
  have hlist : ∀ l : List TopicId, (∀ id ∈ l, t.IsTopicOf r id) →
      (l.filterMap t.topics.get?).map (·.id) = l := by
    intro l
    induction l with
    | nil => exact fun _ => rfl
    | cons id l ih =>
      intro hl
      obtain ⟨row, hrow, -⟩ := hl id List.mem_cons_self
      rw [List.filterMap_cons_some hrow, List.map_cons, h.topics id row hrow,
        ih fun id' hid' => hl id' (List.mem_cons_of_mem _ hid')]
  rw [topicsOf, SortedSet.ofList_toList]
  exact hlist ids.toList hids

/-- No topic of a repository that is not stored has a name. -/
lemma Coherent.topicNamed_eq_none (h : t.Coherent) {r : RepositoryId}
    (hr : t.repositories.get? r = none) (name : String) : t.topicNamed r name = none := by
  rw [topicNamed, List.find?_eq_none]
  intro row hrow
  obtain ⟨id, hid⟩ := SortedMap.mem_values_iff.1 hrow
  simp only [Bool.and_eq_true, beq_iff_eq, not_and]
  rintro rfl
  have hplace : t.place? (.topic id) = some ⟨row.repository, row.isRoot⟩ :=
    place?_topic_eq_some.2 ⟨row, hid, rfl, rfl⟩
  obtain ⟨owner, ho⟩ := h.rooted.owned _ _ _ hplace
  rw [hr] at ho
  cases ho

end Tables

/-- The parents that a caller means: those that are named, or the root if none is. -/
def Repository.parentSet (owner : Repository) (ids : List TopicId) : SortedSet TopicId :=
  if ids.isEmpty then SortedSet.singleton owner.rootTopic else SortedSet.ofList ids

lemma Repository.mem_parentSet {owner : Repository} {ids : List TopicId} {p : TopicId} :
    p ∈ owner.parentSet ids ↔ p ∈ ids ∨ ids = [] ∧ p = owner.rootTopic := by
  cases ids with
  | nil => simp [parentSet, SortedSet.mem_singleton]
  | cons id ids => simp [parentSet, SortedSet.mem_ofList]

/-- A caller always means some parent. -/
lemma Repository.exists_mem_parentSet (owner : Repository) (ids : List TopicId) :
    ∃ p, p ∈ owner.parentSet ids := by
  cases ids with
  | nil => exact ⟨owner.rootTopic, SortedSet.mem_singleton.2 rfl⟩
  | cons id ids => exact ⟨id, SortedSet.mem_ofList.2 List.mem_cons_self⟩

/-- If all topics that a caller names are topics of a repository, then so are the parents that the
caller means. -/
lemma Tables.Coherent.isTopicOf_parentSet {t : Tables} (h : t.Coherent) {r : RepositoryId}
    {owner : Repository} (howner : t.repositories.get? r = some owner) {ids : List TopicId}
    (hids : ∀ p ∈ ids, t.IsTopicOf r p) : ∀ p ∈ owner.parentSet ids, t.IsTopicOf r p := by
  intro p hp
  rcases Repository.mem_parentSet.1 hp with hp | ⟨-, rfl⟩
  · exact hids p hp
  · obtain ⟨row, hrow, hr, -⟩ :=
      place?_topic_eq_some.1 ((h.rooted.root_iff _ r).2 ⟨owner, howner, rfl⟩)
    exact ⟨row, hrow, hr⟩

namespace Lookup

variable {t t' : Tables}

lemma on_topic_eq_ok {id : TopicId} {row : Topic} :
    (topic id).on t = (.ok row, t') ↔ t.topics.get? id = some row ∧ t = t' := by
  simp only [topic, on_bind, on_request, Memory.reply, Memory.answer]
  cases t.topics.get? id <;> simp

lemma on_link_eq_ok {id : LinkId} {row : Link} :
    (link id).on t = (.ok row, t') ↔ t.links.get? id = some row ∧ t = t' := by
  simp only [link, on_bind, on_request, Memory.reply, Memory.answer]
  cases t.links.get? id <;> simp

lemma on_repository_eq_ok {id : RepositoryId} {row : Repository} :
    (repository id).on t = (.ok row, t') ↔ t.repositories.get? id = some row ∧ t = t' := by
  simp only [repository, on_bind, on_request, Memory.reply, Memory.answer]
  cases t.repositories.get? id <;> simp

/-- Taking a lock changes nothing. -/
lemma on_lock {α : Type} (p : String) (r : RepositoryId) (f : Unit → Program α) :
    (request p (.lockRepository r) >>= f).on t = (f ()).on t := rfl

/-- A topic is among the rows that were found exactly if it is stored and of the repository. -/
lemma isAmong_topicsOf_iff (h : t.Keyed) {r : RepositoryId} {ids : SortedSet TopicId}
    {id : TopicId} (hid : id ∈ ids) :
    isAmong (t.topicsOf ids.toList) r id = true ↔ t.IsTopicOf r id := by
  simp only [isAmong, List.any_eq_true, Bool.and_eq_true, beq_iff_eq]
  constructor
  · rintro ⟨row, hrow, rfl, rfl⟩
    obtain ⟨id', -, hrow⟩ := Tables.mem_topicsOf.1 hrow
    rw [← h.topics id' row hrow] at hrow
    exact ⟨row, hrow, rfl⟩
  · rintro ⟨row, hrow, hr⟩
    exact ⟨row, Tables.mem_topicsOf.2 ⟨id, hid, hrow⟩, h.topics id row hrow, hr⟩

/-- Looking up topics of a repository succeeds exactly if all of them are topics of it. -/
lemma on_topicsOf_eq_ok (h : t.Keyed) {r : RepositoryId} {ids : SortedSet TopicId}
    {rows : List Topic} :
    (topicsOf r ids).on t = (.ok rows, t') ↔
      (∀ id ∈ ids, t.IsTopicOf r id) ∧ rows = t.topicsOf ids.toList ∧ t = t' := by
  simp only [topicsOf, on_bind, on_request, Memory.reply, Memory.answer]
  have hall : (∀ id ∈ ids, t.IsTopicOf r id) ↔
      ids.toList.find? (fun id => !isAmong (t.topicsOf ids.toList) r id) = none := by
    rw [List.find?_eq_none]
    refine forall₂_congr fun id hid => ?_
    rw [← isAmong_topicsOf_iff h hid]
    simp
  rw [hall]
  cases ids.toList.find? fun id => !isAmong (t.topicsOf ids.toList) r id with
  | some id => simp
  | none => simp [eq_comm (a := rows)]

/-- Looking up the parents that a caller means succeeds exactly if all of them are topics of the
repository. -/
lemma on_parents_eq_ok (h : t.Keyed) {owner : Repository} {ids : List TopicId}
    {rows : List Topic} :
    (parents owner ids).on t = (.ok rows, t') ↔
      (∀ p ∈ owner.parentSet ids, t.IsTopicOf owner.id p) ∧
        rows = t.topicsOf (owner.parentSet ids).toList ∧ t = t' :=
  on_topicsOf_eq_ok h

/-- Whether a name is taken is read off the tables, and nothing else happens. -/
lemma on_nameClash (row : Topic) : ∃ clash, (nameClash row).on t = (.ok clash, t) := by
  simp only [nameClash, on_bind, on_request, Memory.reply, Memory.answer]
  cases t.topicNamed row.repository row.name <;> exact ⟨_, rfl⟩

end Lookup

end Polyhierarchy

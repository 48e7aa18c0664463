import Polyhierarchy.Proofs.Lookups
import Polyhierarchy.Proofs.TwoRuns

set_option relaxedAutoImplicit false
set_option autoImplicit false

/-!
# What belongs to a repository

All repositories share the same tables. A set of nodes encloses a repository if it holds its nodes
and no edge leads into or out of it. Then what is looked up, walked, or searched from within the set
is the same in any two tables that agree on it. And an edit of what belongs to the set changes
nothing outside, and does the same to both tables.

## Main definitions

* `SortedRel.Respects` — no pair of a relation leads into or out of a set of nodes.
* `Tables.Encloses` — a set of nodes holds what belongs to a repository, and nothing else.
* `Tables.AgreeOn` — two tables agree on some repositories and nodes.
* `Tables.Twins` — the tables of two runs that are kept to the same nodes.
* `SortedRel.LocalEdit`, `Tables.LocalEdit` — edits that read and change what is in the set only.

## Main results

* `Tables.Twins.topicNamed_eq`, `Tables.Twins.below_eq`, `Tables.Twins.searchTopics_eq` and their
  like — what is read from within the set.
* `Tables.Twins.edit` — local edits keep the tables of two runs alike.
* `Tables.LocalEdit.insertTopic`, `Tables.LocalEdit.purge` and their like — edits that are local.
-/

namespace Polyhierarchy

open Program Reachability

/-! ### Relations that a set of nodes does not cut -/

namespace SortedRel

variable {N : Node → Prop} {E F : SortedRel TopicId Node} {n : Node}

/-- No pair leads from a node of a set out of the set, or the other way. -/
def Respects (E : SortedRel TopicId Node) (N : Node → Prop) : Prop :=
  ∀ p c, c ∈ E.row p → (N (.topic p) ↔ N c)

lemma Respects.of_mem_column (h : E.Respects N) (hn : N n) {a : TopicId} (ha : a ∈ E.column n) :
    N (.topic a) :=
  (h a n (mem_column.1 ha)).2 hn

/-- Two relations that have the same rows in the set hold of the same pairs with a node of it. -/
lemma Respects.mem_row_iff (hE : E.Respects N) (hF : F.Respects N)
    (h : ∀ p, N (.topic p) → E.row p = F.row p) {p : TopicId} (hpn : N (.topic p) ∨ N n) :
    n ∈ E.row p ↔ n ∈ F.row p := by
  constructor
  · intro hn
    rwa [← h p (hpn.elim id (hE p n hn).2)]
  · intro hn
    rwa [h p (hpn.elim id (hF p n hn).2)]

lemma Respects.column_eq (hE : E.Respects N) (hF : F.Respects N)
    (h : ∀ p, N (.topic p) → E.row p = F.row p) (hn : N n) : E.column n = F.column n := by
  ext a
  rw [mem_column, mem_column, hE.mem_row_iff hF h (.inr hn)]

/-- A path stays on one side. -/
lemma Respects.reaches (h : E.Respects N) {m : Node} (hr : Reaches E m n) : N m ↔ N n := by
  induction hr with
  | single hs =>
    obtain ⟨a, rfl, hc⟩ := hs
    exact h a _ hc
  | tail _ hs ih =>
    obtain ⟨a, rfl, hc⟩ := hs
    exact ih.trans (h a _ hc)

/-- An edit of a relation that changes the rows of a set of nodes only, reads these only, and
introduces no pair that leads into or out of the set. -/
structure LocalEdit (N : Node → Prop)
    (f : SortedRel TopicId Node → SortedRel TopicId Node) : Prop where
  /-- No pair leads into or out of the set afterwards. -/
  respects : ∀ E, E.Respects N → (f E).Respects N
  /-- Relations that have the same rows in the set have the same there afterwards. -/
  inside : ∀ E F, E.Respects N → F.Respects N → (∀ p, N (.topic p) → E.row p = F.row p) →
    ∀ p, N (.topic p) → (f E).row p = (f F).row p
  /-- The other rows stay as they are. -/
  outside : ∀ E, E.Respects N → ∀ p, ¬ N (.topic p) → E.row p = (f E).row p

namespace LocalEdit

lemma comp {f g : SortedRel TopicId Node → SortedRel TopicId Node} (hg : LocalEdit N g)
    (hf : LocalEdit N f) : LocalEdit N (g ∘ f) where
  respects E hE := hg.respects _ (hf.respects E hE)
  inside E F hE hF h := hg.inside _ _ (hf.respects E hE) (hf.respects F hF) (hf.inside E F hE hF h)
  outside E hE p hp := (hf.outside E hE p hp).trans (hg.outside _ (hf.respects E hE) p hp)

/-- One row of the set changes, and stays within the set. -/
lemma editRow {a : TopicId} (ha : N (.topic a)) {g : SortedSet Node → SortedSet Node}
    (hg : ∀ s, (∀ c ∈ s, N c) → ∀ c ∈ g s, N c) :
    LocalEdit N fun E => E.setRow a (g (E.row a)) where
  respects E hE p c hc := by
    rcases mem_row_setRow.1 hc with ⟨rfl, hc⟩ | ⟨-, hc⟩
    · exact iff_of_true ha (hg _ (fun d hd => (hE p d hd).1 ha) c hc)
    · exact hE p c hc
  inside E F _ _ h p hp := by
    by_cases hpa : p = a
    · subst hpa
      rw [row_setRow_self, row_setRow_self, h p hp]
    · rw [row_setRow_ne _ _ hpa, row_setRow_ne _ _ hpa, h p hp]
  outside E _ p hp := by
    rw [row_setRow_ne]
    rintro rfl
    exact hp ha

lemma insert {a : TopicId} (ha : N (.topic a)) (hn : N n) : LocalEdit N fun E => E.insert a n :=
  editRow ha fun _ hs c hc => (SortedSet.mem_insert.1 hc).elim (fun h => h ▸ hn) (hs c)

lemma erase {a : TopicId} (ha : N (.topic a)) : LocalEdit N fun E => E.erase a n :=
  editRow ha fun _ hs c hc => hs c (SortedSet.mem_erase.1 hc).1

/-- No other node has a node of the set in its row, so nothing changes where the latter is taken
out of. -/
lemma eraseRight (hn : N n) : LocalEdit N fun E => E.eraseRight n where
  respects E hE p c hc := hE p c (mem_row_eraseRight.1 hc).1
  inside E F _ _ h p hp := by
    ext c
    rw [mem_row_eraseRight, mem_row_eraseRight, h p hp]
  outside E hE p hp := by
    ext c
    rw [mem_row_eraseRight, iff_self_and]
    rintro hc rfl
    exact hp ((hE p c hc).2 hn)

end LocalEdit

end SortedRel

namespace SortedMap

variable {κ ν : Type} [Ranked κ] {m m' : SortedMap κ ν} {j : κ}

lemma get?_insert_congr (h : m.get? j = m'.get? j) (k : κ) (v : ν) :
    (m.insert k v).get? j = (m'.insert k v).get? j := by
  by_cases hj : j = k
  · rw [hj, get?_insert_self, get?_insert_self]
  · rw [get?_insert_ne _ _ hj, get?_insert_ne _ _ hj, h]

lemma get?_erase_congr (h : m.get? j = m'.get? j) (k : κ) :
    (m.erase k).get? j = (m'.erase k).get? j := by
  by_cases hj : j = k
  · rw [hj, get?_erase_self, get?_erase_self]
  · rw [get?_erase_ne _ hj, get?_erase_ne _ hj, h]

/-- The values that pass a test are listed alike if they are stored alike. -/
lemma filter_values_congr {p : ν → Bool}
    (h : ∀ k v, p v = true → (m.get? k = some v ↔ m'.get? k = some v)) :
    m.values.filter p = m'.values.filter p := by
  have hsorted : ∀ m : SortedMap κ ν,
      ((m.entries.filter fun e => p e.2).map (·.1)).Pairwise Ranked.lt := fun m =>
    m.sorted.sublist (List.filter_sublist.map _)
  have hentries : (m.entries.filter fun e => p e.2) = m'.entries.filter fun e => p e.2 := by
    refine entries_eq_of_sorted (hsorted m) (hsorted m') fun ⟨k, v⟩ => ?_
    rw [List.mem_filter, List.mem_filter, mem_entries_iff, mem_entries_iff]
    exact and_congr_left (h k v)
  rw [values, values, List.filter_map, List.filter_map]
  exact congrArg _ hentries

end SortedMap

/-! ### Tables that agree on a repository -/

namespace Tables

variable {r : RepositoryId} {N : Node → Prop} {t₀ t u : Tables}

/-- A set of nodes holds what belongs to a repository: the rows that are stored for its nodes are
those of the repository, and neither an edge nor a pair of the closure leads into or out of it. -/
structure Encloses (t : Tables) (r : RepositoryId) (N : Node → Prop) : Prop where
  /-- Rows are stored under their identifiers. -/
  keyed : t.Keyed
  /-- The topics of the set are those of the repository. -/
  topics : ∀ id row, t.topics.get? id = some row → (N (.topic id) ↔ row.repository = r)
  /-- The links of the set are those of the repository. -/
  links : ∀ id row, t.links.get? id = some row → (N (.link id) ↔ row.repository = r)
  /-- No edge leads into or out of the set. -/
  edges : t.edges.Respects N
  /-- No pair of the closure does. -/
  closure : t.closure.Respects N

/-- Two tables agree on some repositories and nodes: their rows are the same, and what lies below
the nodes. -/
structure AgreeOn (R : RepositoryId → Prop) (N : Node → Prop) (t u : Tables) : Prop where
  /-- The repositories are the same. -/
  repositories : ∀ b, R b → t.repositories.get? b = u.repositories.get? b
  /-- The topics are the same. -/
  topics : ∀ id, N (.topic id) → t.topics.get? id = u.topics.get? id
  /-- The links are the same. -/
  links : ∀ id, N (.link id) → t.links.get? id = u.links.get? id
  /-- The topics have the same children. -/
  edges : ∀ p, N (.topic p) → t.edges.row p = u.edges.row p
  /-- The topics have the same closure. -/
  closure : ∀ p, N (.topic p) → t.closure.row p = u.closure.row p

namespace AgreeOn

variable {R : RepositoryId → Prop}

lemma refl (R : RepositoryId → Prop) (N : Node → Prop) (t : Tables) : AgreeOn R N t t :=
  ⟨fun _ _ => rfl, fun _ _ => rfl, fun _ _ => rfl, fun _ _ => rfl, fun _ _ => rfl⟩

lemma trans (h : AgreeOn R N t₀ t) (h' : AgreeOn R N t u) : AgreeOn R N t₀ u where
  repositories b hb := (h.repositories b hb).trans (h'.repositories b hb)
  topics id hid := (h.topics id hid).trans (h'.topics id hid)
  links id hid := (h.links id hid).trans (h'.links id hid)
  edges p hp := (h.edges p hp).trans (h'.edges p hp)
  closure p hp := (h.closure p hp).trans (h'.closure p hp)

end AgreeOn

/-- The tables of two runs that are confined to the nodes of a repository: they agree on these, and
on all others the first are as they were at the beginning. -/
structure Twins (r : RepositoryId) (N : Node → Prop) (t₀ t u : Tables) : Prop where
  /-- The nodes are those of the repository in the first run. -/
  left : t.Encloses r N
  /-- They are in the second run. -/
  right : u.Encloses r N
  /-- Both runs agree on them. -/
  inside : t.AgreeOn (· = r) N u
  /-- Elsewhere the first run has changed nothing. -/
  outside : t₀.AgreeOn (· ≠ r) (fun n => ¬ N n) t

/-! ### What a run reads -/

namespace Twins

lemma topic (h : Twins r N t₀ t u) {id : TopicId} (hid : N (.topic id)) {row : Topic}
    (hrow : t.topics.get? id = some row) : N (.topic row.id) ∧ row.repository = r := by
  rw [h.left.keyed.topics id row hrow]
  exact ⟨hid, (h.left.topics id row hrow).1 hid⟩

lemma link (h : Twins r N t₀ t u) {id : LinkId} (hid : N (.link id)) {row : Link}
    (hrow : t.links.get? id = some row) : N (.link row.id) ∧ row.repository = r := by
  rw [h.left.keyed.links id row hrow]
  exact ⟨hid, (h.left.links id row hrow).1 hid⟩

/-- The topics of the repository are the same in both runs. -/
lemma get?_topics_iff (h : Twins r N t₀ t u) {id : TopicId} {row : Topic}
    (hrow : row.repository = r) : t.topics.get? id = some row ↔ u.topics.get? id = some row := by
  constructor
  · intro ht
    rwa [← h.inside.topics id ((h.left.topics id row ht).2 hrow)]
  · intro hu
    rwa [h.inside.topics id ((h.right.topics id row hu).2 hrow)]

/-- The links of the repository are the same in both runs. -/
lemma get?_links_iff (h : Twins r N t₀ t u) {id : LinkId} {row : Link}
    (hrow : row.repository = r) : t.links.get? id = some row ↔ u.links.get? id = some row := by
  constructor
  · intro ht
    rwa [← h.inside.links id ((h.left.links id row ht).2 hrow)]
  · intro hu
    rwa [h.inside.links id ((h.right.links id row hu).2 hrow)]

lemma isTopicOf_iff (h : Twins r N t₀ t u) {id : TopicId} :
    t.IsTopicOf r id ↔ u.IsTopicOf r id :=
  exists_congr fun _ => and_congr_left h.get?_topics_iff

lemma filter_topics (h : Twins r N t₀ t u) :
    (t.topics.values.filter fun row => row.repository == r) =
      u.topics.values.filter fun row => row.repository == r :=
  SortedMap.filter_values_congr fun _ _ hrow => h.get?_topics_iff (beq_iff_eq.1 hrow)

lemma topicNamed_eq (h : Twins r N t₀ t u) (name : String) :
    t.topicNamed r name = u.topicNamed r name := by
  have hfind := congrArg (List.find? fun row : Topic => row.name == name) h.filter_topics
  rw [List.find?_filter, List.find?_filter] at hfind
  simpa only [topicNamed, Bool.decide_and, Bool.decide_eq_true] using hfind

lemma linkHashed_eq (h : Twins r N t₀ t u) (hash : String) :
    t.linkHashed r hash = u.linkHashed r hash := by
  have hfilter : (t.links.values.filter fun row => row.repository == r) =
      u.links.values.filter fun row => row.repository == r :=
    SortedMap.filter_values_congr fun _ _ hrow => h.get?_links_iff (beq_iff_eq.1 hrow)
  have hfind := congrArg (List.find? fun row : Link => row.urlHash == hash) hfilter
  rw [List.find?_filter, List.find?_filter] at hfind
  simpa only [linkHashed, Bool.decide_and, Bool.decide_eq_true] using hfind

lemma matchTopics_eq (h : Twins r N t₀ t u) (q : Query) (limit : Nat) :
    t.matchTopics r q limit = u.matchTopics r q limit := by
  have hfilter := congrArg
    (List.filter fun row : Topic => (wantedWords q).all (Text.foldedWords row.name).contains)
    h.filter_topics
  simp only [List.filter_filter, Bool.and_comm (x := List.all _ _)] at hfilter
  simp only [matchTopics, hfilter]

lemma below_eq (h : Twins r N t₀ t u) {p : TopicId} (hp : N (.topic p)) :
    t.below p = u.below p := by
  have hreach : ∀ n, Reaches t.edges (.topic p) n ↔ Reaches u.edges (.topic p) n := fun n => by
    refine reaches_iff_of_rows_eq (P := fun a => ¬ N (.topic a))
      (fun a ha => h.inside.edges a (not_not.1 ha)) fun a ha => ⟨?_, fun hr => ?_⟩
    · rintro ⟨⟩
      exact ha hp
    · exact ha ((h.left.edges.reaches hr).1 hp)
  ext n
  rw [mem_below, mem_below, hreach]

lemma of_mem_below (h : Twins r N t₀ t u) {p : TopicId} (hp : N (.topic p)) {n : Node}
    (hn : n ∈ t.below p) : N n :=
  (h.left.edges.reaches (mem_below.1 hn).2).1 hp

/-- Whatever a query refers to, a node of the repository lies within it in both runs or in
neither. -/
lemma isWithin_eq (h : Twins r N t₀ t u) (x : TopicId) {n : Node} (hn : N n) :
    t.isWithin x n = u.isWithin x n := by
  have hrow : n ∈ t.closure.row x ↔ n ∈ u.closure.row x :=
    h.left.closure.mem_row_iff h.right.closure h.inside.closure (.inr hn)
  rw [isWithin, isWithin, Bool.eq_iff_iff.2 (SortedRel.holds_iff.trans (hrow.trans
    SortedRel.holds_iff.symm))]

/-- A search below a topic of the repository looks at the same nodes in both runs, all of them of
the repository. -/
lemma candidates_eq (h : Twins r N t₀ t u) {scope : Scope} (hroot : N (.topic scope.root)) :
    t.candidates scope = u.candidates scope ∧ ∀ n ∈ t.candidates scope, N n := by
  have hscope : ∀ n ∈ ((t.closure.row scope.root).insert (.topic scope.root)).toList, N n := by
    intro n hn
    rcases SortedSet.mem_insert.1 hn with rfl | hn
    · exact hroot
    · exact (h.left.closure _ n hn).1 hroot
  refine ⟨?_, fun n hn => hscope n (List.mem_filter.1 hn).1⟩
  rw [candidates, candidates, ← h.inside.closure _ hroot]
  refine List.filter_congr fun n hn => ?_
  simp only [h.isWithin_eq _ (hscope n hn)]

lemma searchTopics_eq (h : Twins r N t₀ t u) {scope : Scope} (hroot : N (.topic scope.root)) :
    t.searchTopics scope = u.searchTopics scope := by
  obtain ⟨heq, hmem⟩ := h.candidates_eq hroot
  have hrows : ((t.candidates scope).filterMap Node.topic?).filterMap t.topics.get? =
      ((u.candidates scope).filterMap Node.topic?).filterMap u.topics.get? := by
    rw [← heq]
    refine List.filterMap_congr fun id hid => h.inside.topics id ?_
    obtain ⟨n, hn, hid⟩ := List.mem_filterMap.1 hid
    cases n <;> cases hid
    exact hmem _ hn
  simp only [searchTopics, hrows]

lemma searchLinks_eq (h : Twins r N t₀ t u) {scope : Scope} (hroot : N (.topic scope.root)) :
    t.searchLinks scope = u.searchLinks scope := by
  obtain ⟨heq, hmem⟩ := h.candidates_eq hroot
  have hrows : ((t.candidates scope).filterMap Node.link?).filterMap t.links.get? =
      ((u.candidates scope).filterMap Node.link?).filterMap u.links.get? := by
    rw [← heq]
    refine List.filterMap_congr fun id hid => h.inside.links id ?_
    obtain ⟨n, hn, hid⟩ := List.mem_filterMap.1 hid
    cases n <;> cases hid
    exact hmem _ hn
  simp only [searchLinks, hrows]

end Twins

/-! ### What a run changes -/

/-- An edit of tables that changes what belongs to a repository only, and reads that only. -/
structure LocalEdit (r : RepositoryId) (N : Node → Prop) (g : Tables → Tables) : Prop where
  /-- What belongs to the repository stays in its place. -/
  encloses : ∀ t : Tables, t.Encloses r N → (g t).Encloses r N
  /-- Tables that agree on the repository agree on it afterwards. -/
  inside : ∀ t₀ t u, Twins r N t₀ t u → (g t).AgreeOn (· = r) N (g u)
  /-- All else stays as it is. -/
  outside : ∀ t : Tables, t.Encloses r N → t.AgreeOn (· ≠ r) (fun n => ¬ N n) (g t)

lemma Twins.edit {g : Tables → Tables} (h : Twins r N t₀ t u) (hg : LocalEdit r N g) :
    Twins r N t₀ (g t) (g u) where
  left := hg.encloses t h.left
  right := hg.encloses u h.right
  inside := hg.inside t₀ t u h
  outside := h.outside.trans (hg.outside t h.left)

namespace LocalEdit

/-- Nothing changes. -/
lemma none : LocalEdit r N fun t => t where
  encloses _ h := h
  inside _ _ _ h := h.inside
  outside t _ := .refl _ _ t

/-- The row of the repository is set. -/
lemma putRepository {row : Repository} (hrow : row.id = r) :
    LocalEdit r N fun t => { t with repositories := t.repositories.insert row.id row } where
  encloses _ h := { h with
    keyed := { h.keyed with repositories := h.keyed.repositories.insert rfl } }
  inside _ _ _ h := { h.inside with
    repositories := fun b hb => SortedMap.get?_insert_congr (h.inside.repositories b hb) _ _ }
  outside t _ := { AgreeOn.refl (· ≠ r) (fun n => ¬ N n) t with
    repositories := fun _ hb => (SortedMap.get?_insert_ne _ _ (hrow ▸ hb)).symm }

/-- The row of a topic of the repository is set. -/
lemma putTopic {row : Topic} (hid : N (.topic row.id)) (hrow : row.repository = r) :
    LocalEdit r N fun t => { t with topics := t.topics.insert row.id row } where
  encloses t h := { h with
    keyed := { h.keyed with topics := h.keyed.topics.insert rfl }
    topics := fun id row' hrow' => by
      by_cases he : id = row.id
      · subst he
        rw [SortedMap.get?_insert_self] at hrow'
        cases hrow'
        exact iff_of_true hid hrow
      · exact h.topics id row' (by rwa [SortedMap.get?_insert_ne _ _ he] at hrow') }
  inside t₀ t u h := { h.inside with
    topics := fun id hid => SortedMap.get?_insert_congr (h.inside.topics id hid) _ _ }
  outside t _ := { AgreeOn.refl (· ≠ r) (fun n => ¬ N n) t with
    topics := fun id hn => by
      rw [SortedMap.get?_insert_ne]
      rintro rfl
      exact hn hid }

/-- A topic of the repository goes. -/
lemma dropTopic {id : TopicId} (hid : N (.topic id)) :
    LocalEdit r N fun t => { t with topics := t.topics.erase id } where
  encloses t h := { h with
    keyed := { h.keyed with topics := h.keyed.topics.erase id }
    topics := fun id' row hrow => by
      by_cases he : id' = id
      · subst he
        simp at hrow
      · exact h.topics id' row (by rwa [SortedMap.get?_erase_ne _ he] at hrow) }
  inside t₀ t u h := { h.inside with
    topics := fun id hid => SortedMap.get?_erase_congr (h.inside.topics id hid) _ }
  outside t _ := { AgreeOn.refl (· ≠ r) (fun n => ¬ N n) t with
    topics := fun id' hn => by
      rw [SortedMap.get?_erase_ne]
      rintro rfl
      exact hn hid }

/-- The row of a link of the repository is set. -/
lemma putLink (row : Link) (hid : N (.link row.id)) (hrow : row.repository = r) :
    LocalEdit r N fun t => { t with links := t.links.insert row.id row } where
  encloses t h := { h with
    keyed := { h.keyed with links := h.keyed.links.insert rfl }
    links := fun id row' hrow' => by
      by_cases he : id = row.id
      · subst he
        rw [SortedMap.get?_insert_self] at hrow'
        cases hrow'
        exact iff_of_true hid hrow
      · exact h.links id row' (by rwa [SortedMap.get?_insert_ne _ _ he] at hrow') }
  inside t₀ t u h := { h.inside with
    links := fun id hid => SortedMap.get?_insert_congr (h.inside.links id hid) _ _ }
  outside t _ := { AgreeOn.refl (· ≠ r) (fun n => ¬ N n) t with
    links := fun id hn => by
      rw [SortedMap.get?_insert_ne]
      rintro rfl
      exact hn hid }

/-- A link of the repository goes. -/
lemma dropLink {id : LinkId} (hid : N (.link id)) :
    LocalEdit r N fun t => { t with links := t.links.erase id } where
  encloses t h := { h with
    keyed := { h.keyed with links := h.keyed.links.erase id }
    links := fun id' row hrow => by
      by_cases he : id' = id
      · subst he
        simp at hrow
      · exact h.links id' row (by rwa [SortedMap.get?_erase_ne _ he] at hrow) }
  inside t₀ t u h := { h.inside with
    links := fun id hid => SortedMap.get?_erase_congr (h.inside.links id hid) _ }
  outside t _ := { AgreeOn.refl (· ≠ r) (fun n => ¬ N n) t with
    links := fun id' hn => by
      rw [SortedMap.get?_erase_ne]
      rintro rfl
      exact hn hid }

/-- The edges of the repository change. -/
lemma edges {f : SortedRel TopicId Node → SortedRel TopicId Node} (hf : SortedRel.LocalEdit N f) :
    LocalEdit r N fun t => { t with edges := f t.edges } where
  encloses _ h := { h with
    keyed := { h.keyed with }
    edges := hf.respects _ h.edges }
  inside _ _ _ h := { h.inside with
    edges := hf.inside _ _ h.left.edges h.right.edges h.inside.edges }
  outside t h := { AgreeOn.refl (· ≠ r) (fun n => ¬ N n) t with edges := hf.outside _ h.edges }

/-- The closure of the repository changes. -/
lemma closure {f : SortedRel TopicId Node → SortedRel TopicId Node}
    (hf : SortedRel.LocalEdit N f) :
    LocalEdit r N fun t => { t with closure := f t.closure } where
  encloses _ h := { h with
    keyed := { h.keyed with }
    closure := hf.respects _ h.closure }
  inside _ _ _ h := { h.inside with
    closure := hf.inside _ _ h.left.closure h.right.closure h.inside.closure }
  outside t h := { AgreeOn.refl (· ≠ r) (fun n => ¬ N n) t with closure := hf.outside _ h.closure }

/-- The closure forgets a node of the repository. -/
lemma purge {n : Node} (hn : N n) : LocalEdit r N fun t => Memory.purge t n := by
  cases n with
  | topic id =>
    exact closure ((SortedRel.LocalEdit.eraseRight hn).comp
      (.editRow hn (g := fun _ => ∅) fun _ _ c hc => absurd hc (SortedSet.not_mem_empty c)))
  | link id => exact closure (.eraseRight hn)

/-- A topic is stored, unless the repository has one of that name. -/
lemma insertTopic {row : Topic} (hid : N (.topic row.id)) (hrow : row.repository = r) :
    LocalEdit r N fun t => (Memory.insertTopic t row).2 where
  encloses t h := by
    unfold Memory.insertTopic
    split
    · exact h
    · exact (putTopic hid hrow).encloses t h
  inside t₀ t u h := by
    have hnamed := h.topicNamed_eq row.name
    rw [← hrow] at hnamed
    simp only [Memory.insertTopic, ← hnamed]
    cases t.topicNamed row.repository row.name with
    | some old => exact h.inside
    | none => exact (putTopic hid hrow).inside t₀ t u h
  outside t h := by
    unfold Memory.insertTopic
    split
    · exact .refl _ _ t
    · exact (putTopic hid hrow).outside t h

/-- A link is stored, unless the repository has one to that page. -/
lemma insertLink {row : Link} (hid : N (.link row.id)) (hrow : row.repository = r) :
    LocalEdit r N fun t => (Memory.insertLink t row).2 where
  encloses t h := by
    unfold Memory.insertLink
    split
    · exact h
    · exact (putLink row hid hrow).encloses t h
  inside t₀ t u h := by
    have hhashed := h.linkHashed_eq row.urlHash
    rw [← hrow] at hhashed
    simp only [Memory.insertLink, ← hhashed]
    cases t.linkHashed row.repository row.urlHash with
    | some old => exact h.inside
    | none => exact (putLink row hid hrow).inside t₀ t u h
  outside t h := by
    unfold Memory.insertLink
    split
    · exact .refl _ _ t
    · exact (putLink row hid hrow).outside t h

end LocalEdit

end Tables

end Polyhierarchy

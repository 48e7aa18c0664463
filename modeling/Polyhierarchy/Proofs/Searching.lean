import Mathlib.Data.String.Basic
import Polyhierarchy.Proofs.Failures

set_option relaxedAutoImplicit false
set_option autoImplicit false

/-!
# What a search finds

A search reads the closure. After every history the closure is that of the edges, so what a search
finds can be said without it: the rows of the nodes that direct edges lead to from the root of the
search, and from each topic that the query refers to, as far as they hold every token of the query.
They come in a strict order, which leaves one list only, and a limit cuts this list.

## Main definitions

* `Reachability.Within` — a node is a topic or lies below it.
* `Topic.Before`, `Link.Before` — the orders of the results.
* `Enumerates` — a list holds just what satisfies a condition, each once, in an order.
* `Tables.topicResults`, `Tables.linkResults` — the results of a search without a limit.

## Main results

* `Tables.enumerates_topicResults`, `Tables.enumerates_linkResults` — what the results are, on
  coherent tables.
* `Operation.run_search` — what a search returns.
* `Memory.Reachable.search_exact` — what a search returns after every history.
-/

namespace Polyhierarchy

open Reachability

/-! ### Orders -/

/-- Topics come by name, and topics of one name by their identifiers. -/
def Topic.Before (a b : Topic) : Prop := a.name < b.name ∨ a.name = b.name ∧ rank a.id < rank b.id

/-- Links come from the newest to the oldest, and those of one instant by their identifiers. -/
def Link.Before (a b : Link) : Prop :=
  b.createdAt.isBefore a.createdAt = true ∨ a.createdAt = b.createdAt ∧ rank a.id < rank b.id

/-- A list holds just what satisfies a condition, each once, and is in order. -/
structure Enumerates {α : Type} (before : α → α → Prop) (P : α → Prop) (l : List α) : Prop where
  /-- What comes earlier in the list comes before what comes later. -/
  ordered : l.Pairwise before
  /-- Nothing occurs twice. -/
  nodup : l.Nodup
  /-- The list holds what satisfies the condition, and nothing else. -/
  mem_iff : ∀ a, a ∈ l ↔ P a

lemma Enumerates.congr {α : Type} {before : α → α → Prop} {P Q : α → Prop} {l : List α}
    (h : Enumerates before P l) (hPQ : ∀ a, P a ↔ Q a) : Enumerates before Q l :=
  ⟨h.ordered, h.nodup, fun a => (h.mem_iff a).trans (hPQ a)⟩

/-- A list of rows, each of them once, is no longer than the map that they are from. -/
lemma Enumerates.length_le_size {κ ν : Type} [Ranked κ] {before : ν → ν → Prop} {P : ν → Prop}
    {l : List ν} (h : Enumerates before P l) {rows : SortedMap κ ν}
    (hrows : ∀ row, P row → ∃ k, rows.get? k = some row) : l.length ≤ rows.size := by
  have hvalues : l ⊆ rows.values := fun row hrow =>
    SortedMap.mem_values_iff.2 (hrows row ((h.mem_iff row).1 hrow))
  calc l.length ≤ rows.values.length := (List.subperm_of_subset h.nodup hvalues).length_le
    _ = rows.size := List.length_map _

/-- A sorted list without repetitions enumerates its elements, where different elements that are in
order come one before the other. -/
lemma enumerates_mergeSort {α : Type} {before : α → α → Prop} {P : α → Prop} {le : α → α → Bool}
    (htrans : ∀ a b c, le a b = true → le b c = true → le a c = true)
    (htotal : ∀ a b, (le a b || le b a) = true) {l : List α} (hnodup : l.Nodup)
    (hbefore : ∀ a ∈ l, ∀ b ∈ l, a ≠ b → le a b = true → before a b)
    (hmem : ∀ a, a ∈ l ↔ P a) : Enumerates before P (l.mergeSort le) where
  ordered := by
    have hne : (l.mergeSort le).Pairwise (· ≠ ·) :=
      List.nodup_iff_pairwise_ne.1 ((List.mergeSort_perm l le).nodup_iff.2 hnodup)
    refine (hne.and (List.pairwise_mergeSort htrans htotal l)).imp_of_mem ?_
    rintro a b ha hb ⟨hab, hle⟩
    exact hbefore a (List.mem_mergeSort.1 ha) b (List.mem_mergeSort.1 hb) hab hle
  nodup := (List.mergeSort_perm l le).nodup_iff.2 hnodup
  mem_iff a := List.mem_mergeSort.trans (hmem a)

/-- One element comes no later than another: its key comes first, or the keys are the same and its
number is not greater. -/
def KeyOrder {α κ : Type} (lt : κ → κ → Prop) (key : α → κ) (number : α → Nat) (a b : α) : Prop :=
  lt (key a) (key b) ∨ key a = key b ∧ number a ≤ number b

namespace KeyOrder

variable {α κ : Type} {lt : κ → κ → Prop} {key : α → κ} {number : α → Nat}

lemma trans {a b c : α} (hab : KeyOrder lt key number a b) (hbc : KeyOrder lt key number b c)
    (hlt : ∀ x y z, lt x y → lt y z → lt x z) : KeyOrder lt key number a c := by
  rcases hab with hab | ⟨hab, hab'⟩
  · rcases hbc with hbc | ⟨hbc, -⟩
    · exact .inl (hlt _ _ _ hab hbc)
    · exact .inl (hbc ▸ hab)
  · rcases hbc with hbc | ⟨hbc, hbc'⟩
    · exact .inl (hab ▸ hbc)
    · exact .inr ⟨hab.trans hbc, hab'.trans hbc'⟩

lemma total (hlt : ∀ x y, lt x y ∨ x = y ∨ lt y x) (a b : α) :
    KeyOrder lt key number a b ∨ KeyOrder lt key number b a := by
  rcases hlt (key a) (key b) with h | h | h
  · exact .inl (.inl h)
  · rcases Nat.le_total (number a) (number b) with h' | h'
    · exact .inl (.inr ⟨h, h'⟩)
    · exact .inr (.inr ⟨h.symm, h'⟩)
  · exact .inr (.inl h)

/-- Different numbers leave one strict order. -/
lemma lt_of_ne {a b : α} (h : KeyOrder lt key number a b) (hne : number a ≠ number b) :
    lt (key a) (key b) ∨ key a = key b ∧ number a < number b :=
  h.imp_right fun ⟨hkey, hle⟩ => ⟨hkey, Nat.lt_of_le_of_ne hle hne⟩

end KeyOrder

namespace Instant

lemma isBefore_iff {a b : Instant} :
    a.isBefore b = true ↔ a.seconds < b.seconds ∨ a.seconds = b.seconds ∧ a.nanos < b.nanos := by
  simp only [isBefore, Bool.or_eq_true, Bool.and_eq_true, decide_eq_true_eq, beq_iff_eq]

lemma isBefore_trans {a b c : Instant} (hab : a.isBefore b = true) (hbc : b.isBefore c = true) :
    a.isBefore c = true := by
  rw [isBefore_iff] at *
  omega

lemma isBefore_trichotomy (a b : Instant) :
    a.isBefore b = true ∨ a = b ∨ b.isBefore a = true := by
  rw [isBefore_iff, isBefore_iff]
  obtain ⟨s, n⟩ := a
  obtain ⟨s', n'⟩ := b
  simp only [mk.injEq]
  omega

end Instant

namespace Tables

lemma topicOrder_iff {a b : Topic} :
    topicOrder a b = true ↔ KeyOrder (· < ·) Topic.name (fun row => rank row.id) a b := by
  simp only [topicOrder, Bool.or_eq_true, Bool.and_eq_true, decide_eq_true_eq, beq_iff_eq, KeyOrder]

lemma linkOrder_iff {a b : Link} :
    linkOrder a b = true ↔ KeyOrder (fun x y => y.isBefore x = true) Link.createdAt
      (fun row => rank row.id) a b := by
  simp only [linkOrder, Bool.or_eq_true, Bool.and_eq_true, decide_eq_true_eq, beq_iff_eq, KeyOrder]

lemma topicOrder_trans (a b c : Topic) (hab : topicOrder a b = true)
    (hbc : topicOrder b c = true) : topicOrder a c = true := by
  rw [topicOrder_iff] at *
  exact hab.trans hbc fun _ _ _ => String.lt_trans

lemma topicOrder_total (a b : Topic) : (topicOrder a b || topicOrder b a) = true := by
  rw [Bool.or_eq_true, topicOrder_iff, topicOrder_iff]
  exact KeyOrder.total lt_trichotomy a b

lemma linkOrder_trans (a b c : Link) (hab : linkOrder a b = true) (hbc : linkOrder b c = true) :
    linkOrder a c = true := by
  rw [linkOrder_iff] at *
  exact hab.trans hbc fun _ _ _ hxy hyz => Instant.isBefore_trans hyz hxy

lemma linkOrder_total (a b : Link) : (linkOrder a b || linkOrder b a) = true := by
  rw [Bool.or_eq_true, linkOrder_iff, linkOrder_iff]
  exact KeyOrder.total (fun x y => by
    rcases Instant.isBefore_trichotomy x y with h | h | h
    · exact .inr (.inr h)
    · exact .inr (.inl h)
    · exact .inl h) a b

end Tables

/-! ### Where a search looks -/

namespace Reachability

/-- A node is a topic, or one or more direct edges lead to it from the topic. -/
def Within (edges : SortedRel TopicId Node) (x : TopicId) (n : Node) : Prop :=
  n = .topic x ∨ Reaches edges (.topic x) n

end Reachability

namespace Tables

variable {t : Tables}

/-- Where the closure is exact, it tells what lies within a topic. -/
lemma Exact.isWithin_iff (h : t.Exact) {x : TopicId} {n : Node} :
    t.isWithin x n = true ↔ Within t.edges x n := by
  rw [isWithin, Bool.or_eq_true, beq_iff_eq, SortedRel.holds_iff, h x n, Within]
  tauto

/-- The nodes that a search looks at. -/
lemma Exact.mem_candidates (h : t.Exact) {scope : Scope} {n : Node} :
    n ∈ t.candidates scope ↔ Within t.edges scope.root n ∧
      ∀ r ∈ scope.query.references, Within t.edges r.topic n := by
  rw [candidates, List.mem_filter, ← SortedSet.mem_def, SortedSet.mem_insert, h scope.root n,
    List.all_eq_true, Query.topics, List.forall_mem_map]
  simp only [h.isWithin_iff, Within]
  tauto

lemma nodup_candidates (scope : Scope) : (t.candidates scope).Nodup := by
  have hsorted := ((t.closure.row scope.root).insert (.topic scope.root)).sorted
  exact (List.nodup_iff_pairwise_ne.2 (hsorted.imp Ranked.ne_of_lt)).filter _

/-- Nothing lies within a topic that is not stored. -/
lemma Coherent.not_within (h : t.Coherent) {x : TopicId} (hx : t.topics.get? x = none) {n : Node}
    {v : Place} (hn : t.place? n = some v) : ¬ Within t.edges x n := by
  have hplace : t.place? (.topic x) = none := by simp [place?, hx]
  rintro (rfl | hr)
  · rw [hplace] at hn
    cases hn
  · obtain ⟨r, b, hx', -⟩ := h.hierarchical.within_of_reaches hr
    rw [hplace] at hx'
    cases hx'

/-! ### The results -/

/-- A text holds another one somewhere, once both are in lower case. -/
def Holds (text token : String) : Prop :=
  Text.toLower token.toList <:+: Text.toLower text.toList

lemma contains_iff_holds {text token : String} :
    Text.contains text token = true ↔ Holds text token := Text.isInfix_iff

/-- Whether a node lies where a search looks: within the root, and within each topic that the query
refers to. -/
def InScope (t : Tables) (root : TopicId) (q : Query) (n : Node) : Prop :=
  Within t.edges root n ∧ ∀ r ∈ q.references, Within t.edges r.topic n

/-- Whether a topic is to be found: it is stored, lies where the search looks, and its name holds
every token. -/
def TopicFound (t : Tables) (root : TopicId) (q : Query) (row : Topic) : Prop :=
  t.topics.get? row.id = some row ∧ t.InScope root q (.topic row.id) ∧
    ∀ w ∈ q.tokens, Holds row.name w

/-- Whether a link is to be found: it is stored, lies where the search looks, and its title, its URL
or its canonical URL holds each token. -/
def LinkFound (t : Tables) (root : TopicId) (q : Query) (row : Link) : Prop :=
  t.links.get? row.id = some row ∧ t.InScope root q (.link row.id) ∧
    ∀ w ∈ q.tokens, Holds row.title w ∨ Holds row.url w ∨ Holds row.canonicalUrl w

/-- The topics that a search finds, in order, without a limit. -/
def topicResults (t : Tables) (root : TopicId) (q : Query) : List Topic :=
  ((((t.candidates ⟨root, q, 0⟩).filterMap Node.topic?).filterMap t.topics.get?).filter
    (topicMatches q)).mergeSort topicOrder

/-- The links that a search finds, in order, without a limit. -/
def linkResults (t : Tables) (root : TopicId) (q : Query) : List Link :=
  ((((t.candidates ⟨root, q, 0⟩).filterMap Node.link?).filterMap t.links.get?).filter
    (linkMatches q)).mergeSort linkOrder

/-- A limit cuts the list of the topics found. -/
lemma searchTopics_eq (scope : Scope) :
    t.searchTopics scope = (t.topicResults scope.root scope.query).take scope.limit := rfl

/-- A limit cuts the list of the links found. -/
lemma searchLinks_eq (scope : Scope) :
    t.searchLinks scope = (t.linkResults scope.root scope.query).take scope.limit := rfl

/-- Different rows that are stored under their identifiers differ in these. -/
lemma rank_ne_of_get? {κ ν : Type} [Ranked κ] {rows : SortedMap κ ν} {id : ν → κ} {a b : ν}
    (ha : rows.get? (id a) = some a) (hb : rows.get? (id b) = some b) (hne : a ≠ b) :
    rank (id a) ≠ rank (id b) := by
  intro hrank
  rw [rank_injective hrank, hb] at ha
  exact hne (Option.some.inj ha).symm

/-- The rows of one kind of nodes, picked from where a search looks, and sorted.

**Proof sketch.** The nodes are in a set, so each comes once, and each row has one node. The rows of
different nodes have different identifiers, so the order leaves nothing open. -/
lemma Exact.enumerates_rows (h : t.Exact) {κ ν : Type} [Ranked κ] {pick : Node → Option κ}
    (node : κ → Node) (hpick : ∀ n k, pick n = some k ↔ n = node k) {rows : SortedMap κ ν}
    {id : ν → κ} (hkeyed : rows.KeyedBy id) {before : ν → ν → Prop} {le : ν → ν → Bool}
    (htrans : ∀ a b c, le a b = true → le b c = true → le a c = true)
    (htotal : ∀ a b, (le a b || le b a) = true)
    (hbefore : ∀ a b, rank (id a) ≠ rank (id b) → le a b = true → before a b) (keep : ν → Bool)
    (root : TopicId) (q : Query) :
    Enumerates before
      (fun row => rows.get? (id row) = some row ∧ t.InScope root q (node (id row)) ∧
        keep row = true)
      (((((t.candidates ⟨root, q, 0⟩).filterMap pick).filterMap rows.get?).filter keep).mergeSort
        le) := by
  have hmem : ∀ row, row ∈ ((((t.candidates ⟨root, q, 0⟩).filterMap pick).filterMap
      rows.get?).filter keep) ↔ rows.get? (id row) = some row ∧
        t.InScope root q (node (id row)) ∧ keep row = true := by
    intro row
    simp only [List.mem_filter, List.mem_filterMap, h.mem_candidates, hpick]
    constructor
    · rintro ⟨⟨k, ⟨n, hn, rfl⟩, hk⟩, hkeep⟩
      obtain rfl : id row = k := hkeyed k row hk
      exact ⟨hk, hn, hkeep⟩
    · rintro ⟨hk, hn, hkeep⟩
      exact ⟨⟨id row, ⟨node (id row), hn, rfl⟩, hk⟩, hkeep⟩
  refine enumerates_mergeSort htrans htotal ?_ ?_ hmem
  · refine List.Nodup.filter _ (List.Nodup.filterMap ?_ (List.Nodup.filterMap ?_
      (nodup_candidates _)))
    · intro a b row ha hb
      rw [← hkeyed a row ha, ← hkeyed b row hb]
    · intro m n k hm hn
      rw [(hpick m k).1 hm, (hpick n k).1 hn]
  · intro a ha b hb hne hle
    exact hbefore a b (rank_ne_of_get? ((hmem a).1 ha).1 ((hmem b).1 hb).1 hne) hle

/-- **The topics found are those to be found.** -/
theorem Coherent.enumerates_topicResults (h : t.Coherent) (root : TopicId) (q : Query) :
    Enumerates Topic.Before (t.TopicFound root q) (t.topicResults root q) := by
  refine (h.exact.enumerates_rows .topic ?_ h.keyed.topics topicOrder_trans
    topicOrder_total ?_ (topicMatches q) root q).congr fun row => ?_
  · intro n k
    cases n <;> simp [Node.topic?]
  · exact fun a b hne hle => (topicOrder_iff.1 hle).lt_of_ne hne
  · simp only [TopicFound, topicMatches, List.all_eq_true, contains_iff_holds]

/-- **The links found are those to be found.** -/
theorem Coherent.enumerates_linkResults (h : t.Coherent) (root : TopicId) (q : Query) :
    Enumerates Link.Before (t.LinkFound root q) (t.linkResults root q) := by
  refine (h.exact.enumerates_rows .link ?_ h.keyed.links linkOrder_trans
    linkOrder_total ?_ (linkMatches q) root q).congr fun row => ?_
  · intro n k
    cases n <;> simp [Node.link?]
  · exact fun a b hne hle => (linkOrder_iff.1 hle).lt_of_ne hne
  · simp only [LinkFound, linkMatches, List.all_eq_true, Bool.or_eq_true, contains_iff_holds,
      or_assoc]

/-- A reference to a topic that is not stored leaves nothing to be found. -/
lemma Coherent.results_eq_nil (h : t.Coherent) {root : TopicId} {q : Query} {r : TopicRef}
    (hr : r ∈ q.references) (hnone : t.topics.get? r.topic = none) :
    t.topicResults root q = [] ∧ t.linkResults root q = [] := by
  constructor
  · rw [List.eq_nil_iff_forall_not_mem]
    intro row hrow
    obtain ⟨hstored, hscope, -⟩ := ((h.enumerates_topicResults root q).mem_iff row).1 hrow
    exact h.not_within hnone (place?_topic_eq_some.2 ⟨row, hstored, rfl, rfl⟩) (hscope.2 r hr)
  · rw [List.eq_nil_iff_forall_not_mem]
    intro row hrow
    obtain ⟨hstored, hscope, -⟩ := ((h.enumerates_linkResults root q).mem_iff row).1 hrow
    exact h.not_within hnone (place?_link_eq_some.2 ⟨row, hstored, rfl, rfl⟩) (hscope.2 r hr)

end Tables

/-! ### Searches of the service -/

namespace Search

open Program

variable {t : Tables}

/-- The store is asked for topics, or the limit leaves none. -/
lemma on_topics (scope : Scope) :
    (topics scope).on t = (.ok ((t.topicResults scope.root scope.query).take scope.limit), t) ∧
      (topics scope).closureWrites t = 0 := by
  rw [topics, ← Tables.searchTopics_eq]
  split
  next hlimit =>
    rw [Tables.searchTopics_eq, hlimit]
    exact ⟨rfl, rfl⟩
  next => exact ⟨rfl, rfl⟩

/-- The store is asked for links, or the limit leaves none. -/
lemma on_links (scope : Scope) :
    (links scope).on t = (.ok ((t.linkResults scope.root scope.query).take scope.limit), t) ∧
      (links scope).closureWrites t = 0 := by
  rw [links, ← Tables.searchLinks_eq]
  split
  next hlimit =>
    rw [Tables.searchLinks_eq, hlimit]
    exact ⟨rfl, rfl⟩
  next => exact ⟨rfl, rfl⟩

/-- A search reads the results of both kinds, each up to its limit. -/
lemma on_run (root : TopicId) (q : Query) (m n : Nat) :
    (run root q m n).on t =
        (.ok ⟨(t.topicResults root q).take m, (t.linkResults root q).take n⟩, t) ∧
      (run root q m n).closureWrites t = 0 := by
  obtain ⟨htopics, htopics'⟩ := on_topics (t := t) ⟨root, q, m⟩
  obtain ⟨hlinks, hlinks'⟩ := on_links (t := t) ⟨root, q, n⟩
  constructor
  · simp only [run, on_bind, on_lookAt, htopics, hlinks, pure_eq, on_done]
  · simp only [run, closureWrites_bind, on_lookAt, htopics, hlinks, htopics', hlinks', pure_eq]
    rfl

end Search

namespace Operation

variable {τ : Type}

/-- What a program returns that only reads, and is run below a stored topic. -/
lemma run_below {mem : Memory} {root : TopicId} {row : Topic}
    (hroot : mem.tables.topics.get? root = some row) {body : Program SearchResults}
    {found : SearchResults}
    (hbody : body.on mem.tables = (.ok found, mem.tables) ∧ body.closureWrites mem.tables = 0)
    (titles : TitleSource τ) (s : τ) :
    (reading do let _ ← Lookup.topic root; body).run Memory.store titles .never (mem, s) =
      (.ok found, mem, s) := by
  have hlook : (Lookup.topic root).on mem.tables = (.ok row, mem.tables) :=
    Lookup.on_topic_eq_ok.2 ⟨hroot, rfl⟩
  rw [run_reading]
  · rw [Program.on_bind, hlook]
    dsimp only
    rw [hbody.1]
    rfl
  · rw [Program.closureWrites_bind, hlook]
    dsimp only
    rw [hbody.2]
    simp [Lookup.topic, Program.request, Program.closureWrites, Memory.writesClosure,
      Memory.reply, Memory.answer, hroot]

/-- **A search below a stored topic** returns the results of both kinds, each up to its limit. -/
theorem run_search {mem : Memory} {root : TopicId} {row : Topic}
    (hroot : mem.tables.topics.get? root = some row) (text : String) (m n : Nat)
    (titles : TitleSource τ) (s : τ) :
    (search root text m n).run Memory.store titles .never (mem, s) =
      (.ok ⟨(mem.tables.topicResults root (Query.parse text)).take m,
        (mem.tables.linkResults root (Query.parse text)).take n⟩, mem, s) :=
  run_below hroot (Search.on_run root (Query.parse text) m n) titles s

end Operation

namespace Memory

/-- **A search is exact with respect to the direct edges, after every history.** There is one list
of topics and one of links that hold just what is to be found, in order, and whatever the limits
are, a search below a stored topic returns the beginnings of both, and changes nothing. If the query
refers to a topic that is not stored, both lists are empty. -/
theorem Reachable.search_exact {mem : Memory} (h : mem.Reachable) {root : TopicId} {row : Topic}
    (hroot : mem.tables.topics.get? root = some row) (text : String) {τ : Type}
    (titles : TitleSource τ) (s : τ) :
    let q := Query.parse text
    ∃ (topics : List Topic) (links : List Link),
      (∀ m n, (Operation.search root text m n).run store titles .never (mem, s) =
        (.ok ⟨topics.take m, links.take n⟩, mem, s)) ∧
      Enumerates Topic.Before (mem.tables.TopicFound root q) topics ∧
      Enumerates Link.Before (mem.tables.LinkFound root q) links ∧
      ∀ r ∈ q.references, mem.tables.topics.get? r.topic = none → topics = [] ∧ links = [] := by
  intro q
  have hc := h.coherent
  exact ⟨mem.tables.topicResults root q, mem.tables.linkResults root q,
    fun m n => Operation.run_search hroot text m n titles s, hc.enumerates_topicResults root q,
    hc.enumerates_linkResults root q, fun r hr hnone => hc.results_eq_nil hr hnone⟩

/-- Below the root of the chain and within its first topic, the second topic is found by its name in
capital letters. -/
theorem search_exact_chain :
    let text := "DIARIES in:/books/topics/00000000-0000-0000-0000-000000000002"
    ∃ topics : List Topic, (∀ m, ∃ links, (Operation.search ⟨⟨1⟩⟩ text m 0).run store .silent .never
      (chain, ()) = (.ok ⟨topics.take m, links⟩, chain, ())) ∧
      ∃ row ∈ topics, row.id = ⟨⟨3⟩⟩ := by
  intro text
  have hid : ∀ id : TopicId, (chain.tables.topics.get? id).map Topic.id = some id →
      ∃ row, chain.tables.topics.get? id = some row ∧ row.id = id := fun _ =>
    Option.map_eq_some_iff.1
  obtain ⟨root, hroot, -⟩ := hid ⟨⟨1⟩⟩ (by decide +kernel)
  obtain ⟨row, hrow, hrowId⟩ := hid ⟨⟨3⟩⟩ (by decide +kernel)
  obtain ⟨topics, links, hrun, htopics, -⟩ :=
    reachable_chain.search_exact hroot text TitleSource.silent ()
  refine ⟨topics, fun m => ⟨links.take 0, hrun m 0⟩, row, (htopics.mem_iff row).2 ?_, hrowId⟩
  have hwithin : ∀ x ∈ [(⟨⟨1⟩⟩ : TopicId), ⟨⟨2⟩⟩], Within chain.tables.edges x (.topic row.id) := by
    rw [hrowId]
    intro x hx
    exact reachable_chain.coherent.exact.isWithin_iff.1
      ((by decide +kernel : ∀ x ∈ [(⟨⟨1⟩⟩ : TopicId), ⟨⟨2⟩⟩],
        chain.tables.isWithin x (.topic ⟨⟨3⟩⟩) = true) x hx)
  refine ⟨hrowId ▸ hrow, ⟨hwithin _ (by decide), fun r hr => hwithin _ ?_⟩, fun w hw => ?_⟩
  · exact (by decide +kernel : ∀ r ∈ (Query.parse text).references,
      r.topic ∈ [(⟨⟨1⟩⟩ : TopicId), ⟨⟨2⟩⟩]) r hr
  · have hholds : ∀ w ∈ (Query.parse text).tokens,
        (chain.tables.topics.get? ⟨⟨3⟩⟩).any (fun row => Text.contains row.name w) = true := by
      decide +kernel
    have hw' := hholds w hw
    rw [hrow] at hw'
    exact Tables.contains_iff_holds.1 hw'

end Memory

end Polyhierarchy

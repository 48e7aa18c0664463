import Polyhierarchy.Proofs.Searching

set_option relaxedAutoImplicit false
set_option autoImplicit false

/-!
# Pages of results

A page takes its topics and its links from two lists that are cut apart from each other. If the
topics are put before the links, a page is nevertheless the beginning of one list: what the topics
leave of its size is what the list has left for links.

## Main definitions

* `SearchResults.listed` — the results in one list.
* `SearchResults.firstPage` — the page that begins with the first result.
* `Tables.results` — the results of a search without limits.

## Main results

* `SearchResults.listed_firstPage` — a page is the beginning of the list of all results.
* `Operation.run_searchPage` — what a search for a page returns.
* `Memory.Reachable.page_exact` — what a page holds after every history.
-/

namespace Polyhierarchy

/-! ### Results in one list -/

namespace SearchResults

variable (r : SearchResults) {n m : Nat}

/-- The results in one list: the topics, then the links. -/
def listed : List (Topic ⊕ Link) := r.topics.map .inl ++ r.links.map .inr

/-- The results of each kind up to a limit of its own. -/
def upTo (m n : Nat) : SearchResults := ⟨r.topics.take m, r.links.take n⟩

/-- The first page: topics up to its size, and links on what all the topics leave of it. -/
def firstPage (n : Nat) : SearchResults := r.upTo n (n - r.topics.length)

lemma size_eq_length_listed : r.size = r.listed.length := by
  rw [listed, List.length_append, List.length_map, List.length_map, size]

/-- **A page is the beginning of the list of all results.** -/
lemma listed_firstPage (n : Nat) : (r.firstPage n).listed = r.listed.take n := by
  rw [listed, listed, firstPage, upTo, List.take_append, List.length_map, List.map_take,
    List.map_take]

/-- Limits that are no smaller than a page leave its results where they are. -/
lemma take_listed_upTo (h : n ≤ m) : (r.upTo m m).listed.take n = r.listed.take n := by
  rw [listed, listed, upTo, List.take_append, List.take_append, List.map_take, List.map_take,
    List.take_take, List.take_take, List.length_take, List.length_map, Nat.min_eq_left h]
  -- If the limit cuts the topics, they fill the page, and it has no links.
  congr 2
  omega

/-- A smaller page is the beginning of a larger one. -/
lemma listed_firstPage_prefix (h : n ≤ m) : (r.firstPage n).listed <+: (r.firstPage m).listed := by
  rw [listed_firstPage, listed_firstPage]
  exact List.take_prefix_take_left h

/-- A page is full unless it holds all results. -/
lemma size_firstPage (n : Nat) : (r.firstPage n).size = min n r.size := by
  rw [size_eq_length_listed, size_eq_length_listed, listed_firstPage, List.length_take]

/-- A page with a link holds all topics. -/
lemma topics_firstPage (h : (r.firstPage n).links ≠ []) : (r.firstPage n).topics = r.topics := by
  have hleft : 0 < n - r.topics.length := by
    by_contra hnone
    rw [firstPage, upTo, Nat.eq_zero_of_not_pos hnone] at h
    exact h rfl
  exact List.take_of_length_le (by omega)

end SearchResults

/-! ### Searches for a page -/

/-- The results of a search without limits. -/
def Tables.results (t : Tables) (root : TopicId) (q : Query) : SearchResults :=
  ⟨t.topicResults root q, t.linkResults root q⟩

namespace Search

open Program

/-- A page is read as the first page of all results: the topics that it holds leave as much of its
size as all topics do. -/
lemma on_page {t : Tables} (root : TopicId) (q : Query) (n : Nat) :
    (page root q n).on t = (.ok ((t.results root q).firstPage n), t) ∧
      (page root q n).closureWrites t = 0 := by
  obtain ⟨htopics, htopics'⟩ := on_topics (t := t) ⟨root, q, n⟩
  obtain ⟨hlinks, hlinks'⟩ :=
    on_links (t := t) ⟨root, q, n - ((t.topicResults root q).take n).length⟩
  have hleft : n - ((t.topicResults root q).take n).length =
      n - (t.topicResults root q).length := by
    rw [List.length_take]
    omega
  constructor
  · simp only [page, on_bind, on_lookAt, htopics, hlinks, pure_eq, on_done]
    rw [hleft]
    rfl
  · simp only [page, closureWrites_bind, on_lookAt, htopics, hlinks, htopics', hlinks', pure_eq]
    rfl

end Search

/-- **A search for a page below a stored topic** returns the first page of all results. -/
theorem Operation.run_searchPage {mem : Memory} {root : TopicId} {row : Topic}
    (hroot : mem.tables.topics.get? root = some row) (text : String) (n : Nat) {τ : Type}
    (titles : TitleSource τ) (s : τ) :
    (searchPage root text n).run Memory.store titles .never (mem, s) =
      (.ok ((mem.tables.results root (Query.parse text)).firstPage n), mem, s) :=
  run_below hroot (Search.on_page root (Query.parse text) n) titles s

/-- **A search with limits that allow for all that is stored** returns all results. -/
lemma Operation.run_search_all {mem : Memory} (h : mem.tables.Coherent) {root : TopicId}
    {row : Topic} (hroot : mem.tables.topics.get? root = some row) (text : String) {m n : Nat}
    (hm : mem.tables.topics.size ≤ m) (hn : mem.tables.links.size ≤ n) {τ : Type}
    (titles : TitleSource τ) (s : τ) :
    (search root text m n).run Memory.store titles .never (mem, s) =
      (.ok (mem.tables.results root (Query.parse text)), mem, s) := by
  have htopics := (h.enumerates_topicResults root (Query.parse text)).length_le_size
    fun row hrow => ⟨row.id, hrow.1⟩
  have hlinks := (h.enumerates_linkResults root (Query.parse text)).length_le_size
    fun row hrow => ⟨row.id, hrow.1⟩
  rw [run_search hroot, List.take_of_length_le (htopics.trans hm),
    List.take_of_length_le (hlinks.trans hn)]
  rfl

namespace Memory

/-- **What a page holds, after every history.** All that is to be found below a stored topic makes
up one list of topics and one of links. A page holds as many results as its size allows for, and a
link only if it holds all the topics. It is the beginning of what a search returns with limits that
are no smaller than the page, the topics listed before the links; and it is the beginning of every
larger page. -/
theorem Reachable.page_exact {mem : Memory} (h : mem.Reachable) {root : TopicId} {row : Topic}
    (hroot : mem.tables.topics.get? root = some row) (text : String) {τ : Type}
    (titles : TitleSource τ) (s : τ) :
    let q := Query.parse text
    ∃ all : SearchResults,
      Enumerates Topic.Before (mem.tables.TopicFound root q) all.topics ∧
      Enumerates Link.Before (mem.tables.LinkFound root q) all.links ∧
      ∀ n, ∃ page : SearchResults,
        (Operation.searchPage root text n).run store titles .never (mem, s) =
          (.ok page, mem, s) ∧
        page.size = min n all.size ∧
        (page.links ≠ [] → page.topics = all.topics) ∧
        ∀ m, n ≤ m → ∃ found larger : SearchResults,
          (Operation.search root text m m).run store titles .never (mem, s) =
            (.ok found, mem, s) ∧
          page.listed = found.listed.take n ∧
          (Operation.searchPage root text m).run store titles .never (mem, s) =
            (.ok larger, mem, s) ∧
          page.listed <+: larger.listed := by
  intro q
  have hc := h.coherent
  refine ⟨mem.tables.results root q, hc.enumerates_topicResults root q,
    hc.enumerates_linkResults root q, fun n => ?_⟩
  refine ⟨_, Operation.run_searchPage hroot text n titles s, SearchResults.size_firstPage _ n,
    SearchResults.topics_firstPage _, fun m hm => ?_⟩
  refine ⟨_, _, Operation.run_search hroot text m m titles s, ?_,
    Operation.run_searchPage hroot text m titles s, SearchResults.listed_firstPage_prefix _ hm⟩
  rw [SearchResults.listed_firstPage]
  exact (SearchResults.take_listed_upTo _ hm).symm

/-- Below the root of the chain there are three topics and a link, and a page of three results is
the beginning of a page of all four. -/
theorem page_exact_chain :
    ∃ page larger : SearchResults,
      (Operation.searchPage ⟨⟨1⟩⟩ "" 3).run store .silent .never (chain, ()) =
        (.ok page, chain, ()) ∧
      (Operation.searchPage ⟨⟨1⟩⟩ "" 4).run store .silent .never (chain, ()) =
        (.ok larger, chain, ()) ∧
      page.size = 3 ∧ larger.size = 4 ∧ page.listed <+: larger.listed := by
  obtain ⟨root, hroot⟩ : ∃ root, chain.tables.topics.get? ⟨⟨1⟩⟩ = some root :=
    Option.isSome_iff_exists.1 (by decide +kernel)
  obtain ⟨all, -, -, hpages⟩ := reachable_chain.page_exact hroot "" TitleSource.silent ()
  obtain ⟨page, hpage, -, -, hlarger⟩ := hpages 3
  obtain ⟨-, larger, -, -, hrun, hbegins⟩ := hlarger 4 (by decide)
  have hall : (chain.tables.results ⟨⟨1⟩⟩ (Query.parse "")).size = 4 := by
    rw [SearchResults.size, Tables.results, Tables.topicResults, Tables.linkResults,
      List.length_mergeSort, List.length_mergeSort]
    decide +kernel
  rw [Operation.run_searchPage hroot] at hpage hrun
  cases hpage
  cases hrun
  refine ⟨_, _, Operation.run_searchPage hroot .., Operation.run_searchPage hroot .., ?_, ?_,
    hbegins⟩
  · rw [SearchResults.size_firstPage, hall]
    decide
  · rw [SearchResults.size_firstPage, hall]
    decide

end Memory

end Polyhierarchy

import Polyhierarchy.Proofs.Casing
import Polyhierarchy.Proofs.QueryWords
import Polyhierarchy.Proofs.Searching

set_option relaxedAutoImplicit false
set_option autoImplicit false

/-!
# Finding what stands there

A search takes no notice of letter case, so one may expect that it finds whatever holds each of its
words letter by letter. This is so but for the capital sigma: the words are lowered by themselves,
and the names, titles and URLs as a whole, and a sigma that ends a word in the one need not end one
in the other. A search finds whatever holds its words at places that keep their capital sigmas.

## Main definitions

* `Query.IsPlain` — the words of a text are neither references nor URLs.
* `Memory.odyssey` — a topic whose name has capital sigmas amid its letters.

## Main results

* `Query.parse_of_isPlain` — the query that such a text is.
* `Memory.Reachable.finds_verbatim` — what a search finds for sure, after every history.
* `Memory.odyssey_missed` — a topic that is not found by the beginning of its name.
-/

namespace Polyhierarchy

open Reachability

/-! ### Plain queries -/

namespace Query

/-- The words of a text are neither references to topics nor URLs of web pages. -/
def IsPlain (text : String) : Prop :=
  ∀ w ∈ Text.words text.toList, TopicRef.parse? (String.ofList w) = none ∧ isUrl w = false

instance (text : String) : Decidable (IsPlain text) :=
  inferInstanceAs (Decidable (∀ w ∈ Text.words text.toList, _))

/-- **The query that a plain text is** has its words for tokens, and no references. -/
lemma parse_of_isPlain {text : String} (h : IsPlain text) :
    parse text = ⟨(Text.words text.toList).map String.ofList, []⟩ := by
  have htokens : (parse text).tokens = (Text.words text.toList).map String.ofList := by
    rw [tokens_parse, List.filter_eq_self.2, List.map_congr_left (g := id), List.map_id]
    · refine List.forall_mem_map.2 fun w hw => ?_
      rw [plainToken, String.toList_ofList, (h w hw).2]
      rfl
    · exact List.forall_mem_map.2 fun w hw => by rw [(h w hw).1]; rfl
  have hreferences : (parse text).references = [] := by
    refine List.eq_nil_iff_forall_not_mem.2 fun r hr => ?_
    obtain ⟨w, hw, hparse⟩ := mem_references_parse.1 hr
    rw [(h w hw).1] at hparse
    cases hparse
  rw [← htokens, ← hreferences]

end Query

/-! ### What is found -/

namespace Tables

/-- A text that shows a word holds it as a token. -/
lemma Holds.of_shows {text : String} {w : List Char} (h : Text.Shows text.toList w) :
    Holds text (String.ofList w) := by
  rw [Holds, String.toList_ofList]
  exact h.isInfix_toLower

end Tables

namespace Memory

/-- **What a search finds for sure, after every history.** Take a text whose words are neither
references nor URLs, and limits that allow for all that is stored. Then a search below a stored
topic finds each topic within it whose name holds every word, letter by letter, at a place that
keeps its capital sigmas; and it finds each link within it where the title, the URL or the canonical
URL holds each word in that way. -/
theorem Reachable.finds_verbatim {mem : Memory} (h : mem.Reachable) {root : TopicId} {row : Topic}
    (hroot : mem.tables.topics.get? root = some row) {text : String} (hplain : Query.IsPlain text)
    {m n : Nat} (hm : mem.tables.topics.size ≤ m) (hn : mem.tables.links.size ≤ n) {τ : Type}
    (titles : TitleSource τ) (s : τ) :
    ∃ found : SearchResults,
      (Operation.search root text m n).run store titles .never (mem, s) = (.ok found, mem, s) ∧
      (∀ t : Topic, mem.tables.topics.get? t.id = some t →
        Within mem.tables.edges root (.topic t.id) →
        (∀ w ∈ Text.words text.toList, Text.Shows t.name.toList w) → t ∈ found.topics) ∧
      ∀ l : Link, mem.tables.links.get? l.id = some l →
        Within mem.tables.edges root (.link l.id) →
        (∀ w ∈ Text.words text.toList, Text.Shows l.title.toList w ∨ Text.Shows l.url.toList w ∨
          Text.Shows l.canonicalUrl.toList w) → l ∈ found.links := by
  have htopics := h.coherent.enumerates_topicResults root (Query.parse text)
  have hlinks := h.coherent.enumerates_linkResults root (Query.parse text)
  have hall := Operation.run_search hroot text m n titles s
  rw [List.take_of_length_le ((htopics.length_le_size fun t ht => ⟨t.id, ht.1⟩).trans hm),
    List.take_of_length_le ((hlinks.length_le_size fun l hl => ⟨l.id, hl.1⟩).trans hn)] at hall
  refine ⟨_, hall, fun t ht hwithin hshows => (htopics.mem_iff t).2 ?_,
    fun l hl hwithin hshows => (hlinks.mem_iff l).2 ?_⟩
  · rw [Query.parse_of_isPlain hplain]
    refine ⟨ht, ⟨hwithin, fun r hr => nomatch hr⟩, List.forall_mem_map.2 fun w hw => ?_⟩
    exact .of_shows (hshows w hw)
  · rw [Query.parse_of_isPlain hplain]
    refine ⟨hl, ⟨hwithin, fun r hr => nomatch hr⟩, List.forall_mem_map.2 fun w hw => ?_⟩
    exact (hshows w hw).imp .of_shows (Or.imp .of_shows .of_shows)

/-! ### A word that is not found -/

/-- A topic whose name has capital sigmas amid its letters, below the root of a repository. -/
def odyssey : Memory :=
  (Memory.perform ∅ (.createRepository "Books" ⟨⟨1⟩⟩ ⟨⟨1⟩⟩ default)).perform
    (.upsertTopic ⟨⟨1⟩⟩ "ΟΔΥΣΣΕΙΑ" none [] ⟨⟨2⟩⟩ default)

lemma reachable_odyssey : odyssey.Reachable := by
  apply Reachable.perform
  · exact .perform .empty ⟨rfl, rfl⟩
  · show SortedMap.get? _ _ = none
    decide +kernel

lemma within_odyssey : Within odyssey.tables.edges ⟨⟨1⟩⟩ (.topic ⟨⟨2⟩⟩) :=
  .inr (.single (step_topic_iff.2 (by decide +kernel)))

/-- The second topic is stored, under the name it was given. -/
lemma stored_odyssey :
    (∃ root, odyssey.tables.topics.get? ⟨⟨1⟩⟩ = some root) ∧
      ∃ t, odyssey.tables.topics.get? ⟨⟨2⟩⟩ = some t ∧ t.id = ⟨⟨2⟩⟩ ∧
        t.name.toList = "ΟΔΥΣΣΕΙΑ".toList := by
  have hroot : (odyssey.tables.topics.get? ⟨⟨1⟩⟩).isSome = true := by decide +kernel
  have htopic : (odyssey.tables.topics.get? ⟨⟨2⟩⟩).map (fun t => (t.id, t.name.toList)) =
      some (⟨⟨2⟩⟩, "ΟΔΥΣΣΕΙΑ".toList) := by decide +kernel
  obtain ⟨t, ht, hrow⟩ := Option.map_eq_some_iff.1 htopic
  exact ⟨Option.isSome_iff_exists.1 hroot, t, ht, (Prod.mk.inj hrow).1, (Prod.mk.inj hrow).2⟩

/-- The topic is found by letters from the middle of its name, which keep their capital sigmas, by
letters from its end, which have none, and by the whole name, which no letters come before or
after. -/
theorem finds_verbatim_odyssey :
    ∃ found : SearchResults, (Operation.search ⟨⟨1⟩⟩ "ΔΥΣΣΕ ΙΑ ΟΔΥΣΣΕΙΑ" 2 0).run store
      .silent .never (odyssey, ()) = (.ok found, odyssey, ()) ∧ ∃ t ∈ found.topics, t.id = ⟨⟨2⟩⟩ := by
  obtain ⟨⟨root, hroot⟩, t, ht, hid, hname⟩ := stored_odyssey
  have hplain : Query.IsPlain "ΔΥΣΣΕ ΙΑ ΟΔΥΣΣΕΙΑ" := by decide +kernel
  have hwords : Text.words "ΔΥΣΣΕ ΙΑ ΟΔΥΣΣΕΙΑ".toList =
      ["ΔΥΣΣΕ".toList, "ΙΑ".toList, "ΟΔΥΣΣΕΙΑ".toList] := by decide +kernel
  have htopics : odyssey.tables.topics.size ≤ 2 := by decide +kernel
  have hlinks : odyssey.tables.links.size ≤ 0 := by decide +kernel
  obtain ⟨found, hrun, hfound, -⟩ :=
    reachable_odyssey.finds_verbatim hroot hplain htopics hlinks TitleSource.silent ()
  refine ⟨found, hrun, t, hfound t (hid ▸ ht) (hid ▸ within_odyssey) fun w hw => ?_, hid⟩
  rw [hwords] at hw
  rw [hname]
  simp only [List.mem_cons, List.not_mem_nil, or_false] at hw
  rcases hw with rfl | rfl | rfl
  · exact ⟨"Ο".toList, "ΙΑ".toList, by decide +kernel,
      Text.toLowerIn_eq_toLower_iff.1 (by decide +kernel)⟩
  · exact .of_not_mem (by decide +kernel) (by decide +kernel)
  · exact ⟨[], [], (List.append_nil _).symm, .of_apart rfl rfl⟩

/-- **A topic is not found by the beginning of its name.** The word ends in a capital sigma, which
becomes a final sigma in the word and a small one in the name. So the topic is stored, lies below
the root and holds the word letter by letter, yet whatever the limits are, the search returns
nothing. -/
theorem odyssey_missed :
    odyssey.Reachable ∧ Query.IsPlain "ΟΔΥΣ" ∧ Within odyssey.tables.edges ⟨⟨1⟩⟩ (.topic ⟨⟨2⟩⟩) ∧
      (∃ t, odyssey.tables.topics.get? ⟨⟨2⟩⟩ = some t ∧
        ∀ w ∈ Text.words "ΟΔΥΣ".toList, w <:+: t.name.toList) ∧
      ∀ m n, (Operation.search ⟨⟨1⟩⟩ "ΟΔΥΣ" m n).run store .silent .never (odyssey, ()) =
        (.ok ⟨[], []⟩, odyssey, ()) := by
  obtain ⟨⟨root, hroot⟩, t, ht, hid, hname⟩ := stored_odyssey
  refine ⟨reachable_odyssey, by decide +kernel, within_odyssey, ⟨t, ht, ?_⟩, fun m n => ?_⟩
  · rw [hname]
    decide +kernel
  · have htopics : (odyssey.tables.topicResults ⟨⟨1⟩⟩ (Query.parse "ΟΔΥΣ")).isEmpty = true := by
      decide +kernel
    have hlinks : (odyssey.tables.linkResults ⟨⟨1⟩⟩ (Query.parse "ΟΔΥΣ")).isEmpty = true := by
      decide +kernel
    rw [Operation.run_search hroot, List.isEmpty_iff.1 htopics, List.isEmpty_iff.1 hlinks,
      List.take_nil, List.take_nil]

end Memory

end Polyhierarchy

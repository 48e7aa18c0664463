import Mathlib.Data.Bool.AllAny
import Polyhierarchy.Proofs.Paging
import Polyhierarchy.Proofs.QueryWords
import Polyhierarchy.Proofs.References

set_option relaxedAutoImplicit false
set_option autoImplicit false

/-!
# Queries as conjunctions

Each word of a query narrows a search by itself: a token to the rows that hold it, a reference to
what lies within its topic. So neither the order of the words nor their number matters, and the root
of a search is a reference like the others, since what lies within a topic lies within whatever the
topic lies within.

## Main definitions

* `Tables.Narrows` — a search looks at no more than another one, for no fewer tokens.

## Main results

* `Enumerates.sublist` — what satisfies more conditions is listed in the same order.
* `Tables.Coherent.results_sublist` — a narrower search finds a sublist.
* `Memory.Reachable.query_laws` — the laws of queries after every history.
-/

namespace Polyhierarchy

open Reachability

/-! ### Orders leave no choice -/

/-- A strict order of keys, and of numbers where the keys are the same, has one direction. -/
lemma KeyOrder.asymm {α κ : Type} (lt : κ → κ → Prop) (hlt : ∀ x y, lt x y → ¬ lt y x)
    (key : α → κ) (number : α → Nat) {a b : α}
    (hab : lt (key a) (key b) ∨ key a = key b ∧ number a < number b) :
    ¬ (lt (key b) (key a) ∨ key b = key a ∧ number b < number a) := by
  have hirrefl : ∀ x, ¬ lt x x := fun x hx => hlt x x hx hx
  rintro (hba | ⟨hkey, hba⟩)
  · rcases hab with hab | ⟨hkey, -⟩
    · exact hlt _ _ hab hba
    · exact hirrefl _ (hkey ▸ hba)
  · rcases hab with hab | ⟨-, hab⟩
    · exact hirrefl _ (hkey ▸ hab)
    · exact Nat.lt_asymm hab hba

lemma Topic.Before.asymm {a b : Topic} (h : a.Before b) : ¬ b.Before a :=
  KeyOrder.asymm (· < ·) (fun _ _ => String.lt_asymm) Topic.name (fun row => rank row.id) h

lemma Instant.isBefore_asymm {a b : Instant} (h : a.isBefore b = true) : ¬ b.isBefore a = true := by
  rw [isBefore_iff] at *
  omega

lemma Link.Before.asymm {a b : Link} (h : a.Before b) : ¬ b.Before a :=
  KeyOrder.asymm (fun x y : Instant => y.isBefore x = true) (fun _ _ => Instant.isBefore_asymm)
    Link.createdAt (fun row => rank row.id) h

/-- **What satisfies more conditions is listed in the same order.**

**Proof sketch.** The part of the longer list that the shorter one holds has the same elements as
the shorter one, and both are in order. As the order has one direction, they are the same. -/
theorem Enumerates.sublist {α : Type} {before : α → α → Prop}
    (hasymm : ∀ a b, before a b → ¬ before b a) {P Q : α → Prop} {l l' : List α}
    (h : Enumerates before P l) (h' : Enumerates before Q l') (hPQ : ∀ a, P a → Q a) :
    List.Sublist l l' := by
  classical
  have hmem : ∀ a, a ∈ l ↔ a ∈ l'.filter (· ∈ l) := fun a => by
    rw [List.mem_filter, decide_eq_true_eq, iff_and_self]
    exact fun ha => (h'.mem_iff a).2 (hPQ a ((h.mem_iff a).1 ha))
  have hperm := (List.perm_ext_iff_of_nodup h.nodup (h'.nodup.filter _)).2 hmem
  have heq : l = l'.filter (· ∈ l) :=
    hperm.eq_of_pairwise (fun a b _ _ hab hba => absurd hba (hasymm a b hab)) h.ordered
      (h'.ordered.filter _)
  rw [heq]
  exact List.filter_sublist

/-! ### Narrower searches -/

namespace Tables

variable {t : Tables} {root root' : TopicId} {q q' : Query}

/-- A search looks at no more than another one, for no fewer tokens. -/
structure Narrows (t : Tables) (root' : TopicId) (q' : Query) (root : TopicId) (q : Query) :
    Prop where
  /-- Whatever lies where the one search looks lies where the other one does. -/
  inScope : ∀ n, t.InScope root' q' n → t.InScope root q n
  /-- Every token that the other search asks for is asked for. -/
  tokens : q.tokens ⊆ q'.tokens

lemma Narrows.topicFound (h : t.Narrows root' q' root q) {row : Topic}
    (hrow : t.TopicFound root' q' row) : t.TopicFound root q row :=
  ⟨hrow.1, h.inScope _ hrow.2.1, fun w hw => hrow.2.2 w (h.tokens hw)⟩

lemma Narrows.linkFound (h : t.Narrows root' q' root q) {row : Link}
    (hrow : t.LinkFound root' q' row) : t.LinkFound root q row :=
  ⟨hrow.1, h.inScope _ hrow.2.1, fun w hw => hrow.2.2 w (h.tokens hw)⟩

/-- **A narrower search finds a sublist**, of the topics and of the links. -/
theorem Coherent.results_sublist (h : t.Coherent) (hn : t.Narrows root' q' root q) :
    List.Sublist (t.results root' q').topics (t.results root q).topics ∧
      List.Sublist (t.results root' q').links (t.results root q).links :=
  ⟨(h.enumerates_topicResults root' q').sublist (fun _ _ => Topic.Before.asymm)
      (h.enumerates_topicResults root q) fun _ => hn.topicFound,
    (h.enumerates_linkResults root' q').sublist (fun _ _ => Link.Before.asymm)
      (h.enumerates_linkResults root q) fun _ => hn.linkFound⟩

/-- Searches that are no narrower than each other find the same. -/
lemma Coherent.results_eq (h : t.Coherent) (hn : t.Narrows root' q' root q)
    (hn' : t.Narrows root q root' q') : t.results root' q' = t.results root q := by
  obtain ⟨htopics, hlinks⟩ := h.results_sublist hn
  obtain ⟨htopics', hlinks'⟩ := h.results_sublist hn'
  exact congrArg₂ SearchResults.mk (htopics.antisymm htopics') (hlinks.antisymm hlinks')

/-- What lies within a topic lies within whatever the topic lies within. -/
lemma within_trans {x y : TopicId} {n : Node} (hy : Within t.edges x (.topic y))
    (hn : Within t.edges y n) : Within t.edges x n := by
  rcases hn with rfl | hn
  · exact hy
  · rcases hy with hy | hy
    · cases hy
      exact .inr hn
    · exact .inr (hy.trans hn)

/-- More words narrow a search. -/
lemma narrows_of_subset {text text' : String} (root : TopicId)
    (h : Text.words text.toList ⊆ Text.words text'.toList) :
    t.Narrows root (Query.parse text') root (Query.parse text) where
  inScope n hn := by
    refine ⟨hn.1, fun r hr => hn.2 r ?_⟩
    obtain ⟨w, hw, hparse⟩ := Query.mem_references_parse.1 hr
    exact Query.mem_references_parse.2 ⟨w, h hw, hparse⟩
  tokens x hx := by
    obtain ⟨w, hw, hparse⟩ := Query.mem_tokens_parse.1 hx
    exact Query.mem_tokens_parse.2 ⟨w, h hw, hparse⟩

end Tables

/-! ### A reference in front -/

namespace Query

variable {x : TopicId} {text : String}

/-- The query for what lies within a topic as well: a reference to it stands in front. -/
def within (x : TopicId) (text : String) : String := TopicRef.written "wiki" x ++ " " ++ text

lemma words_within :
    Text.words (within x text).toList =
      (TopicRef.written "wiki" x).toList :: Text.words text.toList := by
  have hspace : ∀ c ∈ (TopicRef.written "wiki" x).toList, Text.isWhiteSpace c = false := fun c =>
    TopicRef.isWhiteSpace_of_mem_written x (List.all_iff_forall_prop.1 (by decide))
  have hne : (TopicRef.written "wiki" x).toList ≠ [] := by
    rw [TopicRef.toList_written]
    exact List.cons_ne_nil _ _
  have hcut : Text.words ((TopicRef.written "wiki" x).toList ++ (" ".toList ++ text.toList)) =
      Text.words (TopicRef.written "wiki" x).toList ++ Text.words text.toList :=
    Text.words_append_cons _ (by decide) _
  rw [within, String.toList_append, String.toList_append, List.append_assoc, hcut,
    Text.words_eq_singleton hne hspace, List.singleton_append]

lemma parse?_written_wiki (x : TopicId) :
    TopicRef.parse? (TopicRef.written "wiki" x) = some ⟨TopicRef.written "wiki" x⟩ :=
  TopicRef.parse?_written x (by decide) (List.all_iff_forall_prop.1 (by decide))

/-- A reference adds no token. -/
lemma mem_tokens_within {w : String} :
    w ∈ (parse (within x text)).tokens ↔ w ∈ (parse text).tokens := by
  simp only [mem_tokens_parse, words_within, List.exists_mem_cons_iff, String.ofList_toList,
    parse?_written_wiki, reduceCtorEq, false_and, false_or]

lemma mem_references_within {r : TopicRef} :
    r ∈ (parse (within x text)).references ↔
      r = ⟨TopicRef.written "wiki" x⟩ ∨ r ∈ (parse text).references := by
  simp only [mem_references_parse, words_within, List.exists_mem_cons_iff, String.ofList_toList,
    parse?_written_wiki, Option.some_inj, eq_comm (a := r)]

end Query

namespace Tables

variable {t : Tables} {root x y : TopicId} {text : String}

/-- A reference narrows where a search looks to what lies within its topic. -/
lemma inScope_within {n : Node} :
    t.InScope root (Query.parse (Query.within x text)) n ↔
      Within t.edges root n ∧ t.InScope x (Query.parse text) n := by
  refine and_congr_right fun _ => ?_
  simp only [InScope, Query.mem_references_within, forall_eq_or_imp, TopicRef.topic_written]

/-- **The root of a search and a reference can change places.** -/
theorem narrows_within_comm (x y : TopicId) (text : String) :
    t.Narrows x (Query.parse (Query.within y text)) y (Query.parse (Query.within x text)) where
  inScope _ hn := by
    obtain ⟨hx, hy, hrefs⟩ := inScope_within.1 hn
    exact inScope_within.2 ⟨hy, hx, hrefs⟩
  tokens _ hw := Query.mem_tokens_within.2 (Query.mem_tokens_within.1 hw)

/-- What a reference leaves lies within its topic. -/
lemma narrows_within (root x : TopicId) (text : String) :
    t.Narrows root (Query.parse (Query.within x text)) x (Query.parse text) where
  inScope _ hn := (inScope_within.1 hn).2
  tokens _ hw := Query.mem_tokens_within.2 hw

/-- A reference to a topic within the root leaves all that lies within the topic. -/
lemma narrows_of_within (hx : Within t.edges root (.topic x)) (text : String) :
    t.Narrows x (Query.parse text) root (Query.parse (Query.within x text)) where
  inScope _ hn := inScope_within.2 ⟨within_trans hx hn.1, hn⟩
  tokens _ hw := Query.mem_tokens_within.1 hw

end Tables

/-! ### Searches of the service -/

namespace Operation

variable {τ : Type} {mem : Memory} {root root' : TopicId}

/-- A search below a topic that is not stored returns that it is not found. -/
lemma run_search_of_none (hroot : mem.tables.topics.get? root = none) (text : String) (m n : Nat)
    (titles : TitleSource τ) (s : τ) :
    (search root text m n).run Memory.store titles .never (mem, s) =
      (.error (.topicNotFound root), mem, s) := by
  have hlook : (Lookup.topic root).on mem.tables =
      (.error (.refusal (.topicNotFound root)), mem.tables) := by
    simp only [Lookup.topic, Program.on_bind, Program.on_request, Memory.reply, Memory.answer,
      hroot]
    rfl
  rw [search, run_reading]
  · rw [Program.on_bind, hlook]
    rfl
  · rw [Program.closureWrites_bind, hlook]
    simp [Lookup.topic, Program.request, Program.closureWrites, Memory.writesClosure,
      Memory.reply, Memory.answer, hroot]

/-- Searches that find the same return the same, with the same limits. -/
lemma run_search_congr {row row' : Topic} (hroot : mem.tables.topics.get? root = some row)
    (hroot' : mem.tables.topics.get? root' = some row') {text text' : String}
    (h : mem.tables.results root (Query.parse text) = mem.tables.results root' (Query.parse text'))
    (m n : Nat) (titles : TitleSource τ) (s : τ) :
    (search root text m n).run Memory.store titles .never (mem, s) =
      (search root' text' m n).run Memory.store titles .never (mem, s) := by
  obtain ⟨htopics, hlinks⟩ := SearchResults.mk.inj h
  rw [run_search hroot, run_search hroot', htopics, hlinks]

end Operation

namespace Memory

/-- **The laws of queries, after every history.** Two texts with the same words, in any order and
any number of times, are the same to every search. The words of a text are conditions, so that with
more of them a search with limits that allow for all that is stored finds a sublist, of the topics
and of the links. The root of a search and a reference in front of its text can change places; and
if the topic of the reference lies within the root, the reference says all that the root says. -/
theorem Reachable.query_laws {mem : Memory} (h : mem.Reachable) {τ : Type} (titles : TitleSource τ)
    (s : τ) :
    (∀ text text' : String,
      (∀ w, w ∈ Text.words text.toList ↔ w ∈ Text.words text'.toList) → ∀ root m n,
        (Operation.search root text m n).run store titles .never (mem, s) =
          (Operation.search root text' m n).run store titles .never (mem, s)) ∧
    (∀ root row, mem.tables.topics.get? root = some row → ∀ text text' : String,
      Text.words text.toList ⊆ Text.words text'.toList → ∀ m n, mem.tables.topics.size ≤ m →
        mem.tables.links.size ≤ n → ∃ found narrower : SearchResults,
          (Operation.search root text m n).run store titles .never (mem, s) =
            (.ok found, mem, s) ∧
          (Operation.search root text' m n).run store titles .never (mem, s) =
            (.ok narrower, mem, s) ∧
          List.Sublist narrower.topics found.topics ∧ List.Sublist narrower.links found.links) ∧
    ∀ x row, mem.tables.topics.get? x = some row →
      ∀ y row', mem.tables.topics.get? y = some row' → ∀ (text : String) (m n : Nat),
        (Operation.search x (Query.within y text) m n).run store titles .never (mem, s) =
          (Operation.search y (Query.within x text) m n).run store titles .never (mem, s) ∧
        (Within mem.tables.edges x (.topic y) →
          (Operation.search x (Query.within y text) m n).run store titles .never (mem, s) =
            (Operation.search y text m n).run store titles .never (mem, s)) := by
  have hc := h.coherent
  refine ⟨fun text text' hwords root m n => ?_,
    fun root row hroot text text' hwords m n hm hn => ?_,
    fun x row hx y row' hy text m n => ⟨?_, fun hwithin => ?_⟩⟩
  · cases hroot : mem.tables.topics.get? root with
    | none => rw [Operation.run_search_of_none hroot, Operation.run_search_of_none hroot]
    | some row =>
      refine Operation.run_search_congr hroot hroot (hc.results_eq ?_ ?_) m n titles s
      · exact Tables.narrows_of_subset root fun w hw => (hwords w).2 hw
      · exact Tables.narrows_of_subset root fun w hw => (hwords w).1 hw
  · exact ⟨_, _, Operation.run_search_all hc hroot text hm hn titles s,
      Operation.run_search_all hc hroot text' hm hn titles s,
      hc.results_sublist (Tables.narrows_of_subset root hwords)⟩
  · exact Operation.run_search_congr hx hy (hc.results_eq (Tables.narrows_within_comm x y text)
      (Tables.narrows_within_comm y x text)) m n titles s
  · exact Operation.run_search_congr hx hy (hc.results_eq (Tables.narrows_within x y text)
      (Tables.narrows_of_within hwithin text)) m n titles s

/-- In the chain, a word said twice says no more than once, and adds to what is asked for; and what
is searched for below the first topic can be searched for below the root, with a reference to the
topic. -/
theorem query_laws_chain :
    let run := fun (root : TopicId) (text : String) (m n : Nat) =>
      (Operation.search root text m n).run store .silent .never (chain, ())
    run ⟨⟨1⟩⟩ "diar books diar" 1 1 = run ⟨⟨1⟩⟩ "books diar" 1 1 ∧
      (∃ found narrower, run ⟨⟨1⟩⟩ "diar" 3 1 = (.ok found, chain, ()) ∧
        run ⟨⟨1⟩⟩ "books diar" 3 1 = (.ok narrower, chain, ()) ∧
        List.Sublist narrower.links found.links) ∧
      run ⟨⟨1⟩⟩ "in:/wiki/topics/00000000-0000-0000-0000-000000000002 diar" 2 2 =
        run ⟨⟨2⟩⟩ "diar" 2 2 := by
  intro run
  have hstored : ∀ id ∈ [(⟨⟨1⟩⟩ : TopicId), ⟨⟨2⟩⟩], ∃ row, chain.tables.topics.get? id = some row :=
    fun id hid => Option.isSome_iff_exists.1 ((by decide +kernel :
      ∀ id ∈ [(⟨⟨1⟩⟩ : TopicId), ⟨⟨2⟩⟩], (chain.tables.topics.get? id).isSome = true) id hid)
  obtain ⟨root, hroot⟩ := hstored ⟨⟨1⟩⟩ (by decide)
  obtain ⟨row, hrow⟩ := hstored ⟨⟨2⟩⟩ (by decide)
  obtain ⟨hsame, hnarrower, hscope⟩ := reachable_chain.query_laws TitleSource.silent ()
  have hwords : ∀ w, w ∈ Text.words "diar books diar".toList ↔
      w ∈ Text.words "books diar".toList := by
    have htwice : Text.words "diar books diar".toList =
        ["diar".toList, "books".toList, "diar".toList] := by decide +kernel
    have honce : Text.words "books diar".toList = ["books".toList, "diar".toList] := by
      decide +kernel
    intro w
    rw [htwice, honce]
    simp only [List.mem_cons]
    tauto
  have hwithin : Within chain.tables.edges ⟨⟨1⟩⟩ (.topic ⟨⟨2⟩⟩) :=
    .inr (.single (step_topic_iff.2 (by decide +kernel)))
  obtain ⟨found, narrower, hfound, hrun, -, hlinks⟩ := hnarrower ⟨⟨1⟩⟩ root hroot "diar"
    "books diar" (by decide +kernel) 3 1 (by decide +kernel) (by decide +kernel)
  have htext : Query.within ⟨⟨2⟩⟩ "diar" =
      "in:/wiki/topics/00000000-0000-0000-0000-000000000002 diar" := by decide +kernel
  have hequal := (hscope ⟨⟨1⟩⟩ root hroot ⟨⟨2⟩⟩ row hrow "diar" 2 2).2 hwithin
  rw [htext] at hequal
  refine ⟨?_, ⟨found, narrower, hfound, hrun, hlinks⟩, hequal⟩
  exact hsame "diar books diar" "books diar" hwords ⟨⟨1⟩⟩ 1 1

end Memory

end Polyhierarchy

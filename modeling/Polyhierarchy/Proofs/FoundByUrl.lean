import Polyhierarchy.Proofs.CanonicalForms
import Polyhierarchy.Proofs.PageKeys
import Polyhierarchy.Proofs.Paging
import Polyhierarchy.Proofs.QueryWords

set_option relaxedAutoImplicit false
set_option autoImplicit false

/-!
# A link is found by its URL

A URL that is submitted and a URL that is searched for do not take the same way: one is trimmed and
brought to its canonical form, the other is a word of a query, which may be a reference to a topic,
a URL or plain text. Yet they come to the same: a word that has a canonical URL is no reference, and
stands for its canonical form, which a link with this form holds.

## Main results

* `Url.read_ne_web_of_reference` — a reference to a topic is no URL of a web page.
* `Query.parse_of_canonical` — the query that the text of a URL is.
* `Memory.Reachable.found_by_url` — what a search for a URL finds after every history.
-/

namespace Polyhierarchy

open Reachability

/-! ### URLs and references -/

namespace Url

/-- What a text begins with is not dropped, if it is neither blank nor a line break. -/
lemma prepare_append (start s : List Char) (hne : start ≠ [])
    (h : ∀ c ∈ start, isOuterBlank c = false ∧ isDropped c = false) :
    ∃ rest, prepare (start ++ s) = start ++ rest := by
  have hhead : (start ++ s).dropWhile isOuterBlank = start ++ s := by
    obtain ⟨c, cs, rfl⟩ := List.exists_cons_of_ne_nil hne
    rw [List.cons_append, List.dropWhile_cons_of_neg (by simp [h c List.mem_cons_self])]
  have hkept : start.filter (fun c => !isDropped c) = start :=
    List.filter_eq_self.2 fun c hc => by rw [(h c hc).2]; rfl
  have hstart : start.reverse.dropWhile isOuterBlank = start.reverse := by
    obtain ⟨c, cs, hreverse⟩ := List.exists_cons_of_ne_nil (List.reverse_ne_nil_iff.2 hne)
    have hc : c ∈ start := List.mem_reverse.1 (hreverse ▸ List.mem_cons_self)
    rw [hreverse, List.dropWhile_cons_of_neg (by simp [h c hc])]
  have htail : ∃ rest, ((start ++ s).reverse.dropWhile isOuterBlank).reverse = start ++ rest := by
    rw [List.reverse_append, List.dropWhile_append]
    split
    · exact ⟨[], by rw [hstart, List.reverse_reverse, List.append_nil]⟩
    · exact ⟨_, by rw [List.reverse_append, List.reverse_reverse]⟩
  obtain ⟨rest, hrest⟩ := htail
  refine ⟨rest.filter fun c => !isDropped c, ?_⟩
  show (((start ++ s).dropWhile isOuterBlank).reverse.dropWhile isOuterBlank).reverse.filter _ = _
  rw [hhead, hrest, List.filter_append, hkept]

/-- **A reference to a topic is no URL of a web page**: what stands before its first colon is no
scheme of the web. -/
lemma read_ne_web_of_reference (s : List Char) (u : Web) :
    read ("in:/".toList ++ s) ≠ .ok (.web u) := by
  intro h
  obtain ⟨rest, hscheme, -⟩ := read_eq_web_iff.1 h
  obtain ⟨s', hs'⟩ := prepare_append "in:/".toList s (by decide)
    (List.all_iff_forall_prop.1 (by decide))
  rw [hs'] at hscheme
  have hin : readScheme ("in:/".toList ++ s') = some ("in".toList, '/' :: s') := rfl
  rw [hin, Option.some_inj, Prod.mk.injEq, Web.scheme] at hscheme
  split at hscheme
  · exact absurd hscheme.1 (by decide)
  · exact absurd hscheme.1 (by decide)

end Url

/-! ### The query that a URL is -/

/-- A reference begins like one. -/
lemma TopicRef.exists_eq_append_of_parse? {token : String} {r : TopicRef}
    (h : parse? token = some r) : ∃ s, token.toList = "in:/".toList ++ s := by
  obtain ⟨segment, hsegment, -⟩ := Option.map_eq_some_iff.1 h
  obtain ⟨s, hs, -⟩ := Option.bind_eq_some_iff.1 hsegment
  rw [after?] at hs
  split at hs
  next hstart =>
    obtain ⟨s', hs'⟩ := List.isPrefixOf_iff_prefix.1 hstart
    exact ⟨s', hs'.symm⟩
  next => cases hs

namespace Query

variable {u : String} {page : CanonicalUrl}

/-- **The query that the text of a URL is** has the canonical form for its only token, and no
references. -/
theorem parse_of_canonical (hu : ∀ c ∈ u.toList, Text.isWhiteSpace c = false)
    (hpage : CanonicalUrl.parse u = .ok page) : parse u = ⟨[page.canonical], []⟩ := by
  obtain ⟨web, hread, -⟩ := CanonicalUrl.parse_eq_ok_iff.1 hpage
  have htrim : Text.trim u.toList = u.toList := (Text.bare_of_forall hu).trimBy_eq
  rw [htrim] at hread
  have hwords : (Text.words u.toList).map String.ofList = [u] := by
    rw [Text.words_eq_singleton ?_ hu, List.map_singleton, String.ofList_toList]
    intro hnil
    rw [hnil] at hread
    cases hread
  have hreference : TopicRef.parse? u = none := Option.eq_none_iff_forall_ne_some.2 fun r hr => by
    obtain ⟨s, hs⟩ := TopicRef.exists_eq_append_of_parse? hr
    exact Url.read_ne_web_of_reference s web (hs ▸ hread)
  have htoken : plainToken u = page.canonical := by
    have hurl : isUrl u.toList = true := by rw [isUrl, hread]
    rw [plainToken, if_pos hurl, hpage]
  rw [parse, hwords, List.foldl_cons, List.foldl_nil, addToken, hreference, htoken]
  rfl

end Query

/-! ### What is found -/

namespace Memory

/-- **A link is found by its URL, after every history.** The URL of a stored link has the canonical
form of the link. Take any text without white space that has this canonical form, and any topic that
the link lies below. Then the text is the query for the canonical form and nothing else, and a
search for it below the topic finds the link, if the limit for links allows for all that are
stored. -/
theorem Reachable.found_by_url {mem : Memory} (h : mem.Reachable) {l : Link}
    (hl : mem.tables.links.get? l.id = some l) {root : TopicId}
    (hroot : Reaches mem.tables.edges (.topic root) (.link l.id)) :
    CanonicalUrl.parse l.url = .ok ⟨l.url, l.canonicalUrl⟩ ∧
    ∀ (u : String) (page : CanonicalUrl), (∀ c ∈ u.toList, Text.isWhiteSpace c = false) →
      CanonicalUrl.parse u = .ok page → page.canonical = l.canonicalUrl →
        Query.parse u = ⟨[l.canonicalUrl], []⟩ ∧
        ∀ m n, mem.tables.links.size ≤ n → ∀ {τ : Type} (titles : TitleSource τ) (s : τ),
          ∃ found : SearchResults,
            (Operation.search root u m n).run store titles .never (mem, s) =
              (.ok found, mem, s) ∧ l ∈ found.links := by
  refine ⟨(h.pageKeyed.keyed l.id l hl).parsed, fun u page hu hpage hcanonical => ?_⟩
  have hquery : Query.parse u = ⟨[l.canonicalUrl], []⟩ := by
    rw [Query.parse_of_canonical hu hpage, hcanonical]
  refine ⟨hquery, fun m n hn τ titles s => ?_⟩
  have hc := h.coherent
  have hwithin : Within mem.tables.edges root (.link l.id) := .inr hroot
  obtain ⟨row, hrow⟩ : ∃ row, mem.tables.topics.get? root = some row :=
    Option.ne_none_iff_exists'.1 fun hnone =>
      hc.not_within hnone (Tables.place?_link_eq_some.2 ⟨l, hl, rfl, rfl⟩) hwithin
  have hlinks := hc.enumerates_linkResults root (Query.parse u)
  have hrun := Operation.run_search hrow u m n titles s
  rw [List.take_of_length_le ((hlinks.length_le_size fun l hl => ⟨l.id, hl.1⟩).trans hn)] at hrun
  refine ⟨_, hrun, (hlinks.mem_iff l).2 ?_⟩
  rw [hquery]
  refine ⟨hl, ⟨hwithin, fun r hr => nomatch hr⟩, fun w hw => .inr (.inr ?_)⟩
  rw [List.mem_singleton.1 hw]
  exact List.infix_refl _

/-- The link of the chain is found below the root, by a text of its URL that traces where the reader
came from. -/
theorem found_by_url_chain :
    ∃ found : SearchResults, (Operation.search ⟨⟨1⟩⟩ traced.url 0 1).run store .silent .never
      (chain, ()) = (.ok found, chain, ()) ∧ ∃ l ∈ found.links, l.id = ⟨⟨4⟩⟩ := by
  have hlink : (chain.tables.links.get? ⟨⟨4⟩⟩).map (fun l => (l.id, l.canonicalUrl)) =
      some (⟨⟨4⟩⟩, untraced.url) := by decide +kernel
  obtain ⟨l, hl, hrow⟩ := Option.map_eq_some_iff.1 hlink
  obtain ⟨hid, hcanonical⟩ := Prod.mk.inj hrow
  have hclosure : Node.link ⟨⟨4⟩⟩ ∈ chain.tables.closure.row ⟨⟨1⟩⟩ := by decide +kernel
  have hbelow : Reaches chain.tables.edges (.topic ⟨⟨1⟩⟩) (.link l.id) :=
    hid ▸ ((reachable_chain.coherent.exact _ _).1 hclosure).2
  obtain ⟨-, hfound⟩ := reachable_chain.found_by_url (hid ▸ hl) hbelow
  obtain ⟨-, hsearch⟩ := hfound traced.url ⟨traced.url, untraced.url⟩
    (List.all_iff_forall_prop.1 (by decide +kernel)) (by decide +kernel) hcanonical.symm
  obtain ⟨found, hrun, hmem⟩ := hsearch 0 1 (by decide +kernel) TitleSource.silent ()
  exact ⟨found, hrun, l, hmem, hid⟩

end Memory

end Polyhierarchy

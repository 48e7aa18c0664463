import Polyhierarchy.CanonicalUrl
import Polyhierarchy.Proofs.WrittenUrls

set_option relaxedAutoImplicit false
set_option autoImplicit false

/-!
# Canonical forms are stable

Links are told apart by the canonical form of their URL, so the canonical form of one page has to be
one text. It is: taking away the fragment and the pairs that only trace a reader leaves the parts of
a URL in encoded form, the canonical form is read as these parts, and nothing is left to be taken
away. What was taken away does not matter either.

## Main definitions

* `Url.Web.pairs` — the pairs of the query of a URL.
* `Url.Traced` — pairs with tracing pairs put in.
* `Url.Web.SamePage` — URLs that differ in their fragments and in tracing pairs only.

## Main results

* `Url.Web.pairs_withoutTracking` — the pairs that are left.
* `Url.Web.SamePage.withoutTracking_eq` — what is left of URLs of the same page is the same.
* `CanonicalUrl.canonical_stable` — the canonical form is its own canonical form, holds the pairs
  that are left, and is that of every URL of the same page.
-/

namespace Polyhierarchy

namespace Url

/-! ### Tracing pairs -/

/-- Whether a pair is kept. -/
def isKeptPair (p : Form.Pair) : Bool := !isTrackingKey p.1

/-- The pairs of the query, none if there is no query. -/
def Web.pairs (u : Web) : List Form.Pair := (u.query.map Form.read).getD []

/-- Pairs, and the same pairs with tracing ones put in anywhere. -/
inductive Traced : List Form.Pair → List Form.Pair → Prop
  | nil : Traced [] []
  | keep (p : Form.Pair) {base pairs : List Form.Pair} :
    Traced base pairs → Traced (p :: base) (p :: pairs)
  | trace (p : Form.Pair) {base pairs : List Form.Pair} :
    isTrackingKey p.1 = true → Traced base pairs → Traced base (p :: pairs)

lemma Traced.keeps {base pairs : List Form.Pair} (h : Traced base pairs) (kept : List Form.Pair) :
    Traced (kept ++ base) (kept ++ pairs) := by
  induction kept with
  | nil => exact h
  | cons p kept ih => exact .keep p ih

lemma Traced.refl (pairs : List Form.Pair) : Traced pairs pairs := by
  rw [← List.append_nil pairs]
  exact Traced.nil.keeps pairs

lemma Traced.traces {tracing : List Form.Pair} (ht : ∀ p ∈ tracing, isTrackingKey p.1 = true)
    {base pairs : List Form.Pair} (h : Traced base pairs) : Traced base (tracing ++ pairs) := by
  induction tracing with
  | nil => exact h
  | cons p tracing ih =>
    obtain ⟨hp, ht⟩ := List.forall_mem_cons.1 ht
    exact .trace p hp (ih ht)

/-- Tracing pairs do not matter for the pairs that are kept. -/
lemma Traced.filter_eq {base pairs : List Form.Pair} (h : Traced base pairs) :
    pairs.filter isKeptPair = base.filter isKeptPair := by
  induction h with
  | nil => rfl
  | keep p _ ih => rw [List.filter_cons, List.filter_cons, ih]
  | trace p hp _ ih => rw [List.filter_cons_of_neg (by simp [isKeptPair, hp]), ih]

/-- Two URLs differ in nothing but their fragments and tracing pairs in their queries. -/
structure Web.SamePage (u v : Web) : Prop where
  /-- All parts but the query and the fragment are the same. -/
  parts : { u with query := none, fragment := none } = { v with query := none, fragment := none }
  /-- The queries are those of common pairs with tracing pairs put in. -/
  pairs : ∃ base, Traced base u.pairs ∧ Traced base v.pairs

lemma pairs_query (u : Web) (q : List Char) (f : Option (List Char)) :
    Web.pairs { u with query := some q, fragment := f } = Form.read q := rfl

/-- A part of a query that holds tracing pairs only may be put between any two parts, and the
fragment may be any. -/
lemma Web.samePage_insert (u : Web) (a t b : List Char)
    (ht : ∀ p ∈ Form.read t, isTrackingKey p.1 = true) (f : Option (List Char)) :
    Web.SamePage { u with query := some (a ++ '&' :: b) }
      { u with query := some (a ++ '&' :: (t ++ '&' :: b)), fragment := f } where
  parts := rfl
  pairs := by
    refine ⟨Form.read a ++ Form.read b, ?_, ?_⟩
    · rw [pairs_query u _ u.fragment, Form.read_append_cons]
      exact Traced.refl _
    · rw [pairs_query, Form.read_append_cons, Form.read_append_cons]
      exact (Traced.traces ht (Traced.refl (Form.read b))).keeps (Form.read a)

/-! ### What is left -/

namespace Web

lemma withoutTracking_eq (u : Web) : u.withoutTracking =
    { u with
      fragment := none
      query := if (u.pairs.filter isKeptPair).isEmpty then none
        else some (Form.write (u.pairs.filter isKeptPair)) } :=
  rfl

/-- **The pairs that are left** are those that do not trace. -/
theorem pairs_withoutTracking (u : Web) :
    u.withoutTracking.pairs = u.pairs.filter isKeptPair := by
  rw [withoutTracking_eq]
  generalize u.pairs.filter isKeptPair = kept
  cases kept with
  | nil => rfl
  | cons p kept => exact Form.read_write (p :: kept)

/-- Nothing is left to be taken away. -/
lemma withoutTracking_withoutTracking (u : Web) :
    u.withoutTracking.withoutTracking = u.withoutTracking := by
  rw [withoutTracking_eq u.withoutTracking, pairs_withoutTracking, List.filter_filter]
  simp only [Bool.and_self]
  rw [withoutTracking_eq u]

/-- **What is left of URLs of the same page** is the same. -/
theorem SamePage.withoutTracking_eq {u v : Web} (h : u.SamePage v) :
    v.withoutTracking = u.withoutTracking := by
  obtain ⟨base, hu, hv⟩ := h.pairs
  rw [Web.withoutTracking_eq u, Web.withoutTracking_eq v, hu.filter_eq, hv.filter_eq]
  exact congrArg (fun w : Web => { w with
    fragment := none
    query := if (base.filter isKeptPair).isEmpty then none
      else some (Form.write (base.filter isKeptPair)) }) h.parts.symm

end Web

/-- What is written for pairs needs no encoding. -/
lemma not_inQuery_of_mem_write {pairs : List Form.Pair} {c : Char} (h : c ∈ Form.write pairs) :
    inQuery c = false := by
  have hwritten : ∀ {s : List Char}, c ∈ Form.encode s → inQuery c = false := fun hc => by
    rcases Form.isWritten_of_mem_encode hc with hc | rfl | rfl
    · exact Text.of_ascii (P := fun c => Form.isPlain c = true → inQuery c = false) (by decide)
        (Form.isPlain_spec hc).1 hc
    · decide
    · decide
  rcases Text.mem_intercalate h with rfl | ⟨piece, hpiece, hc⟩
  · decide
  · obtain ⟨p, -, rfl⟩ := List.mem_map.1 hpiece
    rw [Form.writePair, List.mem_append, List.mem_cons] at hc
    rcases hc with hc | rfl | hc
    · exact hwritten hc
    · decide
    · exact hwritten hc

/-- What is left is in encoded form. -/
lemma Web.Encoded.withoutTracking {u : Web} (h : u.Encoded) : u.withoutTracking.Encoded :=
  { h with
    query := fun q hq c hc => by
      rw [withoutTracking_eq] at hq
      simp only at hq
      split at hq
      · cases hq
      · rw [← Option.some.inj hq] at hc
        exact not_inQuery_of_mem_write hc
    fragment := fun f hf => nomatch hf }

end Url

/-! ### Canonical forms -/

namespace CanonicalUrl

/-- A text has a canonical URL if it is read as the URL of a web page. -/
lemma parse_eq_ok_iff {s : String} {c : CanonicalUrl} :
    parse s = .ok c ↔ ∃ page, Url.read (Text.trim s.toList) = .ok (.web page) ∧
      c = ⟨String.ofList (Text.trim s.toList), String.ofList page.withoutTracking.toChars⟩ := by
  rw [parse]
  cases Url.read (Text.trim s.toList) with
  | error fault => exact ⟨fun h => (nomatch h), fun ⟨_, h, _⟩ => nomatch h⟩
  | ok url =>
    cases url with
    | other scheme => exact ⟨fun h => (nomatch h), fun ⟨_, h, _⟩ => nomatch h⟩
    | web page =>
      constructor
      · intro h
        exact ⟨page, rfl, (Except.ok.inj h).symm⟩
      · rintro ⟨_, heq, rfl⟩
        cases heq
        rfl

/-- The digest is that of the canonical form. -/
lemma hash_eq_of_canonical_eq {c d : CanonicalUrl} (h : c.canonical = d.canonical) :
    c.hash = d.hash :=
  congrArg Hash.Sha256.hexDigest h

/-- A written URL is not changed before it is read. -/
lemma trim_toChars {page : Url.Web} (h : page.Encoded) : Text.trim page.toChars = page.toChars := by
  refine Text.Bare.trimBy_eq (Text.bare_of_forall fun c hc => ?_)
  obtain ⟨hlow, hhigh⟩ := Url.isVisible_of_mem_toChars h hc
  exact Text.of_ascii (P := fun c => 0x20 < c.toNat → c.toNat < 0x7F → Text.isWhiteSpace c = false)
    (by decide) (Nat.lt_trans hhigh (by decide)) hlow hhigh

/-- **The canonical form is stable.** Take a text that has a canonical URL.

* If it has a domain name, suppose that the form in ASCII of the name is its own form in ASCII; a
  label may be encoded that is too long to be decoded, so this does not go without saying. Then the
  canonical form has a canonical URL, which is the canonical form itself, with the same digest. It
  is a URL without a fragment, and its pairs are those of the text whose keys do not trace, in the
  same order.
* Whatever text is read as a URL of the same page, that is, with another fragment and with other
  tracing pairs anywhere in the query, has the same canonical form and digest.

**Proof sketch.** Reading leaves the parts of a URL in encoded form, and so does taking the fragment
and the tracing pairs away. Parts in encoded form are read as they were written, hence the canonical
form is read as what is left, from which nothing is taken away. Its pairs were written as a query
and are read again. What is left depends on the pairs that are kept only, and these are the same for
all URLs of the page. -/
theorem canonical_stable (s : String) (c : CanonicalUrl) (hparse : parse s = .ok c) :
    ((∀ page name, Url.read (Text.trim s.toList) = .ok (.web page) →
        page.host = .domain name → Url.domainToAscii? name = some name) →
      (∃ c', parse c.canonical = .ok c' ∧ c'.canonical = c.canonical ∧ c'.hash = c.hash) ∧
      ∃ page page', Url.read (Text.trim s.toList) = .ok (.web page) ∧
        Url.read c.canonical.toList = .ok (.web page') ∧ page'.fragment = none ∧
        page'.pairs = page.pairs.filter fun p => !isTrackingKey p.1) ∧
    ∀ s' page page', Url.read (Text.trim s.toList) = .ok (.web page) →
      Url.read (Text.trim s'.toList) = .ok (.web page') → page.SamePage page' →
        ∃ c', parse s' = .ok c' ∧ c'.canonical = c.canonical ∧ c'.hash = c.hash := by
  obtain ⟨page, hread, rfl⟩ := parse_eq_ok_iff.1 hparse
  refine ⟨fun hname => ?_, ?_⟩
  · have hencoded := (Url.encoded_of_read hread).withoutTracking
    have hagain : Url.read page.withoutTracking.toChars = .ok (.web page.withoutTracking) :=
      Url.read_toChars hencoded fun name => hname page name hread
    have hcanonical : String.ofList page.withoutTracking.withoutTracking.toChars =
        String.ofList page.withoutTracking.toChars := by
      rw [page.withoutTracking_withoutTracking]
    refine ⟨⟨_, parse_eq_ok_iff.2 ⟨page.withoutTracking, ?_, rfl⟩, hcanonical,
      hash_eq_of_canonical_eq hcanonical⟩,
      page, page.withoutTracking, hread, ?_, rfl, page.pairs_withoutTracking⟩
    · rw [String.toList_ofList, trim_toChars hencoded, hagain]
    · rw [String.toList_ofList, hagain]
  · intro s' page₁ page' hread₁ hread' hsame
    obtain rfl : page = page₁ := Url.web.inj (Except.ok.inj (hread.symm.trans hread₁))
    have hcanonical : String.ofList page'.withoutTracking.toChars =
        String.ofList page.withoutTracking.toChars := by
      rw [hsame.withoutTracking_eq]
    exact ⟨_, parse_eq_ok_iff.2 ⟨page', hread', rfl⟩, hcanonical,
      hash_eq_of_canonical_eq hcanonical⟩

/-- A page whose query begins with a tracing pair. -/
def books : Url.Web where
  isSecure := true
  username := []
  password := []
  host := .domain "books.example".toList
  port := none
  path := ["b".toList]
  query := some ("utm_source=feed".toList ++ '&' :: "q=1+2".toList)
  fragment := some "top".toList

/-- A fragment, a tracing pair and the port of the scheme are left out of a canonical form, which is
its own canonical form, and that of the text with one more tracing pair. -/
theorem canonical_stable_books :
    parse "HTTPS://Books.Example:443/a/../b?utm_source=feed&q=1+2#top" =
        .ok ⟨"HTTPS://Books.Example:443/a/../b?utm_source=feed&q=1+2#top",
          "https://books.example/b?q=1+2"⟩ ∧
      (∃ c', parse "https://books.example/b?q=1+2" = .ok c' ∧
        c'.canonical = "https://books.example/b?q=1+2") ∧
      ∃ c', parse "https://books.example/b?utm_source=feed&fbclid=7&q=1+2" = .ok c' ∧
        c'.canonical = "https://books.example/b?q=1+2" := by
  have hparse : parse "HTTPS://Books.Example:443/a/../b?utm_source=feed&q=1+2#top" =
      .ok ⟨"HTTPS://Books.Example:443/a/../b?utm_source=feed&q=1+2#top",
        "https://books.example/b?q=1+2"⟩ := by decide +kernel
  have hread : Url.read (Text.trim
      "HTTPS://Books.Example:443/a/../b?utm_source=feed&q=1+2#top".toList) = .ok (.web books) := by
    decide +kernel
  have htraced : Url.read (Text.trim
      "https://books.example/b?utm_source=feed&fbclid=7&q=1+2".toList) = .ok (.web { books with
        query := some ("utm_source=feed".toList ++ '&' :: ("fbclid=7".toList ++
          '&' :: "q=1+2".toList))
        fragment := none }) := by decide +kernel
  obtain ⟨hstable, hsame⟩ := canonical_stable _ _ hparse
  obtain ⟨⟨c', hagain, hcanonical, -⟩, -⟩ := hstable fun page name hpage hhost => by
    rw [hread] at hpage
    cases hpage
    cases hhost
    decide +kernel
  obtain ⟨d, hd, hdcanonical, -⟩ := hsame _ _ _ hread htraced
    (Url.Web.samePage_insert books _ _ _ (by decide +kernel) none)
  exact ⟨hparse, ⟨c', hagain, hcanonical⟩, d, hd, hdcanonical⟩

end CanonicalUrl

end Polyhierarchy

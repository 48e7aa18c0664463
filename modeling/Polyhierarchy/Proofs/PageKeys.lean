import Polyhierarchy.Proofs.History
import Polyhierarchy.Proofs.Names

set_option relaxedAutoImplicit false
set_option autoImplicit false

/-!
# One link for each page

The canonical form of a URL says which page it addresses, and its digest is the key that a link is
looked up by. Each stored link has the key of its URL, and no two links of a repository have the
same key. So whatever is called in between, a page that is submitted twice gets one link, as long as
the link is not deleted, and two pages get two.

## Main definitions

* `Link.Keyed` — the canonical form and the digest of a link are those of its URL.
* `SortedMap.Distinct` — no two values of a map have the same key.
* `LinkChange` — what a call can do to the links.
* `Mutation.KeepsLinks` — a call that neither submits a link nor deletes one.
* `Memory.Leads` — the stores that a history leads to from another one.

## Main results

* `Mutation.linkChange` — what each call does to the links.
* `Memory.Reachable.link_for_page` — links have the keys of their pages, and a page has one link.
-/

namespace Polyhierarchy

open Program

/-! ### The key of a page -/

/-- The text of a URL, as it is kept, is a URL of the same page. -/
lemma CanonicalUrl.parse_input {s : String} {page : CanonicalUrl} (h : parse s = .ok page) :
    parse page.input = .ok page := by
  have htrim : Text.trim (Text.trim s.toList) = Text.trim s.toList :=
    (Text.bare_trimBy _ _).trimBy_eq
  have hinput : page.input = String.ofList (Text.trim s.toList) := by
    simp only [parse] at h
    split at h <;> cases h
    rfl
  rw [← h, hinput, parse, parse, String.toList_ofList, htrim]

namespace Link

/-- The canonical form of a link is that of its URL, and its digest is that of the canonical
form. -/
structure Keyed (row : Link) : Prop where
  /-- The URL has the canonical form. -/
  parsed : CanonicalUrl.parse row.url = .ok ⟨row.url, row.canonicalUrl⟩
  /-- The digest is that of the canonical form. -/
  hashed : row.urlHash = CanonicalUrl.hash ⟨row.url, row.canonicalUrl⟩

/-- What a link is looked up by. -/
def key (row : Link) : RepositoryId × String := (row.repository, row.urlHash)

lemma keyed_new {s : String} {page : CanonicalUrl} (h : CanonicalUrl.parse s = .ok page)
    (id : LinkId) (r : RepositoryId) (title : String) (now : Instant) :
    (new id r page title now).Keyed :=
  ⟨CanonicalUrl.parse_input h, rfl⟩

/-- Another title changes no key. -/
lemma Keyed.retitle {row : Link} (h : row.Keyed) (title : String) :
    Keyed { row with title := title } := ⟨h.parsed, h.hashed⟩

end Link

/-! ### Distinct keys -/

namespace SortedMap

variable {κ ν γ : Type} [Ranked κ] {m : SortedMap κ ν} {f : ν → γ}

/-- No two values have the same key of some kind. -/
def Distinct (m : SortedMap κ ν) (f : ν → γ) : Prop :=
  ∀ k k' v v', m.get? k = some v → m.get? k' = some v' → f v = f v' → k = k'

lemma Distinct.erase (h : m.Distinct f) (k : κ) : (m.erase k).Distinct f :=
  fun k₁ k₂ v w hv hw => h k₁ k₂ v w (get?_of_get?_erase hv) (get?_of_get?_erase hw)

/-- A value may be set if no other one has its key. -/
lemma Distinct.insert (h : m.Distinct f) {k : κ} {v : ν}
    (hfree : ∀ k' w, m.get? k' = some w → f w = f v → k' = k) : (m.insert k v).Distinct f := by
  have hkey : ∀ k' w, (m.insert k v).get? k' = some w → f w = f v → k' = k := by
    intro k' w hw hf
    by_cases hk : k' = k
    · exact hk
    · rw [get?_insert_ne _ _ hk] at hw
      exact hfree k' w hw hf
  intro k₁ k₂ v₁ v₂ hv₁ hv₂ hf
  by_cases hk₁ : k₁ = k
  · subst hk₁
    rw [get?_insert_self] at hv₁
    cases hv₁
    exact (hkey k₂ v₂ hv₂ hf.symm).symm
  · by_cases hk₂ : k₂ = k
    · subst hk₂
      rw [get?_insert_self] at hv₂
      cases hv₂
      exact hkey k₁ v₁ hv₁ hf
    · rw [get?_insert_ne _ _ hk₁] at hv₁
      rw [get?_insert_ne _ _ hk₂] at hv₂
      exact h k₁ k₂ v₁ v₂ hv₁ hv₂ hf

end SortedMap

/-- All links have the keys of their URLs, and no two have the same. -/
structure PageKeyed (links : SortedMap LinkId Link) : Prop where
  /-- Every link has the key of its URL. -/
  keyed : ∀ id row, links.get? id = some row → row.Keyed
  /-- No two links have the same key. -/
  distinct : links.Distinct Link.key

/-! ### What a call does to the links -/

/-- What a call can do to the links: nothing, or it adds a link to a page that has none, changes the
title of a link, or removes a link. -/
inductive LinkChange (links : SortedMap LinkId Link) : SortedMap LinkId Link → Prop
  | same : LinkChange links links
  | add (row : Link) (hid : links.get? row.id = none) (hkeyed : row.Keyed)
      (hfree : ∀ id other, links.get? id = some other → other.key ≠ row.key) :
      LinkChange links (links.insert row.id row)
  | retitle (row : Link) (title : String) (hrow : links.get? row.id = some row) :
      LinkChange links (links.insert row.id { row with title := title })
  | remove (id : LinkId) : LinkChange links (links.erase id)

namespace LinkChange

variable {links links' : SortedMap LinkId Link}

/-- Whatever a call does, each link has a key of its own, which is that of its URL. -/
lemma pageKeyed (hc : LinkChange links links') (h : PageKeyed links) : PageKeyed links' := by
  cases hc with
  | same => exact h
  | add row hid hkeyed hfree =>
    refine ⟨fun id other hother => ?_, h.distinct.insert fun id other hother hkey => ?_⟩
    · by_cases hrow : id = row.id
      · rw [hrow, SortedMap.get?_insert_self] at hother
        cases hother
        exact hkeyed
      · rw [SortedMap.get?_insert_ne _ _ hrow] at hother
        exact h.keyed id other hother
    · exact absurd hkey (hfree id other hother)
  | retitle row title hrow =>
    refine ⟨fun id other hother => ?_, h.distinct.insert fun id other hother hkey => ?_⟩
    · by_cases hid : id = row.id
      · rw [hid, SortedMap.get?_insert_self] at hother
        cases hother
        exact (h.keyed row.id row hrow).retitle title
      · rw [SortedMap.get?_insert_ne _ _ hid] at hother
        exact h.keyed id other hother
    · exact h.distinct id row.id other row hother hrow hkey
  | remove id =>
    exact ⟨fun id' row hrow => h.keyed id' row (SortedMap.get?_of_get?_erase hrow),
      h.distinct.erase id⟩

/-- A link that is stored before a call and after it has at most another title. -/
lemma key_eq (hc : LinkChange links links') {id : LinkId} {row row' : Link}
    (hrow : links.get? id = some row) (hrow' : links'.get? id = some row') :
    row'.key = row.key := by
  cases hc with
  | same =>
    rw [hrow] at hrow'
    cases hrow'
    rfl
  | add new hid hkeyed hfree =>
    have hne : id ≠ new.id := by
      rintro rfl
      rw [hid] at hrow
      cases hrow
    rw [SortedMap.get?_insert_ne _ _ hne, hrow] at hrow'
    cases hrow'
    rfl
  | retitle old title hold =>
    by_cases hid : id = old.id
    · subst hid
      rw [SortedMap.get?_insert_self] at hrow'
      cases hrow'
      rw [hold] at hrow
      cases hrow
      rfl
    · rw [SortedMap.get?_insert_ne _ _ hid, hrow] at hrow'
      cases hrow'
      rfl
  | remove id' =>
    have hstored := SortedMap.get?_of_get?_erase hrow'
    rw [hrow] at hstored
    cases hstored
    rfl

end LinkChange

namespace Operation

variable {t t' : Tables} {τ : Type} {titles : TitleSource τ} {s s' : τ}

/-- A page that no link is found for has none. -/
lemma key_ne_of_linkHashed {r : RepositoryId} {hash : String} (h : t.linkHashed r hash = none)
    {id : LinkId} {other : Link} (hother : t.links.get? id = some other) :
    other.key ≠ (r, hash) := by
  have hnot := List.find?_eq_none.1 h other (SortedMap.mem_values_iff.2 ⟨id, hother⟩)
  simpa [Link.key] using hnot

/-- The link that is found for a page has its key. -/
lemma key_of_linkHashed {r : RepositoryId} {hash : String} {old : Link}
    (h : t.linkHashed r hash = some old) : old.key = (r, hash) := by
  have hfound := List.find?_some h
  simp only [Bool.and_eq_true, beq_iff_eq] at hfound
  exact Prod.ext hfound.1 hfound.2

/-- **What becomes of a page that is submitted**: a link is returned that is stored under the key of
the page. It is new, or it was there before with another title at most. -/
theorem fileLink_key (h : t.Coherent) {r : RepositoryId} {s : String} {page : CanonicalUrl}
    (hpage : CanonicalUrl.parse s = .ok page) {initial : String} {given : Option String}
    {parentIds : List TopicId} {id : LinkId} {now : Instant} {e : Ending (Upserted Link)}
    (hid : t.links.get? id = none)
    (hc : (fileLink r page initial given parentIds id now).on t = (.ok e, t')) :
    ∃ row isNew, e = .commit ⟨some row, isNew, []⟩ ∧ row.key = (r, page.hash) ∧
      t'.links = t.links.insert row.id row ∧ LinkChange t.links t'.links := by
  obtain ⟨owner, row, ps, howner, hrepo, -, hrow, rfl⟩ := on_fileLink_eq_ok h hc
  have hself : owner.id = r := h.keyed.repositories _ owner howner
  rcases hrow with ⟨hnone, rfl, -, rfl⟩ | ⟨old, hold, hrow, -, rfl⟩
  · exact ⟨_, true, rfl, congrArg (·, page.hash) hself, rfl,
      .add _ hid (Link.keyed_new hpage ..) fun _ _ hother => key_ne_of_linkHashed hnone hother⟩
  · obtain ⟨hstored, -⟩ := get?_of_linkHashed h hold
    refine ⟨row, false, rfl, ?_, rfl, ?_⟩
    · rw [hrow, ← hself]
      show old.key = _
      exact key_of_linkHashed hold
    · rw [hrow]
      exact .retitle old row.title hstored

lemma upsertLink_linkChange (h : t.Coherent) {r : RepositoryId} {url : String}
    {title : Option String} {parentIds : List TopicId} {id : LinkId} {now : Instant}
    {v : Upserted Link} (hid : t.links.get? id = none)
    (hc : (upsertLink r url title parentIds id now).on titles (t, s) = (.ok (.commit v), t', s')) :
    LinkChange t.links t'.links := by
  obtain ⟨page, hpage, hfiled⟩ := upsertLink_commits hc
  obtain ⟨-, -, -, -, -, hchange⟩ := fileLink_key h hpage hid hfiled
  exact hchange

/-- A page that is submitted is filed, or the submission fails: it never ends without anything to
commit. -/
lemma upsertLink_ne_discard (h : t.Coherent) {r : RepositoryId} {url : String}
    {page : CanonicalUrl} (hpage : CanonicalUrl.parse url = .ok page) {title : Option String}
    {parentIds : List TopicId} {id : LinkId} {now : Instant} {v : Upserted Link} :
    (upsertLink r url title parentIds id now).on titles (t, s) ≠ (.ok (.discard v), t', s') := by
  intro hc
  obtain ⟨_, hon⟩ := on_upsertLink titles t s r hpage title parentIds id now
  obtain ⟨he, -⟩ := Prod.mk.inj (hon.symm.trans hc)
  obtain ⟨_, -, ⟨-, -, hcommit, -⟩ | ⟨_, -, -, hcommit, -⟩⟩ := (on_fileLink_iff h).1 (Prod.ext he rfl)
  · cases hcommit
  · cases hcommit

/-- A page can be submitted to every repository that is stored, below any topics of it. -/
lemma exists_on_fileLink (h : t.Coherent) {r : RepositoryId} {owner : Repository}
    (howner : t.repositories.get? r = some owner) (page : CanonicalUrl) (initial : String)
    (given : Option String) {parentIds : List TopicId}
    (hps : ∀ p ∈ parentIds, t.IsTopicOf r p) (id : LinkId) (now : Instant) :
    ∃ e t', (fileLink r page initial given parentIds id now).on t = (.ok e, t') := by
  obtain rfl : owner.id = r := h.keyed.repositories _ owner howner
  cases hhash : t.linkHashed owner.id page.hash with
  | none =>
    have hmeant := h.isTopicOf_parentSet howner hps
    exact ⟨_, _, (on_fileLink_iff h).2 ⟨owner, howner, .inl ⟨hhash, hmeant, rfl, rfl⟩⟩⟩
  | some old =>
    exact ⟨_, _, (on_fileLink_iff h).2 ⟨owner, howner, .inr ⟨old, hhash, hps, rfl, rfl⟩⟩⟩

/-- A repository comes without links. -/
lemma createRepository_links (h : t.Coherent) {name : String} {id : RepositoryId} {root : TopicId}
    {now : Instant} (hid : t.repositories.get? id = none) {v : CreatedRepository}
    (hc : (createRepository name id root now).on titles (t, s) = (.ok (.commit v), t', s')) :
    t'.links = t.links := by
  rw [createRepository_commits h hid] at hc
  obtain ⟨-, rfl, -⟩ := hc
  rfl

/-- A topic that is renamed changes no link. -/
lemma saveRenamed_links {row renamed old : Topic} {alerts : List Alert} {v : Updated Topic}
    (hc : (saveRenamed row renamed alerts).on t = (.ok (.commit v), t'))
    (hold : t.topics.get? renamed.id = some old) : t'.links = t.links := by
  obtain ⟨-, -, rfl⟩ := (saveRenamed_commits hold).1 hc
  rfl

lemma updateSynonyms_links (h : t.Coherent) {id : TopicId} {synonyms : List Synonym}
    {v : Updated Topic}
    (hc : (updateSynonyms id synonyms).on titles (t, s) = (.ok (.commit v), t', s')) :
    t'.links = t.links := by
  obtain ⟨row, hrow, -, hsave⟩ := updateSynonyms_commits hc
  obtain rfl : row.id = id := h.keyed.topics id row hrow
  exact saveRenamed_links hsave hrow

lemma changeTimeRange_links (h : t.Coherent) {id : TopicId} {range : Option TimeRange}
    {v : Updated Topic}
    (hc : (changeTimeRange id range).on titles (t, s) = (.ok (.commit v), t', s')) :
    t'.links = t.links := by
  obtain ⟨row, hrow, hsave⟩ := changeTimeRange_commits hc
  obtain rfl : row.id = id := h.keyed.topics id row hrow
  exact saveRenamed_links hsave hrow

end Operation

/-- Whether a call neither submits a link nor deletes one. -/
def Mutation.KeepsLinks : Mutation → Prop
  | upsertLink .. | deleteLink _ => False
  | _ => True

section

variable {t t' : Tables} {τ : Type} {titles : TitleSource τ} {s s' : τ}

/-- The other calls change no link. -/
lemma Mutation.links_eq (h : t.Coherent) (m : Mutation) (hm : m.KeepsLinks) (hfresh : m.IsFresh t)
    {v : m.Result} (hc : m.operation.on titles (t, s) = (.ok (.commit v), t', s')) :
    t'.links = t.links := by
  cases m with
  | createRepository name id root now => exact Operation.createRepository_links h hfresh.1 hc
  | upsertTopic repository name description parentIds id now =>
    obtain ⟨_, _, -, -, -, -, -, -, rfl, -⟩ := (Operation.upsertTopic_commits h).1 hc
    rfl
  | updateParents id parentIds =>
    obtain ⟨_, -, -, -, -, -, rfl, -⟩ := (Operation.updateParents_commits h).1 hc
    rfl
  | deleteTopic id =>
    obtain ⟨_, -, -, -, rfl, -⟩ := (Operation.deleteTopic_commits h).1 hc
    rfl
  | mergeTopic source target =>
    obtain ⟨_, _, -, -, -, -, -, -, -, -, -, rfl, -⟩ := Operation.mergeTopic_commits h hc
    rfl
  | updateSynonyms id synonyms => exact Operation.updateSynonyms_links h hc
  | setTimeRange id range => exact Operation.changeTimeRange_links h hc
  | deleteTimeRange id => exact Operation.changeTimeRange_links h hc
  | updateLinkParents id parentIds =>
    obtain ⟨_, _, -, -, -, -, rfl, -⟩ := (Operation.updateLinkParents_commits h).1 hc
    rfl
  | upsertLink repository url title parentIds id now => exact hm.elim
  | deleteLink id => exact hm.elim

/-- **What a call does to the links.** -/
theorem Mutation.linkChange (h : t.Coherent) (m : Mutation) (hfresh : m.IsFresh t) {v : m.Result}
    (hc : m.operation.on titles (t, s) = (.ok (.commit v), t', s')) :
    LinkChange t.links t'.links := by
  cases m with
  | upsertLink repository url title parentIds id now =>
    have hlink : (Operation.upsertLink repository url title parentIds id now).on titles (t, s) =
      (.ok (.commit v), t', s') := hc
    exact Operation.upsertLink_linkChange h hfresh hlink
  | deleteLink id =>
    obtain ⟨_, -, -, rfl, -⟩ := (Operation.deleteLink_commits h).1 hc
    exact .remove id
  | _ => exact Mutation.links_eq h _ (by trivial) hfresh hc ▸ .same

end

/-! ### Histories in which a link stays -/

namespace Memory

/-- The stores that a history leads to from another one, if on the way the tables always have some
property. -/
inductive Leads (P : Tables → Prop) (mem : Memory) : Memory → Prop where
  | refl : Leads P mem mem
  | call {mem' : Memory} {τ : Type} (m : Mutation) (titles : TitleSource τ) (s : τ) (d : Deadline) :
      Leads P mem mem' → m.IsFresh mem'.tables →
        P (m.operation.run Memory.store titles d (mem', s)).2.1.tables →
          Leads P mem (m.operation.run Memory.store titles d (mem', s)).2.1
  | limitWrites {mem' : Memory} (n : Option Nat) :
      Leads P mem mem' → Leads P mem { mem' with writesLeft := n }

lemma Leads.reachable {P : Tables → Prop} {mem mem' : Memory} (h : mem.Leads P mem')
    (hmem : mem.Reachable) : mem'.Reachable := by
  induction h with
  | refl => exact hmem
  | call m titles s d _ hfresh _ ih => exact .call m titles s d ih hfresh
  | limitWrites n _ ih => exact .limitWrites n ih

/-- What every call that commits keeps is kept along the way: a call that does not commit changes
nothing. -/
lemma Leads.keeps {P Q : Tables → Prop} {mem mem' : Memory} (h : mem.Leads P mem')
    (hmem : mem.Reachable) (hstart : Q mem.tables)
    (hcall : ∀ {τ : Type} (m : Mutation) (titles : TitleSource τ) (s s' : τ) (t t' : Tables)
      (v : m.Result), t.Coherent → m.IsFresh t →
        m.operation.on titles (t, s) = (.ok (.commit v), t', s') → P t' → Q t → Q t') :
    Q mem'.tables := by
  induction h with
  | refl => exact hstart
  | @call mem' τ m titles s d hlead hfresh hp ih =>
    rcases m.operation.unchanged_or_committed titles d mem' s with ⟨hsame, -⟩ | ⟨v, -, hon, -⟩
    · rw [hsame]
      exact ih
    · exact hcall m titles s _ _ _ v (hlead.reachable hmem).coherent hfresh hon hp ih
  | limitWrites n _ ih => exact ih

/-- A link that is never deleted keeps its key. -/
lemma Leads.key_eq {mem mem' : Memory} {id : LinkId} {row : Link}
    (h : mem.Leads (fun t => t.links.get? id ≠ none) mem') (hmem : mem.Reachable)
    (hrow : mem.tables.links.get? id = some row) :
    ∃ row', mem'.tables.links.get? id = some row' ∧ row'.key = row.key := by
  refine h.keeps (Q := fun t => ∃ row', t.links.get? id = some row' ∧ row'.key = row.key) hmem
    ⟨row, hrow, rfl⟩ ?_
  rintro τ m titles s s' t t' v ht hfresh hc hstored ⟨row', hrow', hkey⟩
  obtain ⟨row'', hrow''⟩ := Option.ne_none_iff_exists'.1 hstored
  exact ⟨row'', hrow'', ((m.linkChange ht hfresh hc).key_eq hrow' hrow'').trans hkey⟩

/-- **Every history leaves each link with a key of its own**, which is that of its URL. -/
theorem Reachable.pageKeyed {mem : Memory} (h : mem.Reachable) : PageKeyed mem.tables.links := by
  have hempty : PageKeyed (∅ : Tables).links :=
    ⟨fun _ _ h => (nomatch h), fun _ _ _ _ h => (nomatch h)⟩
  have hboth := h.keeps (P := fun t => t.Coherent ∧ PageKeyed t.links)
    ⟨Tables.coherent_empty, hempty⟩ fun m _ _ _ _ _ _ ht hfresh hc =>
      ⟨m.coherent ht.1 hfresh hc, (m.linkChange ht.1 hfresh hc).pageKeyed ht.2⟩
  exact hboth.2

end Memory

/-! ### Submissions -/

/-- What a caller submits as a link, and what is minted for it. -/
structure Submission where
  /-- The URL. -/
  url : String
  /-- The title, if one is given. -/
  title : Option String
  /-- The topics to file the link under. -/
  parentIds : List TopicId
  /-- The identifier that the link gets if it is new. -/
  id : LinkId
  /-- When the link is created if it is new. -/
  now : Instant

/-- The call that submits a link to a repository. -/
def Submission.operation (c : Submission) (r : RepositoryId) : Operation (Upserted Link) :=
  Operation.upsertLink r c.url c.title c.parentIds c.id c.now

namespace Memory

/-- A submission that returns anything has filed the link and committed it. -/
lemma fileLink_of_run {mem after : Memory} (h : mem.tables.Coherent) {r : RepositoryId}
    {c : Submission} {page : CanonicalUrl} (hpage : CanonicalUrl.parse c.url = .ok page)
    {τ : Type} {titles : TitleSource τ} {s s' : τ} {d : Deadline} {v : Upserted Link}
    (hrun : (c.operation r).run Memory.store titles d (mem, s) = (.ok v, after, s')) :
    (Operation.fileLink r page (Operation.firstTitle titles s page c.title)
      (Operation.givenTitle? c.title) c.parentIds c.id c.now).on mem.tables =
        (.ok (.commit v), after.tables) := by
  have hend := (c.operation r).on_of_run_eq_ok titles d mem s (congrArg Prod.fst hrun)
  simp only [hrun] at hend
  rcases hend with hc | ⟨-, t, hc⟩
  · obtain ⟨page', hpage', hfiled⟩ := Operation.upsertLink_commits hc
    obtain rfl : page' = page := Except.ok.inj (hpage'.symm.trans hpage)
    exact hfiled
  · exact absurd hc (Operation.upsertLink_ne_discard h hpage)

/-- A submission that returns anything returns a link that is stored under the key of its page. -/
lemma Reachable.submit {mem after : Memory} (h : mem.Reachable) {r : RepositoryId} {c : Submission}
    {page : CanonicalUrl} (hpage : CanonicalUrl.parse c.url = .ok page)
    (hid : mem.tables.links.get? c.id = none) {τ : Type} {titles : TitleSource τ} {s s' : τ}
    {d : Deadline} {v : Upserted Link}
    (hrun : (c.operation r).run Memory.store titles d (mem, s) = (.ok v, after, s')) :
    after.Reachable ∧ ∃ row, v.row = some row ∧ row.key = (r, page.hash) ∧
      after.tables.links.get? row.id = some row ∧
      ∀ id other, mem.tables.links.get? id = some other →
        (row.id = id ↔ other.key = (r, page.hash)) := by
  have hafter : after.Reachable :=
    h.of_run (m := .upsertLink r c.url c.title c.parentIds c.id c.now) hid hrun
  obtain ⟨row, isNew, hcommit, hkey, hlinks, hchange⟩ :=
    Operation.fileLink_key h.coherent hpage hid (fileLink_of_run h.coherent hpage hrun)
  cases hcommit
  have hrow : after.tables.links.get? row.id = some row := by
    rw [hlinks, SortedMap.get?_insert_self]
  refine ⟨hafter, row, rfl, hkey, hrow, fun id other hother => ⟨fun hsame => ?_, fun hsame => ?_⟩⟩
  · subst hsame
    rw [← hchange.key_eq hother hrow, hkey]
  · by_contra hne
    have hother' : after.tables.links.get? id = some other := by
      rw [hlinks, SortedMap.get?_insert_ne _ _ (Ne.symm hne), hother]
    exact hne (hafter.pageKeyed.distinct _ _ _ _ hrow hother' (hkey.trans hsame.symm))

/-- Where nothing stands in its way, a submission returns something. -/
lemma Reachable.exists_submit {mem : Memory} (h : mem.Reachable) {r : RepositoryId}
    {owner : Repository} (howner : mem.tables.repositories.get? r = some owner) {c : Submission}
    {page : CanonicalUrl} (hpage : CanonicalUrl.parse c.url = .ok page)
    (hps : ∀ p ∈ c.parentIds, mem.tables.IsTopicOf r p) (hleft : mem.writesLeft = none)
    {τ : Type} (titles : TitleSource τ) (s : τ) :
    ∃ v, ((c.operation r).run Memory.store titles .never (mem, s)).1 = .ok v := by
  obtain ⟨s', hon⟩ := Operation.on_upsertLink titles mem.tables s r hpage c.title c.parentIds c.id
    c.now
  obtain ⟨e, t', hfiled⟩ := Operation.exists_on_fileLink h.coherent howner page
    (Operation.firstTitle titles s page c.title) (Operation.givenTitle? c.title) hps c.id c.now
  rw [hfiled] at hon
  rw [Operation.run_store _ titles s hleft, Submission.operation, hon]
  cases e <;> exact ⟨_, rfl⟩

/-- **After every history a page has one link.** Each link has the canonical form and the digest of
its URL, and no two links of a repository have the same digest. A page can be submitted to each
repository, below topics of it. If two URLs are submitted to a repository, whatever is called in
between, then as long as the link that the first one got is not deleted, the second one gets the
same exactly if the URLs have the same canonical form, provided that they do not just have the same
digest. -/
theorem Reachable.link_for_page {mem : Memory} (h : mem.Reachable) :
    (∀ id row, mem.tables.links.get? id = some row →
      CanonicalUrl.parse row.url = .ok ⟨row.url, row.canonicalUrl⟩ ∧
        row.urlHash = CanonicalUrl.hash ⟨row.url, row.canonicalUrl⟩) ∧
    (∀ id id' row row', mem.tables.links.get? id = some row →
      mem.tables.links.get? id' = some row' → row.repository = row'.repository →
        row.urlHash = row'.urlHash → id = id') ∧
    ∀ (r : RepositoryId) (c : Submission) (page : CanonicalUrl),
      CanonicalUrl.parse c.url = .ok page → mem.tables.links.get? c.id = none →
      ∀ {τ : Type} (titles : TitleSource τ) (s : τ) (d : Deadline),
        let x := (c.operation r).run Memory.store titles d (mem, s)
        ((∃ owner, mem.tables.repositories.get? r = some owner) →
          (∀ p ∈ c.parentIds, mem.tables.IsTopicOf r p) → mem.writesLeft = none → d = .never →
            ∃ v, x.1 = .ok v) ∧
        ∀ v, x.1 = .ok v → ∃ row, v.row = some row ∧
          ∀ mem' : Memory, x.2.1.Leads (fun t => t.links.get? row.id ≠ none) mem' →
          ∀ (c' : Submission) (page' : CanonicalUrl),
            CanonicalUrl.parse c'.url = .ok page' → mem'.tables.links.get? c'.id = none →
            ∀ {τ' : Type} (titles' : TitleSource τ') (s' : τ') (d' : Deadline) (v' : Upserted Link),
              ((c'.operation r).run Memory.store titles' d' (mem', s')).1 = .ok v' →
              ∃ row', v'.row = some row' ∧
                ((page.hash = page'.hash → page.canonical = page'.canonical) →
                  (row.id = row'.id ↔ page.canonical = page'.canonical)) := by
  refine ⟨fun id row hrow => ?_, fun id id' row row' hrow hrow' hrepo hhash => ?_,
    fun r c page hpage hid τ titles s d => ?_⟩
  · obtain ⟨hparsed, hhashed⟩ := h.pageKeyed.keyed id row hrow
    exact ⟨hparsed, hhashed⟩
  · exact h.pageKeyed.distinct id id' row row' hrow hrow' (Prod.ext hrepo hhash)
  rcases hrun : (c.operation r).run Memory.store titles d (mem, s) with ⟨result, after, s₁⟩
  dsimp only
  constructor
  · rintro ⟨owner, howner⟩ hps hleft rfl
    obtain ⟨v, hv⟩ := h.exists_submit howner hpage hps hleft titles s
    rw [hrun] at hv
    exact ⟨v, hv⟩
  · rintro v rfl
    obtain ⟨hafter, row, hrow, hkey, hstored, -⟩ := h.submit hpage hid hrun
    refine ⟨row, hrow, fun mem' hlead c' page' hpage' hid' τ' titles' s' d' v' hv' => ?_⟩
    obtain ⟨kept, hkept, hkeptKey⟩ := hlead.key_eq hafter hstored
    rcases hrun' : (c'.operation r).run Memory.store titles' d' (mem', s') with ⟨result, last, s₂⟩
    rw [hrun'] at hv'
    obtain rfl : result = .ok v' := hv'
    obtain ⟨-, row', hrow', hkey', -, hunique⟩ :=
      (hlead.reachable hafter).submit hpage' hid' hrun'
    refine ⟨row', hrow', fun hcollide => ⟨fun hsame => ?_, fun hsame => ?_⟩⟩
    · have hkept' := (hunique row.id kept hkept).1 hsame.symm
      exact hcollide (congrArg Prod.snd (hkey.symm.trans (hkeptKey.symm.trans hkept')))
    · have hhash : page.hash = page'.hash := by rw [CanonicalUrl.hash, CanonicalUrl.hash, hsame]
      exact ((hunique row.id kept hkept).2 (hkeptKey.trans (hhash ▸ hkey))).symm

/-- The page of the link in the chain, under a URL that traces where the reader came from. -/
def traced : Submission := ⟨"HTTP://Books.example/?utm_source=feed#top", none, [], ⟨⟨7⟩⟩, default⟩

/-- The same page, under its canonical URL. -/
def untraced : Submission := ⟨"http://books.example/", none, [], ⟨⟨7⟩⟩, default⟩

/-- Whoever submits a page under two URLs, one after the other, gets one link. -/
theorem link_for_page_chain :
    let x := (traced.operation ⟨⟨1⟩⟩).run Memory.store TitleSource.silent .never (chain, ())
    let y := (untraced.operation ⟨⟨1⟩⟩).run Memory.store TitleSource.silent .never (x.2.1, ())
    ∃ v row v' row', x.1 = .ok v ∧ v.row = some row ∧ y.1 = .ok v' ∧ v'.row = some row' ∧
      row.id = row'.id := by
  intro x y
  have htraced : CanonicalUrl.parse traced.url = .ok ⟨traced.url, untraced.url⟩ := by
    decide +kernel
  have huntraced : CanonicalUrl.parse untraced.url = .ok ⟨untraced.url, untraced.url⟩ := by
    decide +kernel
  have hruns : x.1.isOk = true ∧ x.2.1.tables.links.get? untraced.id = none ∧
      y.1.isOk = true := by decide +kernel
  have hok : ∀ {z : Except EngineError (Upserted Link)}, z.isOk = true → ∃ v, z = .ok v := by
    rintro (_ | v) hz
    · cases hz
    · exact ⟨v, rfl⟩
  obtain ⟨hx, hfree, hy⟩ := hruns
  obtain ⟨v, hv⟩ := hok hx
  obtain ⟨v', hv'⟩ := hok hy
  obtain ⟨row, hrow, hlater⟩ := (reachable_chain.link_for_page.2.2 ⟨⟨1⟩⟩ traced _ htraced
    (by decide +kernel) TitleSource.silent () .never).2 v hv
  obtain ⟨row', hrow', hsame⟩ :=
    hlater x.2.1 .refl untraced _ huntraced hfree TitleSource.silent () .never v' hv'
  exact ⟨v, row, v', row', hv, hrow, hv', hrow', (hsame fun _ => rfl).2 rfl⟩

end Memory

end Polyhierarchy

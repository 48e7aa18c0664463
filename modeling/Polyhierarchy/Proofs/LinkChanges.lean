import Polyhierarchy.Operation.Links
import Polyhierarchy.Proofs.TopicChanges

set_option relaxedAutoImplicit false
set_option autoImplicit false

/-!
# What the operations on links commit

No path goes on from a link, so whatever parents a link gets, no cycle is closed. All that has to be
kept is that a link has some parent, and only parents of its repository.

## Main definitions

* `Operation.firstTitle` — the title that a new link gets.

## Main results

* `Operation.on_fileLink_iff` — when a link is filed, new or not, and what is committed then.
* `Operation.updateLinkParents_commits`, `Operation.deleteLink_commits` — the other operations.
* `Operation.upsertLink_coherent`, `Operation.updateLinkParents_coherent`,
  `Operation.deleteLink_coherent` — the tables stay coherent.
-/

namespace Polyhierarchy.Operation

open Program Reachability

variable {t t' : Tables} {τ : Type} {titles : TitleSource τ} {s s' : τ}

/-- A link gets some parents of its repository, or keeps those that it has besides. -/
lemma addParents_link (h : t.Coherent) {l : LinkId} {owner : Repository} {ps : SortedSet TopicId}
    (hl : t.place? (.link l) = none ∧ (∃ p, p ∈ ps) ∨
      t.place? (.link l) = some ⟨owner.id, false⟩)
    (hps : ∀ p ∈ ps, t.IsTopicOf owner.id p) :
    Hierarchical (Function.update t.place? (.link l) (some ⟨owner.id, false⟩))
      (t.edges.withParents (.link l) ps.toList) :=
  h.hierarchical.addParents hl (fun p hp => (hps p hp).place?)
    fun _ _ => ⟨Node.noConfusion, not_reaches_link⟩

/-- The tables stay coherent if a link is stored, new or not, and gets some parents. -/
lemma addLink_coherent (h : t.Coherent) {row : Link} {owner : Repository}
    {ps : SortedSet TopicId} (howner : t.repositories.get? owner.id = some owner)
    (hrepo : row.repository = owner.id)
    (hl : t.links.get? row.id = none ∧ (∃ p, p ∈ ps) ∨
      ∃ old, t.links.get? row.id = some old ∧ old.repository = owner.id)
    (hps : ∀ p ∈ ps, t.IsTopicOf owner.id p) :
    (Tables.withEdges { t with links := t.links.insert row.id row }
      (t.edges.withParents (.link row.id) ps.toList)).Coherent := by
  have hplace : t.place? (.link row.id) = none ∧ (∃ p, p ∈ ps) ∨
      t.place? (.link row.id) = some ⟨owner.id, false⟩ := by
    refine hl.imp (And.imp_left fun hnone => ?_) ?_
    · simp [Tables.place?, hnone]
    · rintro ⟨old, hold, hold'⟩
      exact Tables.place?_link_eq_some.2 ⟨old, hold, hold', rfl⟩
  have hedges := addParents_link h hplace hps
  rw [← hrepo] at howner hedges
  exact h.addLink row howner hedges

/-! ### Filing -/

/-- The parents that a caller means are looked up and get a child. -/
lemma on_parents_addParents (hkeyed : t.Keyed) (h : t.Exact) {owner : Repository}
    {ids : List TopicId} {child : Node} {α : Type} {a b : α} :
    (do
      let parents ← Lookup.parents owner ids
      addParents child (parents.map (·.id))
      pure a : Program α).on t = (.ok b, t') ↔
      (∀ p ∈ owner.parentSet ids, t.IsTopicOf owner.id p) ∧ b = a ∧
        t' = t.withEdges (t.edges.withParents child (owner.parentSet ids).toList) := by
  rw [on_bind_eq_ok]
  constructor
  · rintro ⟨rows, _, hrows, hc⟩
    obtain ⟨hps, rfl, rfl⟩ := (Lookup.on_parents_eq_ok hkeyed).1 hrows
    rw [hkeyed.topicsOf_ids hps, on_bind, on_addParents h] at hc
    obtain ⟨ha, ht⟩ := Prod.mk.inj hc
    exact ⟨hps, (Except.ok.inj ha).symm, ht.symm⟩
  · rintro ⟨hps, rfl, rfl⟩
    refine ⟨_, t, (Lookup.on_parents_eq_ok hkeyed).2 ⟨hps, rfl, rfl⟩, ?_⟩
    rw [hkeyed.topicsOf_ids hps, on_bind, on_addParents h]
    rfl

/-- The link that was there before is stored with the title that a caller gives, if any. -/
lemma on_retitle {row : Link} (given : Option String) (hrow : t.links.get? row.id = some row) :
    (retitle row given).on t =
      (.ok { row with title := given.getD row.title },
        { t with links := t.links.insert row.id { row with title := given.getD row.title } }) := by
  have hkept : (pure row : Program Link).on t =
      (.ok row, { t with links := t.links.insert row.id row }) := by
    rw [SortedMap.insert_of_get? hrow]
    rfl
  cases given with
  | none => exact hkept
  | some title =>
    rw [retitle]
    split
    next hsame =>
      subst hsame
      exact hkept
    next =>
      simp [Memory.reply, Memory.answer, Memory.Working.edit, hrow]

/-- The link of a page is stored, in the repository that it was looked for in. -/
lemma get?_of_linkHashed (h : t.Coherent) {r : RepositoryId} {hash : String} {old : Link}
    (hold : t.linkHashed r hash = some old) :
    t.links.get? old.id = some old ∧ old.repository = r := by
  have hfound := List.find?_some hold
  simp only [Bool.and_eq_true, beq_iff_eq] at hfound
  exact ⟨h.keyed.links.mem_values_iff.1 (List.mem_of_find?_eq_some hold), hfound.1⟩

/-- **A link is filed** exactly if its repository is stored and the parents that the caller means are
topics of it. If its page has been submitted before, it is the link that there was, with the title
that is given, and it keeps the parents that it has; then no parent has to be meant. The session
always commits. -/
theorem on_fileLink_iff (h : t.Coherent) {repository : RepositoryId} {url : CanonicalUrl}
    {initial : String} {given : Option String} {parentIds : List TopicId} {id : LinkId}
    {now : Instant} {e : Ending (Upserted Link)} :
    (fileLink repository url initial given parentIds id now).on t = (.ok e, t') ↔
      ∃ owner, t.repositories.get? repository = some owner ∧
        (t.linkHashed owner.id url.hash = none ∧
            (∀ p ∈ owner.parentSet parentIds, t.IsTopicOf owner.id p) ∧
            e = .commit ⟨some (Link.new id owner.id url initial now), true, []⟩ ∧
            t' = Tables.withEdges
              { t with links := t.links.insert id (Link.new id owner.id url initial now) }
              (t.edges.withParents (.link id) (owner.parentSet parentIds).toList) ∨
          ∃ old, t.linkHashed owner.id url.hash = some old ∧
            (∀ p ∈ parentIds, t.IsTopicOf owner.id p) ∧
            e = .commit ⟨some { old with title := given.getD old.title }, false, []⟩ ∧
            t' = Tables.withEdges
              { t with links := t.links.insert old.id { old with title := given.getD old.title } }
              (t.edges.withParents (.link old.id) (SortedSet.ofList parentIds).toList)) := by
  have hkeyed : ∀ row : Link, Tables.Keyed { t with links := t.links.insert row.id row } :=
    fun row => ⟨h.keyed.repositories, h.keyed.topics, h.keyed.links.insert rfl⟩
  rw [fileLink, Lookup.on_lock, on_bind_eq_ok]
  simp only [Lookup.on_repository_eq_ok]
  constructor
  · rintro ⟨owner, _, ⟨howner, rfl⟩, hc⟩
    refine ⟨owner, howner, ?_⟩
    rw [on_bind, on_request] at hc
    simp only [Memory.reply, Memory.answer, Memory.insertLink] at hc
    cases hhash : t.linkHashed (Link.new id owner.id url initial now).repository
        (Link.new id owner.id url initial now).urlHash with
    | none =>
      simp only [hhash, if_true, pure_eq, done_bind, Bool.true_or] at hc
      obtain ⟨hps, he, ht⟩ := (on_parents_addParents (hkeyed _) h.exact).1 hc
      exact .inl ⟨hhash, hps, he, ht⟩
    | some old =>
      have hold := on_retitle given (get?_of_linkHashed h hhash).1
      simp only [hhash, Bool.false_eq_true, if_false, Bool.false_or] at hc
      rw [on_bind, hold] at hc
      refine .inr ⟨old, hhash, ?_⟩
      cases parentIds with
      | nil =>
        obtain ⟨he, ht⟩ := Prod.mk.inj hc
        refine ⟨fun _ hp => absurd hp List.not_mem_nil, (Except.ok.inj he).symm, ?_⟩
        exact ht.symm.trans (Tables.Exact.withEdges_self (t := { t with
          links := t.links.insert old.id { old with title := given.getD old.title } })
          h.exact).symm
      | cons p ps =>
        simp only [List.isEmpty_cons, Bool.not_false, if_true] at hc
        obtain ⟨hps, he, ht⟩ := (on_parents_addParents
          (hkeyed { old with title := given.getD old.title }) h.exact).1 hc
        exact ⟨fun q hq => hps q (SortedSet.mem_ofList.2 hq), he, ht⟩
  · rintro ⟨owner, howner, hend⟩
    refine ⟨owner, t, ⟨howner, rfl⟩, ?_⟩
    rw [on_bind, on_request]
    simp only [Memory.reply, Memory.answer, Memory.insertLink]
    rcases hend with ⟨hhash, hps, rfl, rfl⟩ | ⟨old, hhash, hps, rfl, rfl⟩
    · have hhash' : t.linkHashed (Link.new id owner.id url initial now).repository
          (Link.new id owner.id url initial now).urlHash = none := hhash
      simp only [hhash', if_true, pure_eq, done_bind, Bool.true_or]
      exact (on_parents_addParents (hkeyed _) h.exact).2 ⟨hps, rfl, rfl⟩
    · have hhash' : t.linkHashed (Link.new id owner.id url initial now).repository
          (Link.new id owner.id url initial now).urlHash = some old := hhash
      have hold := on_retitle given (get?_of_linkHashed h hhash).1
      simp only [hhash', Bool.false_eq_true, if_false, Bool.false_or]
      rw [on_bind, hold]
      cases parentIds with
      | nil =>
        exact Prod.ext rfl (Tables.Exact.withEdges_self (t := { t with
          links := t.links.insert old.id { old with title := given.getD old.title } })
          h.exact).symm
      | cons p ps =>
        have hmeant : ∀ q ∈ owner.parentSet (p :: ps), t.IsTopicOf owner.id q :=
          fun q hq => hps q (SortedSet.mem_ofList.1 hq)
        exact (on_parents_addParents
          (hkeyed { old with title := given.getD old.title }) h.exact).2 ⟨hmeant, rfl, rfl⟩

/-- What has been filed: a link, new or with another title at most, below parents of its
repository. -/
theorem on_fileLink_eq_ok (h : t.Coherent) {repository : RepositoryId} {url : CanonicalUrl}
    {initial : String} {given : Option String} {parentIds : List TopicId} {id : LinkId}
    {now : Instant} {e : Ending (Upserted Link)}
    (hc : (fileLink repository url initial given parentIds id now).on t = (.ok e, t')) :
    ∃ owner row ps, t.repositories.get? repository = some owner ∧ row.repository = owner.id ∧
      (∀ p ∈ ps, t.IsTopicOf owner.id p) ∧
      (t.linkHashed owner.id url.hash = none ∧ row = Link.new id owner.id url initial now ∧
          ps = owner.parentSet parentIds ∧ e = .commit ⟨some row, true, []⟩ ∨
        ∃ old, t.linkHashed owner.id url.hash = some old ∧
          row = { old with title := row.title } ∧ ps = SortedSet.ofList parentIds ∧
          e = .commit ⟨some row, false, []⟩) ∧
      t' = Tables.withEdges { t with links := t.links.insert row.id row }
        (t.edges.withParents (.link row.id) ps.toList) := by
  obtain ⟨owner, howner, ⟨hhash, hps, he, ht⟩ | ⟨old, hhash, hps, he, ht⟩⟩ :=
    (on_fileLink_iff h).1 hc
  · exact ⟨owner, _, owner.parentSet parentIds, howner, rfl, hps, .inl ⟨hhash, rfl, rfl, he⟩, ht⟩
  · exact ⟨owner, { old with title := given.getD old.title }, SortedSet.ofList parentIds, howner,
      (get?_of_linkHashed h hhash).2, fun p hp => hps p (SortedSet.mem_ofList.1 hp),
      .inr ⟨old, hhash, rfl, rfl, he⟩, ht⟩

/-- What a session that files a link commits. -/
theorem fileLink_commits (h : t.Coherent) {repository : RepositoryId} {url : CanonicalUrl}
    {initial : String} {given : Option String} {parentIds : List TopicId} {id : LinkId}
    {now : Instant} {v : Upserted Link}
    (hc : (fileLink repository url initial given parentIds id now).on t = (.ok (.commit v), t')) :
    ∃ owner row ps, t.repositories.get? repository = some owner ∧ row.repository = owner.id ∧
      (∀ p ∈ ps, t.IsTopicOf owner.id p) ∧
      (t.linkHashed owner.id url.hash = none ∧ row = Link.new id owner.id url initial now ∧
          ps = owner.parentSet parentIds ∧ v = ⟨some row, true, []⟩ ∨
        ∃ old, t.linkHashed owner.id url.hash = some old ∧
          row = { old with title := row.title } ∧ ps = SortedSet.ofList parentIds ∧
          v = ⟨some row, false, []⟩) ∧
      t' = Tables.withEdges { t with links := t.links.insert row.id row }
        (t.edges.withParents (.link row.id) ps.toList) := by
  have hfiled := on_fileLink_eq_ok h hc
  simp only [Ending.commit.injEq] at hfiled
  exact hfiled

/-- Filing a link keeps the tables coherent. -/
lemma fileLink_coherent (h : t.Coherent) {repository : RepositoryId} {url : CanonicalUrl}
    {initial : String} {given : Option String} {parentIds : List TopicId} {id : LinkId}
    {now : Instant} {v : Upserted Link} (hid : t.links.get? id = none)
    (hc : (fileLink repository url initial given parentIds id now).on t = (.ok (.commit v), t')) :
    t'.Coherent := by
  obtain ⟨owner, row, ps, howner, hrepo, hps, hrow, rfl⟩ := fileLink_commits h hc
  have hself : owner.id = repository := h.keyed.repositories _ owner howner
  rw [← hself] at howner
  apply addLink_coherent h howner hrepo ?_ hps
  rcases hrow with ⟨-, rfl, rfl, -⟩ | ⟨old, hold, hrow, rfl, -⟩
  · exact .inl ⟨hid, owner.exists_mem_parentSet parentIds⟩
  · have hrowId : row.id = old.id := by rw [hrow]
    rw [hrowId]
    exact .inr ⟨old, get?_of_linkHashed h hold⟩

/-- The title that a new link to a page gets: the one that a caller gives or, without one, the one
that is found when the page is asked for it. If none is found, it is empty. -/
def firstTitle (titles : TitleSource τ) (s : τ) (page : CanonicalUrl) (title : Option String) :
    String :=
  (givenTitle? title).getD ((titles.fetch page s).1.title?.getD "")

/-- A link that is submitted under a URL is filed, with the title that is given or the one that its
page is found to have. -/
lemma on_upsertLink (titles : TitleSource τ) (t : Tables) (s : τ) (repository : RepositoryId)
    {url : String} {page : CanonicalUrl} (hurl : CanonicalUrl.parse url = .ok page)
    (title : Option String) (parentIds : List TopicId) (id : LinkId) (now : Instant) :
    ∃ s', (upsertLink repository url title parentIds id now).on titles (t, s) =
      let filed := (fileLink repository page (firstTitle titles s page title) (givenTitle? title)
        parentIds id now).on t
      (filed.1, filed.2, s') := by
  simp only [upsertLink, hurl, firstTitle]
  cases givenTitle? title <;> exact ⟨_, rfl⟩

/-- A submitted link is filed if its URL is one of a page. -/
lemma upsertLink_commits {repository : RepositoryId} {url : String} {title : Option String}
    {parentIds : List TopicId} {id : LinkId} {now : Instant} {v : Upserted Link}
    (hc : (upsertLink repository url title parentIds id now).on titles (t, s) =
      (.ok (.commit v), t', s')) :
    ∃ page, CanonicalUrl.parse url = .ok page ∧
      (fileLink repository page (firstTitle titles s page title) (givenTitle? title) parentIds id
        now).on t = (.ok (.commit v), t') := by
  cases hurl : CanonicalUrl.parse url with
  | error e => simp [upsertLink, hurl, on] at hc
  | ok page =>
    obtain ⟨_, hon⟩ := on_upsertLink titles t s repository hurl title parentIds id now
    obtain ⟨hv, ht⟩ := Prod.mk.inj (hon.symm.trans hc)
    exact ⟨page, rfl, Prod.ext hv (Prod.mk.inj ht).1⟩

/-- A submitted link keeps the tables coherent, whatever title its page is found to have. -/
theorem upsertLink_coherent (h : t.Coherent) {repository : RepositoryId} {url : String}
    {title : Option String} {parentIds : List TopicId} {id : LinkId} {now : Instant}
    {v : Upserted Link} (hid : t.links.get? id = none)
    (hc : (upsertLink repository url title parentIds id now).on titles (t, s) =
      (.ok (.commit v), t', s')) : t'.Coherent := by
  obtain ⟨page, -, hfiled⟩ := upsertLink_commits hc
  exact fileLink_coherent h hid hfiled

/-! ### Other parents, and removal -/

/-- A link loses the parents that are not meant and gets those that are missing. -/
lemma on_exchangeParents (h : t.Exact) {l : LinkId} {ps : SortedSet TopicId} {α : Type} (a : α) :
    (do
      let current ← Program.request "list parents" (.parents (.link l))
      addParents (.link l) (ps.difference (SortedSet.ofList current)).toList
      removeParents (.link l) ((SortedSet.ofList current).difference ps)
      pure a : Program α).on t = (.ok a, t.withEdges (t.edges.setParents (.link l) ps)) := by
  rw [on_bind, on_request]
  simp only [Memory.reply, Memory.answer, SortedSet.ofList_toList]
  rw [on_bind, on_addParents h]
  dsimp only
  rw [on_bind, on_removeParents (Tables.exact_withEdges t _), SortedRel.setParents_eq]
  rfl

/-- **A link gets other parents** exactly if it is stored and all that are meant are topics of its
repository. It gets exactly those. -/
theorem updateLinkParents_commits (h : t.Coherent) {id : LinkId} {parentIds : List TopicId}
    {v : Updated Link} :
    (updateLinkParents id parentIds).on titles (t, s) = (.ok (.commit v), t', s') ↔
      ∃ row owner, t.links.get? id = some row ∧ t.repositories.get? row.repository = some owner ∧
        (∀ p ∈ owner.parentSet parentIds, t.IsTopicOf owner.id p) ∧ v = ⟨row, []⟩ ∧
        t' = t.withEdges (t.edges.setParents (.link id) (owner.parentSet parentIds)) ∧ s' = s := by
  rw [updateLinkParents, on_session_eq_ok, on_bind_eq_ok]
  constructor
  · rintro ⟨⟨row, _, hlook, hc⟩, rfl⟩
    obtain ⟨hrow, rfl⟩ := Lookup.on_link_eq_ok.1 hlook
    obtain rfl : row.id = id := h.keyed.links id row hrow
    rw [Lookup.on_lock, on_bind_eq_ok] at hc
    obtain ⟨owner, _, hlook', hc⟩ := hc
    obtain ⟨howner, rfl⟩ := Lookup.on_repository_eq_ok.1 hlook'
    rw [on_bind_eq_ok] at hc
    obtain ⟨rows, _, hrows, hc⟩ := hc
    obtain ⟨hps, rfl, rfl⟩ := (Lookup.on_parents_eq_ok h.keyed).1 hrows
    simp only [h.keyed.topicsOf_ids hps, SortedSet.ofList_toList] at hc
    rw [on_exchangeParents h.exact] at hc
    obtain ⟨hv, ht⟩ := Prod.mk.inj hc
    exact ⟨row, owner, hrow, howner, hps, (Ending.commit.inj (Except.ok.inj hv)).symm, ht.symm, rfl⟩
  · rintro ⟨row, owner, hrow, howner, hps, rfl, rfl, rfl⟩
    obtain rfl : row.id = id := h.keyed.links id row hrow
    refine ⟨⟨row, t, Lookup.on_link_eq_ok.2 ⟨hrow, rfl⟩, ?_⟩, rfl⟩
    rw [Lookup.on_lock, on_bind_eq_ok]
    refine ⟨owner, t, Lookup.on_repository_eq_ok.2 ⟨howner, rfl⟩, ?_⟩
    rw [on_bind_eq_ok]
    refine ⟨_, t, (Lookup.on_parents_eq_ok h.keyed).2 ⟨hps, rfl, rfl⟩, ?_⟩
    simp only [h.keyed.topicsOf_ids hps, SortedSet.ofList_toList]
    exact on_exchangeParents h.exact _

/-- Other parents keep the tables coherent. -/
theorem updateLinkParents_coherent (h : t.Coherent) {id : LinkId} {parentIds : List TopicId}
    {v : Updated Link}
    (hc : (updateLinkParents id parentIds).on titles (t, s) = (.ok (.commit v), t', s')) :
    t'.Coherent := by
  obtain ⟨row, owner, hrow, howner, hps, -, rfl, -⟩ := (updateLinkParents_commits h).1 hc
  have hself : owner.id = row.repository := h.keyed.repositories _ owner howner
  have hplace : t.place? (.link id) = some ⟨owner.id, false⟩ :=
    Tables.place?_link_eq_some.2 ⟨row, hrow, hself.symm, rfl⟩
  apply h.setParents hplace (owner.exists_mem_parentSet parentIds)
  · exact fun p hp => (hps p hp).place?
  · exact fun _ _ => ⟨Node.noConfusion, not_reaches_link⟩

/-- **A link is deleted** exactly if it is stored. -/
theorem deleteLink_commits (h : t.Coherent) {id a : LinkId} :
    (deleteLink id).on titles (t, s) = (.ok (.commit a), t', s') ↔
      ∃ row, t.links.get? id = some row ∧ a = id ∧
        t' = Tables.withEdges { t with links := t.links.erase id }
          (t.edges.eraseRight (.link id)) ∧ s' = s := by
  have hremove : ∀ l, (do
      Closure.detach (.link l)
      Program.request "delete link" (.deleteLink l)
      pure (.commit l) : Program (Ending LinkId)).on t =
        (.ok (.commit l), Tables.withEdges { t with links := t.links.erase l }
          (t.edges.eraseRight (.link l))) := by
    intro l
    rw [on_bind, Closure.on_detach_link h.exact]
    rfl
  rw [deleteLink, on_session_eq_ok, on_bind_eq_ok]
  constructor
  · rintro ⟨⟨row, _, hlook, hc⟩, rfl⟩
    obtain ⟨hrow, rfl⟩ := Lookup.on_link_eq_ok.1 hlook
    obtain rfl : row.id = id := h.keyed.links id row hrow
    rw [Lookup.on_lock, hremove] at hc
    obtain ⟨ha, ht⟩ := Prod.mk.inj hc
    exact ⟨row, hrow, (Ending.commit.inj (Except.ok.inj ha)).symm, ht.symm, rfl⟩
  · rintro ⟨row, hrow, rfl, rfl, rfl⟩
    obtain rfl : row.id = a := h.keyed.links a row hrow
    refine ⟨⟨row, t, Lookup.on_link_eq_ok.2 ⟨hrow, rfl⟩, ?_⟩, rfl⟩
    rw [Lookup.on_lock, hremove]

/-- A deletion keeps the tables coherent: nothing lies below a link. -/
theorem deleteLink_coherent (h : t.Coherent) {id a : LinkId}
    (hc : (deleteLink id).on titles (t, s) = (.ok (.commit a), t', s')) : t'.Coherent := by
  obtain ⟨row, hrow, -, rfl, -⟩ := (deleteLink_commits h).1 hc
  have hplace : t.place? (.link id) = some ⟨row.repository, false⟩ :=
    Tables.place?_link_eq_some.2 ⟨row, hrow, rfl, rfl⟩
  apply h.removeLink
  apply h.hierarchical.cutOut (h.hierarchical.exists_parent _ _ hplace) fun _ hp => hp
  intro p c
  rw [SortedRel.mem_row_eraseRight]
  constructor
  · exact fun hc => ⟨Node.noConfusion, hc.2, .inl hc.1⟩
  · rintro ⟨-, hne, hc | ⟨-, hstep⟩⟩
    · exact ⟨hc, hne⟩
    · exact absurd hstep not_step_link

end Polyhierarchy.Operation

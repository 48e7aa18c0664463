import Polyhierarchy.Proofs.PageKeys

set_option relaxedAutoImplicit false
set_option autoImplicit false

/-!
# Filing links

A link can be given other parents, its page can be submitted again, and it can be deleted. The first
replaces the parents, the second adds some, and the third leaves none. No path goes on from a link,
so each of these touches the link, its edges and its pairs of the closure, and nothing else.

Only the title of a link ever changes. It is the last one that was given for the page; without one
it is still the title that was found when the link was created.

## Main definitions

* `Tables.Refiled` — two tables differ in one link and its parents only.
* `Mutation.titleFor?` — the title that a call gives to the link of a page.
* `Memory.Calls` — the stores that some calls lead to from another one.

## Main results

* `Tables.refiled_withEdges` — other parents of a link change no other pair of the closure.
* `Mutation.link_retitled` — what a call does to the row of a link that stays.
* `Memory.Calls.link_eq` — the row of a link after any calls that do not delete it.
* `Memory.Reachable.links_filed` — what filing a link settles after every history.
-/

namespace Polyhierarchy

open Reachability

/-! ### One link and its parents -/

namespace Tables

variable {t u : Tables} {l : LinkId} {row : Option Link} {parents : TopicId → Prop}

/-- A link is stored with a row, or no longer, and has certain parents. Nothing else has changed. -/
structure Refiled (l : LinkId) (row : Option Link) (parents : TopicId → Prop) (t u : Tables) :
    Prop where
  /-- The repositories are the same. -/
  repositories : u.repositories = t.repositories
  /-- The topics are the same. -/
  topics : u.topics = t.topics
  /-- The link has this row. -/
  stored : u.links.get? l = row
  /-- The other links are the same. -/
  links : ∀ k, k ≠ l → u.links.get? k = t.links.get? k
  /-- The link has these parents. -/
  parents : ∀ p, .link l ∈ u.edges.row p ↔ parents p
  /-- The edges to all other nodes are the same. -/
  edges : ∀ p c, c ≠ .link l → (c ∈ u.edges.row p ↔ c ∈ t.edges.row p)
  /-- All other pairs of the closure are the same. -/
  closure : ∀ a d, d ≠ .link l → (d ∈ u.closure.row a ↔ d ∈ t.closure.row a)
  /-- The closure is that of the edges. -/
  exact : u.Exact

/-- If only one link and its edges change, then of the closure only the pairs of the link do. -/
lemma refiled_withEdges (h : t.Exact) {links : SortedMap LinkId Link}
    {E : SortedRel TopicId Node} (hstored : links.get? l = row)
    (hlinks : ∀ k, k ≠ l → links.get? k = t.links.get? k)
    (hparents : ∀ p, .link l ∈ E.row p ↔ parents p)
    (hedges : ∀ p c, c ≠ .link l → (c ∈ E.row p ↔ c ∈ t.edges.row p)) :
    t.Refiled l row parents (Tables.withEdges { t with links := links } E) where
  repositories := rfl
  topics := rfl
  stored := hstored
  links := hlinks
  parents := hparents
  edges := hedges
  closure a d hd := by
    rw [h a d]
    exact mem_row_closureOf.trans (and_congr_right fun _ => reaches_iff_off_link hedges hd)
  exact := exact_withEdges _ _

/-- A link is stored, new or not, and gets some parents besides those that it has. -/
lemma refiled_insert (h : t.Exact) (new : Link) {ps : SortedSet TopicId}
    (hparents : ∀ p, .link new.id ∈ t.edges.row p ∨ p ∈ ps ↔ parents p) :
    t.Refiled new.id (some new) parents (Tables.withEdges
      { t with links := t.links.insert new.id new }
      (t.edges.withParents (.link new.id) ps.toList)) := by
  refine refiled_withEdges h (SortedMap.get?_insert_self _ _ _)
    (fun k hk => SortedMap.get?_insert_ne _ _ hk) (fun p => ?_) fun p c hc => ?_
  · rw [SortedRel.mem_row_withParents, ← SortedSet.mem_def, ← hparents, eq_self_iff_true, true_and]
  · rw [SortedRel.mem_row_withParents, or_iff_left fun hn => hc hn.1]

/-- A link without parents is in no pair of the closure. -/
lemma Refiled.not_mem_closure (h : t.Refiled l row parents u) (hnone : ∀ p, ¬ parents p)
    (a : TopicId) : .link l ∉ u.closure.row a := by
  intro ha
  obtain ⟨-, hr⟩ := (h.exact a _).1 ha
  obtain ⟨p, hp, -⟩ := hr.exists_parent
  exact hnone p ((h.parents p).1 hp)

end Tables

/-! ### What filing settles -/

namespace Link

/-- A link with the title that is given, if any. -/
def retitled (row : Link) (given : Option String) : Link :=
  { row with title := given.getD row.title }

/-- Another title changes no key. -/
@[simp] lemma key_retitled (row : Link) (given : Option String) :
    (row.retitled given).key = row.key := rfl

/-- The last title that is given counts. -/
@[simp] lemma retitled_retitled (row : Link) (given given' : Option String) :
    (row.retitled given).retitled given' = row.retitled (given'.or given) := by
  cases given' <;> rfl

end Link

/-- The link of a page is the one that is found by its key. -/
lemma PageKeyed.linkHashed_eq {t : Tables} (hk : PageKeyed t.links) (h : t.Coherent) {l : LinkId}
    {row : Link} (hrow : t.links.get? l = some row) :
    t.linkHashed row.repository row.urlHash = some row := by
  cases hfound : t.linkHashed row.repository row.urlHash with
  | none => exact absurd rfl (Operation.key_ne_of_linkHashed hfound hrow)
  | some old =>
    have hold := (Operation.get?_of_linkHashed h hfound).1
    obtain rfl : old.id = l :=
      hk.distinct _ _ _ _ hold hrow (Operation.key_of_linkHashed hfound)
    rw [← hold, hrow]

namespace Memory

section

variable {mem : Memory} {l : LinkId} {row : Link} {owner : Repository} {ids : List TopicId}

/-- A link that is given other parents has just these, or the root of its repository. -/
lemma settles_updateLinkParents (h : mem.tables.Coherent)
    (hrow : mem.tables.links.get? l = some row)
    (howner : mem.tables.repositories.get? row.repository = some owner)
    (hids : ∀ p ∈ ids, mem.tables.IsTopicOf row.repository p) :
    ∃ t, mem.Settles (Operation.updateLinkParents l ids) ⟨row, []⟩ t (mem.version + 1) ∧
      mem.tables.Refiled l (some row) (fun p => p ∈ ids ∨ ids = [] ∧ p = owner.rootTopic) t := by
  have hself : owner.id = row.repository := h.keyed.repositories _ owner howner
  have hmeant : ∀ p ∈ owner.parentSet ids, mem.tables.IsTopicOf owner.id p :=
    hself ▸ h.isTopicOf_parentSet howner hids
  refine ⟨_, settles_of_commit fun titles s => ⟨s, (Operation.updateLinkParents_commits h).2
    ⟨row, owner, hrow, howner, hmeant, rfl, rfl, rfl⟩⟩, ?_⟩
  refine Tables.refiled_withEdges h.exact hrow (fun _ _ => rfl) (fun p => ?_) fun p c hc => ?_
  · simp [SortedRel.mem_row_setParents, Repository.mem_parentSet]
  · simp [SortedRel.mem_row_setParents, hc]

/-- A page that is submitted again keeps its link, which may get another title and more parents. -/
lemma Reachable.settles_resubmit (h : mem.Reachable) (hrow : mem.tables.links.get? l = some row)
    (howner : mem.tables.repositories.get? row.repository = some owner) {c : Submission}
    {page : CanonicalUrl} (hpage : CanonicalUrl.parse c.url = .ok page)
    (hsame : page.canonical = row.canonicalUrl)
    (hids : ∀ p ∈ c.parentIds, mem.tables.IsTopicOf row.repository p) :
    let retitled := row.retitled (Operation.givenTitle? c.title)
    ∃ t, mem.Settles (c.operation row.repository) ⟨some retitled, false, []⟩ t (mem.version + 1) ∧
      mem.tables.Refiled l (some retitled)
        (fun p => .link l ∈ mem.tables.edges.row p ∨ p ∈ c.parentIds) t := by
  intro retitled
  have hc := h.coherent
  obtain rfl : row.id = l := hc.keyed.links l row hrow
  have hself : owner.id = row.repository := hc.keyed.repositories _ owner howner
  have hhash : page.hash = row.urlHash := by
    rw [(h.pageKeyed.keyed _ row hrow).hashed, CanonicalUrl.hash, CanonicalUrl.hash, hsame]
  have hfound : mem.tables.linkHashed owner.id page.hash = some row := by
    rw [hself, hhash]
    exact h.pageKeyed.linkHashed_eq hc hrow
  refine ⟨_, settles_of_commit fun titles s => ?_,
    Tables.refiled_insert hc.exact retitled fun p => or_congr_right SortedSet.mem_ofList⟩
  obtain ⟨s', hon⟩ := Operation.on_upsertLink titles mem.tables s row.repository hpage c.title
    c.parentIds c.id c.now
  refine ⟨s', ?_⟩
  rw [Submission.operation, hon, (Operation.on_fileLink_iff hc).2
    ⟨owner, howner, .inr ⟨row, hfound, hself ▸ hids, rfl, rfl⟩⟩]
  rfl

/-- A link that is deleted is gone, with its edges and its pairs of the closure. -/
lemma settles_deleteLink (h : mem.tables.Coherent) (hrow : mem.tables.links.get? l = some row) :
    ∃ t, mem.Settles (Operation.deleteLink l) l t (mem.version + 1) ∧
      mem.tables.Refiled l none (fun _ => False) t := by
  refine ⟨_, settles_of_commit fun titles s => ⟨s, (Operation.deleteLink_commits h).2
    ⟨row, hrow, rfl, rfl, rfl⟩⟩, ?_⟩
  refine Tables.refiled_withEdges h.exact (SortedMap.get?_erase_self _ _)
    (fun k hk => SortedMap.get?_erase_ne _ hk) (fun p => ?_) fun p c hc => ?_
  · simp [SortedRel.mem_row_eraseRight]
  · simp [SortedRel.mem_row_eraseRight, hc]

/-- A page that has no link gets one, below the topics that are named or the root. -/
lemma Reachable.of_first_submit {after : Memory} (h : mem.Reachable) {r : RepositoryId}
    (howner : mem.tables.repositories.get? r = some owner) {c : Submission} {page : CanonicalUrl}
    (hpage : CanonicalUrl.parse c.url = .ok page)
    (hnew : ∀ k other, mem.tables.links.get? k = some other → other.key ≠ (r, page.hash))
    (hid : mem.tables.links.get? c.id = none) {τ : Type} {titles : TitleSource τ} {s s' : τ}
    {d : Deadline} {v : Upserted Link}
    (hrun : (c.operation r).run Memory.store titles d (mem, s) = (.ok v, after, s')) :
    let row := Link.new c.id r page (Operation.firstTitle titles s page c.title) c.now
    after.Reachable ∧ v = ⟨some row, true, []⟩ ∧
      mem.tables.Refiled c.id (some row)
        (fun p => p ∈ c.parentIds ∨ c.parentIds = [] ∧ p = owner.rootTopic) after.tables := by
  intro row
  have hc := h.coherent
  obtain rfl : owner.id = r := hc.keyed.repositories _ owner howner
  have hafter : after.Reachable :=
    h.of_run (m := .upsertLink owner.id c.url c.title c.parentIds c.id c.now) hid hrun
  have hnone : mem.tables.linkHashed owner.id page.hash = none := by
    cases hfound : mem.tables.linkHashed owner.id page.hash with
    | none => rfl
    | some old =>
      have hold := (Operation.get?_of_linkHashed hc hfound).1
      exact absurd (Operation.key_of_linkHashed hfound) (hnew _ _ hold)
  have hfiled := (Operation.on_fileLink_iff hc).1 (fileLink_of_run hc hpage hrun)
  obtain ⟨owner', howner', ⟨-, -, he, ht⟩ | ⟨old, hfound, -⟩⟩ := hfiled <;>
    obtain rfl : owner' = owner := Option.some.inj (howner'.symm.trans howner)
  · have hplace : mem.tables.place? (.link c.id) = none := by simp [Tables.place?, hid]
    refine ⟨hafter, Ending.commit.inj he, ?_⟩
    rw [ht]
    exact Tables.refiled_insert hc.exact row fun p =>
      (or_iff_right (hc.hierarchical.not_mem_row_of_place_none hplace p)).trans
        Repository.mem_parentSet
  · rw [hnone] at hfound
    cases hfound

end

end Memory

/-! ### Titles -/

/-- The title that a call gives to the link with some key, if it submits the page of this link with
a title that is not blank. -/
def Mutation.titleFor? (key : RepositoryId × String) : Mutation → Option String
  | upsertLink r url title _ _ _ =>
    match CanonicalUrl.parse url with
    | .ok page => if key = (r, page.hash) then Operation.givenTitle? title else none
    | .error _ => none
  | _ => none

/-- A page that is submitted gets the title that it is submitted with. -/
lemma Mutation.titleFor?_upsertLink {url : String} {page : CanonicalUrl}
    (hpage : CanonicalUrl.parse url = .ok page) {r : RepositoryId} {title : Option String}
    {parentIds : List TopicId} {id : LinkId} {now : Instant} :
    (upsertLink r url title parentIds id now).titleFor? (r, page.hash) =
      Operation.givenTitle? title := by
  rw [titleFor?, hpage]
  exact if_pos rfl

section

variable {t t' : Tables} {τ : Type} {titles : TitleSource τ} {s s' : τ} {l : LinkId}
  {row row' : Link}

/-- When a page is submitted, of the links that there are its own may get another title. -/
lemma Operation.get?_of_fileLink (h : t.Coherent) (hk : PageKeyed t.links) {r : RepositoryId}
    {page : CanonicalUrl} {initial : String} {given : Option String} {parentIds : List TopicId}
    {id : LinkId} {now : Instant} {e : Ending (Upserted Link)} (hid : t.links.get? id = none)
    (hc : (fileLink r page initial given parentIds id now).on t = (.ok e, t'))
    (hrow : t.links.get? l = some row) :
    t'.links.get? l = some (row.retitled (if row.key = (r, page.hash) then given else none)) := by
  obtain ⟨owner, howner, ⟨hhash, -, -, rfl⟩ | ⟨old, hhash, -, -, rfl⟩⟩ := (on_fileLink_iff h).1 hc
    <;> obtain rfl : owner.id = r := h.keyed.repositories _ owner howner
  · have hne : l ≠ id := by
      rintro rfl
      rw [hid] at hrow
      cases hrow
    rw [if_neg (key_ne_of_linkHashed hhash hrow)]
    exact (SortedMap.get?_insert_ne _ _ hne).trans hrow
  · have hold := (get?_of_linkHashed h hhash).1
    have holdKey := key_of_linkHashed hhash
    by_cases hkey : row.key = (owner.id, page.hash)
    · obtain rfl : l = old.id := hk.distinct _ _ _ _ hrow hold (hkey.trans holdKey.symm)
      obtain rfl : row = old := Option.some.inj (hrow.symm.trans hold)
      rw [if_pos hkey]
      exact SortedMap.get?_insert_self _ _ _
    · have hne : l ≠ old.id := by
        rintro rfl
        obtain rfl : row = old := Option.some.inj (hrow.symm.trans hold)
        exact hkey holdKey
      rw [if_neg hkey]
      exact (SortedMap.get?_insert_ne _ _ hne).trans hrow

/-- **What a call does to a link that stays**: it gives it a title, or leaves it as it is. -/
theorem Mutation.link_retitled (h : t.Coherent) (hk : PageKeyed t.links) (m : Mutation)
    (hfresh : m.IsFresh t) {v : m.Result}
    (hc : m.operation.on titles (t, s) = (.ok (.commit v), t', s'))
    (hrow : t.links.get? l = some row) (hrow' : t'.links.get? l = some row') :
    row' = row.retitled (m.titleFor? row.key) := by
  have hkept : t'.links.get? l = some row → row' = row := fun hsame =>
    Option.some.inj (hrow'.symm.trans hsame)
  cases m with
  | upsertLink r url title parentIds id now =>
    have hlink : (Operation.upsertLink r url title parentIds id now).on titles (t, s) =
      (.ok (.commit v), t', s') := hc
    obtain ⟨page, hpage, hfiled⟩ := Operation.upsertLink_commits hlink
    have hget := Operation.get?_of_fileLink h hk hfresh hfiled hrow
    rw [titleFor?, hpage]
    exact Option.some.inj (hrow'.symm.trans hget)
  | deleteLink id =>
    obtain ⟨_, -, -, rfl, -⟩ := (Operation.deleteLink_commits h).1 hc
    exact Option.some.inj ((SortedMap.get?_of_get?_erase hrow').symm.trans hrow)
  | _ => exact hkept ((congrArg (·.get? l) (links_eq h _ (by trivial) hfresh hc)).trans hrow)

/-- A call that has nothing to commit has given no title. -/
lemma Mutation.titleFor?_of_discard (h : t.Coherent) {m : Mutation} {v : m.Result}
    (hc : m.operation.on titles (t, s) = (.ok (.discard v), t', s')) (key : RepositoryId × String) :
    m.titleFor? key = none := by
  cases m with
  | upsertLink r url title parentIds id now =>
    cases hpage : CanonicalUrl.parse url with
    | error e => rw [titleFor?, hpage]
    | ok page => exact absurd hc (Operation.upsertLink_ne_discard h hpage)
  | _ => rfl

end

namespace Memory

/-- The stores that some calls lead to from another one, if after each call the tables have some
property. Those calls are listed that have returned, the last one first. -/
inductive Calls (P : Tables → Prop) (mem : Memory) : List Mutation → Memory → Prop where
  | refl : Calls P mem [] mem
  | returned {mem' : Memory} {ms : List Mutation} {τ : Type} (m : Mutation)
      (titles : TitleSource τ) (s : τ) (d : Deadline) {v : m.Result} :
      Calls P mem ms mem' → m.IsFresh mem'.tables →
        (m.operation.run Memory.store titles d (mem', s)).1 = .ok v →
        P (m.operation.run Memory.store titles d (mem', s)).2.1.tables →
          Calls P mem (m :: ms) (m.operation.run Memory.store titles d (mem', s)).2.1
  | failed {mem' : Memory} {ms : List Mutation} {τ : Type} (m : Mutation)
      (titles : TitleSource τ) (s : τ) (d : Deadline) {e : EngineError} :
      Calls P mem ms mem' → m.IsFresh mem'.tables →
        (m.operation.run Memory.store titles d (mem', s)).1 = .error e →
        P (m.operation.run Memory.store titles d (mem', s)).2.1.tables →
          Calls P mem ms (m.operation.run Memory.store titles d (mem', s)).2.1
  | limitWrites {mem' : Memory} {ms : List Mutation} (n : Option Nat) :
      Calls P mem ms mem' → Calls P mem ms { mem' with writesLeft := n }

lemma Calls.leads {P : Tables → Prop} {mem mem' : Memory} {ms : List Mutation}
    (h : mem.Calls P ms mem') : mem.Leads P mem' := by
  induction h with
  | refl => exact .refl
  | returned m titles s d _ hfresh _ hp ih => exact .call m titles s d ih hfresh hp
  | failed m titles s d _ hfresh _ hp ih => exact .call m titles s d ih hfresh hp
  | limitWrites n _ ih => exact .limitWrites n ih

/-- What is not an error is a value. -/
lemma exists_ok_of_isOk {α ε : Type} {x : Except ε α} (h : x.isOk = true) : ∃ v, x = .ok v := by
  cases x with
  | error e => cases h
  | ok v => exact ⟨v, rfl⟩

/-- A call that nothing stands in the way of is one more. -/
lemma Calls.perform {P : Tables → Prop} {mem mem' : Memory} {ms : List Mutation} {m : Mutation}
    (h : mem.Calls P ms mem') (hfresh : m.IsFresh mem'.tables)
    (hok : (m.operation.run Memory.store TitleSource.silent .never (mem', ())).1.isOk = true)
    (hp : P (mem'.perform m).tables) : mem.Calls P (m :: ms) (mem'.perform m) := by
  obtain ⟨v, hv⟩ := exists_ok_of_isOk hok
  exact .returned m TitleSource.silent () .never h hfresh hv hp

/-- **The row of a link after any calls**, as long as it is not deleted: its title is the last one
that a call has given, and the rest is as it was.

**Proof sketch.** Induction on the calls. A call that fails, or returns with nothing to commit,
gives no title and changes nothing. One that commits gives the title that is first in the longer
list, or leaves the row alone. -/
theorem Calls.link_eq {mem mem' : Memory} {ms : List Mutation} {l : LinkId} {row : Link}
    (h : mem.Calls (fun t => t.links.get? l ≠ none) ms mem') (hmem : mem.Reachable)
    (hrow : mem.tables.links.get? l = some row) :
    mem'.tables.links.get? l = some (row.retitled (ms.findSome? (·.titleFor? row.key))) := by
  induction h with
  | refl => exact hrow
  | @returned mem' ms τ m titles s d v hcalls hfresh hv hstored ih =>
    have hreachable := hcalls.leads.reachable hmem
    rcases m.operation.on_of_run_eq_ok titles d mem' s hv with hon | ⟨hsame, _, hon⟩
    · obtain ⟨row', hrow'⟩ := Option.ne_none_iff_exists'.1 hstored
      rw [hrow', m.link_retitled hreachable.coherent hreachable.pageKeyed hfresh hon ih hrow',
        Link.key_retitled, Link.retitled_retitled, List.findSome?_cons]
      cases m.titleFor? row.key <;> rfl
    · rw [hsame, ih, List.findSome?_cons,
        Mutation.titleFor?_of_discard hreachable.coherent hon row.key]
  | @failed mem' ms τ m titles s d e hcalls hfresh he hstored ih =>
    rcases m.operation.unchanged_or_committed titles d mem' s with ⟨hsame, -⟩ | ⟨v, hv, -⟩
    · rw [hsame, ih]
    · rw [he] at hv
      cases hv
  | limitWrites n _ ih => exact ih

/-- **What filing a link settles after every history.** A link that is given other parents among
the topics of its repository has just these then, or the root if none is named. If its page is
submitted again, it has the topics that are named besides the parents that it had, and the title
that is given, if any. If it is deleted, it is gone with its edges and its pairs of the closure.
Each of these leaves all other rows, edges and pairs of the closure as they were, and returns what
is stored.

A page that has no link yet gets one with the title that is given or found, in the way of a link
that is given parents. After any calls that do not delete it, its title is the last one that was
given for the page, if any was given since, and the rest of its row is as it was. -/
theorem Reachable.links_filed {mem : Memory} (h : mem.Reachable) :
    (∀ l row owner ids, mem.tables.links.get? l = some row →
      mem.tables.repositories.get? row.repository = some owner →
      (∀ p ∈ ids, mem.tables.IsTopicOf row.repository p) →
        (∃ t, mem.Settles (Operation.updateLinkParents l ids) ⟨row, []⟩ t (mem.version + 1) ∧
          mem.tables.Refiled l (some row)
            (fun p => p ∈ ids ∨ ids = [] ∧ p = owner.rootTopic) t) ∧
        (CanonicalUrl.parse row.url = .ok ⟨row.url, row.canonicalUrl⟩ ∧
          ∀ (c : Submission) (page : CanonicalUrl), CanonicalUrl.parse c.url = .ok page →
            page.canonical = row.canonicalUrl → c.parentIds = ids →
            let retitled := row.retitled (Operation.givenTitle? c.title)
            ∃ t, mem.Settles (c.operation row.repository) ⟨some retitled, false, []⟩ t
                (mem.version + 1) ∧
              mem.tables.Refiled l (some retitled)
                (fun p => .link l ∈ mem.tables.edges.row p ∨ p ∈ ids) t) ∧
        ∃ t, mem.Settles (Operation.deleteLink l) l t (mem.version + 1) ∧
          mem.tables.Refiled l none (fun _ => False) t ∧ ∀ a, .link l ∉ t.closure.row a) ∧
    ∀ (r : RepositoryId) (owner : Repository) (c : Submission) (page : CanonicalUrl),
      mem.tables.repositories.get? r = some owner → CanonicalUrl.parse c.url = .ok page →
      (∀ k other, mem.tables.links.get? k = some other → other.key ≠ (r, page.hash)) →
      mem.tables.links.get? c.id = none →
      ∀ {τ : Type} (titles : TitleSource τ) (s : τ) (d : Deadline),
        let x := (c.operation r).run Memory.store titles d (mem, s)
        let row := Link.new c.id r page (Operation.firstTitle titles s page c.title) c.now
        ((∀ p ∈ c.parentIds, mem.tables.IsTopicOf r p) → mem.writesLeft = none → d = .never →
          ∃ v, x.1 = .ok v) ∧
        ∀ v, x.1 = .ok v → v = ⟨some row, true, []⟩ ∧
          mem.tables.Refiled c.id (some row)
            (fun p => p ∈ c.parentIds ∨ c.parentIds = [] ∧ p = owner.rootTopic) x.2.1.tables ∧
          ∀ ms mem', x.2.1.Calls (fun t => t.links.get? c.id ≠ none) ms mem' →
            mem'.tables.links.get? c.id =
              some (row.retitled (ms.findSome? (·.titleFor? row.key))) := by
  have hc := h.coherent
  constructor
  · intro l row owner ids hrow howner hids
    refine ⟨settles_updateLinkParents hc hrow howner hids,
      ⟨(h.pageKeyed.keyed l row hrow).parsed, ?_⟩, ?_⟩
    · rintro c page hpage hsame rfl
      exact h.settles_resubmit hrow howner hpage hsame hids
    · obtain ⟨t, hsettles, hgone⟩ := settles_deleteLink hc hrow
      exact ⟨t, hsettles, hgone, hgone.not_mem_closure fun _ => id⟩
  · intro r owner c page howner hpage hnew hid τ titles s d
    rcases hrun : (c.operation r).run Memory.store titles d (mem, s) with ⟨result, after, s'⟩
    dsimp only
    constructor
    · rintro hps hleft rfl
      obtain ⟨v, hv⟩ := h.exists_submit howner hpage hps hleft titles s
      rw [hrun] at hv
      exact ⟨v, hv⟩
    · rintro v rfl
      obtain ⟨hafter, hv, hrefiled⟩ := h.of_first_submit howner hpage hnew hid hrun
      exact ⟨hv, hrefiled, fun ms mem' hcalls => hcalls.link_eq hafter hrefiled.stored⟩

/-- A page that the chain has no link for. -/
def films : Submission := ⟨"http://films.example/", none, [], ⟨⟨7⟩⟩, default⟩

/-- The call that submits this page once more, with a title. -/
def entitled : Mutation := .upsertLink ⟨⟨1⟩⟩ films.url (some " Films ") [] ⟨⟨8⟩⟩ default

/-- The link of the chain is given no parents, so it has the root as its only one. A page that is
submitted without a title and then with one has this title. -/
theorem links_filed_chain :
    (∃ (row : Link) (t : Tables), chain.tables.links.get? ⟨⟨4⟩⟩ = some row ∧
      chain.Settles (Operation.updateLinkParents ⟨⟨4⟩⟩ []) ⟨row, []⟩ t (chain.version + 1) ∧
      ∀ p, .link ⟨⟨4⟩⟩ ∈ t.edges.row p ↔ p = ⟨⟨1⟩⟩) ∧
    let x := (films.operation ⟨⟨1⟩⟩).run Memory.store TitleSource.silent .never (chain, ())
    ((x.2.1.perform entitled).tables.links.get? films.id).map Link.title = some "Films" := by
  have hlink : (chain.tables.links.get? ⟨⟨4⟩⟩).map Link.repository = some ⟨⟨1⟩⟩ := by
    decide +kernel
  have hrepository : (chain.tables.repositories.get? ⟨⟨1⟩⟩).map Repository.rootTopic =
      some ⟨⟨1⟩⟩ := by decide +kernel
  obtain ⟨row, hrow, hrepo⟩ := Option.map_eq_some_iff.1 hlink
  obtain ⟨owner, howner, hroot⟩ := Option.map_eq_some_iff.1 hrepository
  rw [← hrepo] at howner
  obtain ⟨hfiled, hcreated⟩ := reachable_chain.links_filed
  constructor
  · obtain ⟨⟨t, hsettles, hrefiled⟩, -⟩ := hfiled _ row owner [] hrow howner
      fun p hp => absurd hp List.not_mem_nil
    refine ⟨row, t, hrow, hsettles, fun p => ?_⟩
    rw [hrefiled.parents, hroot]
    simp
  · intro x
    have hpage : CanonicalUrl.parse films.url = .ok ⟨films.url, films.url⟩ := by decide +kernel
    have hnew : ∀ other ∈ chain.tables.links.values,
        other.key ≠ (⟨⟨1⟩⟩, CanonicalUrl.hash ⟨films.url, films.url⟩) := by decide +kernel
    have hruns : x.1.isOk = true ∧ x.2.1.tables.links.get? ⟨⟨8⟩⟩ = none ∧
        (entitled.operation.run Memory.store TitleSource.silent .never (x.2.1, ())).1.isOk = true ∧
        (x.2.1.perform entitled).tables.links.get? films.id ≠ none := by decide +kernel
    obtain ⟨hx, hfresh, hok, hstored⟩ := hruns
    obtain ⟨v, hv⟩ := exists_ok_of_isOk hx
    obtain ⟨-, -, hlater⟩ := (hcreated ⟨⟨1⟩⟩ owner films _ (hrepo ▸ howner) hpage
      (fun k other hother => hnew other (SortedMap.mem_values_iff.2 ⟨k, hother⟩))
      (by decide +kernel) TitleSource.silent () .never).2 v hv
    rw [hlater [entitled] _ (.perform .refl hfresh hok hstored), List.findSome?_singleton,
      entitled, Link.key, Link.new, Mutation.titleFor?_upsertLink hpage]
    decide +kernel

end Memory

end Polyhierarchy

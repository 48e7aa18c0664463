import Polyhierarchy.Proofs.PageKeys

set_option relaxedAutoImplicit false
set_option autoImplicit false

/-!
# One topic for each name

A topic that is submitted under a name is created, unless the repository has a topic of that name.
Then this one is returned, with an alert, and nothing changes. As no two topics of a repository have
the same name, it is always the same topic that is returned, whatever is called in between, as long
as it is neither deleted nor renamed.

## Main definitions

* `Tables.HasName` — some topic of a repository has a name.
* `Tables.WithTopic` — two tables differ in one new topic and its parents.
* `Mutation.MayRename` — a call that may delete or rename a topic.
* `Proposal` — what a caller submits as a topic.

## Main results

* `Mutation.topic_after` — what a call does to a topic: nothing, if it may not rename it.
* `Operation.on_upsertTopic_taken` — a name that is taken gives the topic that has it.
* `Memory.Reachable.topic_for_name` — what a submission settles after every history.
-/

namespace Polyhierarchy

open Program

/-! ### Names that are taken -/

namespace Tables

variable {t : Tables} {r : RepositoryId} {n : String}

/-- Some topic of a repository has a name. -/
def HasName (t : Tables) (r : RepositoryId) (n : String) : Prop :=
  ∃ row, t.topics.get? row.id = some row ∧ row.repository = r ∧ row.name = n

/-- No topic is found by a name that none has. -/
lemma topicNamed_eq_none (hkeyed : t.topics.KeyedBy Topic.id) (h : ¬ t.HasName r n) :
    t.topicNamed r n = none := by
  cases hfound : t.topicNamed r n with
  | none => rfl
  | some row => exact absurd ⟨row, get?_of_topicNamed hkeyed hfound⟩ h

/-- A topic is found by its name, as no other one of its repository has it. -/
lemma topicNamed_eq_some (hn : WellNamed t.topics) (hkeyed : t.topics.KeyedBy Topic.id) {row : Topic}
    (hrow : t.topics.get? row.id = some row) :
    t.topicNamed row.repository row.name = some row := by
  cases hfound : t.topicNamed row.repository row.name with
  | none =>
    have hnot := List.find?_eq_none.1 hfound row (SortedMap.mem_values_iff.2 ⟨row.id, hrow⟩)
    simp at hnot
  | some other =>
    obtain ⟨hstored, hrepo, hname⟩ := get?_of_topicNamed hkeyed hfound
    rw [hn.nameFree hrow other.id other hstored hrepo hname, hrow] at hstored
    exact hstored.symm

/-- A topic is new and has certain parents. Nothing else has changed. -/
structure WithTopic (row : Topic) (parents : TopicId → Prop) (t u : Tables) : Prop where
  /-- The repositories are the same. -/
  repositories : u.repositories = t.repositories
  /-- The links are the same. -/
  links : u.links = t.links
  /-- The topic was not stored. -/
  fresh : t.topics.get? row.id = none
  /-- The topic is stored. -/
  stored : u.topics.get? row.id = some row
  /-- The other topics are the same. -/
  topics : ∀ y, y ≠ row.id → u.topics.get? y = t.topics.get? y
  /-- The topic has these parents. -/
  parents : ∀ p, .topic row.id ∈ u.edges.row p ↔ parents p
  /-- The edges to all other nodes are the same. -/
  edges : ∀ p c, c ≠ .topic row.id → (c ∈ u.edges.row p ↔ c ∈ t.edges.row p)
  /-- The closure is that of the edges. -/
  exact : u.Exact

/-- A topic that is stored for the first time has the parents that it is given, and no others. -/
lemma Coherent.withTopic (h : t.Coherent) {row : Topic} (hid : t.topics.get? row.id = none)
    (ps : SortedSet TopicId) :
    t.WithTopic row (· ∈ ps) (Tables.withEdges { t with topics := t.topics.insert row.id row }
      (t.edges.withParents (.topic row.id) ps.toList)) where
  repositories := rfl
  links := rfl
  fresh := hid
  stored := SortedMap.get?_insert_self _ _ _
  topics y hy := SortedMap.get?_insert_ne _ _ hy
  parents p := by
    have hplace : t.place? (.topic row.id) = none := by simp [place?, hid]
    have hno := h.hierarchical.not_mem_row_of_place_none hplace p
    simp [SortedRel.mem_row_withParents, hno, ← SortedSet.mem_def]
  edges p c hc := by simp [SortedRel.mem_row_withParents, hc]
  exact := exact_withEdges _ _

end Tables

/-- The name of a new topic is the one that it was submitted under. -/
lemma Topic.name_new (id : TopicId) (r : RepositoryId) (n : String) (description : Option String)
    (now : Instant) : (Topic.new id r (.ofName n) description now).name = n := rfl

namespace Operation

variable {t t' : Tables} {τ : Type} {titles : TitleSource τ} {s s' : τ}

/-- **A name that is taken gives the topic that has it**, and there is nothing to commit. -/
theorem on_upsertTopic_taken (h : t.Coherent) (hn : WellNamed t.topics) {row : Topic}
    (hrow : t.topics.get? row.id = some row) {name : String}
    (hname : normalizeName name = (row.name, true)) {owner : Repository}
    (howner : t.repositories.get? row.repository = some owner) {parentIds : List TopicId}
    (hids : ∀ p ∈ parentIds, t.IsTopicOf row.repository p) (description : Option String)
    (id : TopicId) (now : Instant) :
    (upsertTopic row.repository name description parentIds id now).on titles (t, s) =
      (.ok (.discard ⟨some row, false, [.duplicateTopicName row.name]⟩), t, s) := by
  have hself : owner.id = row.repository := h.keyed.repositories _ owner howner
  have hmeant : ∀ p ∈ owner.parentSet parentIds, t.IsTopicOf owner.id p :=
    hself ▸ h.isTopicOf_parentSet howner hids
  have hfound : t.topicNamed owner.id (Topic.new id owner.id (.ofName row.name) description
      now).name = some row := by
    rw [hself, Topic.name_new]
    exact Tables.topicNamed_eq_some hn h.keyed.topics hrow
  rw [upsertTopic, hname]
  simp only [Bool.not_true, Bool.false_eq_true, if_false, on]
  rw [Lookup.on_lock, on_bind, Lookup.on_repository_eq_ok.2 ⟨howner, rfl⟩]
  dsimp only
  rw [on_bind, (Lookup.on_parents_eq_ok h.keyed).2 ⟨hmeant, rfl, rfl⟩]
  dsimp only
  rw [on_bind, on_request]
  have hrepo : (Topic.new id owner.id (.ofName row.name) description now).repository = owner.id :=
    rfl
  simp [Memory.reply, Memory.answer, Memory.insertTopic, hrepo, hfound]

end Operation

/-! ### Calls that leave a topic alone -/

namespace Mutation

/-- A call that may delete or rename a topic. -/
def MayRename (x : TopicId) : Mutation → Prop
  | deleteTopic id | updateSynonyms id _ | setTimeRange id _ | deleteTimeRange id => id = x
  | mergeTopic source target => source = x ∨ target = x
  | _ => False

end Mutation

section

variable {t t' : Tables} {τ : Type} {titles : TitleSource τ} {s s' : τ} {x : TopicId} {row : Topic}

/-- Another topic that is stored makes no difference for a topic. -/
lemma SortedMap.get?_insert_of_fresh {κ ν : Type} [Ranked κ] {m : SortedMap κ ν} {k j : κ}
    {v w : ν} (hk : m.get? k = none) (hj : m.get? j = some v) : (m.insert k w).get? j = some v := by
  have hne : j ≠ k := by
    rintro rfl
    rw [hk] at hj
    cases hj
  rw [get?_insert_ne _ _ hne, hj]

/-- A topic that is renamed stays in its repository, and the others stay as they are. -/
lemma Operation.topic_after_saveRenamed {old renamed : Topic} {alerts : List Alert}
    {v : Updated Topic} (hc : (saveRenamed old renamed alerts).on t = (.ok (.commit v), t'))
    (hold : t.topics.get? old.id = some old) (hid : renamed.id = old.id)
    (hrepo : renamed.repository = old.repository) (hrow : t.topics.get? x = some row) :
    t'.topics.get? x = some row ∨ old.id = x ∧
      ∀ row', t'.topics.get? x = some row' → row'.repository = row.repository := by
  obtain ⟨-, -, rfl⟩ := (saveRenamed_commits (hid ▸ hold)).1 hc
  rw [hid]
  by_cases hx : old.id = x
  · subst hx
    obtain rfl : row = old := Option.some.inj (hrow.symm.trans hold)
    refine .inr ⟨rfl, fun row' hrow' => ?_⟩
    obtain rfl : renamed = row' :=
      Option.some.inj ((SortedMap.get?_insert_self _ _ _).symm.trans hrow')
    exact hrepo
  · exact .inl ((SortedMap.get?_insert_ne _ _ (Ne.symm hx)).trans hrow)

/-- **What a call does to a topic**: nothing, unless it may delete or rename it. In any case a topic
that stays does so in its repository. -/
theorem Mutation.topic_after (h : t.Coherent) (m : Mutation) (hfresh : m.IsFresh t) {v : m.Result}
    (hc : m.operation.on titles (t, s) = (.ok (.commit v), t', s'))
    (hrow : t.topics.get? x = some row) :
    t'.topics.get? x = some row ∨ m.MayRename x ∧
      ∀ row', t'.topics.get? x = some row' → row'.repository = row.repository := by
  cases m with
  | createRepository name id root now =>
    obtain ⟨hid, hroot⟩ := hfresh
    have hcreate : (Operation.createRepository name id root now).on titles (t, s) =
      (.ok (.commit v), t', s') := hc
    rw [Operation.createRepository_commits h hid] at hcreate
    obtain ⟨-, rfl, -⟩ := hcreate
    exact .inl (SortedMap.get?_insert_of_fresh hroot hrow)
  | upsertTopic repository name description parentIds id now =>
    obtain ⟨_, _, -, -, -, -, -, -, rfl, -⟩ := (Operation.upsertTopic_commits h).1 hc
    exact .inl (SortedMap.get?_insert_of_fresh hfresh hrow)
  | updateParents id parentIds =>
    obtain ⟨_, -, -, -, -, -, rfl, -⟩ := (Operation.updateParents_commits h).1 hc
    exact .inl hrow
  | deleteTopic id =>
    obtain ⟨_, -, -, -, rfl, -⟩ := (Operation.deleteTopic_commits h).1 hc
    by_cases hx : id = x
    · subst hx
      refine .inr ⟨rfl, fun row' hrow' => ?_⟩
      cases (SortedMap.get?_erase_self _ _).symm.trans hrow'
    · exact .inl ((SortedMap.get?_erase_ne _ (Ne.symm hx)).trans hrow)
  | mergeTopic source target =>
    obtain ⟨_, parent, -, -, hmem, hparent, -, hrepo, -, -, -, rfl, -⟩ :=
      Operation.mergeTopic_commits h hc
    have hne : target ≠ source := h.hierarchical.acyclic.ne_of_mem_row hmem
    by_cases htarget : target = x
    · subst htarget
      refine .inr ⟨.inr rfl, fun row' hrow' => ?_⟩
      obtain rfl : v.topic = row' :=
        Option.some.inj ((SortedMap.get?_insert_self _ _ _).symm.trans hrow')
      rw [hrepo, Option.some.inj (hparent.symm.trans hrow)]
    · have hleft := SortedMap.get?_insert_ne (t.topics.erase source) v.topic (Ne.symm htarget)
      by_cases hsource : source = x
      · subst hsource
        refine .inr ⟨.inl rfl, fun row' hrow' => ?_⟩
        cases (hleft.trans (SortedMap.get?_erase_self _ _)).symm.trans hrow'
      · exact .inl ((hleft.trans (SortedMap.get?_erase_ne _ (Ne.symm hsource))).trans hrow)
  | updateSynonyms id synonyms =>
    obtain ⟨old, hold, -, hsave⟩ := Operation.updateSynonyms_commits hc
    obtain rfl : old.id = id := h.keyed.topics id old hold
    exact Operation.topic_after_saveRenamed hsave hold rfl rfl hrow
  | setTimeRange id range =>
    obtain ⟨old, hold, hsave⟩ := Operation.changeTimeRange_commits hc
    obtain rfl : old.id = id := h.keyed.topics id old hold
    exact Operation.topic_after_saveRenamed hsave hold rfl rfl hrow
  | deleteTimeRange id =>
    obtain ⟨old, hold, hsave⟩ := Operation.changeTimeRange_commits hc
    obtain rfl : old.id = id := h.keyed.topics id old hold
    exact Operation.topic_after_saveRenamed hsave hold rfl rfl hrow
  | upsertLink repository url title parentIds id now =>
    have hlink : (Operation.upsertLink repository url title parentIds id now).on titles (t, s) =
      (.ok (.commit v), t', s') := hc
    obtain ⟨_, -, hfiled⟩ := Operation.upsertLink_commits hlink
    obtain ⟨_, _, _, -, -, -, -, rfl⟩ := Operation.fileLink_commits h hfiled
    exact .inl hrow
  | updateLinkParents id parentIds =>
    obtain ⟨_, _, -, -, -, -, rfl, -⟩ := (Operation.updateLinkParents_commits h).1 hc
    exact .inl hrow
  | deleteLink id =>
    obtain ⟨_, -, -, rfl, -⟩ := (Operation.deleteLink_commits h).1 hc
    exact .inl hrow

end

/-! ### Submissions -/

/-- What a caller submits as a topic, and what is minted for it. -/
structure Proposal where
  /-- The name. -/
  name : String
  /-- A description, if there is one. -/
  description : Option String
  /-- The topics to put the topic under. -/
  parentIds : List TopicId
  /-- The identifier that the topic gets if it is new. -/
  id : TopicId
  /-- When the topic is created if it is new. -/
  now : Instant

/-- The call that submits a topic to a repository. -/
def Proposal.operation (c : Proposal) (r : RepositoryId) : Operation (Upserted Topic) :=
  Operation.upsertTopic r c.name c.description c.parentIds c.id c.now

namespace Memory

variable {mem : Memory} {r : RepositoryId} {owner : Repository} {n : String} {c : Proposal}

/-- A topic whose name is free is created below the topics that are named, or below the root. -/
lemma Reachable.settles_new_topic (h : mem.Reachable)
    (howner : mem.tables.repositories.get? r = some owner) (hname : normalizeName c.name = (n, true))
    (hids : ∀ p ∈ c.parentIds, mem.tables.IsTopicOf r p)
    (hid : mem.tables.topics.get? c.id = none) (hfree : ¬ mem.tables.HasName r n) :
    let row := Topic.new c.id r (.ofName n) c.description c.now
    ∃ t, mem.Settles (c.operation r) ⟨some row, true, []⟩ t (mem.version + 1) ∧
      mem.tables.WithTopic row
        (fun p => p ∈ c.parentIds ∨ c.parentIds = [] ∧ p = owner.rootTopic) t := by
  intro row
  have hc := h.coherent
  obtain rfl : owner.id = r := hc.keyed.repositories _ owner howner
  have hcommit : ∀ {τ : Type} (titles : TitleSource τ) (s : τ),
      (c.operation owner.id).on titles (mem.tables, s) = (.ok (.commit ⟨some row, true, []⟩),
        Tables.withEdges { mem.tables with topics := mem.tables.topics.insert c.id row }
          (mem.tables.edges.withParents (.topic c.id) (owner.parentSet c.parentIds).toList), s) := by
    intro τ titles s
    refine (Operation.upsertTopic_commits hc).2 ⟨owner, row, howner, by rw [hname], ?_,
      Tables.topicNamed_eq_none hc.keyed.topics hfree, hc.isTopicOf_parentSet howner hids, rfl, rfl,
      rfl⟩
    rw [hname]
  have hadded := Tables.Coherent.withTopic hc (show mem.tables.topics.get? row.id = none from hid)
    (owner.parentSet c.parentIds)
  simp only [Repository.mem_parentSet] at hadded
  exact ⟨_, settles_of_commit fun titles s => ⟨s, hcommit titles s⟩, hadded⟩

/-- A topic that has the name is returned, and nothing changes. -/
lemma Reachable.settles_taken_topic (h : mem.Reachable) (hname : normalizeName c.name = (n, true))
    (hids : ∀ p ∈ c.parentIds, mem.tables.IsTopicOf r p) {row : Topic}
    (hrow : mem.tables.topics.get? row.id = some row) (hrepo : row.repository = r)
    (hrowName : row.name = n) :
    mem.Settles (c.operation r) ⟨some row, false, [.duplicateTopicName n]⟩ mem.tables
      mem.version := by
  subst hrepo hrowName
  obtain ⟨owner, howner⟩ := h.coherent.rooted.owned (.topic row.id) row.repository row.isRoot
    (Tables.place?_topic_eq_some.2 ⟨row, hrow, rfl, rfl⟩)
  exact settles_of_discard fun titles s => ⟨mem.tables, s,
    Operation.on_upsertTopic_taken h.coherent h.wellNamed hrow hname howner hids ..⟩

/-- A topic that is neither deleted nor renamed stays in its repository. -/
lemma Leads.topic_kept {mem' : Memory} {x : TopicId}
    (h : mem.Leads (fun t => ∃ row, t.topics.get? x = some row ∧ row.name = n) mem')
    (hmem : mem.Reachable) {row : Topic} (hrow : mem.tables.topics.get? x = some row)
    (hname : row.name = n) :
    ∃ row', mem'.tables.topics.get? x = some row' ∧ row'.repository = row.repository ∧
      row'.name = n := by
  refine h.keeps (Q := fun t => ∃ row', t.topics.get? x = some row' ∧
    row'.repository = row.repository ∧ row'.name = n) hmem ⟨row, hrow, rfl, hname⟩ ?_
  rintro τ m titles s s' t t' v ht hfresh hc ⟨row'', hrow'', hname''⟩ ⟨row', hrow', hrepo, -⟩
  refine ⟨row'', hrow'', ?_, hname''⟩
  rcases m.topic_after ht hfresh hc hrow' with hsame | ⟨-, hafter⟩
  · rw [hsame] at hrow''
    rw [← Option.some.inj hrow'', hrepo]
  · exact (hafter row'' hrow'').trans hrepo

/-- Whatever a submission returns, it is the value that it settles on, and what it settles on is
committed then. -/
lemma Settles.of_run_eq_ok {α : Type} {op : Operation α} {v w : α} {t : Tables} {version : Nat}
    (h : mem.Settles op v t version) {τ : Type} {titles : TitleSource τ} {s s' : τ} {d : Deadline}
    {after : Memory} (hrun : op.run store titles d (mem, s) = (.ok w, after, s')) :
    w = v ∧ after.tables = t := by
  have hall := h.all_or_nothing titles s d
  rw [hrun] at hall
  rcases hall with ⟨hv, ht, -⟩ | ⟨⟨e, he⟩, -⟩
  · exact ⟨Except.ok.inj hv, ht⟩
  · cases he

/-- A submission that returns anything returns a topic that is stored under the name, and says
whether it is new. -/
lemma Reachable.propose {after : Memory} (h : mem.Reachable)
    (howner : mem.tables.repositories.get? r = some owner) (hname : normalizeName c.name = (n, true))
    (hids : ∀ p ∈ c.parentIds, mem.tables.IsTopicOf r p)
    (hid : mem.tables.topics.get? c.id = none) {τ : Type} {titles : TitleSource τ} {s s' : τ}
    {d : Deadline} {v : Upserted Topic}
    (hrun : (c.operation r).run store titles d (mem, s) = (.ok v, after, s')) :
    (v.isNew = true ↔ ¬ mem.tables.HasName r n) ∧ ∃ row, v.row = some row ∧
      after.tables.topics.get? row.id = some row ∧ row.repository = r ∧ row.name = n := by
  by_cases htaken : mem.tables.HasName r n
  · have hname' := htaken
    obtain ⟨row, hrow, hrepo, hrowName⟩ := htaken
    obtain ⟨rfl, ht⟩ :=
      (h.settles_taken_topic hname hids hrow hrepo hrowName).of_run_eq_ok hrun
    exact ⟨by simp [hname'], row, rfl, ht ▸ hrow, hrepo, hrowName⟩
  · obtain ⟨t, hsettles, hadded⟩ := h.settles_new_topic howner hname hids hid htaken
    obtain ⟨rfl, ht⟩ := hsettles.of_run_eq_ok hrun
    exact ⟨by simp [htaken], _, rfl, ht ▸ hadded.stored, rfl, Topic.name_new ..⟩

/-- **What submitting a topic settles after every history.** Let a valid name be submitted to a
repository, below topics of it. If no topic of the repository has the name, a topic is created with
it and the description that is given; its parents are the topics that are named, or the root if
none is; and nothing else changes. Otherwise the topic that has the name is returned with an alert,
and nothing changes. So once a submission has returned a topic, every further submission of the name
to the repository returns the same one, with an alert, and changes nothing, as long as the topic is
neither deleted nor renamed. -/
theorem Reachable.topic_for_name (h : mem.Reachable)
    (howner : mem.tables.repositories.get? r = some owner) (hname : normalizeName c.name = (n, true))
    (hids : ∀ p ∈ c.parentIds, mem.tables.IsTopicOf r p)
    (hid : mem.tables.topics.get? c.id = none) :
    (¬ mem.tables.HasName r n →
      let row := Topic.new c.id r (.ofName n) c.description c.now
      row.name = n ∧ row.description = c.description ∧ row.isRoot = false ∧
        ∃ t, mem.Settles (c.operation r) ⟨some row, true, []⟩ t (mem.version + 1) ∧
          mem.tables.WithTopic row
            (fun p => p ∈ c.parentIds ∨ c.parentIds = [] ∧ p = owner.rootTopic) t) ∧
    (mem.tables.HasName r n →
      ∃ row, mem.tables.topics.get? row.id = some row ∧ row.repository = r ∧ row.name = n ∧
        mem.Settles (c.operation r) ⟨some row, false, [.duplicateTopicName n]⟩ mem.tables
          mem.version) ∧
    ∀ {τ : Type} (titles : TitleSource τ) (s : τ) (d : Deadline) (v : Upserted Topic),
      let x := (c.operation r).run store titles d (mem, s)
      x.1 = .ok v → (v.isNew = true ↔ ¬ mem.tables.HasName r n) ∧ ∃ row, v.row = some row ∧
        ∀ mem' : Memory,
          x.2.1.Leads (fun t => ∃ row', t.topics.get? row.id = some row' ∧ row'.name = n) mem' →
          ∀ c' : Proposal, normalizeName c'.name = (n, true) →
            (∀ p ∈ c'.parentIds, mem'.tables.IsTopicOf r p) →
            ∃ row', row'.id = row.id ∧ mem'.tables.topics.get? row.id = some row' ∧
              mem'.Settles (c'.operation r) ⟨some row', false, [.duplicateTopicName n]⟩ mem'.tables
                mem'.version := by
  refine ⟨fun hfree => ?_, ?_, fun titles s d v => ?_⟩
  · exact ⟨Topic.name_new .., rfl, rfl, h.settles_new_topic howner hname hids hid hfree⟩
  · rintro ⟨row, hrow, hrepo, hrowName⟩
    exact ⟨row, hrow, hrepo, hrowName, h.settles_taken_topic hname hids hrow hrepo hrowName⟩
  · rcases hrun : (c.operation r).run store titles d (mem, s) with ⟨result, after, s'⟩
    dsimp only
    rintro rfl
    have hafter : after.Reachable :=
      h.of_run (m := .upsertTopic r c.name c.description c.parentIds c.id c.now) hid hrun
    obtain ⟨hnew, row, hrow, hstored, hrepo, hrowName⟩ := h.propose howner hname hids hid hrun
    refine ⟨hnew, row, hrow, fun mem' hlead c' hname' hids' => ?_⟩
    obtain ⟨row', hrow', hrepo', hrowName'⟩ := hlead.topic_kept hafter hstored hrowName
    have hreachable := hlead.reachable hafter
    have hrowId : row'.id = row.id := hreachable.coherent.keyed.topics _ row' hrow'
    exact ⟨row', hrowId, hrow', hreachable.settles_taken_topic hname' hids' (hrowId ▸ hrow')
      (hrepo'.trans hrepo) hrowName'⟩

/-- A topic that the chain does not have, with blanks around its name. -/
def spaced : Proposal := ⟨"  Essays ", none, [], ⟨⟨7⟩⟩, default⟩

/-- A topic of the same name, with a description and a parent. -/
def described : Proposal := ⟨"Essays", some "Short prose", [⟨⟨2⟩⟩], ⟨⟨8⟩⟩, default⟩

/-- Whoever submits a name twice gets one topic, as it was submitted first. -/
theorem topic_for_name_chain :
    let x := (spaced.operation ⟨⟨1⟩⟩).run store TitleSource.silent .never (chain, ())
    ∃ v row row', x.1 = .ok v ∧ v.row = some row ∧ row'.id = row.id ∧
      x.2.1.Settles (described.operation ⟨⟨1⟩⟩) ⟨some row', false, [.duplicateTopicName "Essays"]⟩
        x.2.1.tables x.2.1.version := by
  intro x
  have howner : ∃ owner, chain.tables.repositories.get? ⟨⟨1⟩⟩ = some owner :=
    Option.isSome_iff_exists.1 (by decide +kernel)
  have hspaced : normalizeName spaced.name = ("Essays", true) := by decide +kernel
  have hdescribed : normalizeName described.name = ("Essays", true) := by decide +kernel
  have hparent : (x.2.1.tables.topics.get? ⟨⟨2⟩⟩).map Topic.repository = some ⟨⟨1⟩⟩ := by
    decide +kernel
  have hok : x.1.isOk = true := by decide +kernel
  obtain ⟨owner, howner⟩ := howner
  cases hx : x.1 with
  | error e => rw [hx] at hok; cases hok
  | ok v =>
    obtain ⟨-, -, hruns⟩ := reachable_chain.topic_for_name (c := spaced) howner hspaced
      (fun p hp => absurd hp List.not_mem_nil) (by decide +kernel)
    obtain ⟨-, row, hrow, hlater⟩ := hruns TitleSource.silent () .never v hx
    obtain ⟨row', hid, -, hsettles⟩ := hlater x.2.1 .refl described hdescribed fun p hp => by
      rw [List.mem_singleton.1 hp]
      exact Option.map_eq_some_iff.1 hparent
    exact ⟨v, row, row', rfl, hrow, hid, hsettles⟩

end Memory

end Polyhierarchy

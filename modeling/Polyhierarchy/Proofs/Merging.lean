import Polyhierarchy.Proofs.Names
import Polyhierarchy.Proofs.Removal

set_option relaxedAutoImplicit false
set_option autoImplicit false

/-!
# What a merge settles

When a topic is merged into a parent of it, the parent gets its children and takes over its
synonyms. The new name of the parent is judged when the other topic is gone, so it may be the name
of that topic. If it is the name of a third topic of the repository, the parent keeps its row.

## Main definitions

* `Synonyms.merge` — synonyms, and after them those of another topic whose names are new.
* `Tables.Absorbs` — one topic is gone, and a parent of it has its children.

## Main results

* `Synonyms.pushAll_eq_merge` — what it means to append synonyms one by one.
* `WellNamed.on_nameClash_eq` — an alert is raised exactly if another topic has the name.
* `Topic.WellNamed.name_merge` — a name for English stays the name.
* `Memory.Reachable.merge_exact` — what a merge settles after every history.
-/

namespace Polyhierarchy

open Program Reachability

/-! ### Synonyms -/

namespace Synonyms

variable {s o : Synonyms}

/-- Synonyms, and after them those of another topic whose names do not occur yet. -/
def merge (s o : Synonyms) : Synonyms :=
  ⟨s.toList ++ o.toList.filter fun x => x.name ∉ s.names⟩

/-- Appending synonyms one by one, where no name occurs twice among them.

**Proof sketch.** Induction on the synonyms. One that is appended has none of the names that come
after it, so the same ones of these are new. -/
lemma toList_pushAll {xs : List Synonym} (hnodup : (xs.map (·.name)).Nodup) :
    (s.pushAll xs).toList = s.toList ++ xs.filter fun x => x.name ∉ s.names := by
  induction xs generalizing s with
  | nil => exact (List.append_nil _).symm
  | cons x xs ih =>
    rw [List.map_cons, List.nodup_cons] at hnodup
    show ((s.push x).pushAll xs).toList = _
    rw [ih hnodup.2, push]
    by_cases hold : x.name ∈ s.names
    · rw [if_pos (containsName_iff.2 hold), List.filter_cons_of_neg (by simpa using hold)]
    · have hnew : ∀ y ∈ xs,
          decide (y.name ∉ names ⟨s.toList ++ [x]⟩) = decide (y.name ∉ s.names) := by
        intro y hy
        have hne : y.name ≠ x.name := fun e => hnodup.1 (e ▸ List.mem_map_of_mem hy)
        simp [names, hne]
      rw [if_neg (fun hmem => hold (containsName_iff.1 hmem)),
        List.filter_cons_of_pos (by simpa using hold), List.filter_congr hnew, List.append_assoc]
      rfl

/-- Appending the synonyms of a topic one by one. -/
lemma pushAll_eq_merge (ho : o.Normal) : s.pushAll o.toList = s.merge o := by
  have hlist := toList_pushAll (s := s) ho.nodup
  exact congrArg Synonyms.mk hlist

/-- Synonyms among which there is one for a locale, or which get none for it, are shown under the
same name for it as before. -/
lemma displayName?_merge {locale : String} (hne : s.toList ≠ [])
    (h : (∃ x ∈ s.toList, x.locale = locale) ∨ ∀ x ∈ o.toList, x.locale ≠ locale) :
    (s.merge o).displayName? locale = s.displayName? locale := by
  have hfirst : (s.merge o).toList.head? = s.toList.head? := List.head?_append_of_ne_nil _ hne
  have hfind : (s.merge o).toList.find? (fun x => x.locale == locale) =
      s.toList.find? fun x => x.locale == locale := by
    rw [merge, List.find?_append]
    rcases h with ⟨x, hx, hlocale⟩ | hnone
    · have hsome : (s.toList.find? fun x => x.locale == locale).isSome = true :=
        List.find?_isSome.2 ⟨x, hx, beq_iff_eq.2 hlocale⟩
      rw [Option.or_of_isSome hsome]
    · have hrest : (o.toList.filter fun x => x.name ∉ s.names).find?
          (fun x => x.locale == locale) = none :=
        List.find?_eq_none.2 fun x hx => by
          simpa using hnone x (List.mem_filter.1 hx).1
      rw [hrest, Option.or_none]
  rw [displayName?, displayName?, hfirst, hfind]

end Synonyms

/-! ### Names -/

namespace Topic.WellNamed

variable {row source : Topic}

/-- The name of a topic stays the same if it has a synonym for English, or takes over none. -/
lemma name_merge (h : row.WellNamed)
    (hlocale : (∃ x ∈ row.synonyms.toList, x.locale = defaultLocale) ∨
      ∀ x ∈ source.synonyms.toList, x.locale ≠ defaultLocale) :
    (row.withSynonyms (row.synonyms.merge source.synonyms)).name = row.name := by
  rw [h.derived]
  show deriveName (row.synonyms.merge source.synonyms) row.timeRange = _
  rw [deriveName, deriveName, Synonyms.displayName?_merge h.named hlocale]

/-- A topic that has got its own synonyms is the same. -/
lemma withSynonyms_self (h : row.WellNamed) : row.withSynonyms row.synonyms = row := by
  rw [Topic.withSynonyms, Topic.refreshName, ← h.derived]

end Topic.WellNamed

section

variable {t : Tables} {row target source : Topic}

/-- **An alert is raised exactly if another topic of the repository has the name.** -/
lemma WellNamed.on_nameClash_eq (h : WellNamed t.topics) (hkeyed : t.topics.KeyedBy Topic.id)
    (row : Topic) :
    (NameFree t.topics row → (Lookup.nameClash row).on t = (.ok none, t)) ∧
      (¬ NameFree t.topics row →
        (Lookup.nameClash row).on t = (.ok (some (.duplicateTopicName row.name)), t)) := by
  constructor
  · intro hfree
    cases hfound : t.topicNamed row.repository row.name with
    | none => simp [Lookup.nameClash, Memory.reply, Memory.answer, hfound]
    | some other =>
      obtain ⟨hstored, hrepo, hname⟩ := get?_of_topicNamed hkeyed hfound
      have hid : other.id = row.id := hfree other.id other hstored hrepo hname
      simp [Lookup.nameClash, Memory.reply, Memory.answer, hfound, hid]
  · intro htaken
    have hclash : (Lookup.nameClash row).on t ≠ (.ok none, t) := fun hnone =>
      htaken (h.nameFree_of_nameClash hkeyed hnone)
    cases hfound : t.topicNamed row.repository row.name with
    | none => simp [Lookup.nameClash, Memory.reply, Memory.answer, hfound] at hclash
    | some other =>
      have hid : other.id ≠ row.id := by
        intro hid
        simp [Lookup.nameClash, Memory.reply, Memory.answer, hfound, hid] at hclash
      simp [Lookup.nameClash, Memory.reply, Memory.answer, hfound, hid]

/-- **Taking over synonyms**: the topic is stored with them if its new name is free, and with its
old row otherwise.

**Proof sketch.** If no synonym is new, the topic would be stored with the row that it has, and its
own name is free for it. -/
theorem Operation.on_takeSynonyms_eq (h : WellNamed t.topics) (hkeyed : t.topics.KeyedBy Topic.id)
    (htarget : t.topics.get? target.id = some target) (hsource : source.WellNamed) :
    let renamed := target.withSynonyms (target.synonyms.merge source.synonyms)
    (NameFree t.topics renamed → (takeSynonyms target source).on t =
      (.ok ⟨renamed, []⟩, { t with topics := t.topics.insert target.id renamed })) ∧
    (¬ NameFree t.topics renamed → (takeSynonyms target source).on t =
      (.ok ⟨target, [.duplicateTopicName renamed.name]⟩, t)) := by
  intro renamed
  obtain ⟨hfree, htaken⟩ := h.on_nameClash_eq hkeyed renamed
  rw [takeSynonyms, Synonyms.pushAll_eq_merge hsource.normal]
  dsimp only
  split
  next hlength =>
    have hbegins : target.synonyms.toList <+: (target.synonyms.merge source.synonyms).toList :=
      List.prefix_append _ _
    have hsame : target.synonyms.merge source.synonyms = target.synonyms :=
      congrArg Synonyms.mk (hbegins.eq_of_length hlength.symm).symm
    have hrenamed : renamed = target := by
      show target.withSynonyms (target.synonyms.merge source.synonyms) = target
      rw [hsame, (h.wellNamed _ _ htarget).withSynonyms_self]
    rw [hrenamed]
    refine ⟨fun _ => ?_, fun hclash => absurd (h.nameFree htarget) hclash⟩
    rw [SortedMap.insert_of_get? htarget]
    rfl
  next =>
    refine ⟨fun hname => ?_, fun hname => ?_⟩
    · rw [on_bind, hfree hname]
      simp [renamed, Memory.reply, Memory.answer, Topic.withSynonyms, Topic.refreshName, htarget,
        Memory.Working.edit]
    · rw [on_bind, htaken hname]
      rfl

/-- A name that stays the same when synonyms are taken over is still free. -/
lemma WellNamed.nameFree_merge {topics : SortedMap TopicId Topic} (h : WellNamed topics)
    (htarget : topics.get? target.id = some target)
    (hlocale : (∃ x ∈ target.synonyms.toList, x.locale = defaultLocale) ∨
      ∀ x ∈ source.synonyms.toList, x.locale ≠ defaultLocale) :
    NameFree topics (target.withSynonyms (target.synonyms.merge source.synonyms)) := by
  intro id other hother hrepo hname
  rw [(h.wellNamed _ _ htarget).name_merge hlocale] at hname
  exact h.nameFree htarget id other hother hrepo hname

end

/-! ### What is settled -/

namespace Tables

/-- One topic is gone, and a parent of it has its children: what was below the one is below the
other, and nothing else lies where it did not lie before. -/
structure Absorbs (t : Tables) (source target : TopicId) (u : Tables) : Prop where
  /-- The repositories are the same. -/
  repositories : u.repositories = t.repositories
  /-- The links are the same. -/
  links : u.links = t.links
  /-- The one topic is gone. -/
  gone : u.topics.get? source = none
  /-- All topics but the two have the same rows. -/
  topics : ∀ y, y ≠ source → y ≠ target → u.topics.get? y = t.topics.get? y
  /-- The edges that do not touch the one topic stay, and its children become children of the
  other. -/
  edges : ∀ p c, c ∈ u.edges.row p ↔
    p ≠ source ∧ c ≠ .topic source ∧ c ∈ t.edges.row p ∨ p = target ∧ c ∈ t.edges.row source
  /-- What was below the one topic is below the other. -/
  inherited : ∀ n, Reaches t.edges (.topic source) n → Reaches u.edges (.topic target) n
  /-- There is no path where there was none. -/
  paths : ∀ m n, Reaches u.edges m n → Reaches t.edges m n
  /-- The closure is that of the edges. -/
  exact : u.Exact

/-- The tables after a merge, where the target is stored with a given row then. -/
def merged (t : Tables) (source target : TopicId) (row : Topic) : Tables :=
  withEdges { t with topics := (t.topics.erase source).insert target row }
    (t.edges.bypass source (SortedSet.singleton target))

/-- After a merge the target has absorbed the source, whatever its row is. -/
lemma Coherent.absorbs_merged {t : Tables} (h : t.Coherent) {source target : TopicId}
    (hmem : .topic source ∈ t.edges.row target) (row : Topic) :
    t.Absorbs source target (t.merged source target row) := by
  have hacyclic := h.hierarchical.acyclic
  have honto : ∀ p ∈ SortedSet.singleton target, .topic source ∈ t.edges.row p :=
    SortedSet.forall_mem_singleton.2 hmem
  have hne : source ≠ target := (hacyclic.ne_of_mem_row hmem).symm
  refine ⟨rfl, rfl, ?_, fun y hys hyt => ?_, fun p c => ?_, fun n hr => ?_, fun m n hr => ?_,
    exact_withEdges _ _⟩
  · exact (SortedMap.get?_insert_ne _ _ hne).trans (SortedMap.get?_erase_self _ source)
  · exact (SortedMap.get?_insert_ne _ _ hyt).trans (SortedMap.get?_erase_ne _ hys)
  · rw [merged, withEdges_edges, hacyclic.mem_row_bypass_iff honto, SortedSet.mem_singleton]
  · exact hacyclic.reaches_bypass (SortedSet.mem_singleton.2 rfl) hmem hr
  · exact (hr.of_bypass honto).2.2

end Tables

namespace Memory

/-- What a merge settles, in terms of the tables that it leaves. -/
lemma settles_mergeTopic {mem : Memory} (h : mem.tables.Coherent) (hn : WellNamed mem.tables.topics)
    {row parent : Topic} (hrow : mem.tables.topics.get? row.id = some row)
    (hroot : row.isRoot = false) (hmem : .topic row.id ∈ mem.tables.edges.row parent.id)
    (hparent : mem.tables.topics.get? parent.id = some parent) :
    let renamed := parent.withSynonyms (parent.synonyms.merge row.synonyms)
    (NameFree (mem.tables.topics.erase row.id) renamed →
      mem.Settles (Operation.mergeTopic row.id parent.id) ⟨renamed, row.id, []⟩
        (mem.tables.merged row.id parent.id renamed) (mem.version + 1)) ∧
    (¬ NameFree (mem.tables.topics.erase row.id) renamed →
      mem.Settles (Operation.mergeTopic row.id parent.id)
        ⟨parent, row.id, [.duplicateTopicName renamed.name]⟩
        (mem.tables.merged row.id parent.id parent) (mem.version + 1)) := by
  intro renamed
  have hne : parent.id ≠ row.id := h.hierarchical.acyclic.ne_of_mem_row hmem
  have hleft : (mem.tables.topics.erase row.id).get? parent.id = some parent :=
    (SortedMap.get?_erase_ne _ hne).trans hparent
  obtain ⟨hfree, htaken⟩ := Operation.on_takeSynonyms_eq
    (t := Tables.withEdges { mem.tables with topics := mem.tables.topics.erase row.id }
      (mem.tables.edges.bypass row.id (SortedSet.singleton parent.id)))
    (hn.erase row.id) (h.keyed.topics.erase row.id) hleft (hn.wellNamed _ _ hrow)
  constructor
  · intro hname
    exact settles_of_commit fun titles s =>
      ⟨s, Operation.on_mergeTopic h hrow hroot hmem hparent (hfree hname)⟩
  · intro hname
    rw [Tables.merged, SortedMap.insert_of_get? hleft]
    exact settles_of_commit fun titles s =>
      ⟨s, Operation.on_mergeTopic h hrow hroot hmem hparent (htaken hname)⟩

/-- **What a merge settles after every history.** A topic that is not a root is merged into a parent
of it: it goes, and the parent gets its children. The parent takes over those of its synonyms whose
names are new, after its own, if the name that they give is the name of no other topic left in the
repository; otherwise it keeps its row, and there is one alert. If it has a synonym for English or
the other topic has none, it keeps its name, and there is no alert. -/
theorem Reachable.merge_exact {mem : Memory} (h : mem.Reachable) {source target : TopicId}
    {row : Topic} (hrow : mem.tables.topics.get? source = some row) (hroot : row.isRoot = false)
    (hmem : .topic source ∈ mem.tables.edges.row target) :
    ∃ (parent : Topic) (v : Merged) (t : Tables),
      mem.tables.topics.get? target = some parent ∧
      mem.Settles (Operation.mergeTopic source target) v t (mem.version + 1) ∧
      mem.tables.Absorbs source target t ∧
      v.gone = source ∧ t.topics.get? target = some v.topic ∧
      let renamed := parent.withSynonyms (parent.synonyms.merge row.synonyms)
      (NameFree (mem.tables.topics.erase source) renamed → v.topic = renamed ∧ v.alerts = []) ∧
      (¬ NameFree (mem.tables.topics.erase source) renamed →
        v.topic = parent ∧ v.alerts = [.duplicateTopicName renamed.name]) ∧
      ((∃ x ∈ parent.synonyms.toList, x.locale = defaultLocale) ∨
          (∀ x ∈ row.synonyms.toList, x.locale ≠ defaultLocale) →
        v.topic.name = parent.name ∧ v.alerts = []) := by
  have hc := h.coherent
  have hn := h.wellNamed
  obtain rfl : row.id = source := hc.keyed.topics source row hrow
  obtain ⟨r, b, hplace, -⟩ := hc.hierarchical.within target _ hmem
  obtain ⟨parent, hparent, -, -⟩ := Tables.place?_topic_eq_some.1 hplace
  obtain rfl : parent.id = target := hc.keyed.topics target parent hparent
  have hne : parent.id ≠ row.id := hc.hierarchical.acyclic.ne_of_mem_row hmem
  have hleft : (mem.tables.topics.erase row.id).get? parent.id = some parent :=
    (SortedMap.get?_erase_ne _ hne).trans hparent
  obtain ⟨hfree, htaken⟩ := settles_mergeTopic hc hn hrow hroot hmem hparent
  by_cases hname : NameFree (mem.tables.topics.erase row.id)
    (parent.withSynonyms (parent.synonyms.merge row.synonyms))
  · exact ⟨parent, _, _, hparent, hfree hname, hc.absorbs_merged hmem _, rfl,
      SortedMap.get?_insert_self _ _ _, fun _ => ⟨rfl, rfl⟩, fun hnot => absurd hname hnot,
      fun hlocale => ⟨(hn.wellNamed _ _ hparent).name_merge hlocale, rfl⟩⟩
  · exact ⟨parent, _, _, hparent, htaken hname, hc.absorbs_merged hmem _, rfl,
      SortedMap.get?_insert_self _ _ _, fun hyes => absurd hyes hname, fun _ => ⟨rfl, rfl⟩,
      fun hlocale => absurd ((hn.erase row.id).nameFree_merge hleft hlocale) hname⟩

/-- If the second topic below the root of the chain is merged into the first one, this one takes
over its name as a synonym and has the link as a child. -/
theorem merge_exact_chain : ∃ (v : Merged) (t : Tables),
    chain.Settles (Operation.mergeTopic ⟨⟨3⟩⟩ ⟨⟨2⟩⟩) v t (chain.version + 1) ∧
      v.topic.name = "Novels" ∧ v.topic.synonyms.names = ["Novels", "Diaries"] ∧ v.alerts = [] ∧
      .link ⟨⟨4⟩⟩ ∈ t.edges.row ⟨⟨2⟩⟩ := by
  have hsource : (chain.tables.topics.get? ⟨⟨3⟩⟩).map (fun row => (row.synonyms, row.isRoot)) =
      some (.ofName "Diaries", false) := by decide +kernel
  have htarget : (chain.tables.topics.get? ⟨⟨2⟩⟩).map (fun row => (row.synonyms, row.name)) =
      some (.ofName "Novels", "Novels") := by decide +kernel
  obtain ⟨row, hrow, heq⟩ := Option.map_eq_some_iff.1 hsource
  obtain ⟨hsynonyms, hroot⟩ := Prod.mk.inj heq
  obtain ⟨parent', hparent', heq'⟩ := Option.map_eq_some_iff.1 htarget
  obtain ⟨hsynonyms', hname⟩ := Prod.mk.inj heq'
  have hmem : Node.topic ⟨⟨3⟩⟩ ∈ chain.tables.edges.row ⟨⟨2⟩⟩ := by decide +kernel
  obtain ⟨parent, v, t, hparent, hsettles, habsorbs, -, -, hfree, htaken, hkeeps⟩ :=
    reachable_chain.merge_exact hrow hroot hmem
  obtain rfl : parent' = parent := Option.some.inj (hparent'.symm.trans hparent)
  obtain ⟨hsame, halerts⟩ := hkeeps
    (.inl ⟨.ofName "Novels", hsynonyms' ▸ List.mem_singleton_self _, rfl⟩)
  have hnew : v.topic = parent'.withSynonyms (parent'.synonyms.merge row.synonyms) := by
    by_contra hne
    have halert := (htaken fun hyes => hne (hfree hyes).1).2
    rw [halerts] at halert
    cases halert
  refine ⟨v, t, hsettles, hsame.trans hname, ?_, halerts,
    (habsorbs.edges _ _).2 (.inr ⟨rfl, by decide +kernel⟩)⟩
  show v.topic.synonyms.names = (Synonyms.merge (.ofName "Novels") (.ofName "Diaries")).names
  rw [hnew, ← hsynonyms, ← hsynonyms']
  rfl

end Memory

end Polyhierarchy

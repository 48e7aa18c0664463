import Polyhierarchy.Proofs.History
import Polyhierarchy.Proofs.Pieces

set_option relaxedAutoImplicit false
set_option autoImplicit false

/-!
# The names of topics

The name of a topic is kept in its row, though its synonyms and its time range determine it. Every
change of these derives the name anew, and stores the row only if no other topic of the repository
has that name. So after every history names are derived, synonyms are in their normal form and each
occurs once, and a name names one topic of a repository.

## Main definitions

* `Synonyms.Normal` — each name is normal and valid, and occurs once.
* `Topic.WellNamed` — what holds of the names in the row of a topic.
* `WellNamed` — all topics are well named, and no two of a repository have the same name.
* `NameFree` — no other topic of the repository has the name of a topic.

## Main results

* `normalizeName_normalizeName` — the form in which names are stored is a normal form.
* `Mutation.wellNamed` — a call keeps topics well named.
* `Memory.Reachable.names_derived` — what holds of names after every history.
-/

namespace Polyhierarchy

/-! ### The normal form -/

namespace Text

variable {p : Char → Bool} {s : List Char}

/-- The blanks of ASCII are white space. -/
lemma isAsciiSpace_eq_false {c : Char} (h : isWhiteSpace c = false) : isAsciiSpace c = false := by
  rw [← Bool.not_eq_true] at h ⊢
  intro hc
  apply h
  simp only [isAsciiSpace, isWhiteSpace, Bool.or_eq_true, Bool.and_eq_true, beq_iff_eq,
    decide_eq_true_eq] at hc ⊢
  tauto

/-- Runs of blanks that have become one space stay as they are. -/
lemma collapseFrom_collapseFrom (afterBlank : Bool) (s : List Char) :
    collapseFrom afterBlank (collapseFrom afterBlank s) = collapseFrom afterBlank s := by
  induction s generalizing afterBlank with
  | nil => rfl
  | cons c cs ih =>
    cases hc : isAsciiSpace c with
    | false => simp [collapseFrom, hc, ih]
    | true =>
      have hspace : isAsciiSpace ' ' = true := by decide
      cases afterBlank <;> simp [collapseFrom, hc, hspace, ih]

/-- A last character that is no blank stays the last one. -/
lemma getLast?_collapseFrom (afterBlank : Bool) (s : List Char)
    (h : ∀ c ∈ s.getLast?, isAsciiSpace c = false) :
    (collapseFrom afterBlank s).getLast? = s.getLast? := by
  induction s generalizing afterBlank with
  | nil => rfl
  | cons c cs ih =>
    cases cs with
    | nil => simp [collapseFrom, h c rfl]
    | cons d ds =>
      rw [List.getLast?_cons_cons] at h ⊢
      obtain ⟨z, hz⟩ := Option.isSome_iff_exists.1 (List.getLast?_isSome.2 (List.cons_ne_nil d ds))
      have hrest : ∀ b x, (x :: collapseFrom b (d :: ds)).getLast? = (d :: ds).getLast? := by
        intro b x
        rw [List.getLast?_cons, ih b h, hz, Option.getD_some]
      cases hc : isAsciiSpace c with
      | false => rw [collapseFrom, hc]; exact hrest false c
      | true =>
        cases afterBlank with
        | false => rw [collapseFrom, hc]; exact hrest true ' '
        | true => rw [collapseFrom, hc]; exact ih true h

/-- A text without white space at its ends has none there after its runs of blanks have become one
space each. -/
lemma Bare.collapse (h : Bare isWhiteSpace s) : Bare isWhiteSpace (collapse s) where
  head := by
    cases s with
    | nil => exact h.head
    | cons c cs =>
      rw [Text.collapse, collapseFrom, isAsciiSpace_eq_false (h.head c rfl)]
      exact h.head
  last := by
    have hlast : ∀ c ∈ s.getLast?, isAsciiSpace c = false :=
      fun c hc => isAsciiSpace_eq_false (h.last c hc)
    rw [Text.collapse, getLast?_collapseFrom false s hlast]
    exact h.last

/-- A text that has been trimmed and collapsed stays the same if that is done again. -/
lemma collapse_trim_collapse_trim (s : List Char) :
    collapse (trim (collapse (trim s))) = collapse (trim s) := by
  have hbare : Bare isWhiteSpace (collapse (trim s)) := (bare_trimBy isWhiteSpace s).collapse
  rw [trim, hbare.trimBy_eq]
  exact collapseFrom_collapseFrom false (trim s)

end Text

/-- **The form of a name is its own form**, and is valid exactly if the name is. -/
theorem normalizeName_normalizeName (name : String) :
    normalizeName (normalizeName name).1 = normalizeName name := by
  simp only [normalizeName, String.toList_ofList, Text.collapse_trim_collapse_trim]

/-- A valid name in its form. -/
lemma normalizeName_of_valid {name : String} (h : (normalizeName name).2 = true) :
    normalizeName (normalizeName name).1 = ((normalizeName name).1, true) := by
  rw [normalizeName_normalizeName, ← h]

/-! ### Synonyms -/

namespace Synonyms

/-- Each name is in its form and valid, and occurs once. -/
structure Normal (s : Synonyms) : Prop where
  /-- No name occurs twice. -/
  nodup : s.names.Nodup
  /-- Every name is in its form, and may name a topic. -/
  normal : ∀ name ∈ s.names, normalizeName name = (name, true)

variable {s : Synonyms}

lemma normal_empty : Normal ∅ := ⟨List.nodup_nil, fun _ h => absurd h List.not_mem_nil⟩

lemma normal_ofName {name : String} (h : normalizeName name = (name, true)) :
    Normal (.ofName name) where
  nodup := List.nodup_singleton name
  normal _ hmem := by rw [List.mem_singleton.1 hmem]; exact h

lemma containsName_iff {name : String} : s.containsName name = true ↔ name ∈ s.names := by
  simp only [containsName, names, List.any_eq_true, List.mem_map, beq_iff_eq]

/-- A valid name in its form can be appended. -/
lemma Normal.push (h : s.Normal) {x : Synonym} (hx : normalizeName x.name = (x.name, true)) :
    (s.push x).Normal := by
  rw [Synonyms.push]
  split
  · exact h
  next hnew =>
    rw [containsName_iff] at hnew
    have hnames : names ⟨s.toList ++ [x]⟩ = s.names ++ [x.name] := List.map_append
    constructor
    · rw [hnames, List.nodup_append]
      refine ⟨h.nodup, List.nodup_singleton _, ?_⟩
      rintro a ha b hb rfl
      rw [List.mem_singleton.1 hb] at ha
      exact hnew ha
    · intro name hname
      rw [hnames, List.mem_append, List.mem_singleton] at hname
      rcases hname with hname | rfl
      · exact h.normal name hname
      · exact hx

/-- Valid names in their form can be appended one by one. -/
lemma Normal.pushAll (h : s.Normal) {xs : List Synonym}
    (hxs : ∀ x ∈ xs, normalizeName x.name = (x.name, true)) : (s.pushAll xs).Normal := by
  induction xs generalizing s with
  | nil => exact h
  | cons x xs ih =>
    exact ih (h.push (hxs x List.mem_cons_self)) fun y hy => hxs y (List.mem_cons_of_mem x hy)

/-- Nothing is lost when synonyms are appended. -/
lemma prefix_pushAll (s : Synonyms) (xs : List Synonym) :
    s.toList <+: (s.pushAll xs).toList := by
  induction xs generalizing s with
  | nil => exact List.prefix_rfl
  | cons x xs ih =>
    refine List.IsPrefix.trans ?_ (ih (s.push x))
    rw [push]
    split
    · exact List.prefix_rfl
    · exact List.prefix_append _ _

end Synonyms

/-- The valid ones among some synonyms are in their form, and each occurs once. -/
lemma Operation.normal_cleanSynonyms (synonyms : List Synonym) {found : Synonyms}
    (h : found.Normal) : (cleanSynonyms synonyms found).1.Normal := by
  induction synonyms generalizing found with
  | nil => exact h
  | cons s rest ih =>
    rw [cleanSynonyms]
    dsimp only
    split
    next hvalid => exact ih (h.push (normalizeName_of_valid hvalid))
    next => exact ih h

/-! ### Rows -/

namespace Topic

/-- What holds of the names in the row of a topic. -/
structure WellNamed (row : Topic) : Prop where
  /-- The name is the one that the synonyms and the time range give. -/
  derived : row.name = deriveName row.synonyms row.timeRange
  /-- There is a synonym. -/
  named : row.synonyms.toList ≠ []
  /-- The synonyms are valid names in their form, each once. -/
  normal : row.synonyms.Normal

variable {row : Topic}

lemma wellNamed_new {name : String} (h : normalizeName name = (name, true)) (id : TopicId)
    (r : RepositoryId) (description : Option String) (now : Instant) :
    (new id r (.ofName name) description now).WellNamed :=
  ⟨rfl, List.cons_ne_nil _ _, Synonyms.normal_ofName h⟩

/-- The name of a root is in its form, and is not the URL of a page. -/
lemma normalizeName_rootName : normalizeName rootName = (rootName, true) := by decide +kernel

lemma wellNamed_newRoot (id : TopicId) (r : RepositoryId) (now : Instant) :
    (newRoot id r now).WellNamed :=
  ⟨rfl, List.cons_ne_nil _ _, Synonyms.normal_ofName normalizeName_rootName⟩

lemma wellNamed_withSynonyms (row : Topic) {synonyms : Synonyms} (hne : synonyms.toList ≠ [])
    (h : synonyms.Normal) : (row.withSynonyms synonyms).WellNamed := ⟨rfl, hne, h⟩

lemma WellNamed.withTimeRange (h : row.WellNamed) (range : Option TimeRange) :
    (row.withTimeRange range).WellNamed := ⟨rfl, h.named, h.normal⟩

/-- A topic that takes over the synonyms of another one stays well named. -/
lemma WellNamed.takeSynonyms (h : row.WellNamed) {source : Topic} (hsource : source.WellNamed) :
    (row.withSynonyms (row.synonyms.pushAll source.synonyms.toList)).WellNamed := by
  apply wellNamed_withSynonyms
  · exact fun hnil => h.named (List.prefix_nil.1 (hnil ▸ Synonyms.prefix_pushAll _ _))
  · exact h.normal.pushAll fun x hx => hsource.normal.normal x.name (List.mem_map_of_mem hx)

end Topic

/-! ### All topics -/

/-- What is left after something was erased was there before. -/
lemma SortedMap.get?_of_get?_erase {κ ν : Type} [Ranked κ] {m : SortedMap κ ν} {x k : κ} {v : ν}
    (h : (m.erase x).get? k = some v) : m.get? k = some v := by
  by_cases hk : k = x
  · rw [hk, get?_erase_self] at h
    cases h
  · rwa [get?_erase_ne _ hk] at h

/-- All topics are well named, and no two of a repository have the same name. -/
structure WellNamed (topics : SortedMap TopicId Topic) : Prop where
  /-- Every row is well named. -/
  wellNamed : ∀ id row, topics.get? id = some row → row.WellNamed
  /-- Topics of a repository that have the same name are the same. -/
  unique : ∀ id id' row row', topics.get? id = some row → topics.get? id' = some row' →
    row.repository = row'.repository → row.name = row'.name → id = id'

/-- Whether no other topic of the repository has the name of a topic. -/
def NameFree (topics : SortedMap TopicId Topic) (row : Topic) : Prop :=
  ∀ id other, topics.get? id = some other → other.repository = row.repository →
    other.name = row.name → id = row.id

section

variable {topics : SortedMap TopicId Topic} {t : Tables} {row : Topic}

lemma WellNamed.erase (h : WellNamed topics) (x : TopicId) : WellNamed (topics.erase x) where
  wellNamed id row hrow := h.wellNamed id row (SortedMap.get?_of_get?_erase hrow)
  unique id id' row row' hrow hrow' :=
    h.unique id id' row row' (SortedMap.get?_of_get?_erase hrow)
      (SortedMap.get?_of_get?_erase hrow')

lemma NameFree.erase (h : NameFree topics row) (x : TopicId) : NameFree (topics.erase x) row :=
  fun id other hother => h id other (SortedMap.get?_of_get?_erase hother)

/-- A well-named row can be stored if its name is free. -/
lemma WellNamed.insert (h : WellNamed topics) (hrow : row.WellNamed) (hfree : NameFree topics row) :
    WellNamed (topics.insert row.id row) := by
  have hget : ∀ id other, (topics.insert row.id row).get? id = some other →
      id = row.id ∧ other = row ∨ id ≠ row.id ∧ topics.get? id = some other := by
    intro id other hother
    by_cases hid : id = row.id
    · rw [hid, SortedMap.get?_insert_self] at hother
      exact .inl ⟨hid, (Option.some.inj hother).symm⟩
    · rw [SortedMap.get?_insert_ne _ _ hid] at hother
      exact .inr ⟨hid, hother⟩
  constructor
  · intro id other hother
    rcases hget id other hother with ⟨-, rfl⟩ | ⟨-, hother⟩
    · exact hrow
    · exact h.wellNamed id other hother
  · intro id id' a b ha hb hrepo hname
    rcases hget id a ha with ⟨hid, rfl⟩ | ⟨-, ha'⟩
    · rcases hget id' b hb with ⟨hid', -⟩ | ⟨-, hb'⟩
      · rw [hid, hid']
      · rw [hid, hfree id' b hb' hrepo.symm hname.symm]
    · rcases hget id' b hb with ⟨hid', rfl⟩ | ⟨-, hb'⟩
      · rw [hid', hfree id a ha' hrepo hname]
      · exact h.unique id id' a b ha' hb' hrepo hname

/-- The name of a stored topic is free for it. -/
lemma WellNamed.nameFree (h : WellNamed topics) (hrow : topics.get? row.id = some row) :
    NameFree topics row := fun id other hother => h.unique id row.id other row hother hrow

/-- A name that no topic is found by is free. -/
lemma nameFree_of_topicNamed (h : t.topicNamed row.repository row.name = none) :
    NameFree t.topics row := by
  intro id other hother hrepo hname
  have hnot := List.find?_eq_none.1 h other (SortedMap.mem_values_iff.2 ⟨id, hother⟩)
  simp [hrepo, hname] at hnot

/-- The topic that is found by a name is stored in the repository and has the name. -/
lemma get?_of_topicNamed (hkeyed : t.topics.KeyedBy Topic.id) {r : RepositoryId} {name : String}
    (h : t.topicNamed r name = some row) :
    t.topics.get? row.id = some row ∧ row.repository = r ∧ row.name = name := by
  have hmatch := List.find?_some h
  simp only [Bool.and_eq_true, beq_iff_eq] at hmatch
  exact ⟨hkeyed.mem_values_iff.1 (List.mem_of_find?_eq_some h), hmatch⟩

/-- A name that raises no alert is free: if a topic is found by it, this is the only one that has
it, and so the topic itself. -/
lemma WellNamed.nameFree_of_nameClash (h : WellNamed t.topics) (hkeyed : t.topics.KeyedBy Topic.id)
    (hclash : (Lookup.nameClash row).on t = (.ok none, t)) : NameFree t.topics row := by
  cases hfound : t.topicNamed row.repository row.name with
  | none => exact nameFree_of_topicNamed hfound
  | some first =>
    have hfirst : first.id = row.id := by
      by_contra hne
      simp [Lookup.nameClash, Memory.reply, Memory.answer, hfound, hne] at hclash
    obtain ⟨hstored, hrepo', hname'⟩ := get?_of_topicNamed hkeyed hfound
    intro id other hother hrepo hname
    rw [← hfirst]
    exact h.unique id first.id other first hother hstored (hrepo.trans hrepo'.symm)
      (hname.trans hname'.symm)

end

/-! ### Calls -/

namespace Operation

variable {t t' : Tables} {τ : Type} {titles : TitleSource τ} {s s' : τ}

/-- A topic with other names is stored only if its new name is free. -/
lemma saveRenamed_wellNamed (h : t.topics.KeyedBy Topic.id) (hn : WellNamed t.topics)
    {row renamed old : Topic} {alerts : List Alert} {v : Updated Topic}
    (hc : (saveRenamed row renamed alerts).on t = (.ok (.commit v), t'))
    (hold : t.topics.get? renamed.id = some old) (hrenamed : renamed.WellNamed) :
    WellNamed t'.topics := by
  obtain ⟨hclash, -, rfl⟩ := (saveRenamed_commits hold).1 hc
  exact hn.insert hrenamed (hn.nameFree_of_nameClash h hclash)

lemma createRepository_wellNamed (h : t.Coherent) (hn : WellNamed t.topics) {name : String}
    {id : RepositoryId} {root : TopicId} {now : Instant} (hid : t.repositories.get? id = none)
    {v : CreatedRepository}
    (hc : (createRepository name id root now).on titles (t, s) = (.ok (.commit v), t', s')) :
    WellNamed t'.topics := by
  rw [createRepository_commits h hid] at hc
  obtain ⟨-, rfl, -⟩ := hc
  exact hn.insert (Topic.wellNamed_newRoot root id now)
    (nameFree_of_topicNamed (h.topicNamed_eq_none hid _))

lemma upsertTopic_wellNamed (h : t.Coherent) (hn : WellNamed t.topics) {repository : RepositoryId}
    {name : String} {description : Option String} {parentIds : List TopicId} {id : TopicId}
    {now : Instant} {v : Upserted Topic}
    (hc : (upsertTopic repository name description parentIds id now).on titles (t, s) =
      (.ok (.commit v), t', s')) : WellNamed t'.topics := by
  obtain ⟨owner, row, -, hvalid, rfl, hfree, -, -, rfl, -⟩ := (upsertTopic_commits h).1 hc
  exact hn.insert (Topic.wellNamed_new (normalizeName_of_valid hvalid) id owner.id description now)
    (nameFree_of_topicNamed hfree)

/-- The name of the topic that is left may be the one of the topic that is gone. -/
lemma mergeTopic_wellNamed (h : t.Coherent) (hn : WellNamed t.topics) {source target : TopicId}
    {v : Merged} (hc : (mergeTopic source target).on titles (t, s) = (.ok (.commit v), t', s')) :
    WellNamed t'.topics := by
  obtain ⟨row, parent, hrow, -, -, hparent, hid, -, -, hnames, -, rfl, -⟩ := mergeTopic_commits h hc
  have hleft := hn.erase source
  rw [Tables.withEdges_topics, ← hid]
  rcases hnames with hsame | ⟨htaken, u, hu, hclash⟩
  · rw [hsame] at hid ⊢
    exact hleft.insert (hn.wellNamed target parent hparent)
      ((hn.nameFree (hid ▸ hparent)).erase source)
  · have hwell : v.topic.WellNamed := htaken ▸
      (hn.wellNamed target parent hparent).takeSynonyms (hn.wellNamed source row hrow)
    rw [← hu] at hleft ⊢
    exact hleft.insert hwell (hleft.nameFree_of_nameClash (hu ▸ h.keyed.topics.erase source) hclash)

lemma updateSynonyms_wellNamed (h : t.Coherent) (hn : WellNamed t.topics) {id : TopicId}
    {synonyms : List Synonym} {v : Updated Topic}
    (hc : (updateSynonyms id synonyms).on titles (t, s) = (.ok (.commit v), t', s')) :
    WellNamed t'.topics := by
  obtain ⟨row, hrow, hne, hsave⟩ := updateSynonyms_commits hc
  obtain rfl : row.id = id := h.keyed.topics id row hrow
  exact saveRenamed_wellNamed h.keyed.topics hn hsave hrow
    (row.wellNamed_withSynonyms hne (normal_cleanSynonyms synonyms Synonyms.normal_empty))

lemma changeTimeRange_wellNamed (h : t.Coherent) (hn : WellNamed t.topics) {id : TopicId}
    {range : Option TimeRange} {v : Updated Topic}
    (hc : (changeTimeRange id range).on titles (t, s) = (.ok (.commit v), t', s')) :
    WellNamed t'.topics := by
  obtain ⟨row, hrow, hsave⟩ := changeTimeRange_commits hc
  obtain rfl : row.id = id := h.keyed.topics id row hrow
  exact saveRenamed_wellNamed h.keyed.topics hn hsave hrow
    ((hn.wellNamed row.id row hrow).withTimeRange range)

end Operation

/-- **A call keeps topics well named.** -/
theorem Mutation.wellNamed {t t' : Tables} {τ : Type} {titles : TitleSource τ} {s s' : τ}
    (h : t.Coherent) (hn : WellNamed t.topics) (m : Mutation) (hfresh : m.IsFresh t) {v : m.Result}
    (hc : m.operation.on titles (t, s) = (.ok (.commit v), t', s')) : WellNamed t'.topics := by
  cases m with
  | createRepository name id root now =>
    exact Operation.createRepository_wellNamed h hn hfresh.1 hc
  | upsertTopic repository name description parentIds id now =>
    exact Operation.upsertTopic_wellNamed h hn hc
  | updateParents id parentIds =>
    obtain ⟨_, -, -, -, -, -, rfl, -⟩ := (Operation.updateParents_commits h).1 hc
    exact hn
  | deleteTopic id =>
    obtain ⟨_, -, -, -, rfl, -⟩ := (Operation.deleteTopic_commits h).1 hc
    exact hn.erase id
  | mergeTopic source target => exact Operation.mergeTopic_wellNamed h hn hc
  | updateSynonyms id synonyms => exact Operation.updateSynonyms_wellNamed h hn hc
  | setTimeRange id range => exact Operation.changeTimeRange_wellNamed h hn hc
  | deleteTimeRange id => exact Operation.changeTimeRange_wellNamed h hn hc
  | upsertLink repository url title parentIds id now =>
    have hlink : (Operation.upsertLink repository url title parentIds id now).on titles (t, s) =
      (.ok (.commit v), t', s') := hc
    obtain ⟨_, -, hfiled⟩ := Operation.upsertLink_commits hlink
    obtain ⟨_, _, _, -, -, -, -, rfl⟩ := Operation.fileLink_commits h hfiled
    exact hn
  | updateLinkParents id parentIds =>
    obtain ⟨_, _, -, -, -, -, rfl, -⟩ := (Operation.updateLinkParents_commits h).1 hc
    exact hn
  | deleteLink id =>
    obtain ⟨_, -, -, rfl, -⟩ := (Operation.deleteLink_commits h).1 hc
    exact hn

namespace Memory

/-- Every history leaves topics well named. -/
lemma Reachable.wellNamed {mem : Memory} (h : mem.Reachable) : WellNamed mem.tables.topics := by
  have hempty : WellNamed (∅ : Tables).topics :=
    ⟨fun _ _ h => (nomatch h), fun _ _ _ _ h => (nomatch h)⟩
  have hboth := h.keeps (P := fun t => t.Coherent ∧ WellNamed t.topics)
    ⟨Tables.coherent_empty, hempty⟩ fun m _ _ _ _ _ _ ht hfresh hc =>
      ⟨m.coherent ht.1 hfresh hc, m.wellNamed ht.1 ht.2 hfresh hc⟩
  exact hboth.2

/-- **What holds of names after every history.** The name of a topic is the one that its synonyms
and its time range give. It has synonyms; their names are valid, in the form in which names are
stored, and different from each other. No two topics of a repository have the same name. -/
theorem Reachable.names_derived {mem : Memory} (h : mem.Reachable) :
    (∀ id row, mem.tables.topics.get? id = some row →
      row.name = deriveName row.synonyms row.timeRange ∧ row.synonyms.toList ≠ [] ∧
        row.synonyms.names.Nodup ∧
        ∀ name ∈ row.synonyms.names, normalizeName name = (name, true)) ∧
    ∀ id id' row row', mem.tables.topics.get? id = some row →
      mem.tables.topics.get? id' = some row' → row.repository = row'.repository →
      row.name = row'.name → id = id' := by
  refine ⟨fun id row hrow => ?_, h.wellNamed.unique⟩
  obtain ⟨hderived, hnamed, hnodup, hnormal⟩ := h.wellNamed.wellNamed id row hrow
  exact ⟨hderived, hnamed, hnodup, hnormal⟩

/-- The second topic of the chain has a name of its own, in its form. -/
theorem names_derived_chain : ∃ row, chain.tables.topics.get? ⟨⟨3⟩⟩ = some row ∧
    row.synonyms.names = ["Diaries"] ∧ normalizeName "Diaries" = ("Diaries", true) := by
  have hnames : (chain.tables.topics.get? ⟨⟨3⟩⟩).map (·.synonyms.names) = some ["Diaries"] := by
    decide +kernel
  obtain ⟨row, hrow, hrowNames⟩ := Option.map_eq_some_iff.1 hnames
  obtain ⟨-, -, -, hnormal⟩ := reachable_chain.names_derived.1 ⟨⟨3⟩⟩ row hrow
  exact ⟨row, hrow, hrowNames, hnormal "Diaries" (hrowNames ▸ List.mem_singleton_self _)⟩

end Memory

end Polyhierarchy

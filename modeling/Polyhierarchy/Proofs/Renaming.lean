import Polyhierarchy.Proofs.Merging

set_option relaxedAutoImplicit false
set_option autoImplicit false

/-!
# What renaming a topic settles

A topic gets another name with other synonyms, with a time range or without one. The three calls
end alike: the row is stored with its new name, or the name is taken and nothing changes. None of
them looks at its deadline or writes to the closure, so that they always come to their end.

The name that a topic had is free for it whatever it is called in between. So a time range that a
topic got can be taken away again, which leaves what there was before.

## Main definitions

* `Program.Unhindered` — a program that neither looks at its deadline nor writes to the closure.
* `Synonyms.cleaned`, `Synonyms.refusals` — the synonyms that are left of those given, and the
  alerts for the others.
* `Memory.Completes` — a call that comes to the same end under all circumstances.
* `Tables.Rewrites` — one topic has another row, and all else is the same.
* `Memory.Renames` — a call stores a row if its name is free, and changes nothing if it is taken.

## Main results

* `Program.Unhindered.run_session` — faults and deadlines do not count for such a program.
* `Synonyms.toList_pushAll_eraseDupsBy` — appending one by one keeps the first of each name.
* `Operation.cleanSynonyms_eq` — what is left of the synonyms that are given.
* `Memory.Reachable.renaming_exact` — what each of the calls settles after every history.
-/

namespace Polyhierarchy

/-! ### Programs that nothing stands in the way of -/

namespace Program

variable {α β : Type}

/-- A program neither looks at its deadline nor writes to the closure. -/
inductive Unhindered : Program α → Prop where
  | done (a : α) : Unhindered (done a)
  | fail (e : EngineError) : Unhindered (fail e)
  | ask {p : String} {r : Request} {k : r.Reply → Program α} :
      Memory.writesClosure r = false → (∀ reply, Unhindered (k reply)) → Unhindered (ask p r k)

lemma unhindered_request {p : String} {r : Request} (h : Memory.writesClosure r = false) :
    @Unhindered r.Reply (request p r) := .ask h .done

lemma Unhindered.bind {m : Program α} {f : α → Program β} (h : m.Unhindered)
    (hf : ∀ a, (f a).Unhindered) : (m >>= f).Unhindered := by
  induction h with
  | done a => exact hf a
  | fail e => exact .fail e
  | ask hread _ ih => exact .ask hread ih

/-- A session runs such a program as `on` does, whatever the deadline is and whichever writes are
made to fail. -/
theorem Unhindered.run {m : Program α} (h : m.Unhindered) (d : Deadline) (s : Memory.Session)
    (mem : Memory) : m.run Memory.store.backend d (s, mem) =
      ((m.on s.tables).1, { s with tables := (m.on s.tables).2 }, mem) := by
  induction h generalizing s with
  | done a => rfl
  | fail e => rfl
  | @ask p r k hread _ ih =>
    have hans : Memory.store.backend.answer r (s, mem) = _ :=
      Memory.answerIn_of_not_writesClosure hread s mem
    rw [Program.run, hans, on_ask]
    rcases Memory.reply r s.tables with ⟨_ | a, t'⟩
    · rfl
    · exact ih a _

/-- **A call that nothing stands in the way of** commits what its program leaves, if it says so, and
otherwise leaves what is committed. -/
theorem Unhindered.run_session {τ : Type} {body : Program (Ending α)} (h : body.Unhindered)
    (titles : TitleSource τ) (d : Deadline) (mem : Memory) (s : τ) :
    (Operation.session body).run Memory.store titles d (mem, s) =
      match body.on mem.tables with
      | (.ok (.commit a), t) => (.ok a, ⟨t, mem.version + 1, mem.writesLeft⟩, s)
      | (.ok (.discard a), _) => (.ok a, mem, s)
      | (.error e, _) => (.error (e.toError Memory.Fault.message), mem, s) := by
  simp only [Operation.run, Memory.hold_store, h.run d mem.begin mem]
  rw [Memory.begin]
  rcases body.on mem.tables with ⟨_ | _ | _, t⟩
  · rfl
  · simp [Memory.commit]
  · rfl

end Program

open Program

/-- Looking up a topic writes nothing. -/
lemma Lookup.unhindered_topic (id : TopicId) : (topic id).Unhindered :=
  (unhindered_request rfl).bind fun
    | some row => .done row
    | none => .fail (.topicNotFound id)

/-- Looking up whether a name is taken writes nothing. -/
lemma Lookup.unhindered_nameClash (row : Topic) : (nameClash row).Unhindered :=
  (unhindered_request rfl).bind fun
    | some _ => .done _
    | none => .done _

/-- The row of a topic is written, but not the closure. -/
lemma Operation.unhindered_saveRenamed (row renamed : Topic) (alerts : List Alert) :
    (saveRenamed row renamed alerts).Unhindered :=
  (Lookup.unhindered_nameClash renamed).bind fun
    | some _ => .done _
    | none => (unhindered_request rfl).bind fun _ => .done _

/-! ### Synonyms -/

/-- A synonym with its name in the form in which names are stored. -/
def Synonym.normalized (x : Synonym) : Synonym := ⟨x.locale, (normalizeName x.name).1⟩

namespace Synonyms

/-- What is left of the synonyms that are given for a topic, in their order: those whose names are
valid, with these in their form, and the first of each name. -/
def cleaned (given : List Synonym) : Synonyms :=
  ⟨((given.filter fun x => (normalizeName x.name).2).map Synonym.normalized).eraseDupsBy
    fun x y => x.name == y.name⟩

/-- The alerts for the synonyms whose names are not valid, in their order. -/
def refusals (given : List Synonym) : List Alert :=
  (given.filter fun x => !(normalizeName x.name).2).map
    fun x => .invalidTopicName (normalizeName x.name).1

/-- **Appending synonyms one by one** appends the first of each name that does not occur yet.

**Proof sketch.** Induction on the synonyms that are appended. One with a new name is the first of
its name, and takes out all later ones, as its name occurs from then on. -/
theorem toList_pushAll_eraseDupsBy (s : Synonyms) (xs : List Synonym) :
    (s.pushAll xs).toList = s.toList ++
      (xs.filter fun x => x.name ∉ s.names).eraseDupsBy fun x y => x.name == y.name := by
  induction xs generalizing s with
  | nil => exact (List.append_nil _).symm
  | cons x xs ih =>
    show ((s.push x).pushAll xs).toList = _
    rw [ih, push]
    by_cases hold : x.name ∈ s.names
    · rw [if_pos (containsName_iff.2 hold), List.filter_cons_of_neg (by simpa using hold)]
    · have hrest : (xs.filter fun y => y.name ∉ names ⟨s.toList ++ [x]⟩) =
          (xs.filter fun y => y.name ∉ s.names).filter fun y => (y.name == x.name) = false := by
        rw [List.filter_filter]
        apply List.filter_congr
        intro y _
        have hmem : y.name ∈ names ⟨s.toList ++ [x]⟩ ↔ y.name = x.name ∨ y.name ∈ s.names := by
          simp [names, or_comm]
        simp [hmem]
      rw [if_neg (fun hmem => hold (containsName_iff.1 hmem)),
        List.filter_cons_of_pos (by simpa using hold), List.eraseDupsBy_cons, hrest,
        List.append_assoc]
      rfl

end Synonyms

/-- Synonyms are appended one by one if they are valid. -/
lemma Operation.cleanSynonyms_eq_pushAll (given : List Synonym) (found : Synonyms) :
    cleanSynonyms given found =
      (found.pushAll ((given.filter fun x => (normalizeName x.name).2).map Synonym.normalized),
        Synonyms.refusals given) := by
  induction given generalizing found with
  | nil => rfl
  | cons x rest ih =>
    rw [cleanSynonyms]
    dsimp only
    cases hvalid : (normalizeName x.name).2 with
    | true =>
      rw [if_pos rfl, ih, Synonyms.refusals, Synonyms.refusals,
        List.filter_cons_of_pos (by simp [hvalid]), List.filter_cons_of_neg (by simp [hvalid])]
      rfl
    | false =>
      rw [if_neg (by simp), ih, Synonyms.refusals, Synonyms.refusals,
        List.filter_cons_of_neg (by simp [hvalid]), List.filter_cons_of_pos (by simp [hvalid])]
      rfl

/-- **What is left of the synonyms that are given**, and the alerts for the others. -/
theorem Operation.cleanSynonyms_eq (given : List Synonym) :
    cleanSynonyms given ∅ = (Synonyms.cleaned given, Synonyms.refusals given) := by
  have hall : ∀ xs : List Synonym,
      (xs.filter fun x => x.name ∉ Synonyms.names ∅) = xs := fun xs =>
    List.filter_eq_self.2 fun _ _ => decide_eq_true List.not_mem_nil
  have hlist := Synonyms.toList_pushAll_eraseDupsBy ∅
    ((given.filter fun x => (normalizeName x.name).2).map Synonym.normalized)
  rw [hall] at hlist
  rw [cleanSynonyms_eq_pushAll]
  exact congrArg (fun l => (Synonyms.mk l, Synonyms.refusals given)) hlist

/-- The second of two synonyms that have the same name in its form is dropped, and so is the URL of
a page. -/
example : (Operation.cleanSynonyms
    [⟨"en", " Old  books"⟩, ⟨"fr", "Old books "⟩, ⟨"en", "http://books.example/"⟩] ∅).1 =
      .ofName "Old books" := by decide +kernel

/-! ### What a renaming leaves -/

/-- A topic that has got its own time range is the same. -/
lemma Topic.WellNamed.withTimeRange_self {row : Topic} (h : row.WellNamed) :
    row.withTimeRange row.timeRange = row := by
  rw [Topic.withTimeRange, Topic.refreshName, ← h.derived]

namespace Tables

/-- One topic has another row, and all else is the same. -/
structure Rewrites (t : Tables) (id : TopicId) (row : Topic) (u : Tables) : Prop where
  /-- The repositories are the same. -/
  repositories : u.repositories = t.repositories
  /-- The links are the same. -/
  links : u.links = t.links
  /-- The edges are the same. -/
  edges : u.edges = t.edges
  /-- The closure is the same. -/
  closure : u.closure = t.closure
  /-- The topic has the row. -/
  stored : u.topics.get? id = some row
  /-- All other topics have the same rows. -/
  topics : ∀ x, x ≠ id → u.topics.get? x = t.topics.get? x

lemma rewrites_insert (t : Tables) (id : TopicId) (row : Topic) :
    t.Rewrites id row { t with topics := t.topics.insert id row } :=
  ⟨rfl, rfl, rfl, rfl, SortedMap.get?_insert_self _ _ _,
    fun _ hx => SortedMap.get?_insert_ne _ _ hx⟩

namespace Rewrites

variable {t u v : Tables} {id : TopicId} {row renamed : Topic}

/-- A topic that has its own row again makes the tables the same as before. -/
lemma undo (h : t.Rewrites id renamed u) (h' : u.Rewrites id row v)
    (hrow : t.topics.get? id = some row) : v = t := by
  have htopics : v.topics = t.topics := by
    ext x : 1
    by_cases hx : x = id
    · rw [hx, h'.stored, hrow]
    · rw [h'.topics x hx, h.topics x hx]
  show Tables.mk v.repositories v.topics v.links v.edges v.closure = t
  rw [htopics, h'.repositories, h.repositories, h'.links, h.links, h'.edges, h.edges, h'.closure,
    h.closure]

/-- A name that is free for a topic is still free when the topic has another row. -/
lemma nameFree (h : t.Rewrites row.id renamed u) (hfree : NameFree t.topics row) :
    NameFree u.topics row := by
  intro x other hother hrepo hname
  by_contra hx
  rw [h.topics x hx] at hother
  exact hx (hfree x other hother hrepo hname)

end Rewrites

end Tables

/-- **A row is stored with its new name exactly if this is free.** -/
lemma WellNamed.on_saveRenamed_eq {t : Tables} (h : WellNamed t.topics)
    (hkeyed : t.topics.KeyedBy Topic.id) {renamed old : Topic}
    (hold : t.topics.get? renamed.id = some old) (row : Topic) (alerts : List Alert) :
    (NameFree t.topics renamed → (Operation.saveRenamed row renamed alerts).on t =
      (.ok (.commit ⟨renamed, alerts⟩),
        { t with topics := t.topics.insert renamed.id renamed })) ∧
    (¬ NameFree t.topics renamed → (Operation.saveRenamed row renamed alerts).on t =
      (.ok (.discard ⟨row, alerts ++ [.duplicateTopicName renamed.name]⟩), t)) := by
  obtain ⟨hfree, htaken⟩ := h.on_nameClash_eq hkeyed renamed
  constructor
  · intro hname
    exact (Operation.saveRenamed_commits hold).2 ⟨hfree hname, rfl, rfl⟩
  · intro hname
    rw [Operation.saveRenamed, on_bind, htaken hname]
    rfl

/-- The program of a call that gives a topic other synonyms: nothing stands in its way, and if one
of the synonyms is valid, it saves the topic with those that are left of them. -/
lemma Operation.exists_updateSynonyms_eq (id : TopicId) (given : List Synonym) :
    ∃ body : Program (Ending (Updated Topic)),
      updateSynonyms id given = .session body ∧ body.Unhindered ∧
      ∀ (t : Tables) (row : Topic), t.topics.get? id = some row →
        ((Synonyms.cleaned given).toList = [] → body.on t =
          (.ok (.discard ⟨row, Synonyms.refusals given ++ [.synonymRequired row.name]⟩), t)) ∧
        ((Synonyms.cleaned given).toList ≠ [] → body.on t =
          (saveRenamed row (row.withSynonyms (Synonyms.cleaned given))
            (Synonyms.refusals given)).on t) := by
  rw [updateSynonyms, cleanSynonyms_eq]
  refine ⟨_, rfl, (Lookup.unhindered_topic id).bind fun row => ?_, fun t row hrow => ?_⟩
  · split
    · exact .done _
    · exact (unhindered_request rfl).bind fun _ => unhindered_saveRenamed _ _ _
  · rw [on_bind, Lookup.on_topic_eq_ok.2 ⟨hrow, rfl⟩]
    dsimp only
    constructor
    · intro hnone
      rw [if_pos (List.isEmpty_iff.2 hnone)]
      rfl
    · intro hvalid
      rw [if_neg (fun hempty => hvalid (List.isEmpty_iff.1 hempty)), Lookup.on_lock]

/-! ### What is settled -/

namespace Memory

variable {α : Type} {mem after : Memory} {row renamed : Topic}

/-- A call comes to the same end under all circumstances: whatever its deadline and its source of
titles are, and whichever writes are made to fail, it returns a value and leaves a store. -/
def Completes (mem : Memory) (op : Operation α) (v : α) (after : Memory) : Prop :=
  ∀ {τ : Type} (titles : TitleSource τ) (s : τ) (d : Deadline),
    op.run store titles d (mem, s) = (.ok v, after, s)

/-- A call that gives a topic another row stores the row if its name is free, and changes nothing if
the name is taken, which the last of its alerts says. -/
structure Renames (mem : Memory) (op : Operation (Updated Topic)) (row renamed : Topic)
    (alerts : List Alert) : Prop where
  /-- If no other topic of the repository has the name, the row is stored. -/
  free : NameFree mem.tables.topics renamed → ∃ t,
    mem.tables.Rewrites row.id renamed t ∧
      mem.Completes op ⟨renamed, alerts⟩ ⟨t, mem.version + 1, mem.writesLeft⟩
  /-- If another topic has the name, nothing changes. -/
  taken : ¬ NameFree mem.tables.topics renamed →
    mem.Completes op ⟨row, alerts ++ [.duplicateTopicName renamed.name]⟩ mem

/-- A call that saves a topic with another row, once it has found what there is to save. -/
lemma renames_of_on {op : Operation (Updated Topic)} {body : Program (Ending (Updated Topic))}
    {alerts : List Alert} (hop : op = .session body) (hcoherent : mem.tables.Coherent)
    (hnamed : WellNamed mem.tables.topics) (hrow : mem.tables.topics.get? row.id = some row)
    (hid : renamed.id = row.id) (hquiet : body.Unhindered)
    (hbody : body.on mem.tables =
      (Operation.saveRenamed row renamed alerts).on mem.tables) :
    mem.Renames op row renamed alerts := by
  subst hop
  obtain ⟨hfree, htaken⟩ := hnamed.on_saveRenamed_eq hcoherent.keyed.topics (hid ▸ hrow) row alerts
  constructor
  · intro hname
    refine ⟨_, mem.tables.rewrites_insert row.id renamed, fun titles s d => ?_⟩
    rw [hquiet.run_session, hbody, hfree hname, hid]
  · intro hname τ titles s d
    rw [hquiet.run_session, hbody, htaken hname]

/-- What other synonyms settle, if one of them is valid. -/
lemma renames_updateSynonyms (hcoherent : mem.tables.Coherent)
    (hnamed : WellNamed mem.tables.topics) (hrow : mem.tables.topics.get? row.id = some row)
    {given : List Synonym} (hvalid : (Synonyms.cleaned given).toList ≠ []) :
    mem.Renames (Operation.updateSynonyms row.id given) row
      (row.withSynonyms (Synonyms.cleaned given)) (Synonyms.refusals given) := by
  obtain ⟨body, hop, hquiet, hbody⟩ := Operation.exists_updateSynonyms_eq row.id given
  exact renames_of_on hop hcoherent hnamed hrow rfl hquiet ((hbody _ _ hrow).2 hvalid)

/-- If none of the synonyms that are given is valid, nothing changes. -/
lemma completes_updateSynonyms (hrow : mem.tables.topics.get? row.id = some row)
    {given : List Synonym} (hnone : (Synonyms.cleaned given).toList = []) :
    mem.Completes (Operation.updateSynonyms row.id given)
      ⟨row, Synonyms.refusals given ++ [.synonymRequired row.name]⟩ mem := by
  obtain ⟨body, hop, hquiet, hbody⟩ := Operation.exists_updateSynonyms_eq row.id given
  intro τ titles s d
  rw [hop, hquiet.run_session, (hbody _ _ hrow).1 hnone]

/-- What another time range settles. -/
lemma renames_changeTimeRange (hcoherent : mem.tables.Coherent)
    (hnamed : WellNamed mem.tables.topics) (hrow : mem.tables.topics.get? row.id = some row)
    (range : Option TimeRange) :
    mem.Renames (Operation.changeTimeRange row.id range) row (row.withTimeRange range) [] := by
  refine renames_of_on rfl hcoherent hnamed hrow rfl ?_ ?_
  · exact (Lookup.unhindered_topic row.id).bind fun _ =>
      (unhindered_request rfl).bind fun _ => Operation.unhindered_saveRenamed _ _ _
  · rw [on_bind, Lookup.on_topic_eq_ok.2 ⟨hrow, rfl⟩]
    rfl

/-- A time range that a topic got is taken away again, which leaves what there was before.

**Proof sketch.** The topic would get its own row again. No other topic of the repository had its
name before, and the other topics have the rows that they had. -/
lemma Reachable.deleteTimeRange_restores (h : mem.Reachable)
    (hrow : mem.tables.topics.get? row.id = some row) (hrange : row.timeRange = none)
    (range : TimeRange) (hfree : NameFree mem.tables.topics (row.withTimeRange (some range))) :
    ∃ mid after : Memory,
      mem.Completes (Operation.setTimeRange row.id range)
        ⟨row.withTimeRange (some range), []⟩ mid ∧
      mid.Completes (Operation.deleteTimeRange row.id) ⟨row, []⟩ after ∧
      after.tables = mem.tables ∧ after.version = mem.version + 2 := by
  have hset := renames_changeTimeRange h.coherent h.wellNamed hrow (some range)
  obtain ⟨t, hrewrites, hcompletes⟩ := hset.free hfree
  have hmid : (⟨t, mem.version + 1, mem.writesLeft⟩ : Memory).Reachable :=
    h.of_run (m := .setTimeRange row.id range) trivial (hcompletes TitleSource.silent () .never)
  have hstored : t.topics.get? (row.withTimeRange (some range)).id =
      some (row.withTimeRange (some range)) := hrewrites.stored
  have hback : (row.withTimeRange (some range)).withTimeRange none = row := by
    have hself := (h.wellNamed.wellNamed _ _ hrow).withTimeRange_self
    rwa [hrange] at hself
  have hdelete := renames_changeTimeRange hmid.coherent hmid.wellNamed hstored none
  rw [hback] at hdelete
  obtain ⟨u, hrewrites', hcompletes'⟩ :=
    hdelete.free (hrewrites.nameFree (h.wellNamed.nameFree hrow))
  exact ⟨_, _, hcompletes, hcompletes', hrewrites.undo hrewrites' hrow, rfl⟩

/-- **What renaming a topic settles after every history.** A topic that is given synonyms keeps of
them those that are valid, in their form and the first of each name; if none is left, nothing
changes. Otherwise, and if it is given a time range or is to be without one, its row with the name
that it has then is stored if no other topic of the repository has that name; if one has, nothing
changes. A time range that a topic without one got can be taken away again, and leaves what there
was before. -/
theorem Reachable.renaming_exact (h : mem.Reachable) {id : TopicId}
    (hrow : mem.tables.topics.get? id = some row) :
    (∀ given : List Synonym,
      ((Synonyms.cleaned given).toList = [] →
        mem.Completes (Operation.updateSynonyms id given)
          ⟨row, Synonyms.refusals given ++ [.synonymRequired row.name]⟩ mem) ∧
      ((Synonyms.cleaned given).toList ≠ [] →
        mem.Renames (Operation.updateSynonyms id given) row
          { row with
            synonyms := Synonyms.cleaned given
            name := deriveName (Synonyms.cleaned given) row.timeRange }
          (Synonyms.refusals given))) ∧
    (∀ range : TimeRange,
      mem.Renames (Operation.setTimeRange id range) row
        { row with timeRange := some range, name := deriveName row.synonyms (some range) } []) ∧
    mem.Renames (Operation.deleteTimeRange id) row
      { row with timeRange := none, name := deriveName row.synonyms none } [] ∧
    (∀ range : TimeRange, row.timeRange = none →
      NameFree mem.tables.topics
        { row with timeRange := some range, name := deriveName row.synonyms (some range) } →
      ∃ mid after : Memory,
        mem.Completes (Operation.setTimeRange id range)
          ⟨{ row with timeRange := some range, name := deriveName row.synonyms (some range) }, []⟩
          mid ∧
        mid.Completes (Operation.deleteTimeRange id) ⟨row, []⟩ after ∧
        after.tables = mem.tables ∧ after.version = mem.version + 2) := by
  obtain rfl : row.id = id := h.coherent.keyed.topics id row hrow
  exact ⟨fun _ => ⟨completes_updateSynonyms hrow,
      renames_updateSynonyms h.coherent h.wellNamed hrow⟩,
    fun range => renames_changeTimeRange h.coherent h.wellNamed hrow (some range),
    renames_changeTimeRange h.coherent h.wellNamed hrow none,
    fun range hrange => h.deleteTimeRange_restores hrow hrange range⟩

/-- The second topic of the chain cannot get the name of the first. It can be labelled with a year,
and the label can be taken away again. -/
theorem renaming_exact_chain : ∃ row mid after,
    chain.tables.topics.get? ⟨⟨3⟩⟩ = some row ∧ row.name = "Diaries" ∧
      chain.Completes (Operation.updateSynonyms ⟨⟨3⟩⟩ [.ofName " Novels ", .ofName ""])
        ⟨row, [.invalidTopicName "", .duplicateTopicName "Novels"]⟩ chain ∧
      (∃ renamed, renamed.name = "1970 Diaries" ∧
        chain.Completes (Operation.setTimeRange ⟨⟨3⟩⟩ ⟨default, none, .startYear⟩)
          ⟨renamed, []⟩ mid) ∧
      mid.Completes (Operation.deleteTimeRange ⟨⟨3⟩⟩) ⟨row, []⟩ after ∧
      after.tables = chain.tables ∧ after.version = chain.version + 2 := by
  have hthird : (chain.tables.topics.get? ⟨⟨3⟩⟩).map
      (fun row => (row.id, row.repository, row.name, row.synonyms, row.timeRange)) =
        some (⟨⟨3⟩⟩, ⟨⟨1⟩⟩, "Diaries", .ofName "Diaries", none) := by decide +kernel
  have hsecond : (chain.tables.topics.get? ⟨⟨2⟩⟩).map (fun row => (row.repository, row.name)) =
      some (⟨⟨1⟩⟩, "Novels") := by decide +kernel
  have hnames : ∀ other ∈ chain.tables.topics.values, other.name ≠ "1970 Diaries" := by
    decide +kernel
  have hcleaned : Synonyms.cleaned [.ofName " Novels ", .ofName ""] = .ofName "Novels" := by
    decide +kernel
  have hrefused : Synonyms.refusals [.ofName " Novels ", .ofName ""] =
      [.invalidTopicName ""] := by decide +kernel
  obtain ⟨row, hrow, heq⟩ := Option.map_eq_some_iff.1 hthird
  obtain ⟨novels, hnovels, heq'⟩ := Option.map_eq_some_iff.1 hsecond
  simp only [Prod.mk.injEq] at heq heq'
  obtain ⟨hid, hrepo, hname, hsynonyms, hrange⟩ := heq
  obtain ⟨hsynonymsCall, -, -, hrestores⟩ := reachable_chain.renaming_exact hrow
  have hrename := (hsynonymsCall [.ofName " Novels ", .ofName ""]).2 (by rw [hcleaned]; decide)
  rw [hcleaned, hrefused, hrange] at hrename
  have htaken : ¬ NameFree chain.tables.topics
      { row with synonyms := .ofName "Novels", name := deriveName (.ofName "Novels") none } :=
    fun hfree => absurd (hfree ⟨⟨2⟩⟩ novels hnovels (heq'.1.trans hrepo.symm) heq'.2)
      (by rw [hid]; decide)
  have hlabel : deriveName row.synonyms (some ⟨default, none, .startYear⟩) = "1970 Diaries" := by
    rw [hsynonyms]
    decide +kernel
  obtain ⟨mid, after, hset, hdelete, htables, hversion⟩ :=
    hrestores ⟨default, none, .startYear⟩ hrange fun x other hother _ hlabelled =>
      absurd (hlabelled.trans hlabel) (hnames other (SortedMap.mem_values_iff.2 ⟨x, hother⟩))
  exact ⟨row, mid, after, hrow, hname, hrename.taken htaken, ⟨_, hlabel, hset⟩, hdelete, htables,
    hversion⟩

end Memory

end Polyhierarchy

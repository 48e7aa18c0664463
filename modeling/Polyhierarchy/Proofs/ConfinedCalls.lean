import Polyhierarchy.Operation.Links
import Polyhierarchy.Operation.Reading
import Polyhierarchy.Proofs.Confinement

set_option relaxedAutoImplicit false
set_option autoImplicit false

/-!
# Programs confined to a repository

A program is confined to a repository if each of its requests reads and changes only what belongs to
it, so that two runs on tables that agree there do alike. Requests that name nodes of the repository
only are confined, and so is what is put together from them. A caller may name any topics as
parents, as the target of a merge, or in a query. Those of other repositories are found, but then
they are treated as the missing ones are.

## Main definitions

* `Program.Confined` — whether a program is confined to the nodes of a repository.

## Main results

* `Program.Confined.bind`, `Program.Confined.forEach` — how confined programs are put together.
* `Program.Confined.request` — when a request is confined.
* `Lookup.topicsOf_confined` — the look-up of the topics that a caller names is confined, whatever
  the caller names.
* `Operation.upsertTopic_confined` and its like for each operation — the sessions of calls on a
  repository, or on a topic or a link of it, are confined to it.
-/

namespace Polyhierarchy

open Tables (Twins)

/-! ### Confined programs -/

namespace Program

variable {α β γ : Type} {r : RepositoryId} {N : Node → Prop} {P : α → Prop} {Q : β → Prop}
  {m : Program α}

/-- A program is confined to the nodes of a repository: two runs on tables that agree on them do
alike, agree on them afterwards, and change nothing else. The values that it comes to have some
property. -/
def Confined (r : RepositoryId) (N : Node → Prop) (P : α → Prop) (m : Program α) : Prop :=
  ∀ t₀ t u, Twins r N t₀ t u → Alike (fun a t u => P a ∧ Twins r N t₀ t u) m t m u

namespace Confined

lemma done {a : α} (h : P a) : (done a).Confined r N P := fun _ _ _ ht => .done ⟨h, ht⟩

lemma fail {e : EngineError} : (fail e).Confined r N P := fun _ _ _ _ => .fail

lemma lookAt {p : String} : (lookAt p).Confined r N fun _ => True :=
  fun _ _ _ ht => .look (.done ⟨trivial, ht⟩)

lemma bind {f : α → Program β} (h : m.Confined r N P)
    (hf : ∀ a, P a → (f a).Confined r N Q) : (m >>= f).Confined r N Q := fun t₀ t u ht =>
  (h t₀ t u ht).bind fun a t u hr => hf a hr.1 t₀ t u hr.2

lemma forEach {f : γ → Program Unit} {l : List γ}
    (h : ∀ c ∈ l, (f c).Confined r N fun _ => True) :
    (forEach f l).Confined r N fun _ => True := by
  induction l with
  | nil => exact .done trivial
  | cons c l ih =>
    exact .bind (h c List.mem_cons_self) fun _ _ => ih fun d hd => h d (List.mem_cons_of_mem c hd)

/-- **A request is confined** if it has the same reply in both runs and changes only what belongs to
the repository. -/
lemma request {p : String} {q : Request} {P : q.Reply → Prop} {f : Tables → q.Reply}
    {g : Tables → Tables} (hq : ∀ t, Memory.reply q t = (.ok (f t), g t))
    (hg : Tables.LocalEdit r N g)
    (hf : ∀ t₀ t u, Twins r N t₀ t u → f t = f u ∧ P (f t)) :
    @Confined (no_index q.Reply) r N P (request p q) := by
  intro t₀ t u ht
  obtain ⟨heq, hP⟩ := hf t₀ t u ht
  exact .ask (hq t) (hq u) (heq ▸ .done ⟨hP, ht.edit hg⟩)

/-! ### Requests that read -/

/-- A request that has the same reply in both runs and changes nothing is confined. -/
lemma read {p : String} {q : Request} {P : q.Reply → Prop} {f : Tables → q.Reply}
    (hq : ∀ t, Memory.reply q t = (.ok (f t), t))
    (hf : ∀ t₀ t u, Twins r N t₀ t u → f t = f u ∧ P (f t)) :
    @Confined (no_index q.Reply) r N P (Program.request p q) := request hq .none hf

lemma lock {p : String} {b : RepositoryId} :
    (Program.request p (.lockRepository b)).Confined r N fun _ => True :=
  read (fun _ => rfl) fun _ _ _ _ => ⟨rfl, trivial⟩

lemma topic {p : String} {x : TopicId} (hx : N (.topic x)) :
    (Program.request p (.topic x)).Confined r N fun o =>
      ∀ row, o = some row → N (.topic row.id) ∧ row.repository = r :=
  read (q := .topic x) (fun _ => rfl) fun _ _ _ ht =>
    ⟨ht.inside.topics x hx, fun _ => ht.topic hx⟩

lemma link {p : String} {l : LinkId} (hl : N (.link l)) :
    (Program.request p (.link l)).Confined r N fun o =>
      ∀ row, o = some row → N (.link row.id) ∧ row.repository = r :=
  read (q := .link l) (fun _ => rfl) fun _ _ _ ht => ⟨ht.inside.links l hl, fun _ => ht.link hl⟩

lemma repository {p : String} :
    (Program.request p (.repository r)).Confined r N fun o => ∀ row, o = some row → row.id = r :=
  read (q := .repository r) (fun _ => rfl) fun _ _ _ ht =>
    ⟨ht.inside.repositories r rfl, ht.left.keyed.repositories r⟩

lemma topicNamed {p : String} {b : RepositoryId} {name : String} (hb : b = r) :
    (Program.request p (.topicNamed b name)).Confined r N fun _ => True :=
  read (fun _ => rfl) fun _ _ _ ht => ⟨hb ▸ ht.topicNamed_eq name, trivial⟩

lemma parents {p : String} {n : Node} (hn : N n) :
    (Program.request p (.parents n)).Confined r N fun ids => ∀ id ∈ ids, N (.topic id) :=
  read (fun _ => rfl) fun _ _ _ ht =>
    ⟨congrArg _ (ht.left.edges.column_eq ht.right.edges ht.inside.edges hn),
      fun _ => ht.left.edges.of_mem_column hn⟩

lemma children {p : String} {x : TopicId} (hx : N (.topic x)) :
    (Program.request p (.children x)).Confined r N fun nodes => ∀ n ∈ nodes, N n :=
  read (fun _ => rfl) fun _ _ _ ht =>
    ⟨congrArg _ (ht.inside.edges x hx), fun n hn => (ht.left.edges x n hn).1 hx⟩

lemma reachable {p : String} {x : TopicId} (hx : N (.topic x)) :
    (Program.request p (.reachable x)).Confined r N fun nodes => ∀ n ∈ nodes, N n :=
  read (fun _ => rfl) fun _ _ _ ht => ⟨ht.below_eq hx, fun _ => ht.of_mem_below hx⟩

lemma descendants {p : String} {x : TopicId} (hx : N (.topic x)) :
    (Program.request p (.descendants x)).Confined r N fun _ => True :=
  read (fun _ => rfl) fun _ _ _ ht => ⟨ht.inside.closure x hx, trivial⟩

lemma ancestors {p : String} {n : Node} (hn : N n) :
    (Program.request p (.ancestors n)).Confined r N fun ids => ∀ id ∈ ids, N (.topic id) :=
  read (fun _ => rfl) fun _ _ _ ht =>
    ⟨ht.left.closure.column_eq ht.right.closure ht.inside.closure hn,
      fun _ => ht.left.closure.of_mem_column hn⟩

lemma searchTopics {p : String} {scope : Scope} (hroot : N (.topic scope.root)) :
    (Program.request p (.searchTopics scope)).Confined r N fun _ => True :=
  read (fun _ => rfl) fun _ _ _ ht => ⟨ht.searchTopics_eq hroot, trivial⟩

lemma searchLinks {p : String} {scope : Scope} (hroot : N (.topic scope.root)) :
    (Program.request p (.searchLinks scope)).Confined r N fun _ => True :=
  read (fun _ => rfl) fun _ _ _ ht => ⟨ht.searchLinks_eq hroot, trivial⟩

lemma matchTopics {p : String} {q : Query} {limit : Nat} :
    (Program.request p (.matchTopics r q limit)).Confined r N fun _ => True :=
  read (fun _ => rfl) fun _ _ _ ht => ⟨ht.matchTopics_eq q limit, trivial⟩

/-! ### Requests that write -/

lemma insertRepository {p : String} {row : Repository} (hrow : row.id = r) :
    (Program.request p (.insertRepository row)).Confined r N fun _ => True :=
  request (fun _ => rfl) (.putRepository hrow) fun _ _ _ _ => ⟨rfl, trivial⟩

lemma deleteTopic {p : String} {x : TopicId} (hx : N (.topic x)) :
    (Program.request p (.deleteTopic x)).Confined r N fun _ => True :=
  request (fun _ => rfl) (.dropTopic hx) fun _ _ _ _ => ⟨rfl, trivial⟩

lemma deleteLink {p : String} {l : LinkId} (hl : N (.link l)) :
    (Program.request p (.deleteLink l)).Confined r N fun _ => True :=
  request (fun _ => rfl) (.dropLink hl) fun _ _ _ _ => ⟨rfl, trivial⟩

lemma insertEdge {p : String} {e : Edge} (hp : N (.topic e.parent)) (hc : N e.child) :
    (Program.request p (.insertEdge e)).Confined r N fun _ => True :=
  request (fun _ => rfl) (.edges (.insert hp hc)) fun _ _ _ ht =>
    ⟨by simp only [SortedRel.holds, ht.inside.edges _ hp], trivial⟩

lemma deleteEdge {p : String} {e : Edge} (hp : N (.topic e.parent)) :
    (Program.request p (.deleteEdge e)).Confined r N fun _ => True :=
  request (fun _ => rfl) (.edges (.erase hp)) fun _ _ _ ht =>
    ⟨by simp only [SortedRel.holds, ht.inside.edges _ hp], trivial⟩

lemma replaceDescendants {p : String} {x : TopicId} {nodes : SortedSet Node}
    (hx : N (.topic x)) (hnodes : ∀ n ∈ nodes, N n) :
    (Program.request p (.replaceDescendants x nodes)).Confined r N fun _ => True :=
  request (fun _ => rfl) (.closure (.editRow hx (g := fun _ => nodes) fun _ _ => hnodes))
    fun _ _ _ _ => ⟨rfl, trivial⟩

lemma purge {p : String} {n : Node} (hn : N n) :
    (Program.request p (.purge n)).Confined r N fun _ => True :=
  request (fun _ => rfl) (.purge hn) fun _ _ _ _ => ⟨rfl, trivial⟩

/-- The row that an insertion ends with is one of the repository, whether it is new or not. -/
lemma insertTopic {p : String} (row : Topic) (hid : N (.topic row.id))
    (hrow : row.repository = r) :
    (Program.request p (.insertTopic row)).Confined r N fun inserted =>
      N (.topic inserted.row.id) := by
  refine request (f := fun t => (Memory.insertTopic t row).1) (fun _ => rfl)
    (.insertTopic hid hrow) fun t₀ t u ht => ?_
  have hnamed := ht.topicNamed_eq row.name
  rw [← hrow] at hnamed
  simp only [Memory.insertTopic, ← hnamed]
  cases hold : t.topicNamed row.repository row.name with
  | none => exact ⟨rfl, hid⟩
  | some old =>
    refine ⟨rfl, ?_⟩
    obtain ⟨x, hx⟩ := SortedMap.mem_values_iff.1 (List.mem_of_find?_eq_some hold)
    have hrepo := List.find?_some hold
    simp only [Bool.and_eq_true, beq_iff_eq] at hrepo
    exact (ht.topic ((ht.left.topics x old hx).2 (hrepo.1.trans hrow)) hx).1

/-- The row that an insertion ends with is one of the repository, whether it is new or not. -/
lemma insertLink {p : String} (row : Link) (hid : N (.link row.id))
    (hrow : row.repository = r) :
    (Program.request p (.insertLink row)).Confined r N fun inserted =>
      N (.link inserted.row.id) := by
  refine request (f := fun t => (Memory.insertLink t row).1) (fun _ => rfl)
    (.insertLink hid hrow) fun t₀ t u ht => ?_
  have hhashed := ht.linkHashed_eq row.urlHash
  rw [← hrow] at hhashed
  simp only [Memory.insertLink, ← hhashed]
  cases hold : t.linkHashed row.repository row.urlHash with
  | none => exact ⟨rfl, hid⟩
  | some old =>
    refine ⟨rfl, ?_⟩
    obtain ⟨x, hx⟩ := SortedMap.mem_values_iff.1 (List.mem_of_find?_eq_some hold)
    have hrepo := List.find?_some hold
    simp only [Bool.and_eq_true, beq_iff_eq] at hrepo
    exact (ht.link ((ht.left.links x old hx).2 (hrepo.1.trans hrow)) hx).1

/-- An update of a topic that is missing fails in both runs. -/
lemma updateTopic {p : String} {row : Topic} (hid : N (.topic row.id))
    (hrow : row.repository = r) :
    (Program.request p (.updateTopic row)).Confined r N fun _ => True := by
  intro t₀ t u ht
  have hsame := ht.inside.topics row.id hid
  have hmissing : ∀ {t : Tables}, t.topics.get? row.id = none →
      Memory.reply (.updateTopic row) t = (.error (.noSuchTopic row.id), t) := fun h => by
    simp only [Memory.reply, Memory.answer, h]
  have hstored : ∀ {t : Tables} {old : Topic}, t.topics.get? row.id = some old →
      Memory.reply (.updateTopic row) t =
        (.ok (), { t with topics := t.topics.insert row.id row }) := fun h => by
    simp only [Memory.reply, Memory.answer, h, Memory.Working.edit]
  cases hold : t.topics.get? row.id with
  | none => exact .refused (hmissing hold) (hmissing (hsame ▸ hold))
  | some old =>
    exact .ask (hstored hold) (hstored (hsame ▸ hold))
      (.done ⟨trivial, ht.edit (.putTopic hid hrow)⟩)

/-- An update of a link that is missing fails in both runs. -/
lemma updateLink {p : String} {row : Link} (hid : N (.link row.id)) :
    (Program.request p (.updateLink row)).Confined r N fun _ => True := by
  intro t₀ t u ht
  have hsame := ht.inside.links row.id hid
  have hmissing : ∀ {t : Tables}, t.links.get? row.id = none →
      Memory.reply (.updateLink row) t = (.error (.noSuchLink row.id), t) := fun h => by
    simp only [Memory.reply, Memory.answer, h]
  have hstored : ∀ {t : Tables} {old : Link}, t.links.get? row.id = some old →
      Memory.reply (.updateLink row) t = (.ok (),
        { t with links := t.links.insert row.id { old with title := row.title } }) := fun h => by
    simp only [Memory.reply, Memory.answer, h, Memory.Working.edit]
  cases hold : t.links.get? row.id with
  | none => exact .refused (hmissing hold) (hmissing (hsame ▸ hold))
  | some old =>
    have hput : Tables.LocalEdit r N fun t : Tables =>
        { t with links := t.links.insert row.id { old with title := row.title } } := by
      rw [← ht.left.keyed.links _ old hold]
      have hold' := ht.link hid hold
      exact .putLink { old with title := row.title } hold'.1 hold'.2
    exact .ask (hstored hold) (hstored (hsame ▸ hold)) (.done ⟨trivial, ht.edit hput⟩)

end Confined

end Program

variable {r : RepositoryId} {N : Node → Prop}

/-! ### The closure -/

namespace Closure

lemma affected_confined {x : TopicId} (hx : N (.topic x)) :
    (affected x).Confined r N fun ids => ∀ id ∈ ids, N (.topic id) :=
  .bind (.ancestors hx) fun _ habove => .done fun _ hid =>
    (SortedSet.mem_insert.1 hid).elim (fun h => h ▸ hx) (habove _)

lemma recomputeEach_confined {l : List TopicId} (hl : ∀ x ∈ l, N (.topic x)) :
    (recomputeEach l).Confined r N fun _ => True := by
  induction l with
  | nil => exact .done trivial
  | cons x l ih =>
    have hx := hl x List.mem_cons_self
    refine .bind .lookAt fun _ _ => .bind (.reachable hx) fun nodes hnodes =>
      .bind (.replaceDescendants hx hnodes) fun _ _ => .bind (ih fun y hy => ?_) fun _ _ =>
        .done trivial
    exact hl y (List.mem_cons_of_mem x hy)

lemma addEdge_confined {e : Edge} (hp : N (.topic e.parent)) (hc : N e.child) :
    (addEdge e).Confined r N fun _ => True := by
  refine .bind (.insertEdge hp hc) fun isNew _ => ?_
  cases isNew with
  | false => exact .done trivial
  | true =>
    exact .bind (affected_confined hp) fun _ hids =>
      .bind (recomputeEach_confined hids) fun _ _ => .done trivial

lemma removeEdge_confined {e : Edge} (hp : N (.topic e.parent)) :
    (removeEdge e).Confined r N fun _ => True := by
  refine .bind (affected_confined hp) fun _ hids => .bind (.deleteEdge hp) fun isOld _ => ?_
  cases isOld with
  | false => exact .done trivial
  | true => exact .bind (recomputeEach_confined hids) fun _ _ => .done trivial

lemma splice_confined {x : TopicId} {onto : SortedSet TopicId} (hx : N (.topic x))
    (honto : ∀ p ∈ onto, N (.topic p)) : (splice x onto).Confined r N fun _ => True := by
  refine .bind (.children hx) fun nodes hnodes => .bind (.forEach fun c hc => ?_) fun _ _ =>
    .done trivial
  have hinsert : (Program.forEach (fun p => do
      let _ ← Program.request "splice edge" (.insertEdge ⟨p, c⟩)) onto.toList).Confined r N
        fun _ => True :=
    .forEach fun p hp => .bind (.insertEdge (honto p hp) (hnodes c hc)) fun _ _ => .done trivial
  exact .bind hinsert fun _ _ => .bind (.deleteEdge hx) fun _ _ => .done trivial

lemma detach_confined {n : Node} (hn : N n) : (detach n).Confined r N fun _ => True := by
  refine .bind (.ancestors hn) fun above habove => .bind (.parents hn) fun ids hids =>
    .bind (.forEach fun p hp => .bind (.deleteEdge (hids p hp)) fun _ _ => .done trivial)
      fun _ _ => .bind (.purge hn) fun _ _ => ?_
  cases n with
  | topic x => exact .bind (recomputeEach_confined habove) fun _ _ => .done trivial
  | link l => exact .done trivial

end Closure

/-! ### Look-ups -/

namespace Lookup

lemma topic_confined {x : TopicId} (hx : N (.topic x)) :
    (topic x).Confined r N fun row => N (.topic row.id) ∧ row.repository = r := by
  refine .bind (.topic hx) fun o ho => ?_
  cases o with
  | none => exact .fail
  | some row => exact .done (ho row rfl)

lemma link_confined {l : LinkId} (hl : N (.link l)) :
    (link l).Confined r N fun row => N (.link row.id) ∧ row.repository = r := by
  refine .bind (.link hl) fun o ho => ?_
  cases o with
  | none => exact .fail
  | some row => exact .done (ho row rfl)

lemma repository_confined : (repository r).Confined r N fun row => row.id = r := by
  refine .bind .repository fun o ho => ?_
  cases o with
  | none => exact .fail
  | some row => exact .done (ho row rfl)

/-- **The look-up of the topics that a caller names is confined, whatever the caller names.** The
rows that the two runs read may differ in topics of other repositories. But the first topic that is
not of the repository is the same in both, and if there is none the rows are the same.

**Proof sketch.** Which topics are of the repository is the same in both runs. If all are, their
rows are read alike. -/
theorem topicsOf_confined {ids : SortedSet TopicId} :
    (topicsOf r ids).Confined r N fun rows => ∀ row ∈ rows, N (.topic row.id) := by
  intro t₀ t u ht
  have hfind : ids.toList.find? (fun id => !isAmong (t.topicsOf ids.toList) r id) =
      ids.toList.find? fun id => !isAmong (u.topicsOf ids.toList) r id := by
    rw [← List.head?_filter, ← List.head?_filter]
    refine congrArg _ (List.filter_congr fun id hid => ?_)
    rw [Bool.eq_iff_iff.2 ((isAmong_topicsOf_iff ht.left.keyed hid).trans
      (ht.isTopicOf_iff.trans (isAmong_topicsOf_iff ht.right.keyed hid).symm))]
  refine .ask (a := t.topicsOf ids.toList) (b := u.topicsOf ids.toList) rfl rfl ?_
  simp only [Program.bind, ← hfind]
  cases hmissing : ids.toList.find? fun id => !isAmong (t.topicsOf ids.toList) r id with
  | some id => exact .fail
  | none =>
    have hall : ∀ id ∈ ids, t.IsTopicOf r id := fun id hid => by
      rw [← isAmong_topicsOf_iff ht.left.keyed hid]
      simpa using List.find?_eq_none.1 hmissing id hid
    have hin : ∀ id ∈ ids, N (.topic id) := fun id hid => by
      obtain ⟨row, hrow, hr⟩ := hall id hid
      exact (ht.left.topics id row hrow).2 hr
    have hrows : t.topicsOf ids.toList = u.topicsOf ids.toList := by
      simp only [Tables.topicsOf, SortedSet.ofList_toList]
      exact List.filterMap_congr fun id hid => ht.inside.topics id (hin id hid)
    rw [← hrows]
    refine .done ⟨fun row hrow => ?_, ht⟩
    obtain ⟨id, hid, hrow⟩ := Tables.mem_topicsOf.1 hrow
    exact (ht.topic (hin id hid) hrow).1

lemma parents_confined {owner : Repository} (ho : owner.id = r) (ids : List TopicId) :
    (parents owner ids).Confined r N fun rows => ∀ row ∈ rows, N (.topic row.id) := by
  rw [parents, ho]
  exact topicsOf_confined

lemma nameClash_confined {row : Topic} (hrow : row.repository = r) :
    (nameClash row).Confined r N fun _ => True := by
  refine .bind (.topicNamed hrow) fun o _ => ?_
  cases o with
  | none => exact .done trivial
  | some other => exact .done trivial

end Lookup

/-! ### Operations -/

namespace Operation

/-- The sessions of an operation are confined to the nodes of a repository. -/
def Confined {α : Type} (r : RepositoryId) (N : Node → Prop) (op : Operation α) : Prop :=
  op.EachSession fun body => body.Confined r N fun _ => True

lemma createRepository_confined {name : String} {root : TopicId} {now : Instant}
    (hroot : N (.topic root)) : (createRepository name r root now).Confined r N :=
  .bind (.insertRepository rfl) fun _ _ =>
    .bind (.insertTopic (Topic.newRoot root r now) hroot rfl) fun _ _ => .done trivial

lemma addParents_confined {n : Node} {ps : List TopicId} (hn : N n)
    (hps : ∀ p ∈ ps, N (.topic p)) : (addParents n ps).Confined r N fun _ => True :=
  .forEach fun p hp => .bind (Closure.addEdge_confined (hps p hp) hn) fun _ _ => .done trivial

lemma removeParents_confined {n : Node} {ps : SortedSet TopicId}
    (hps : ∀ p ∈ ps, N (.topic p)) : (removeParents n ps).Confined r N fun _ => True :=
  .forEach fun p hp => .bind (Closure.removeEdge_confined (hps p hp)) fun _ _ => .done trivial

/-- The identifiers of rows of the repository. -/
lemma map_id_confined {rows : List Topic} (h : ∀ row ∈ rows, N (.topic row.id)) :
    ∀ p ∈ rows.map (·.id), N (.topic p) := by
  intro p hp
  obtain ⟨row, hrow, rfl⟩ := List.mem_map.1 hp
  exact h row hrow

lemma upsertTopic_confined {name : String} {description : Option String}
    {parentIds : List TopicId} {id : TopicId} {now : Instant} (hid : N (.topic id)) :
    (upsertTopic r name description parentIds id now).Confined r N := by
  rw [upsertTopic]
  rcases normalizeName name with ⟨n, _ | _⟩
  · trivial
  · refine .bind .lock fun _ _ => .bind Lookup.repository_confined fun owner ho =>
      .bind (Lookup.parents_confined ho parentIds) fun rows hrows =>
        .bind (.insertTopic (Topic.new id owner.id (.ofName n) description now) hid ho)
          fun inserted hinserted => ?_
    split
    · exact .bind (addParents_confined hinserted (map_id_confined hrows)) fun _ _ => .done trivial
    · exact .done trivial

lemma check_confined {row parent : Topic} (hrow : N (.topic row.id)) :
    (CycleGuard.check row parent).Confined r N fun _ => True := by
  refine .bind (P := fun _ => True) ?_ fun _ _ => .done trivial
  rw [CycleGuard.wouldCreateCycle]
  split
  · exact .done trivial
  · exact .bind (P := fun _ => True)
      (.bind (.descendants hrow) fun _ _ => .done trivial) fun _ _ => .done trivial

lemma offerParents_confined {row : Topic} {current : SortedSet TopicId} {rows : List Topic}
    (hrow : N (.topic row.id)) (hrows : ∀ p ∈ rows, N (.topic p.id)) :
    (offerParents row current rows).Confined r N fun _ => True := by
  induction rows with
  | nil => exact .done trivial
  | cons p rows ih =>
    have hp := hrows p List.mem_cons_self
    have hrest := ih fun q hq => hrows q (List.mem_cons_of_mem p hq)
    rw [offerParents]
    split
    · exact .bind hrest fun _ _ => .done trivial
    · refine .bind (check_confined hrow) fun alert _ => ?_
      cases alert with
      | some alert => exact .bind hrest fun _ _ => .done trivial
      | none =>
        exact .bind (Closure.addEdge_confined hp hrow) fun _ _ =>
          .bind hrest fun _ _ => .done trivial

lemma movableTopic_confined {x : TopicId} {attempt : String} (hx : N (.topic x)) :
    (movableTopic x attempt).Confined r N fun row =>
      N (.topic row.id) ∧ row.repository = r := by
  refine .bind (Lookup.topic_confined hx) fun row hrow => ?_
  split
  · exact .fail
  · exact .done hrow

lemma updateParents_confined {x : TopicId} {parentIds : List TopicId} (hx : N (.topic x)) :
    (updateParents x parentIds).Confined r N := by
  refine .bind (movableTopic_confined hx) fun row ⟨hid, hrow⟩ => .bind .lock fun _ _ => ?_
  rw [hrow]
  refine .bind Lookup.topicsOf_confined fun rows hrows => .bind (.parents hid) fun ids hids =>
    .bind (offerParents_confined hid hrows) fun ⟨accepted, alerts⟩ _ => ?_
  dsimp only
  split
  · exact .done trivial
  · refine .bind (removeParents_confined fun p hp => ?_) fun _ _ => .done trivial
    exact hids p (SortedSet.mem_ofList.1 (SortedSet.mem_difference.1 hp).1)

lemma removeTopic_confined {x : TopicId} {onto : SortedSet TopicId} (hx : N (.topic x))
    (honto : ∀ p ∈ onto, N (.topic p)) : (removeTopic x onto).Confined r N fun _ => True :=
  .bind (Closure.splice_confined hx honto) fun _ _ =>
    .bind (Closure.detach_confined hx) fun _ _ => .deleteTopic hx

lemma deleteTopic_confined {x : TopicId} (hx : N (.topic x)) :
    (deleteTopic x).Confined r N :=
  .bind (movableTopic_confined hx) fun _ ⟨hid, _⟩ => .bind .lock fun _ _ =>
    .bind (.parents hid) fun _ hids =>
      .bind (removeTopic_confined hid fun p hp => hids p (SortedSet.mem_ofList.1 hp))
        fun _ _ => .done trivial

lemma takeSynonyms_confined {target source : Topic} (hid : N (.topic target.id))
    (hrow : target.repository = r) :
    (takeSynonyms target source).Confined r N fun _ => True := by
  rw [takeSynonyms]
  split
  · exact .done trivial
  · refine .bind (Lookup.nameClash_confined hrow) fun clash _ => ?_
    cases clash with
    | some alert => exact .done trivial
    | none => exact .bind (.updateTopic hid hrow) fun _ _ => .done trivial

lemma mergeTopic_confined {x target : TopicId} (hx : N (.topic x)) :
    (mergeTopic x target).Confined r N := by
  refine .bind (movableTopic_confined hx) fun row ⟨hid, _⟩ => .bind .lock fun _ _ =>
    .bind (.parents hid) fun ids hids => ?_
  split
  · exact .fail
  · next hmem =>
    refine .bind (Lookup.topic_confined (hids target (not_not.1 hmem))) fun parent ⟨hp, hpr⟩ =>
      .bind (removeTopic_confined hid fun p hps => ?_) fun _ _ =>
        .bind (takeSynonyms_confined hp hpr) fun _ _ => .done trivial
    rwa [SortedSet.mem_singleton.1 hps]

lemma saveRenamed_confined {row renamed : Topic} {alerts : List Alert}
    (hid : N (.topic renamed.id)) (hrow : renamed.repository = r) :
    (saveRenamed row renamed alerts).Confined r N fun _ => True := by
  refine .bind (Lookup.nameClash_confined hrow) fun clash _ => ?_
  cases clash with
  | some alert => exact .done trivial
  | none => exact .bind (.updateTopic hid hrow) fun _ _ => .done trivial

lemma updateSynonyms_confined {x : TopicId} {synonyms : List Synonym} (hx : N (.topic x)) :
    (updateSynonyms x synonyms).Confined r N := by
  refine .bind (Lookup.topic_confined hx) fun row ⟨hid, hrow⟩ => ?_
  split
  · exact .done trivial
  · exact .bind .lock fun _ _ => saveRenamed_confined hid hrow

lemma changeTimeRange_confined {x : TopicId} {range : Option TimeRange} (hx : N (.topic x)) :
    (changeTimeRange x range).Confined r N :=
  .bind (Lookup.topic_confined hx) fun _ ⟨hid, hrow⟩ => .bind .lock fun _ _ =>
    saveRenamed_confined hid hrow

lemma retitle_confined {row : Link} {given : Option String} (hid : N (.link row.id)) :
    (retitle row given).Confined r N fun row => N (.link row.id) := by
  cases given with
  | none => exact .done hid
  | some title =>
    rw [retitle]
    split
    · exact .done hid
    · exact .bind (.updateLink hid) fun _ _ => .done hid

lemma fileLink_confined {url : CanonicalUrl} {initial : String} {given : Option String}
    {parentIds : List TopicId} {id : LinkId} {now : Instant} (hid : N (.link id)) :
    (fileLink r url initial given parentIds id now).Confined r N fun _ => True := by
  refine .bind .lock fun _ _ => .bind Lookup.repository_confined fun owner ho =>
    .bind (.insertLink (Link.new id owner.id url initial now) hid ho)
      fun inserted hinserted => ?_
  have hfiled : ∀ row : Link, N (.link row.id) → Program.Confined r N (fun _ => True)
      (if inserted.isNew || !parentIds.isEmpty then do
        let parents ← Lookup.parents owner parentIds
        addParents (.link row.id) (parents.map (·.id))
        return Ending.commit (⟨some row, inserted.isNew, []⟩ : Upserted Link)
      else return Ending.commit ⟨some row, inserted.isNew, []⟩) := by
    intro row hrow
    split
    · exact .bind (Lookup.parents_confined ho parentIds) fun rows hrows =>
        .bind (addParents_confined hrow (map_id_confined hrows)) fun _ _ => .done trivial
    · exact .done trivial
  dsimp only
  split
  · exact hfiled inserted.row hinserted
  · exact .bind (retitle_confined hinserted) hfiled

lemma upsertLink_confined {url : String} {title : Option String} {parentIds : List TopicId}
    {id : LinkId} {now : Instant} (hid : N (.link id)) :
    (upsertLink r url title parentIds id now).Confined r N := by
  rw [upsertLink]
  cases CanonicalUrl.parse url with
  | error e => trivial
  | ok page =>
    cases givenTitle? title with
    | some given => exact fileLink_confined hid
    | none => exact fun _ => fileLink_confined hid

lemma updateLinkParents_confined {l : LinkId} {parentIds : List TopicId} (hl : N (.link l)) :
    (updateLinkParents l parentIds).Confined r N := by
  refine .bind (Lookup.link_confined hl) fun row ⟨hid, hrow⟩ => .bind .lock fun _ _ => ?_
  rw [hrow]
  refine .bind Lookup.repository_confined fun owner ho =>
    .bind (Lookup.parents_confined ho parentIds) fun rows hrows =>
      .bind (.parents hid) fun ids hids =>
        .bind (addParents_confined hid fun p hp => ?_) fun _ _ =>
          .bind (removeParents_confined fun p hp => ?_) fun _ _ => .done trivial
  · exact map_id_confined hrows p (SortedSet.mem_ofList.1 (SortedSet.mem_difference.1 hp).1)
  · exact hids p (SortedSet.mem_ofList.1 (SortedSet.mem_difference.1 hp).1)

lemma deleteLink_confined {l : LinkId} (hl : N (.link l)) : (deleteLink l).Confined r N :=
  .bind (Lookup.link_confined hl) fun _ ⟨hid, _⟩ => .bind .lock fun _ _ =>
    .bind (Closure.detach_confined hid) fun _ _ => .bind (.deleteLink hid) fun _ _ => .done trivial

/-! ### Searches -/

lemma searchTopics_confined {scope : Scope} (hroot : N (.topic scope.root)) :
    (Search.topics scope).Confined r N fun _ => True := by
  rw [Search.topics]
  split
  · exact .done trivial
  · exact .searchTopics hroot

lemma searchLinks_confined {scope : Scope} (hroot : N (.topic scope.root)) :
    (Search.links scope).Confined r N fun _ => True := by
  rw [Search.links]
  split
  · exact .done trivial
  · exact .searchLinks hroot

lemma search_confined {root : TopicId} {text : String} {topicLimit linkLimit : Nat}
    (hroot : N (.topic root)) : (search root text topicLimit linkLimit).Confined r N := by
  refine .bind (P := fun _ => True) ?_ fun _ _ => .done trivial
  exact .bind (Lookup.topic_confined hroot) fun _ _ => .bind .lookAt fun _ _ =>
    .bind (searchTopics_confined hroot) fun _ _ => .bind .lookAt fun _ _ =>
      .bind (searchLinks_confined hroot) fun _ _ => .done trivial

lemma searchPage_confined {root : TopicId} {text : String} {size : Nat}
    (hroot : N (.topic root)) : (searchPage root text size).Confined r N := by
  refine .bind (P := fun _ => True) ?_ fun _ _ => .done trivial
  exact .bind (Lookup.topic_confined hroot) fun _ _ => .bind .lookAt fun _ _ =>
    .bind (searchTopics_confined hroot) fun _ _ => .bind .lookAt fun _ _ =>
      .bind (searchLinks_confined hroot) fun _ _ => .done trivial

lemma matchTopics_confined {text : String} {limit : Nat} :
    (matchTopics r text limit).Confined r N := by
  rw [matchTopics]
  split
  · trivial
  · exact .bind .matchTopics fun _ _ => .done trivial

end Operation

end Polyhierarchy

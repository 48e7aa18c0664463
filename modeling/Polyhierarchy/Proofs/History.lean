import Polyhierarchy.Proofs.LinkChanges

set_option relaxedAutoImplicit false
set_option autoImplicit false

/-!
# What holds after every history of calls

A history begins with the empty store. Each call may fail, give up at its deadline, run into writes
that are made to fail, or commit; then it has found the tables coherent and has left them coherent.
So whatever has been called, the closure is that of the edges, no topic lies below itself, and
everything lies below the root of its repository.

## Main definitions

* `Mutation` — a call that may change what is stored, with its arguments and the identifiers that
  are minted for it.
* `Mutation.IsFresh` — the minted identifiers name nothing that is stored.
* `Memory.Reachable` — the stores that some history leads to.
* `Tables.Owns` — a repository that a stored node belongs to.

## Main results

* `Mutation.coherent` — a call keeps the tables coherent.
* `Memory.Reachable.keeps` — what every call keeps holds after every history.
* `Memory.Reachable.mem_closure_iff` — the closure is exact.
* `Memory.Reachable.topics_acyclic` — no topic lies below itself.
* `Memory.Reachable.below_root` — everything has its place below the root of its repository.
-/

namespace Polyhierarchy

open Reachability

/-! ### Calls -/

/-- A call that may change what is stored. The identifiers that it mints and the time that it reads
from the clock are among its arguments. -/
inductive Mutation
  | createRepository (name : String) (id : RepositoryId) (root : TopicId) (now : Instant)
  | upsertTopic (repository : RepositoryId) (name : String) (description : Option String)
      (parentIds : List TopicId) (id : TopicId) (now : Instant)
  | updateParents (id : TopicId) (parentIds : List TopicId)
  | deleteTopic (id : TopicId)
  | mergeTopic (source target : TopicId)
  | updateSynonyms (id : TopicId) (synonyms : List Synonym)
  | setTimeRange (id : TopicId) (range : TimeRange)
  | deleteTimeRange (id : TopicId)
  | upsertLink (repository : RepositoryId) (url : String) (title : Option String)
      (parentIds : List TopicId) (id : LinkId) (now : Instant)
  | updateLinkParents (id : LinkId) (parentIds : List TopicId)
  | deleteLink (id : LinkId)

namespace Mutation

/-- What a call returns. -/
def Result : Mutation → Type
  | createRepository .. => CreatedRepository
  | upsertTopic .. => Upserted Topic
  | updateParents .. | updateSynonyms .. | setTimeRange .. | deleteTimeRange .. => Updated Topic
  | deleteTopic .. => TopicId
  | mergeTopic .. => Merged
  | upsertLink .. => Upserted Link
  | updateLinkParents .. => Updated Link
  | deleteLink .. => LinkId

/-- The operation that a call runs. -/
def operation : (m : Mutation) → Operation m.Result
  | createRepository name id root now => Operation.createRepository name id root now
  | upsertTopic repository name description parentIds id now =>
    Operation.upsertTopic repository name description parentIds id now
  | updateParents id parentIds => Operation.updateParents id parentIds
  | deleteTopic id => Operation.deleteTopic id
  | mergeTopic source target => Operation.mergeTopic source target
  | updateSynonyms id synonyms => Operation.updateSynonyms id synonyms
  | setTimeRange id range => Operation.setTimeRange id range
  | deleteTimeRange id => Operation.deleteTimeRange id
  | upsertLink repository url title parentIds id now =>
    Operation.upsertLink repository url title parentIds id now
  | updateLinkParents id parentIds => Operation.updateLinkParents id parentIds
  | deleteLink id => Operation.deleteLink id

/-- Whether the identifiers that are minted for a call name nothing that is stored. -/
def IsFresh (t : Tables) : Mutation → Prop
  | createRepository _ id root _ => t.repositories.get? id = none ∧ t.topics.get? root = none
  | upsertTopic _ _ _ _ id _ => t.topics.get? id = none
  | upsertLink _ _ _ _ id _ => t.links.get? id = none
  | _ => True

/-- **A call keeps the tables coherent.** -/
theorem coherent {t t' : Tables} {τ : Type} {titles : TitleSource τ} {s s' : τ}
    (h : t.Coherent) (m : Mutation) (hfresh : m.IsFresh t) {v : m.Result}
    (hc : m.operation.on titles (t, s) = (.ok (.commit v), t', s')) : t'.Coherent := by
  cases m with
  | createRepository name id root now =>
    exact Operation.createRepository_coherent h hfresh.1 hfresh.2 hc
  | upsertTopic repository name description parentIds id now =>
    exact Operation.upsertTopic_coherent h hfresh hc
  | updateParents id parentIds => exact Operation.updateParents_coherent h hc
  | deleteTopic id => exact Operation.deleteTopic_coherent h hc
  | mergeTopic source target => exact Operation.mergeTopic_coherent h hc
  | updateSynonyms id synonyms => exact Operation.updateSynonyms_coherent h hc
  | setTimeRange id range => exact Operation.changeTimeRange_coherent h hc
  | deleteTimeRange id => exact Operation.changeTimeRange_coherent h hc
  | upsertLink repository url title parentIds id now =>
    have hlink : (Operation.upsertLink repository url title parentIds id now).on titles (t, s) =
      (.ok (.commit v), t', s') := hc
    exact Operation.upsertLink_coherent h hfresh hlink
  | updateLinkParents id parentIds => exact Operation.updateLinkParents_coherent h hc
  | deleteLink id => exact Operation.deleteLink_coherent h hc

end Mutation

/-! ### Histories -/

namespace Memory

/-- The stores that a history of calls leads to from the empty one. Each call has a source of titles
and a deadline of its own, and in between writes may be made to fail, or no longer. -/
inductive Reachable : Memory → Prop where
  | empty : Reachable ∅
  | call {mem : Memory} {τ : Type} (m : Mutation) (titles : TitleSource τ) (s : τ) (d : Deadline) :
      Reachable mem → m.IsFresh mem.tables →
        Reachable (m.operation.run Memory.store titles d (mem, s)).2.1
  | limitWrites {mem : Memory} (n : Option Nat) :
      Reachable mem → Reachable { mem with writesLeft := n }

/-- What holds of the empty tables and is kept by every call that commits holds after every
history: a call that does not commit changes nothing. -/
theorem Reachable.keeps {P : Tables → Prop} {mem : Memory} (h : mem.Reachable) (hempty : P ∅)
    (hcall : ∀ {τ : Type} (m : Mutation) (titles : TitleSource τ) (s s' : τ) (t t' : Tables)
      (v : m.Result), P t → m.IsFresh t →
        m.operation.on titles (t, s) = (.ok (.commit v), t', s') → P t') : P mem.tables := by
  induction h with
  | empty => exact hempty
  | call m titles s d _ hfresh ih =>
    rcases m.operation.unchanged_or_committed titles d _ s with ⟨hsame, -⟩ | ⟨v, -, hon, -⟩
    · rw [hsame]
      exact ih
    · exact hcall m titles s _ _ _ v ih hfresh hon
  | limitWrites n _ ih => exact ih

/-- **Every history leads to coherent tables.** -/
theorem Reachable.coherent {mem : Memory} (h : mem.Reachable) : mem.tables.Coherent :=
  h.keeps Tables.coherent_empty fun m _ _ _ _ _ _ ht hfresh hc => m.coherent ht hfresh hc

/-- A call leads from one history to the next, whatever it returns. -/
lemma Reachable.of_run {mem after : Memory} (h : mem.Reachable) {m : Mutation}
    (hfresh : m.IsFresh mem.tables) {τ : Type} {titles : TitleSource τ} {s s' : τ} {d : Deadline}
    {v : Except EngineError m.Result}
    (hrun : m.operation.run Memory.store titles d (mem, s) = (v, after, s')) : after.Reachable := by
  have hafter := Reachable.call m titles s d h hfresh
  rwa [hrun] at hafter

/-- The store after a call that nothing stands in the way of. -/
def perform (mem : Memory) (m : Mutation) : Memory :=
  (m.operation.run Memory.store TitleSource.silent .never (mem, ())).2.1

lemma Reachable.perform {mem : Memory} (h : mem.Reachable) {m : Mutation}
    (hfresh : m.IsFresh mem.tables) : (mem.perform m).Reachable :=
  .call m TitleSource.silent () .never h hfresh

/-- A repository with a topic below its root, another one below that, and a link at the end. -/
def chain : Memory :=
  (((Memory.perform ∅ (.createRepository "Books" ⟨⟨1⟩⟩ ⟨⟨1⟩⟩ default)).perform
    (.upsertTopic ⟨⟨1⟩⟩ "Novels" none [] ⟨⟨2⟩⟩ default)).perform
    (.upsertTopic ⟨⟨1⟩⟩ "Diaries" none [⟨⟨2⟩⟩] ⟨⟨3⟩⟩ default)).perform
    (.upsertLink ⟨⟨1⟩⟩ "http://books.example/" (some "A diary") [⟨⟨3⟩⟩] ⟨⟨4⟩⟩ default)

lemma reachable_chain : chain.Reachable := by
  apply Reachable.perform
  · apply Reachable.perform
    · apply Reachable.perform
      · exact .perform .empty ⟨rfl, rfl⟩
      · show SortedMap.get? _ _ = none
        decide +kernel
    · show SortedMap.get? _ _ = none
      decide +kernel
  · show SortedMap.get? _ _ = none
    decide +kernel

/-! ### The closure and the edges -/

/-- **After every history the closure is exact**: it relates a topic to the other nodes that one or
more direct edges lead to, and to nothing else. -/
theorem Reachable.mem_closure_iff {mem : Memory} (h : mem.Reachable) (a : TopicId) (d : Node) :
    d ∈ mem.tables.closure.row a ↔ d ≠ .topic a ∧ Reaches mem.tables.edges (.topic a) d :=
  h.coherent.exact a d

/-- The link at the end of the chain lies in the closure of the root, and the root does not. -/
theorem mem_closure_chain :
    Node.link ⟨⟨4⟩⟩ ∈ chain.tables.closure.row ⟨⟨1⟩⟩ ∧
      Node.topic ⟨⟨1⟩⟩ ∉ chain.tables.closure.row ⟨⟨1⟩⟩ := by
  have hiff := reachable_chain.mem_closure_iff ⟨⟨1⟩⟩
  have hnovels : Step chain.tables.edges (.topic ⟨⟨1⟩⟩) (.topic ⟨⟨2⟩⟩) :=
    step_topic_iff.2 (by decide +kernel)
  have hdiaries : Step chain.tables.edges (.topic ⟨⟨2⟩⟩) (.topic ⟨⟨3⟩⟩) :=
    step_topic_iff.2 (by decide +kernel)
  have hlink : Step chain.tables.edges (.topic ⟨⟨3⟩⟩) (.link ⟨⟨4⟩⟩) :=
    step_topic_iff.2 (by decide +kernel)
  constructor
  · exact (hiff _).2 ⟨by decide, ((Relation.TransGen.single hnovels).tail hdiaries).tail hlink⟩
  · exact fun h => ((hiff _).1 h).1 rfl

/-- **After every history no topic lies below itself.** -/
theorem Reachable.topics_acyclic {mem : Memory} (h : mem.Reachable) (x : TopicId) :
    ¬ Relation.TransGen (fun a b => Node.topic b ∈ mem.tables.edges.row a) x x := by
  intro hx
  apply h.coherent.hierarchical.acyclic (.topic x)
  exact hx.lift Node.topic fun _ _ hab => step_topic_iff.2 hab

/-- The root of the chain has a child, but does not lie below itself. -/
theorem acyclic_chain : Node.topic ⟨⟨2⟩⟩ ∈ chain.tables.edges.row ⟨⟨1⟩⟩ ∧
    ¬ Relation.TransGen (fun a b => Node.topic b ∈ chain.tables.edges.row a) ⟨⟨1⟩⟩ ⟨⟨1⟩⟩ :=
  ⟨by decide +kernel, reachable_chain.topics_acyclic _⟩

end Memory

/-! ### Repositories and their roots -/

namespace Tables

variable {t : Tables} {r : RepositoryId} {owner : Repository} {n : Node}

/-- Whether a node is stored and belongs to a repository. -/
def Owns (t : Tables) (r : RepositoryId) : Node → Prop
  | .topic id => t.IsTopicOf r id
  | .link id => ∃ row, t.links.get? id = some row ∧ row.repository = r

/-- The nodes of a repository are those that have their place in it. -/
lemma owns_iff : t.Owns r n ↔ ∃ b, t.place? n = some ⟨r, b⟩ := by
  cases n with
  | topic id =>
    constructor
    · exact IsTopicOf.place?
    · rintro ⟨b, hb⟩
      obtain ⟨row, hrow, hrepo, -⟩ := place?_topic_eq_some.1 hb
      exact ⟨row, hrow, hrepo⟩
  | link id =>
    constructor
    · rintro ⟨row, hrow, hrepo⟩
      exact ⟨false, place?_link_eq_some.2 ⟨row, hrow, hrepo, rfl⟩⟩
    · rintro ⟨b, hb⟩
      obtain ⟨row, hrow, hrepo, -⟩ := place?_link_eq_some.1 hb
      exact ⟨row, hrow, hrepo⟩

namespace Coherent

/-- The only root of a repository is the one that its row names. -/
lemma place?_root_iff (h : t.Coherent) (ho : t.repositories.get? r = some owner) :
    t.place? n = some ⟨r, true⟩ ↔ n = .topic owner.rootTopic := by
  cases n with
  | topic x =>
    rw [h.rooted.root_iff, ho, Node.topic.injEq]
    constructor
    · rintro ⟨_, ⟨⟩, rfl⟩
      rfl
    · rintro rfl
      exact ⟨owner, rfl, rfl⟩
  | link l =>
    constructor
    · exact fun hl => absurd hl (place?_link_ne_root l r)
    · rintro ⟨⟩

/-- A root has no parent. -/
lemma root_not_mem_row (h : t.Coherent) (ho : t.repositories.get? r = some owner) (p : TopicId) :
    .topic owner.rootTopic ∉ t.edges.row p := by
  intro hp
  obtain ⟨r', b, -, hchild⟩ := h.hierarchical.within p _ hp
  rw [(h.place?_root_iff ho).2 rfl] at hchild
  cases hchild

/-- A stored node is the root of its repository or has a parent. -/
lemma root_or_exists_parent (h : t.Coherent) (hn : t.Owns r n) :
    ∃ owner, t.repositories.get? r = some owner ∧
      (n = .topic owner.rootTopic ∨ ∃ p, n ∈ t.edges.row p) := by
  obtain ⟨b, hb⟩ := owns_iff.1 hn
  obtain ⟨owner, ho⟩ := h.rooted.owned n r b hb
  refine ⟨owner, ho, ?_⟩
  cases b with
  | true => exact .inl ((h.place?_root_iff ho).1 hb)
  | false => exact .inr (h.hierarchical.exists_parent n r hb)

/-- A path stays within one repository. -/
lemma owns_of_reaches (h : t.Coherent) {u v : Node} (hr : Reaches t.edges u v) :
    ∃ r, t.Owns r u ∧ t.Owns r v := by
  obtain ⟨r, b, hu, hv⟩ := h.hierarchical.within_of_reaches hr
  exact ⟨r, owns_iff.2 ⟨b, hu⟩, owns_iff.2 ⟨false, hv⟩⟩

/-- Every node of a repository other than its root lies in the closure of the root. -/
lemma mem_closure_root (h : t.Coherent) (ho : t.repositories.get? r = some owner)
    (hn : t.Owns r n) (hne : n ≠ .topic owner.rootTopic) : n ∈ t.closure.row owner.rootTopic := by
  obtain ⟨b, hb⟩ := owns_iff.1 hn
  have hinner : t.place? n = some ⟨r, false⟩ := by
    cases b with
    | true => exact absurd ((h.place?_root_iff ho).1 hb) hne
    | false => exact hb
  have hbelow := h.hierarchical.reaches_of_root (fun m hm => (h.place?_root_iff ho).1 hm) hinner
  exact (h.exact _ n).2 ⟨hne, hbelow⟩

end Coherent

end Tables

namespace Memory

/-- **After every history everything has its place below the root of its repository.** Each
repository has one root, which is the one that its row names and has no parent; all other stored
nodes have parents; edges and closure stay within repositories; and each root has all other nodes
of its repository in its closure. -/
theorem Reachable.below_root {mem : Memory} (h : mem.Reachable) :
    (∀ r owner, mem.tables.repositories.get? r = some owner →
      (∀ x, (∃ row, mem.tables.topics.get? x = some row ∧ row.repository = r ∧
        row.isRoot = true) ↔ x = owner.rootTopic) ∧
      ∀ p, .topic owner.rootTopic ∉ mem.tables.edges.row p) ∧
    (∀ r n, mem.tables.Owns r n → ∃ owner, mem.tables.repositories.get? r = some owner ∧
      (n = .topic owner.rootTopic ∨ ∃ p, n ∈ mem.tables.edges.row p)) ∧
    (∀ p c, c ∈ mem.tables.edges.row p ∨ c ∈ mem.tables.closure.row p →
      ∃ r, mem.tables.Owns r (.topic p) ∧ mem.tables.Owns r c) ∧
    (∀ r owner n, mem.tables.repositories.get? r = some owner → mem.tables.Owns r n →
      n ≠ .topic owner.rootTopic → n ∈ mem.tables.closure.row owner.rootTopic) := by
  have hc := h.coherent
  refine ⟨fun r owner ho => ⟨fun x => ?_, hc.root_not_mem_row ho⟩,
    fun r n hn => hc.root_or_exists_parent hn, fun p c hpc => ?_,
    fun r owner n ho hn hne => hc.mem_closure_root ho hn hne⟩
  · rw [← Tables.place?_topic_eq_some, hc.place?_root_iff ho, Node.topic.injEq]
  · rcases hpc with hpc | hpc
    · exact hc.owns_of_reaches (.single (step_topic_iff.2 hpc))
    · exact hc.owns_of_reaches ((hc.exact p c).1 hpc).2

/-- The link at the end of the chain is stored, so it lies in the closure of the root. -/
theorem below_root_chain : chain.tables.Owns ⟨⟨1⟩⟩ (.link ⟨⟨4⟩⟩) ∧
    Node.link ⟨⟨4⟩⟩ ∈ chain.tables.closure.row ⟨⟨1⟩⟩ := by
  have howner : (chain.tables.repositories.get? ⟨⟨1⟩⟩).map Repository.rootTopic = some ⟨⟨1⟩⟩ := by
    decide +kernel
  have hlink : (chain.tables.links.get? ⟨⟨4⟩⟩).map Link.repository = some ⟨⟨1⟩⟩ := by
    decide +kernel
  obtain ⟨owner, ho, hroot⟩ := Option.map_eq_some_iff.1 howner
  have howns : chain.tables.Owns ⟨⟨1⟩⟩ (.link ⟨⟨4⟩⟩) := Option.map_eq_some_iff.1 hlink
  obtain ⟨-, -, -, hbelow⟩ := reachable_chain.below_root
  rw [← hroot]
  exact ⟨howns, hbelow _ owner _ ho howns (by rintro ⟨⟩)⟩

end Memory

end Polyhierarchy

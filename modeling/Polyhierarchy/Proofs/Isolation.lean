import Polyhierarchy.Proofs.ConfinedCalls
import Polyhierarchy.Proofs.History

set_option relaxedAutoImplicit false
set_option autoImplicit false

/-!
# Repositories do not affect each other

A call on a repository leaves all other repositories as they are, and returns and does the same
whatever they hold. This is so for changes and searches alike, with any deadline and any faults, and
whatever further identifiers the caller names. So a caller who names a topic of another repository
gets the answer that is given where there is no such topic: there is a history that leads to the
same repository without any other, and there the call returns the same.

## Main definitions

* `Tables.SameIn` — a repository is the same in two tables.
* `Action` — a change, a search, or a match of topics, with its arguments.
* `Action.IsOn` — a call on a repository: it names the repository, or a node of it.

## Main results

* `Action.run_twins` — two runs of a call on a repository that is the same for both.
* `Memory.Reachable.exists_alone` — every repository could be the only one.
* `Memory.Reachable.isolated` — no call on a repository affects another one, or is affected by it.
-/

namespace Polyhierarchy

open Reachability

/-! ### A repository in two tables -/

namespace Tables

variable {r : RepositoryId} {t u v : Tables} {n : Node}

/-- A repository is the same in two tables: its row, its topics, its links, and all edges and pairs
of the closure at its nodes. -/
structure SameIn (r : RepositoryId) (t u : Tables) : Prop where
  /-- The row is the same. -/
  repository : t.repositories.get? r = u.repositories.get? r
  /-- The topics are the same. -/
  topics : ∀ id row, row.repository = r →
    (t.topics.get? id = some row ↔ u.topics.get? id = some row)
  /-- The links are the same. -/
  links : ∀ id row, row.repository = r →
    (t.links.get? id = some row ↔ u.links.get? id = some row)
  /-- The edges from and to its nodes are the same. -/
  edges : ∀ p c, t.Owns r (.topic p) ∨ t.Owns r c → (c ∈ t.edges.row p ↔ c ∈ u.edges.row p)
  /-- The pairs of the closure with a node of it are the same. -/
  closure : ∀ p c, t.Owns r (.topic p) ∨ t.Owns r c → (c ∈ t.closure.row p ↔ c ∈ u.closure.row p)

namespace SameIn

lemma owns_iff (h : SameIn r t u) : t.Owns r n ↔ u.Owns r n := by
  cases n with
  | topic id => exact exists_congr fun row => and_congr_left (h.topics id row)
  | link id => exact exists_congr fun row => and_congr_left (h.links id row)

lemma refl (r : RepositoryId) (t : Tables) : SameIn r t t :=
  ⟨rfl, fun _ _ _ => .rfl, fun _ _ _ => .rfl, fun _ _ _ => .rfl, fun _ _ _ => .rfl⟩

lemma symm (h : SameIn r t u) : SameIn r u t where
  repository := h.repository.symm
  topics id row hrow := (h.topics id row hrow).symm
  links id row hrow := (h.links id row hrow).symm
  edges p c hpc := (h.edges p c (hpc.imp h.owns_iff.2 h.owns_iff.2)).symm
  closure p c hpc := (h.closure p c (hpc.imp h.owns_iff.2 h.owns_iff.2)).symm

lemma trans (h : SameIn r t u) (h' : SameIn r u v) : SameIn r t v where
  repository := h.repository.trans h'.repository
  topics id row hrow := (h.topics id row hrow).trans (h'.topics id row hrow)
  links id row hrow := (h.links id row hrow).trans (h'.links id row hrow)
  edges p c hpc := (h.edges p c hpc).trans (h'.edges p c (hpc.imp h.owns_iff.1 h.owns_iff.1))
  closure p c hpc := (h.closure p c hpc).trans (h'.closure p c (hpc.imp h.owns_iff.1 h.owns_iff.1))

end SameIn

/-! ### The nodes that a call is kept to -/

/-- The nodes of a repository, and the one that a call names. -/
def Reserved (t : Tables) (r : RepositoryId) (subject : Option Node) (n : Node) : Prop :=
  t.Owns r n ∨ subject = some n

/-- Tables that agree on a set of nodes which no edge leads into or out of agree on each repository
whose nodes are in the set. -/
lemma AgreeOn.sameIn {R : RepositoryId → Prop} {M : Node → Prop} (h : t.AgreeOn R M u) (hr : R r)
    (ht : ∀ n, t.Owns r n → M n) (hu : ∀ n, u.Owns r n → M n)
    (hedges : t.edges.Respects M ∧ u.edges.Respects M)
    (hclosure : t.closure.Respects M ∧ u.closure.Respects M) : SameIn r t u where
  repository := h.repositories r hr
  topics id row hrow := by
    constructor
    · intro hid
      rwa [← h.topics id (ht (.topic id) ⟨row, hid, hrow⟩)]
    · intro hid
      rwa [h.topics id (hu (.topic id) ⟨row, hid, hrow⟩)]
  links id row hrow := by
    constructor
    · intro hid
      rwa [← h.links id (ht (.link id) ⟨row, hid, hrow⟩)]
    · intro hid
      rwa [h.links id (hu (.link id) ⟨row, hid, hrow⟩)]
  edges p c hpc := hedges.1.mem_row_iff hedges.2 h.edges (hpc.imp (ht _) (ht _))
  closure p c hpc := hclosure.1.mem_row_iff hclosure.2 h.closure (hpc.imp (ht _) (ht _))

namespace Encloses

variable {N : Node → Prop}

/-- A node of some repository is in the set exactly if it is a node of the one enclosed. -/
lemma iff_of_owns (h : t.Encloses r N) {b : RepositoryId} (hn : t.Owns b n) : N n ↔ b = r := by
  cases n with
  | topic id =>
    obtain ⟨row, hrow, rfl⟩ := hn
    exact h.topics id row hrow
  | link id =>
    obtain ⟨row, hrow, rfl⟩ := hn
    exact h.links id row hrow

end Encloses

/-- What two runs kept to a repository leave is the same in it. -/
lemma Twins.sameIn {N : Node → Prop} {t₀ : Tables} (h : Twins r N t₀ t u) : SameIn r t u :=
  h.inside.sameIn rfl (fun _ hn => (h.left.iff_of_owns hn).2 rfl)
    (fun _ hn => (h.right.iff_of_owns hn).2 rfl) ⟨h.left.edges, h.right.edges⟩
    ⟨h.left.closure, h.right.closure⟩

/-- A run kept to a repository changes no other one. -/
lemma Twins.sameIn_other {N : Node → Prop} {t₀ : Tables} (h : Twins r N t₀ t u)
    (h₀ : t₀.Encloses r N) {b : RepositoryId} (hb : b ≠ r) : SameIn b t₀ t := by
  refine h.outside.sameIn hb (fun _ hn => (h₀.iff_of_owns hn).not.2 hb)
    (fun _ hn => (h.left.iff_of_owns hn).not.2 hb) ⟨?_, ?_⟩ ⟨?_, ?_⟩
  · exact fun p c hc => not_congr (h₀.edges p c hc)
  · exact fun p c hc => not_congr (h.left.edges p c hc)
  · exact fun p c hc => not_congr (h₀.closure p c hc)
  · exact fun p c hc => not_congr (h.left.closure p c hc)

namespace Coherent

/-- A node has one repository. -/
lemma owns_unique {a b : RepositoryId} (ha : t.Owns a n) (hb : t.Owns b n) : a = b := by
  obtain ⟨_, ha⟩ := owns_iff.1 ha
  obtain ⟨_, hb⟩ := owns_iff.1 hb
  rw [ha] at hb
  cases hb
  rfl

/-- Coherent tables keep a repository apart. A node that is not stored, as is one with a minted
identifier, may be counted among its nodes. -/
lemma encloses_reserved (h : t.Coherent) {subject : Option Node}
    (hs : ∀ n, subject = some n → ∀ b, t.Owns b n → b = r) :
    t.Encloses r (t.Reserved r subject) := by
  have howned : ∀ b n, t.Owns b n → (t.Reserved r subject n ↔ b = r) := by
    intro b n hb
    constructor
    · rintro (hn | hn)
      · exact owns_unique hb hn
      · exact hs n hn b hb
    · rintro rfl
      exact .inl hb
  have hreach : ∀ m n, Reaches t.edges m n →
      (t.Reserved r subject m ↔ t.Reserved r subject n) := by
    intro m n hr
    obtain ⟨b, hm, hn⟩ := h.owns_of_reaches hr
    rw [howned b m hm, howned b n hn]
  exact
    { keyed := h.keyed
      topics := fun id row hrow => howned _ _ ⟨row, hrow, rfl⟩
      links := fun id row hrow => howned _ _ ⟨row, hrow, rfl⟩
      edges := fun p c hc => hreach _ _ (.single (step_topic_iff.2 hc))
      closure := fun p c hc => hreach _ _ ((h.exact p c).1 hc).2 }

/-- A topic of the set that leads anywhere is a topic of the repository. -/
lemma owns_of_mem_row (h : t.Coherent) {N : Node → Prop} (hN : t.Encloses r N) {p : TopicId}
    (hp : N (.topic p)) {c : Node} (hc : c ∈ t.edges.row p ∨ c ∈ t.closure.row p) :
    t.Owns r (.topic p) := by
  have hr : Reaches t.edges (.topic p) c := by
    rcases hc with hc | hc
    · exact .single (step_topic_iff.2 hc)
    · exact ((h.exact p c).1 hc).2
  obtain ⟨b, hb, -⟩ := h.owns_of_reaches hr
  rwa [← (hN.iff_of_owns hb).1 hp]

/-- Two runs begin on coherent tables in which a repository is the same. -/
lemma twins (h : t.Coherent) (h' : u.Coherent) (hsame : SameIn r t u) {subject : Option Node}
    (hs : ∀ n, subject = some n → ∀ b, t.Owns b n → b = r)
    (hs' : ∀ n, subject = some n → ∀ b, u.Owns b n → b = r) :
    Twins r (t.Reserved r subject) t t u := by
  have hreserved : u.Reserved r subject = t.Reserved r subject :=
    funext fun n => by rw [Reserved, Reserved, hsame.owns_iff]
  have hright := h'.encloses_reserved hs'
  rw [hreserved] at hright
  have hleft := h.encloses_reserved hs
  refine ⟨hleft, hright, ⟨?_, fun id hid => Option.ext fun row => ⟨fun ht => ?_, fun hu => ?_⟩,
    fun id hid => Option.ext fun row => ⟨fun ht => ?_, fun hu => ?_⟩,
    fun p hp => SortedSet.ext fun c => ⟨fun hc => ?_, fun hc => ?_⟩,
    fun p hp => SortedSet.ext fun c => ⟨fun hc => ?_, fun hc => ?_⟩⟩, .refl _ _ t⟩
  · rintro _ rfl
    exact hsame.repository
  · exact (hsame.topics id row ((hleft.topics id row ht).1 hid)).1 ht
  · exact (hsame.topics id row ((hright.topics id row hu).1 hid)).2 hu
  · exact (hsame.links id row ((hleft.links id row ht).1 hid)).1 ht
  · exact (hsame.links id row ((hright.links id row hu).1 hid)).2 hu
  · exact (hsame.edges p c (.inl (h.owns_of_mem_row hleft hp (.inl hc)))).1 hc
  · exact (hsame.edges p c (.inl (hsame.owns_iff.2 (h'.owns_of_mem_row hright hp (.inl hc))))).2 hc
  · exact (hsame.closure p c (.inl (h.owns_of_mem_row hleft hp (.inr hc)))).1 hc
  · exact (hsame.closure p c
      (.inl (hsame.owns_iff.2 (h'.owns_of_mem_row hright hp (.inr hc))))).2 hc

end Coherent

end Tables

/-! ### Calls on a repository -/

/-- The repository that a call names, if it names one. -/
def Mutation.repository? : Mutation → Option RepositoryId
  | createRepository _ id _ _ => some id
  | upsertTopic repository .. | upsertLink repository .. => some repository
  | _ => none

/-- The node that a call creates or is addressed to. -/
def Mutation.subject : Mutation → Node
  | createRepository _ _ root _ => .topic root
  | upsertTopic _ _ _ _ id _ | updateParents id _ | deleteTopic id | mergeTopic id _
  | updateSynonyms id _ | setTimeRange id _ | deleteTimeRange id => .topic id
  | upsertLink _ _ _ _ id _ | updateLinkParents id _ | deleteLink id => .link id

/-- A call that changes something, searches below a topic, or matches the topics of a repository. -/
inductive Action
  | change (mutation : Mutation)
  | search (root : TopicId) (text : String) (topicLimit linkLimit : Nat)
  | searchPage (root : TopicId) (text : String) (size : Nat)
  | matchTopics (repository : RepositoryId) (text : String) (limit : Nat)

namespace Action

/-- What a call returns. -/
def Result : Action → Type
  | change m => m.Result
  | search .. | searchPage .. => SearchResults
  | matchTopics .. => List Topic

/-- The operation that a call runs. -/
def operation : (a : Action) → Operation a.Result
  | change m => m.operation
  | search root text topicLimit linkLimit => Operation.search root text topicLimit linkLimit
  | searchPage root text size => Operation.searchPage root text size
  | matchTopics repository text limit => Operation.matchTopics repository text limit

/-- Whether the identifiers that are minted for a call name nothing that is stored. -/
def IsFresh (t : Tables) : Action → Prop
  | change m => m.IsFresh t
  | _ => True

/-- The repository that a call names, if it names one. -/
def repository? : Action → Option RepositoryId
  | change m => m.repository?
  | matchTopics repository .. => some repository
  | _ => none

/-- The node that a call creates or is addressed to, if there is one. -/
def subject? : Action → Option Node
  | change m => some m.subject
  | search root .. | searchPage root .. => some (.topic root)
  | matchTopics .. => none

/-- Whether a call is one on a repository: it names no other one, and the node that it is addressed
to belongs to no other one. Whatever else it names may belong to any. -/
def IsOn (t : Tables) (r : RepositoryId) (a : Action) : Prop :=
  (∀ b, a.repository? = some b → b = r) ∧ ∀ n, a.subject? = some n → ∀ b, t.Owns b n → b = r

variable {t u : Tables} {r : RepositoryId}

/-- **A call on a repository is confined** to the nodes of the repository and the one that it is
addressed to or creates. -/
theorem confined (a : Action) {N : Node → Prop} (hr : ∀ b, a.repository? = some b → b = r)
    (hs : ∀ n, a.subject? = some n → N n) : a.operation.Confined r N := by
  cases a with
  | change m =>
    have hsubject := hs m.subject rfl
    cases m with
    | createRepository name id root now =>
      obtain rfl := hr id rfl
      exact Operation.createRepository_confined hsubject
    | upsertTopic repository name description parentIds id now =>
      obtain rfl := hr repository rfl
      exact Operation.upsertTopic_confined hsubject
    | updateParents id parentIds => exact Operation.updateParents_confined hsubject
    | deleteTopic id => exact Operation.deleteTopic_confined hsubject
    | mergeTopic source target => exact Operation.mergeTopic_confined hsubject
    | updateSynonyms id synonyms => exact Operation.updateSynonyms_confined hsubject
    | setTimeRange id range => exact Operation.changeTimeRange_confined hsubject
    | deleteTimeRange id => exact Operation.changeTimeRange_confined hsubject
    | upsertLink repository url title parentIds id now =>
      obtain rfl := hr repository rfl
      have hlink : (Operation.upsertLink repository url title parentIds id now).Confined
        repository N := Operation.upsertLink_confined hsubject
      exact hlink
    | updateLinkParents id parentIds => exact Operation.updateLinkParents_confined hsubject
    | deleteLink id => exact Operation.deleteLink_confined hsubject
  | search root text topicLimit linkLimit => exact Operation.search_confined (hs _ rfl)
  | searchPage root text size => exact Operation.searchPage_confined (hs _ rfl)
  | matchTopics repository text limit =>
    obtain rfl := hr repository rfl
    exact Operation.matchTopics_confined

/-- **Two runs of a call on a repository** that is the same for both return the same, and leave it
the same. No other repository is changed. -/
theorem run_twins (a : Action) {mem mem' : Memory} (h : mem.tables.Coherent)
    (h' : mem'.tables.Coherent) (hsame : mem.tables.SameIn r mem'.tables)
    (hon : a.IsOn mem.tables r) (hon' : a.IsOn mem'.tables r)
    (hleft : mem.writesLeft = mem'.writesLeft) {τ : Type} (titles : TitleSource τ) (d : Deadline)
    (s : τ) :
    let x := a.operation.run Memory.store titles d (mem, s)
    let y := a.operation.run Memory.store titles d (mem', s)
    x.1 = y.1 ∧ x.2.2 = y.2.2 ∧ x.2.1.writesLeft = y.2.1.writesLeft ∧
      x.2.1.tables.SameIn r y.2.1.tables ∧
      ∀ b, b ≠ r → mem.tables.SameIn b x.2.1.tables := by
  have htwins := h.twins h' hsame hon.2 hon'.2
  have hconfined := a.confined (N := mem.tables.Reserved r a.subject?) hon.1 fun n hn => .inr hn
  obtain ⟨hresult, htitles, hwrites, hend⟩ := a.operation.run_alike
    (hconfined.mono fun body hbody => hbody mem.tables mem.tables mem'.tables htwins)
    hleft titles d s
  refine ⟨hresult, htitles, hwrites, ?_⟩
  rcases hend with ⟨hx, hy⟩ | ⟨v, -, hend⟩
  · rw [hx, hy]
    exact ⟨hsame, fun b _ => .refl b mem.tables⟩
  · exact ⟨hend.sameIn, fun b hb => hend.sameIn_other htwins.left hb⟩

end Action

/-! ### Repositories by themselves -/

namespace Tables

/-- Whether nothing is stored but what belongs to a repository. -/
structure Only (t : Tables) (r : RepositoryId) : Prop where
  /-- There is no other repository. -/
  repository : ∀ b, b ≠ r → t.repositories.get? b = none
  /-- No node belongs to another one. -/
  owned : ∀ b n, t.Owns b n → b = r

variable {t u : Tables} {r : RepositoryId}

/-- Where no other repository is changed, there is none afterwards if there was none before. -/
lemma Only.of_sameIn (h : t.Only r) (hsame : ∀ b, b ≠ r → t.SameIn b u) : u.Only r where
  repository b hb := (hsame b hb).repository ▸ h.repository b hb
  owned b n hn := by
    by_contra hb
    exact hb (h.owned b n ((hsame b hb).owns_iff.2 hn))

/-- What names nothing that is stored names nothing of a repository that is left alone. -/
lemma Only.get?_topics (h : u.Only r) (hsame : t.SameIn r u) {id : TopicId}
    (hid : t.topics.get? id = none) : u.topics.get? id = none := by
  rw [Option.eq_none_iff_forall_ne_some] at hid ⊢
  intro row hrow
  have hr : row.repository = r := h.owned _ (.topic id) ⟨row, hrow, rfl⟩
  exact hid row ((hsame.topics id row hr).2 hrow)

lemma Only.get?_links (h : u.Only r) (hsame : t.SameIn r u) {id : LinkId}
    (hid : t.links.get? id = none) : u.links.get? id = none := by
  rw [Option.eq_none_iff_forall_ne_some] at hid ⊢
  intro row hrow
  have hr : row.repository = r := h.owned _ (.link id) ⟨row, hrow, rfl⟩
  exact hid row ((hsame.links id row hr).2 hrow)

end Tables

namespace Action

variable {t u : Tables} {r : RepositoryId} {a : Action}

/-- A call on a repository is one where the repository is the only one. -/
lemma IsOn.of_only (h : a.IsOn t r) (hu : u.Only r) : a.IsOn u r :=
  ⟨h.1, fun n _ b hb => hu.owned b n hb⟩

/-- What is minted for a call is as fresh where the repository is the only one. -/
lemma IsFresh.of_only (h : a.IsFresh t) (hon : a.IsOn t r) (hsame : t.SameIn r u)
    (hu : u.Only r) : a.IsFresh u := by
  cases a with
  | change m =>
    cases m with
    | createRepository name id root now =>
      obtain rfl := hon.1 id rfl
      exact ⟨hsame.repository ▸ h.1, hu.get?_topics hsame h.2⟩
    | upsertTopic repository name description parentIds id now => exact hu.get?_topics hsame h
    | upsertLink repository url title parentIds id now => exact hu.get?_links hsame h
    | _ => trivial
  | _ => trivial

/-- A change that names a repository creates a node there, which belongs to none before. -/
lemma not_owns_subject {m : Mutation} (h : m.IsFresh t) (hr : m.repository? = some r)
    (b : RepositoryId) : ¬ t.Owns b m.subject := by
  intro hb
  cases m <;> cases hr <;> obtain ⟨row, hrow, -⟩ := hb
  case createRepository => cases h.2.symm.trans hrow
  case upsertTopic => cases Eq.trans (Eq.symm h) hrow
  case upsertLink => cases Eq.trans (Eq.symm h) hrow

/-- Every change is one on some repository. -/
lemma exists_isOn {m : Mutation} (h : m.IsFresh t) : ∃ r, (change m).IsOn t r := by
  cases hr : m.repository? with
  | some b =>
    refine ⟨b, fun b' hb' => ?_, ?_⟩
    · cases hr.symm.trans hb'
      rfl
    · rintro _ ⟨⟩ b' hb'
      exact absurd hb' (not_owns_subject h hr b')
  | none =>
    by_cases hn : ∃ b, t.Owns b m.subject
    · obtain ⟨b, hb⟩ := hn
      refine ⟨b, fun b' hb' => ?_, ?_⟩
      · cases hr.symm.trans hb'
      · rintro _ ⟨⟩ b' hb'
        exact Tables.Coherent.owns_unique hb' hb
    · refine ⟨default, fun b' hb' => ?_, ?_⟩
      · cases hr.symm.trans hb'
      · rintro _ ⟨⟩ b' hb'
        exact absurd ⟨b', hb'⟩ hn

end Action

namespace Memory

/-- **Every repository could be the only one**: the calls on it alone lead to the same repository.

**Proof sketch.** Induction on the history. A call on another repository changes nothing in this
one, so it is left out; at most the writes that are left differ, and they may be set. A call on this
one does the same on the two stores. -/
theorem Reachable.exists_alone {mem : Memory} (h : mem.Reachable) (r : RepositoryId) :
    ∃ alone : Memory, alone.Reachable ∧ alone.writesLeft = mem.writesLeft ∧
      mem.tables.SameIn r alone.tables ∧ alone.tables.Only r := by
  induction h with
  | empty =>
    refine ⟨∅, .empty, rfl, .refl r _, fun _ _ => rfl, fun b n hn => ?_⟩
    cases n <;> obtain ⟨_, ⟨⟩, -⟩ := hn
  | limitWrites n _ ih =>
    obtain ⟨alone, hreach, -, hsame, honly⟩ := ih
    exact ⟨{ alone with writesLeft := n }, .limitWrites n hreach, rfl, hsame, honly⟩
  | @call mem τ m titles s d hmem hfresh ih =>
    obtain ⟨alone, hreach, hleft, hsame, honly⟩ := ih
    obtain ⟨b, hon⟩ := Action.exists_isOn hfresh
    by_cases hb : b = r
    · subst hb
      have hon' := hon.of_only honly
      have hfresh' := Action.IsFresh.of_only (a := .change m) hfresh hon hsame honly
      obtain ⟨-, -, hwrites, hafter, -⟩ := Action.run_twins (.change m) hmem.coherent
        hreach.coherent hsame hon hon' hleft.symm titles d s
      obtain ⟨-, -, -, -, hothers⟩ := Action.run_twins (.change m) hreach.coherent
        hreach.coherent (.refl b _) hon' hon' rfl titles d s
      exact ⟨_, .call m titles s d hreach hfresh', hwrites.symm, hafter, honly.of_sameIn hothers⟩
    · obtain ⟨-, -, -, -, hothers⟩ := Action.run_twins (.change m) hmem.coherent
        hmem.coherent (.refl b _) hon hon rfl titles d s
      exact ⟨{ alone with writesLeft := _ }, .limitWrites _ hreach, rfl,
        (hothers r (Ne.symm hb)).symm.trans hsame, honly⟩

/-- **Repositories are isolated from each other.** After every history, a call on a repository, with
any deadline and any faults,

* leaves all other repositories as they are;
* returns the same, and leaves its own repository the same, after any other history that has led to
  the same repository, whatever it has led to elsewhere;
* returns the same after a history that has led to the same repository and to nothing else, so that
  what it names of other repositories does not exist there. -/
theorem Reachable.isolated {mem : Memory} (h : mem.Reachable) {r : RepositoryId} {a : Action}
    (hon : a.IsOn mem.tables r) (hfresh : a.IsFresh mem.tables) {τ : Type}
    (titles : TitleSource τ) (d : Deadline) (s : τ) :
    let x := a.operation.run Memory.store titles d (mem, s)
    (∀ b, b ≠ r → mem.tables.SameIn b x.2.1.tables) ∧
    (∀ mem' : Memory, mem'.Reachable → mem'.writesLeft = mem.writesLeft →
      mem.tables.SameIn r mem'.tables → a.IsOn mem'.tables r → a.IsFresh mem'.tables →
        let y := a.operation.run Memory.store titles d (mem', s)
        x.1 = y.1 ∧ x.2.2 = y.2.2 ∧ x.2.1.tables.SameIn r y.2.1.tables) ∧
    ∃ alone : Memory, alone.Reachable ∧ alone.writesLeft = mem.writesLeft ∧
      mem.tables.SameIn r alone.tables ∧ alone.tables.Only r ∧ a.IsOn alone.tables r ∧
      a.IsFresh alone.tables ∧ x.1 = (a.operation.run Memory.store titles d (alone, s)).1 := by
  have htwice := fun (mem' : Memory) (h' : mem'.Reachable)
      (hleft : mem'.writesLeft = mem.writesLeft) (hsame : mem.tables.SameIn r mem'.tables)
      (hon' : a.IsOn mem'.tables r) =>
    a.run_twins h.coherent h'.coherent hsame hon hon' hleft.symm titles d s
  refine ⟨?_, fun mem' h' hleft hsame hon' _ => ?_, ?_⟩
  · exact (htwice mem h rfl (.refl r _) hon).2.2.2.2
  · obtain ⟨hresult, htitles, -, hafter, -⟩ := htwice mem' h' hleft hsame hon'
    exact ⟨hresult, htitles, hafter⟩
  · obtain ⟨alone, h', hleft, hsame, honly⟩ := h.exists_alone r
    have hon' := hon.of_only honly
    exact ⟨alone, h', hleft, hsame, honly, hon', hfresh.of_only hon hsame honly,
      (htwice alone h' hleft hsame hon').1⟩

/-- The chain, and a second repository with a topic of its own. -/
def neighbours : Memory :=
  (chain.perform (.createRepository "Films" ⟨⟨2⟩⟩ ⟨⟨5⟩⟩ default)).perform
    (.upsertTopic ⟨⟨2⟩⟩ "Westerns" none [] ⟨⟨6⟩⟩ default)

lemma reachable_neighbours : neighbours.Reachable := by
  apply Reachable.perform
  · apply Reachable.perform reachable_chain
    constructor
    · decide +kernel
    · decide +kernel
  · show SortedMap.get? _ _ = none
    decide +kernel

/-- A topic of one repository is to move below a topic of the other: nothing changes in the other,
and the answer is the one that is given where the other topic does not exist. -/
theorem isolated_neighbours :
    let a : Action := .change (.updateParents ⟨⟨3⟩⟩ [⟨⟨6⟩⟩])
    let x := a.operation.run Memory.store TitleSource.silent .never (neighbours, ())
    neighbours.tables.SameIn ⟨⟨2⟩⟩ x.2.1.tables ∧
      neighbours.tables.Owns ⟨⟨2⟩⟩ (.topic ⟨⟨6⟩⟩) ∧
      ∃ alone : Memory, alone.Reachable ∧ alone.tables.topics.get? ⟨⟨6⟩⟩ = none ∧
        x.1 = (a.operation.run Memory.store TitleSource.silent .never (alone, ())).1 := by
  have hthree : neighbours.tables.Owns ⟨⟨1⟩⟩ (.topic ⟨⟨3⟩⟩) :=
    Option.map_eq_some_iff.1 (by decide +kernel)
  have hsix : neighbours.tables.Owns ⟨⟨2⟩⟩ (.topic ⟨⟨6⟩⟩) :=
    Option.map_eq_some_iff.1 (by decide +kernel)
  have hon : (Action.change (.updateParents ⟨⟨3⟩⟩ [⟨⟨6⟩⟩])).IsOn neighbours.tables ⟨⟨1⟩⟩ := by
    constructor
    · rintro _ ⟨⟩
    · rintro _ ⟨⟩ b hb
      exact Tables.Coherent.owns_unique hb hthree
  obtain ⟨hothers, -, alone, halone, -, hsame, honly, -, -, hresult⟩ :=
    reachable_neighbours.isolated hon trivial TitleSource.silent .never ()
  refine ⟨hothers _ (by decide), hsix, alone, halone, ?_, hresult⟩
  rw [Option.eq_none_iff_forall_ne_some]
  intro row hrow
  have hr : row.repository = ⟨⟨1⟩⟩ := honly.owned _ (.topic ⟨⟨6⟩⟩) ⟨row, hrow, rfl⟩
  have hbooks : neighbours.tables.Owns ⟨⟨1⟩⟩ (.topic ⟨⟨6⟩⟩) := hsame.owns_iff.2 ⟨row, hrow, hr⟩
  exact absurd (Tables.Coherent.owns_unique hbooks hsix) (by decide)

end Memory

end Polyhierarchy

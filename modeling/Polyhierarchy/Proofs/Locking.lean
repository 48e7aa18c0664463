import Polyhierarchy.Proofs.Interleaving

set_option relaxedAutoImplicit false
set_option autoImplicit false

/-!
# Stores with locks

A store may let its sessions see what others commit meanwhile, and have them wait for the lock of a
repository instead of failing at their end. A call that holds the lock has the repository to itself
until it ends. But most calls load the row of a topic or of a link before they ask for the lock, so
as to know which lock to ask for.

## Main definitions

* `Store.LockBased` — stores whose sessions see what is committed, and take locks.
* `Journal.store` — such a store, which keeps the requests of each session.
* `Program.LocksFirst`, `Program.atLock` — what a program does before it takes a lock.
* `Mutation.load?` — the row that a call loads before it takes the lock.

## Main results

* `Journal.lockBased` — the sessions of the store that keeps requests take locks.
* `Operation.on_atLock` — what is left of a call when it asks for its lock comes to what the call
  comes to.
* `Mutation.locksFirst` — a call loads one row at most before it takes the lock, and commits only
  after that.
-/

namespace Polyhierarchy

/-! ### Stores with locks -/

/-- The repository that a request asks the lock of. -/
def Request.lock? : Request → Option RepositoryId
  | lockRepository id => some id
  | _ => none

/-- A store whose sessions see the tables as they are committed by then, with their own changes.
These become visible to others when the session commits. A session holds the locks that it has
asked for until it ends. -/
structure Store.LockBased {σ κ ε : Type} (store : Store σ κ ε) where
  /-- The committed tables. -/
  committed : σ → Tables
  /-- What a session sees, given what is committed. -/
  sees : κ → Tables → Tables
  /-- Whether a session holds the lock of a repository. -/
  holds : κ → RepositoryId → Prop
  /-- Nothing is committed when a session begins. -/
  committed_begin : ∀ s, committed (store.begin s).2 = committed s
  /-- A session begins without changes of its own. -/
  sees_begin : ∀ s session s', store.begin s = (.ok session, s') → sees session = id
  /-- A session begins without locks. -/
  holds_begin : ∀ s session s' id, store.begin s = (.ok session, s') → ¬ holds session id
  /-- Nothing is committed while a session goes on. -/
  committed_answer : ∀ r session s,
    committed (store.backend.answer r (session, s)).2.2 = committed s
  /-- A request that succeeds is answered from what the session sees, and changes that. -/
  answer_eq_ok : ∀ r session s a session' s',
    store.backend.answer r (session, s) = (.ok a, session', s') →
      Memory.reply r (sees session (committed s)) = (.ok a, sees session' (committed s))
  /-- What a session sees is not changed by what it reads, also when others commit later. -/
  sees_answer : ∀ r session s a session' s',
    store.backend.answer r (session, s) = (.ok a, session', s') →
      (∀ t, (Memory.reply r t).2 = t) → sees session' = sees session
  /-- A session holds the locks that it has asked for. -/
  holds_answer : ∀ r session s a session' s' id,
    store.backend.answer r (session, s) = (.ok a, session', s') →
      (holds session' id ↔ holds session id ∨ r.lock? = some id)
  /-- A commit makes what the session sees the committed tables. -/
  commit_eq_ok : ∀ session s s', store.commit session s = (.ok (), s') →
    committed s' = sees session (committed s)
  /-- A commit that fails changes nothing. -/
  commit_eq_error : ∀ session s e s', store.commit session s = (.error e, s') →
    committed s' = committed s

/-! ### A store that keeps requests -/

namespace Journal

/-- What a session sees that has made some requests. -/
def sees (requests : List Request) (t : Tables) : Tables :=
  requests.foldl (fun t r => (Memory.reply r t).2) t

/-- A store that keeps the requests of each session, and makes them again when it commits. -/
def store : Store Tables (List Request) Memory.Fault where
  begin t := (.ok [], t)
  backend := ⟨fun r s => ((Memory.reply r (sees s.1 s.2)).1, s.1 ++ [r], s.2), Memory.Fault.message⟩
  commit requests t := (.ok (), sees requests t)

lemma sees_append (requests : List Request) (r : Request) (t : Tables) :
    sees (requests ++ [r]) t = (Memory.reply r (sees requests t)).2 := by
  rw [sees, List.foldl_append]
  rfl

/-- It is a store whose sessions take locks. -/
def lockBased : store.LockBased where
  committed := id
  sees := sees
  holds requests id := ∃ r ∈ requests, r.lock? = some id
  committed_begin _ := rfl
  sees_begin := by
    rintro t _ _ ⟨⟩
    rfl
  holds_begin := by
    rintro t _ _ id ⟨⟩ ⟨r, hr, -⟩
    exact absurd hr List.not_mem_nil
  committed_answer _ _ _ := rfl
  answer_eq_ok := by
    intro r requests t a requests' t' h
    obtain ⟨hreply, rfl, -⟩ := Prod.mk.injEq .. ▸ h
    exact Prod.ext hreply (sees_append requests r t).symm
  sees_answer := by
    intro r requests t a requests' t' h hread
    obtain ⟨-, rfl, -⟩ := Prod.mk.injEq .. ▸ h
    funext u
    rw [sees_append, hread]
  holds_answer := by
    intro r requests t a requests' t' id h
    obtain ⟨-, rfl, -⟩ := Prod.mk.injEq .. ▸ h
    simp [or_and_right, exists_or]
  commit_eq_ok := by
    rintro requests t _ ⟨⟩
    rfl
  commit_eq_error := by
    rintro requests t e _ ⟨⟩

end Journal

/-! ### Up to the lock -/

namespace Program

variable {α : Type} {load : Option Request} {t u : Tables} {m : Program (Ending α)}

/-- The lock that the next step of a program asks for. -/
def lock? : Program α → Option RepositoryId
  | ask _ r _ => r.lock?
  | _ => none

/-- A program asks for a lock at once, or ends with nothing to commit. -/
def LocksNow : Program (Ending α) → Prop
  | ask _ r _ => r.lock?.isSome = true
  | done (.discard _) | fail _ => True
  | done (.commit _) | look _ _ => False

/-- A program does so, or does so once it has loaded a row. -/
def LocksFirst (load : Option Request) : Program (Ending α) → Prop
  | ask _ r next => r.lock?.isSome = true ∨ load = some r ∧ ∀ a, (next a).LocksNow
  | done (.discard _) | fail _ => True
  | done (.commit _) | look _ _ => False

/-- Where a program is when it asks for a lock, or ends without one, if it has loaded a row from
some tables. -/
def atLock (t : Tables) : Program α → Program α
  | ask p r next =>
    if r.lock?.isSome then ask p r next
    else match (Memory.reply r t).1 with
      | .ok a => next a
      | .error _ => ask p r next
  | m => m

/-- A program that asks for a lock at once is there. -/
lemma atLock_of_lock? (h : m.lock?.isSome = true) (t : Tables) : m.atLock t = m := by
  cases m with
  | ask p r next => exact if_pos h
  | _ => rfl

/-- What is left of a program at its lock comes to what the program comes to. -/
lemma on_atLock (h : m.LocksFirst load)
    (hload : ∀ r, load = some r → ∀ t, (Memory.reply r t).2 = t) : (m.atLock t).on t = m.on t := by
  cases m with
  | ask p r next =>
    rw [atLock]
    split
    · rfl
    next hlock =>
      have hsame := hload r (h.resolve_left hlock).1 t
      rw [on_ask]
      rcases hreply : Memory.reply r t with ⟨e | a, t'⟩
      · rw [on_ask, hreply]
      · rw [hreply] at hsame
        obtain rfl : t' = t := hsame
        rfl
  | _ => rfl

/-- Where a program is at its lock depends on the row that it has loaded. -/
lemma atLock_congr (h : m.LocksFirst load)
    (hload : ∀ r, load = some r → (Memory.reply r t).1 = (Memory.reply r u).1) :
    m.atLock t = m.atLock u := by
  cases m with
  | ask p r next =>
    rw [atLock, atLock]
    split
    · rfl
    next hlock => rw [hload r (h.resolve_left hlock).1]
  | _ => rfl

end Program

namespace Operation

variable {α : Type} {load : Option Request} {titles : CanonicalUrl → TitleAnswer} {t u : Tables}
  {op : Operation α}

/-- The session of an operation asks for a lock first, or once it has loaded a row. -/
def LocksFirst (load : Option Request) : Operation α → Prop
  | answer _ => True
  | fetchTitle _ next => ∀ title, (next title).LocksFirst load
  | session body => body.LocksFirst load

/-- Where the session of an operation is when it asks for a lock, if it has loaded a row from some
tables. -/
def atLock (titles : CanonicalUrl → TitleAnswer) (t : Tables) : Operation α → Program (Ending α)
  | answer a => .done (.discard a)
  | fetchTitle url next => (next (titles url).title?).atLock titles t
  | session body => body.atLock t

lemma on_atLock (h : op.LocksFirst load)
    (hload : ∀ r, load = some r → ∀ t, (Memory.reply r t).2 = t) :
    op.on (.always titles) (t, ()) =
      (((op.atLock titles t).on t).1, ((op.atLock titles t).on t).2, ()) := by
  induction op with
  | answer a => rfl
  | fetchTitle url next ih => exact ih _ (h _)
  | session body => rw [on, atLock, Program.on_atLock h hload]

lemma atLock_congr (h : op.LocksFirst load)
    (hload : ∀ r, load = some r → (Memory.reply r t).1 = (Memory.reply r u).1) :
    op.atLock titles t = op.atLock titles u := by
  induction op with
  | answer a => rfl
  | fetchTitle url next ih => exact ih _ (h _)
  | session body => exact Program.atLock_congr h hload

end Operation

namespace Mutation

open Program

/-- Whether a call works within a repository that there is, so that it takes its lock. -/
def Locks : Mutation → Prop
  | createRepository .. => False
  | _ => True

/-- The row that a call loads before it takes the lock. -/
def load? : Mutation → Option Request
  | updateParents id _ | deleteTopic id | mergeTopic id _ | updateSynonyms id _ | setTimeRange id _
  | deleteTimeRange id => some (.topic id)
  | updateLinkParents id _ | deleteLink id => some (.link id)
  | createRepository .. | upsertTopic .. | upsertLink .. => none

/-- To load a row changes nothing. -/
lemma reply_load {m : Mutation} {r : Request} (h : m.load? = some r) (t : Tables) :
    (Memory.reply r t).2 = t := by
  cases m <;> simp only [load?, Option.some.injEq, reduceCtorEq] at h <;> subst h <;> rfl

variable {α : Type}

/-- A program that loads the row of a topic, which has to exist. -/
lemma locksFirst_topic {id : TopicId} {next : Topic → Program (Ending α)}
    (h : ∀ row, (next row).LocksNow) :
    (Lookup.topic id >>= next).LocksFirst (some (.topic id)) := by
  refine .inr ⟨rfl, fun found => ?_⟩
  cases found with
  | none => trivial
  | some row => exact h row

/-- A program that loads the row of a topic, which has to exist and must not be a root. -/
lemma locksFirst_movableTopic {id : TopicId} {attempt : String} {next : Topic → Program (Ending α)}
    (h : ∀ row, (next row).LocksNow) :
    (Operation.movableTopic id attempt >>= next).LocksFirst (some (.topic id)) := by
  refine .inr ⟨rfl, fun found => ?_⟩
  cases found with
  | none => trivial
  | some row =>
    show LocksNow ((if row.isRoot then fail (.rootTopic row.id attempt) else done row) >>= next)
    split
    · trivial
    · exact h row

/-- A program that loads the row of a link, which has to exist. -/
lemma locksFirst_link {id : LinkId} {next : Link → Program (Ending α)}
    (h : ∀ row, (next row).LocksNow) :
    (Lookup.link id >>= next).LocksFirst (some (.link id)) := by
  refine .inr ⟨rfl, fun found => ?_⟩
  cases found with
  | none => trivial
  | some row => exact h row

/-- **A call loads one row at most before it takes the lock**, and commits only after that. -/
theorem locksFirst (m : Mutation) (h : m.Locks) : m.operation.LocksFirst m.load? := by
  cases m with
  | createRepository name id root now => exact h.elim
  | upsertTopic repository name description parentIds id now =>
    rw [operation, Operation.upsertTopic]
    rcases normalizeName name with ⟨n, _ | _⟩
    · trivial
    · exact .inl rfl
  | updateParents id parentIds => exact locksFirst_movableTopic fun _ => rfl
  | deleteTopic id => exact locksFirst_movableTopic fun _ => rfl
  | mergeTopic source target => exact locksFirst_movableTopic fun _ => rfl
  | updateSynonyms id synonyms =>
    refine locksFirst_topic fun row => ?_
    split
    · trivial
    · rfl
  | setTimeRange id range => exact locksFirst_topic fun _ => rfl
  | deleteTimeRange id => exact locksFirst_topic fun _ => rfl
  | upsertLink repository url title parentIds id now =>
    rw [operation, Operation.upsertLink]
    rcases CanonicalUrl.parse url with _ | page
    · trivial
    · rcases Operation.givenTitle? title with _ | given
      · exact fun _ => .inl rfl
      · exact .inl rfl
  | updateLinkParents id parentIds => exact locksFirst_link fun _ => rfl
  | deleteLink id => exact locksFirst_link fun _ => rfl

end Mutation

end Polyhierarchy

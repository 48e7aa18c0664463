import Mathlib.Data.List.Permutation
import Polyhierarchy.Proofs.Locking

set_option relaxedAutoImplicit false
set_option autoImplicit false

/-!
# Calls that take locks

Calls run at the same time in a store with locks. While a call holds the lock of the repository, no
other call commits, so that what it reads is not outdated by what others do. What it has loaded
before may be: some calls write the row that they have loaded back as a whole. As long as no commit
changes the row that a call has loaded while the call waits for the lock, all that happens can be
explained by running the calls one after another. Otherwise a change that was committed may be lost.

## Main definitions

* `Concurrent.Along` — what holds of each step of a schedule.
* `Concurrent.Granted` — a lock is taken only if no other call holds it.
* `Concurrent.Steady` — no row changes that a call has loaded which waits for the lock.
* `Concurrent.Orderly` — the invariant: what is committed is the result of a serial run, one call at
  most holds the lock, and the program of that call comes to what the call comes to alone.
* `Concurrent.Outcome` — what a step may do where the invariant holds.

## Main results

* `Concurrent.Orderly.step` — every step keeps the invariant.
* `Concurrent.commits_explain` — the commits explain the tables, for any number of calls.
* `Concurrent.two_calls_serial` — two calls that commit do what they do one after the other.
* `Concurrent.lost_update` — a change is lost where a row changes while a call waits.
-/

namespace Polyhierarchy

/-! ### Schedules -/

namespace Stage

variable {σ κ ε α : Type} {store : Store σ κ ε}

/-- The lock that the next step asks for. -/
def asks : Stage κ α → Option RepositoryId
  | running _ rest => rest.lock?
  | _ => none

/-- Whether a call holds the lock of a repository. -/
def Holds (L : store.LockBased) (r : RepositoryId) : Stage κ α → Prop
  | running session _ => L.holds session r
  | _ => False

end Stage

namespace Concurrent

variable {ι σ κ ε : Type} {store : Store σ κ ε}

/-- The lock that a call asks for is that of the repository, and no other call holds it: otherwise
the call has to wait. -/
def Granted {α : ι → Type} (L : store.LockBased) (r : RepositoryId) (c : Concurrent ι σ κ α)
    (i : ι) : Prop :=
  ∀ x, (c.stage i).asks = some x → x = r ∧ ∀ j, j ≠ i → ¬ (c.stage j).Holds L r

/-- How far a call has come that has not ended, given the committed tables. Without the lock it has
nothing to commit, and what is left of it once it waits for the lock is what there would be if it
loaded its row now. With the lock its program comes to what the call comes to. -/
def Ready (L : store.LockBased) (r : RepositoryId) (titles : CanonicalUrl → TitleAnswer)
    (m : Mutation) (t : Tables) : Stage κ m.Result → Prop
  | .waiting op => op.LocksFirst m.load? ∧
      ∀ u, op.atLock titles u = m.operation.atLock titles u
  | .running session rest =>
      (¬ L.holds session r ∧ L.sees session = id ∧
        (rest.LocksFirst m.load? ∧ (∀ u, rest.atLock u = m.operation.atLock titles u) ∨
          rest.LocksNow ∧ (rest.lock?.isSome = true → rest = m.operation.atLock titles t))) ∨
      (L.holds session r ∧ m.operation.on (.always titles) (t, ()) =
        ((rest.on (L.sees session t)).1, (rest.on (L.sees session t)).2, ()))
  | .finished _ => True

section

variable (L : store.LockBased) (r : RepositoryId) (titles : CanonicalUrl → TitleAnswer)
  (m : ι → Mutation)

/-- **The commits explain the tables**, and one call at most holds the lock. -/
structure Orderly (t₀ : Tables) (c : Concurrent ι σ κ fun i => (m i).Result) : Prop where
  /-- The committed tables are those after a serial run. -/
  committed_eq : L.committed c.state =
    (Serial.state titles (fun i => (m i).operation) ⟨t₀, 0, none⟩ c.commits).tables
  /-- No call commits twice. -/
  nodup : c.commits.Nodup
  /-- A call that has committed has ended. -/
  ended : ∀ i ∈ c.commits, ∃ result, c.stage i = .finished result
  /-- One call at most holds the lock. -/
  exclusive : ∀ i j, (c.stage i).Holds L r → (c.stage j).Holds L r → i = j
  /-- Each call has come as far as it may. -/
  ready : ∀ i, Ready L r titles (m i) (L.committed c.state) (c.stage i)

/-- What the next step of a call may do, given its next stage, the next state, and whether it
commits. Either nothing is committed, and the call takes the lock only if it is free; or the call
holds the lock and commits what it comes to on the committed tables. -/
def Outcome (c : Concurrent ι σ κ fun i => (m i).Result) (i : ι)
    (next : Stage κ (m i).Result × σ × Bool) : Prop :=
  next.2.2 = false ∧ L.committed next.2.1 = L.committed c.state ∧
      Ready L r titles (m i) (L.committed c.state) next.1 ∧
      (next.1.Holds L r → (c.stage i).Holds L r ∨ ∀ j, j ≠ i → ¬ (c.stage j).Holds L r) ∨
    next.2.2 = true ∧ (c.stage i).Holds L r ∧
      ∃ a, next.1 = .finished (.ok a) ∧ (m i).operation.on (.always titles)
        (L.committed c.state, ()) = (.ok (.commit a), L.committed next.2.1, ())

end

variable {L : store.LockBased} {r : RepositoryId} {titles : CanonicalUrl → TitleAnswer}

/-- A call that does not hold the lock is as far as it may be, whatever another call commits, if the
row that it has loaded stays the same while it waits. -/
lemma Ready.mono {m : Mutation} {t t' : Tables} {stage : Stage κ m.Result}
    (h : Ready L r titles m t stage) (hm : m.Locks) (hnot : ¬ stage.Holds L r)
    (hsteady : ∀ load, stage.asks.isSome = true → m.load? = some load →
      (Memory.reply load t').1 = (Memory.reply load t).1) : Ready L r titles m t' stage := by
  cases stage with
  | waiting op => exact h
  | running session rest =>
    rcases h with ⟨hfree, hsees, hbefore | ⟨hnow, hrest⟩⟩ | ⟨hheld, -⟩
    · exact .inl ⟨hfree, hsees, .inl hbefore⟩
    · refine .inl ⟨hfree, hsees, .inr ⟨hnow, fun hasks => ?_⟩⟩
      rw [Operation.atLock_congr (m.locksFirst hm) fun load => hsteady load hasks]
      exact hrest hasks
    · exact absurd hheld hnot
  | finished result => trivial

variable {m : ι → Mutation} {t₀ : Tables} {c : Concurrent ι σ κ fun i => (m i).Result} {i : ι}

/-- A call may end without a commit. -/
lemma outcome_finished {result : Except EngineError (m i).Result} {s : σ}
    (h : L.committed s = L.committed c.state) :
    Outcome L r titles m c i (.finished result, s, false) :=
  .inl ⟨rfl, h, trivial, fun hfalse => hfalse.elim⟩

/-- A request of a session. Without the lock it can only load a row, or ask for the lock; then the
row that was loaded is still stored, so that what is left of the program comes to what the call
comes to. -/
lemma Orderly.ask_cases (h : Orderly L r titles m t₀ c) (hm : (m i).Locks) {session : κ}
    {purpose : String} {request : Request} {next : request.Reply → Program (Ending (m i).Result)}
    (hstage : c.stage i = .running session (.ask purpose request next))
    (hgranted : c.Granted L r i) :
    Outcome L r titles m c i
      ((Stage.running session (.ask purpose request next)).step store titles c.state) := by
  have hready := h.ready i
  rw [hstage] at hready
  have hcommitted := L.committed_answer request session c.state
  rw [Stage.step]
  rcases hans : store.backend.answer request (session, c.state) with ⟨e | a, session', s'⟩
  · rw [hans] at hcommitted
    exact outcome_finished hcommitted
  rw [hans] at hcommitted
  have hreply := L.answer_eq_ok _ _ _ _ _ _ hans
  have hholds := L.holds_answer _ _ _ _ _ _ r hans
  refine .inl ⟨rfl, hcommitted, ?_⟩
  rcases hready with ⟨hfree, hsees, hbefore⟩ | ⟨hheld, hon⟩
  · rw [hsees, id] at hreply
    cases hlock : request.lock? with
    | none =>
      have hno : ¬ request.lock?.isSome = true := by rw [hlock]; exact Bool.false_ne_true
      obtain ⟨hfirst, hat⟩ := hbefore.resolve_right fun hnow => hno hnow.1
      obtain ⟨hload, hnow⟩ := hfirst.resolve_left hno
      have hsees' := L.sees_answer _ _ _ _ _ _ hans (Mutation.reply_load hload)
      have hfree' : ¬ L.holds session' r := by
        rw [hholds, hlock]
        simp [hfree]
      have hrest := hat (L.committed c.state)
      rw [Program.atLock, if_neg hno, hreply] at hrest
      exact ⟨.inl ⟨hfree', hsees'.trans hsees, .inr ⟨hnow a, fun _ => hrest⟩⟩,
        fun hheld => absurd hheld hfree'⟩
    | some x =>
      have hasks : (c.stage i).asks = some x := by rw [hstage]; exact hlock
      have hsome : request.lock?.isSome = true := by rw [hlock]; rfl
      obtain ⟨rfl, hnobody⟩ := hgranted x hasks
      have hrest : .ask purpose request next =
          (m i).operation.atLock titles (L.committed c.state) := by
        rcases hbefore with ⟨-, hat⟩ | ⟨-, hrest⟩
        · rw [← hat]
          exact (Program.atLock_of_lock? (m := .ask purpose request next) hsome _).symm
        · exact hrest hsome
      have hon : (m i).operation.on (.always titles) (L.committed c.state, ()) = _ :=
        Operation.on_atLock ((m i).locksFirst hm) fun _ => Mutation.reply_load
      rw [← hrest, Program.on_ask, hreply] at hon
      exact ⟨.inr ⟨hholds.2 (.inr hlock), hon⟩, fun _ => .inr hnobody⟩
  · rw [Program.on_ask, hreply] at hon
    refine ⟨.inr ⟨hholds.2 (.inl hheld), hon⟩, fun _ => .inl ?_⟩
    rw [hstage]
    exact hheld

/-- **What a step does.** -/
lemma Orderly.step_cases (h : Orderly L r titles m t₀ c) (hm : (m i).Locks)
    (hgranted : c.Granted L r i) :
    Outcome L r titles m c i ((c.stage i).step store titles c.state) := by
  have hready := h.ready i
  cases hstage : c.stage i with
  | waiting op =>
    rw [hstage] at hready
    obtain ⟨hfirst, hat⟩ := hready
    cases op with
    | answer a => exact outcome_finished rfl
    | fetchTitle url next => exact .inl ⟨rfl, rfl, ⟨hfirst _, hat⟩, fun hfalse => hfalse.elim⟩
    | session body =>
      have hcommitted := L.committed_begin c.state
      rw [Stage.step]
      rcases hbegin : store.begin c.state with ⟨e | session, s'⟩
      · rw [hbegin] at hcommitted
        exact outcome_finished hcommitted
      · rw [hbegin] at hcommitted
        have hfree := L.holds_begin _ _ _ r hbegin
        exact .inl ⟨rfl, hcommitted,
          .inl ⟨hfree, L.sees_begin _ _ _ hbegin, .inl ⟨hfirst, hat⟩⟩,
          fun hheld => absurd hheld hfree⟩
  | running session rest =>
    cases rest with
    | ask purpose request next => exact h.ask_cases hm hstage hgranted
    | fail e => exact outcome_finished rfl
    | look purpose next =>
      rw [hstage] at hready
      rcases hready with ⟨-, -, ⟨hfalse, -⟩ | ⟨hfalse, -⟩⟩ | hready
      · exact hfalse.elim
      · exact hfalse.elim
      · refine .inl ⟨rfl, rfl, .inr hready, fun _ => .inl ?_⟩
        rw [hstage]
        exact hready.1
    | done ending =>
      cases ending with
      | discard a => exact outcome_finished rfl
      | commit a =>
        rw [hstage] at hready
        rcases hready with ⟨-, -, ⟨hfalse, -⟩ | ⟨hfalse, -⟩⟩ | ⟨hheld, hon⟩
        · exact hfalse.elim
        · exact hfalse.elim
        rw [Stage.step]
        rcases hcommit : store.commit session c.state with ⟨e | _, s'⟩
        · exact outcome_finished (L.commit_eq_error _ _ _ _ hcommit)
        · refine .inr ⟨rfl, ?_, a, rfl, ?_⟩
          · rw [hstage]
            exact hheld
          · rw [L.commit_eq_ok _ _ _ hcommit]
            exact hon
  | finished result => exact outcome_finished rfl

/-- All calls begin without locks, and with nothing to commit. -/
lemma orderly_start (L : store.LockBased) (r : RepositoryId)
    (titles : CanonicalUrl → TitleAnswer) (hm : ∀ i, (m i).Locks) (s : σ) :
    Orderly L r titles m (L.committed s) (.start (fun i => (m i).operation) s) where
  committed_eq := rfl
  nodup := List.nodup_nil
  ended _ hi := absurd hi List.not_mem_nil
  exclusive _ _ hi := hi.elim
  ready i := ⟨(m i).locksFirst (hm i), fun _ => rfl⟩

/-- A step that commits nothing keeps the invariant: it changes one call only, and if this one takes
the lock, no other one has it. -/
lemma Orderly.of_unchanged (h : Orderly L r titles m t₀ c)
    {c' : Concurrent ι σ κ fun i => (m i).Result} (hcommits : c'.commits = c.commits)
    (hstate : L.committed c'.state = L.committed c.state)
    (hother : ∀ j, j ≠ i → c'.stage j = c.stage j)
    (hended : ∀ j ∈ c.commits, ∃ result, c'.stage j = .finished result)
    (hready : Ready L r titles (m i) (L.committed c.state) (c'.stage i))
    (hholds : (c'.stage i).Holds L r →
      (c.stage i).Holds L r ∨ ∀ j, j ≠ i → ¬ (c.stage j).Holds L r) :
    Orderly L r titles m t₀ c' where
  committed_eq := by
    rw [hcommits, hstate]
    exact h.committed_eq
  nodup := by
    rw [hcommits]
    exact h.nodup
  ended := by
    rw [hcommits]
    exact hended
  exclusive := by
    have hfree : ∀ j, j ≠ i → (c'.stage j).Holds L r → ¬ (c'.stage i).Holds L r := by
      intro j hj hjHolds hiHolds
      rw [hother j hj] at hjHolds
      rcases hholds hiHolds with hiHolds | hnobody
      · exact hj (h.exclusive j i hjHolds hiHolds)
      · exact hnobody j hj hjHolds
    intro j k hj hk
    by_cases hji : j = i
    · by_cases hki : k = i
      · rw [hji, hki]
      · exact absurd (hji ▸ hj) (hfree k hki hk)
    · by_cases hki : k = i
      · exact absurd (hki ▸ hk) (hfree j hji hj)
      · rw [hother j hji] at hj
        rw [hother k hki] at hk
        exact h.exclusive j k hj hk
  ready j := by
    rw [hstate]
    by_cases hj : j = i
    · rw [hj]
      exact hready
    · rw [hother j hj]
      exact h.ready j

/-- A commit keeps the invariant: the call holds the lock, so no other one does, and what has become
of the others does not depend on what is committed, but for the rows that they have loaded. -/
lemma Orderly.of_commit (h : Orderly L r titles m t₀ c) (hm : ∀ i, (m i).Locks)
    {c' : Concurrent ι σ κ fun i => (m i).Result} (hcommits : c'.commits = c.commits ++ [i])
    (hother : ∀ j, j ≠ i → c'.stage j = c.stage j)
    (hended : ∀ j ∈ c.commits, ∃ result, c'.stage j = .finished result)
    (hheld : (c.stage i).Holds L r) {a : (m i).Result} (hfinished : c'.stage i = .finished (.ok a))
    (hon : (m i).operation.on (.always titles) (L.committed c.state, ()) =
      (.ok (.commit a), L.committed c'.state, ()))
    (hsteady : ∀ j load, j ≠ i → (c.stage j).asks.isSome = true → (m j).load? = some load →
      (Memory.reply load (L.committed c'.state)).1 = (Memory.reply load (L.committed c.state)).1) :
    Orderly L r titles m t₀ c' := by
  have hi : i ∉ c.commits := by
    intro hi
    obtain ⟨result, hresult⟩ := h.ended i hi
    rw [hresult] at hheld
    exact hheld
  have hnobody : ∀ j, j ≠ i → ¬ (c.stage j).Holds L r := fun j hj hjHolds =>
    hj (h.exclusive j i hjHolds hheld)
  refine ⟨?_, ?_, fun j hj => ?_, fun j k hj _ => absurd hj ?_, fun j => ?_⟩
  · rw [hcommits, Serial.state_append, Serial.call_eq (Serial.state_unlimited rfl _),
      ← h.committed_eq, hon]
  · rw [hcommits, ← List.concat_eq_append]
    exact (List.nodup_concat _ _).2 ⟨hi, h.nodup⟩
  · rw [hcommits, List.mem_append, List.mem_singleton] at hj
    rcases hj with hj | rfl
    · exact hended j hj
    · exact ⟨.ok a, hfinished⟩
  · by_cases hj : j = i
    · rw [hj, hfinished]
      exact id
    · rw [hother j hj]
      exact hnobody j hj
  · by_cases hj : j = i
    · rw [hj, hfinished]
      trivial
    · rw [hother j hj]
      exact (h.ready j).mono (hm j) (hnobody j hj) fun load => hsteady j load hj

variable [DecidableEq ι]

/-- What holds of each step of a schedule. -/
def Along {α : ι → Type} (store : Store σ κ ε) (titles : CanonicalUrl → TitleAnswer)
    (P : Concurrent ι σ κ α → ι → Prop) : Concurrent ι σ κ α → List ι → Prop
  | _, [] => True
  | c, i :: schedule => P c i ∧ Along store titles P (c.step store titles i) schedule

/-- What holds of each step may be weakened. -/
lemma Along.imp {α : ι → Type} {P Q : Concurrent ι σ κ α → ι → Prop} {schedule : List ι}
    {c : Concurrent ι σ κ α} (h : Along store titles P c schedule) (hPQ : ∀ c i, P c i → Q c i) :
    Along store titles Q c schedule := by
  induction schedule generalizing c with
  | nil => trivial
  | cons i schedule ih => exact ⟨hPQ c i h.1, ih h.2⟩

/-- Whether something holds of each step can be found out by making the steps. -/
instance decidableAlong {α : ι → Type} (P : Concurrent ι σ κ α → ι → Prop)
    [∀ c i, Decidable (P c i)] (c : Concurrent ι σ κ α) (schedule : List ι) :
    Decidable (Along store titles P c schedule) :=
  match schedule with
  | [] => .isTrue trivial
  | i :: schedule =>
    have := decidableAlong P (c.step store titles i) schedule
    inferInstanceAs (Decidable (P c i ∧ Along store titles P (c.step store titles i) schedule))

/-- As long as a call waits for the lock, the row that it has loaded does not change with a step of
another one. -/
def Steady (L : store.LockBased) (titles : CanonicalUrl → TitleAnswer) (m : ι → Mutation)
    (c : Concurrent ι σ κ fun i => (m i).Result) (i : ι) : Prop :=
  ∀ j load, j ≠ i → (c.stage j).asks.isSome = true → (m j).load? = some load →
    (Memory.reply load (L.committed (c.step store titles i).state)).1 =
      (Memory.reply load (L.committed c.state)).1

/-- **Every step keeps the invariant.** -/
theorem Orderly.step (h : Orderly L r titles m t₀ c) (hm : ∀ i, (m i).Locks)
    (hgranted : c.Granted L r i) (hsteady : c.Steady L titles m i) :
    Orderly L r titles m t₀ (c.step store titles i) := by
  have hself : (c.step store titles i).stage i = _ := Function.update_self i _ c.stage
  have hother : ∀ j, j ≠ i → (c.step store titles i).stage j = c.stage j := fun j hj =>
    Function.update_of_ne hj _ c.stage
  have hended : ∀ j ∈ c.commits, ∃ result, (c.step store titles i).stage j = .finished result := by
    intro j hj
    obtain ⟨result, hresult⟩ := h.ended j hj
    by_cases hji : j = i
    · subst hji
      exact ⟨result, by rw [hself, hresult]; rfl⟩
    · exact ⟨result, (hother j hji).trans hresult⟩
  rcases h.step_cases (hm i) hgranted with ⟨hno, hstate, hready, hholds⟩ |
    ⟨hyes, hheld, a, hfinished, hon⟩
  · have hcommits : (c.step store titles i).commits = c.commits := by
      simp only [Concurrent.step, hno, Bool.false_eq_true, if_false]
    rw [← hself] at hready hholds
    exact h.of_unchanged hcommits hstate hother hended hready hholds
  · have hcommits : (c.step store titles i).commits = c.commits ++ [i] := by
      simp only [Concurrent.step, hyes, if_true]
    exact h.of_commit hm hcommits hother hended hheld (hself.trans hfinished) hon hsteady

/-- Every schedule keeps the invariant. -/
lemma Orderly.run (h : Orderly L r titles m t₀ c) (hm : ∀ i, (m i).Locks) {schedule : List ι}
    (hgranted : Along store titles (Granted L r) c schedule)
    (hsteady : Along store titles (Steady L titles m) c schedule) :
    Orderly L r titles m t₀ (c.run store titles schedule) := by
  induction schedule generalizing c with
  | nil => exact h
  | cons i schedule ih => exact ih (h.step hm hgranted.1 hsteady.1) hgranted.2 hsteady.2

/-- **The commits explain the tables.** If calls that work on one repository take its lock one at a
time, and no row changes that a call has loaded which waits for the lock, then whatever the schedule
of any number of calls is, the committed tables are those that the calls which have committed leave
one after another, in the order of their commits. -/
theorem commits_explain (L : store.LockBased) (r : RepositoryId)
    (titles : CanonicalUrl → TitleAnswer) (m : ι → Mutation) (hm : ∀ i, (m i).Locks) (s : σ)
    (schedule : List ι) :
    let ops := fun i => (m i).operation
    let c := (start ops s).run store titles schedule
    Along store titles (Granted L r) (start ops s) schedule →
      Along store titles (Steady L titles m) (start ops s) schedule →
        L.committed c.state = (Serial.state titles ops ⟨L.committed s, 0, none⟩ c.commits).tables ∧
          c.commits.Nodup := by
  intro ops c hgranted hsteady
  have h := (orderly_start L r titles hm s).run hm hgranted hsteady
  exact ⟨h.committed_eq, h.nodup⟩

end Concurrent

namespace Journal

instance {α : Type} (r : RepositoryId) (stage : Stage (List Request) α) :
    Decidable (stage.Holds lockBased r) :=
  match stage with
  | .running requests _ => inferInstanceAs (Decidable (∃ q ∈ requests, q.lock? = some r))
  | .waiting _ | .finished _ => .isFalse id

instance {α : Bool → Type} (r : RepositoryId) (c : Concurrent Bool Tables (List Request) α)
    (i : Bool) : Decidable (c.Granted lockBased r i) :=
  decidable_of_iff (∀ x ∈ (c.stage i).asks, x = r ∧ ∀ j, j ≠ i → ¬ (c.stage j).Holds lockBased r)
    (by simp [Concurrent.Granted])

end Journal

namespace Concurrent

/-- **Two calls that commit do what they do one after the other**, in one order or the other one, if
they take the lock of the repository one at a time, and neither commits a change of the row that the
other one has loaded and waits with for the lock. -/
theorem two_calls_serial {σ κ ε : Type} {store : Store σ κ ε} (L : store.LockBased)
    (r : RepositoryId) (titles : CanonicalUrl → TitleAnswer) (m : Bool → Mutation)
    (hm : ∀ i, (m i).Locks) (s : σ) (schedule : List Bool) :
    let ops := fun i => (m i).operation
    let c := (start ops s).run store titles schedule
    Along store titles (Granted L r) (start ops s) schedule →
      Along store titles (Steady L titles m) (start ops s) schedule → (∀ i, i ∈ c.commits) →
        ∃ i, L.committed c.state =
          (Serial.state titles ops ⟨L.committed s, 0, none⟩ [i, !i]).tables := by
  intro ops c hgranted hsteady hboth
  obtain ⟨hcommitted, hnodup⟩ := commits_explain L r titles m hm s schedule hgranted hsteady
  have hperm : c.commits.Perm [false, true] :=
    (List.perm_ext_iff_of_nodup hnodup (by decide)).2 fun i =>
      ⟨fun _ => by cases i <;> decide, fun _ => hboth i⟩
  rcases List.perm_pair.1 hperm with horder | horder
  · exact ⟨false, hcommitted.trans (by rw [horder]; rfl)⟩
  · exact ⟨true, hcommitted.trans (by rw [horder]; rfl)⟩

/-- A call gives a topic a time range, and another one gives a topic other synonyms. -/
def revisions (dated renamed : TopicId) : Bool → Mutation
  | false => .setTimeRange dated ⟨default, none, .none⟩
  | true => .updateSynonyms renamed [.ofName "Tales", .ofName "Stories"]

/-- The first call loads its row, the second one runs to its end, and then the first one goes on. -/
def overtaking : List Bool :=
  List.replicate 2 false ++ List.replicate 6 true ++ List.replicate 4 false

/-- No source has a title for any page. -/
def untitled (_ : CanonicalUrl) : TitleAnswer := .title none

/-- The store with locks before two such calls. -/
def beforeRevisions (dated renamed : TopicId) :
    Concurrent Bool Tables (List Request) fun i => (revisions dated renamed i).Result :=
  start (fun i => (revisions dated renamed i).operation) siblings.tables

/-- The store with locks after them. -/
def afterRevisions (dated renamed : TopicId) :
    Concurrent Bool Tables (List Request) fun i => (revisions dated renamed i).Result :=
  (beforeRevisions dated renamed).run Journal.store untitled overtaking

/-- The tables that the two calls leave one after the other. -/
def serialRevisions (dated renamed : TopicId) (first : Bool) : Tables :=
  (Serial.state untitled (fun i => (revisions dated renamed i).operation)
    ⟨siblings.tables, 0, none⟩ [first, !first]).tables

/-- If the two calls are about different siblings, they do what they do one after the other. -/
theorem two_calls_serial_siblings :
    (afterRevisions ⟨⟨2⟩⟩ ⟨⟨3⟩⟩).commits = [true, false] ∧
      ∃ first, (afterRevisions ⟨⟨2⟩⟩ ⟨⟨3⟩⟩).state = serialRevisions ⟨⟨2⟩⟩ ⟨⟨3⟩⟩ first := by
  have hcommits : (afterRevisions ⟨⟨2⟩⟩ ⟨⟨3⟩⟩).commits = [true, false] := by decide +kernel
  have hgranted : Along Journal.store untitled (Granted Journal.lockBased ⟨⟨1⟩⟩)
      (beforeRevisions ⟨⟨2⟩⟩ ⟨⟨3⟩⟩) overtaking := by decide +kernel
  -- No step of one call changes the row of the topic that the other one is about.
  have hrows : Along Journal.store untitled
      (fun c i =>
        let other : TopicId := bif i then ⟨⟨2⟩⟩ else ⟨⟨3⟩⟩
        (c.step Journal.store untitled i).state.topics.get? other = c.state.topics.get? other)
      (beforeRevisions ⟨⟨2⟩⟩ ⟨⟨3⟩⟩) overtaking := by decide +kernel
  have hsteady : Along Journal.store untitled
      (Steady Journal.lockBased untitled (revisions ⟨⟨2⟩⟩ ⟨⟨3⟩⟩))
      (beforeRevisions ⟨⟨2⟩⟩ ⟨⟨3⟩⟩) overtaking := by
    refine hrows.imp fun c i hrow j load hne _ hload => ?_
    obtain rfl : j = !i := Bool.eq_not_of_ne hne
    cases i with
    | false =>
      obtain rfl := Option.some.inj hload
      exact congrArg Except.ok hrow
    | true =>
      obtain rfl := Option.some.inj hload
      exact congrArg Except.ok hrow
  exact ⟨hcommits, two_calls_serial Journal.lockBased ⟨⟨1⟩⟩ untitled (revisions ⟨⟨2⟩⟩ ⟨⟨3⟩⟩)
    (fun i => by cases i <;> trivial) siblings.tables overtaking hgranted hsteady
    fun i => by
      show i ∈ (afterRevisions ⟨⟨2⟩⟩ ⟨⟨3⟩⟩).commits
      rw [hcommits]
      cases i <;> decide⟩

/-- **An update is lost** if the two calls are about the same topic: each takes the lock, and both
commit, but the call that has loaded the row first puts it back with the old synonyms. -/
theorem lost_update :
    Along Journal.store untitled (Granted Journal.lockBased ⟨⟨1⟩⟩)
        (beforeRevisions ⟨⟨2⟩⟩ ⟨⟨2⟩⟩) overtaking ∧
      (∀ i, i ∈ (afterRevisions ⟨⟨2⟩⟩ ⟨⟨2⟩⟩).commits) ∧
      ∀ first, (afterRevisions ⟨⟨2⟩⟩ ⟨⟨2⟩⟩).state.topics.get? ⟨⟨2⟩⟩ ≠
        (serialRevisions ⟨⟨2⟩⟩ ⟨⟨2⟩⟩ first).topics.get? ⟨⟨2⟩⟩ := by
  refine ⟨by decide +kernel, ?_, by decide +kernel⟩
  have hcommits : (afterRevisions ⟨⟨2⟩⟩ ⟨⟨2⟩⟩).commits = [true, false] := by decide +kernel
  rw [hcommits]
  decide

end Concurrent

end Polyhierarchy

import Mathlib.Data.List.Nodup
import Mathlib.Logic.Function.Basic
import Polyhierarchy.Proofs.History

set_option relaxedAutoImplicit false
set_option autoImplicit false

/-!
# Calls that run at the same time

Any number of calls run at once, and their steps come in any order: asking for a title, beginning a
session, each request of the session, and its end. A session of the store in memory commits only if
nothing else has committed since it began. So when it does, the copy that it began with is still
what is committed, and its calls have found what they would have found alone. All that happens can
be explained by running the calls that commit one after another, in the order of their commits.

## Main definitions

* `Stage` — how far a call has come; `Stage.step` — its next step.
* `Concurrent` — the store, the stages of all calls, and the commits so far; `Concurrent.run` — the
  steps of a schedule.
* `Serial.call`, `Serial.state` — a call alone, and the store after some calls, one after another.
* `Serial.Traceless` — the result of a call that has left nothing behind.
* `Serial.Explains` — the invariant: what is committed is the result of a serial run, and each call
  has come as far as it would have come alone after a part of that run.
* `Serial.Outcome` — what a step may do where the invariant holds.

## Main results

* `Stage.alone_eq_run` — a call whose steps nobody else's come between does what `Operation.run`
  says.
* `Serial.Explains.commit_cases` — a commit finds the copy of its session to be of the state that
  there still is, or finds a newer version.
* `Serial.Explains.step` — every step of any call keeps the invariant.
* `Concurrent.serializable` — whatever the schedule, the commits explain the state and all results.
* `Concurrent.reachable` — what holds after every history holds after every schedule.
-/

namespace Polyhierarchy

/-! ### Steps of calls -/

/-- A source that gives the same answer for a page whenever it is asked. -/
def TitleSource.always (titles : CanonicalUrl → TitleAnswer) : TitleSource Unit :=
  ⟨fun url s => (titles url, s)⟩

/-- How far a call has come: it has no session yet, its session has to go on with a program, or it
has returned. -/
inductive Stage (κ α : Type) where
  | waiting (op : Operation α)
  | running (session : κ) (rest : Program (Ending α))
  | finished (result : Except EngineError α)

namespace Stage

variable {σ κ ε α : Type}

/-- The next step of a call without a deadline: the stage that it comes to, the state of the store,
and whether the call has committed with this step. -/
def step (store : Store σ κ ε) (titles : CanonicalUrl → TitleAnswer) :
    Stage κ α → σ → Stage κ α × σ × Bool
  | waiting (.answer a), s => (finished (.ok a), s, false)
  | waiting (.fetchTitle url next), s => (waiting (next (titles url).title?), s, false)
  | waiting (.session body), s =>
    match store.begin s with
    | (.ok session, s) => (running session body, s, false)
    | (.error e, s) => (finished (.error (store.error "begin session" e)), s, false)
  | running _ (.fail e), s => (finished (.error e), s, false)
  | running session (.look _ next), s => (running session next, s, false)
  | running session (.ask purpose r next), s =>
    match store.backend.answer r (session, s) with
    | (.ok reply, session, s) => (running session (next reply), s, false)
    | (.error e, _, s) => (finished (.error (store.error purpose e)), s, false)
  | running _ (.done (.discard a)), s => (finished (.ok a), s, false)
  | running session (.done (.commit a)), s =>
    match store.commit session s with
    | (.ok (), s) => (finished (.ok a), s, true)
    | (.error e, s) => (finished (.error (store.error "commit" e)), s, false)
  | finished result, s => (finished result, s, false)

/-- The error that a call has returned, if it has. -/
def error? : Stage κ α → Option EngineError
  | finished (.error e) => some e
  | _ => none

lemma error?_eq_some {stage : Stage κ α} {e : EngineError} :
    stage.error? = some e ↔ stage = finished (.error e) := by
  rcases stage with op | ⟨session, rest⟩ | _ | _ <;> simp [error?]

/-- A number of steps of one call, with nothing in between. -/
def alone (store : Store σ κ ε) (titles : CanonicalUrl → TitleAnswer) :
    Nat → Stage κ α × σ → Stage κ α × σ
  | 0, c => c
  | n + 1, (stage, s) =>
    let next := stage.step store titles s
    alone store titles n (next.1, next.2.1)

/-- A session that nothing comes between ends as it does when it is held. -/
lemma alone_running (store : Store σ κ ε) (titles : CanonicalUrl → TitleAnswer)
    (rest : Program (Ending α)) (session : κ) (s : σ) :
    ∃ n, alone store titles n (running session rest, s) =
      match rest.run store.backend .never (session, s) with
      | (.error failure, _, s) => (finished (.error (failure.toError store.backend.describe)), s)
      | (.ok (.discard a), _, s) => (finished (.ok a), s)
      | (.ok (.commit a), session, s) =>
        match store.commit session s with
        | (.ok (), s) => (finished (.ok a), s)
        | (.error e, s) => (finished (.error (store.error "commit" e)), s) := by
  induction rest generalizing session s with
  | done ending =>
    refine ⟨1, ?_⟩
    cases ending with
    | discard a => rfl
    | commit a =>
      simp only [alone, step, Program.run]
      rcases store.commit session s with ⟨_ | _, s'⟩ <;> rfl
  | fail e => exact ⟨1, rfl⟩
  | look purpose next ih =>
    obtain ⟨n, hn⟩ := ih session s
    exact ⟨n + 1, hn⟩
  | ask purpose r next ih =>
    rcases hans : store.backend.answer r (session, s) with ⟨e | reply, session', s'⟩
    · refine ⟨1, ?_⟩
      simp only [alone, step, Program.run, hans]
      rfl
    · obtain ⟨n, hn⟩ := ih reply session' s'
      refine ⟨n + 1, ?_⟩
      simp only [alone, step, Program.run, hans]
      exact hn

/-- **A call that nothing comes between** returns what `Operation.run` says, and leaves the store as
it says. -/
theorem alone_eq_run (store : Store σ κ ε) (titles : CanonicalUrl → TitleAnswer)
    (op : Operation α) (s : σ) :
    ∃ n, alone store titles n (waiting op, s) =
      (finished (op.run store (.always titles) .never (s, ())).1,
        (op.run store (.always titles) .never (s, ())).2.1) := by
  induction op with
  | answer a => exact ⟨1, rfl⟩
  | fetchTitle url next ih =>
    obtain ⟨n, hn⟩ := ih (titles url).title?
    exact ⟨n + 1, hn⟩
  | session body =>
    simp only [Operation.run, Store.hold]
    rcases hbegin : store.begin s with ⟨e | session, s'⟩
    · refine ⟨1, ?_⟩
      simp only [alone, step, hbegin]
    · obtain ⟨n, hn⟩ := alone_running store titles body session s'
      refine ⟨n + 1, ?_⟩
      simp only [alone, step, hbegin]
      rw [hn]
      rcases body.run store.backend .never (session, s') with ⟨_ | _ | a, session'', s''⟩
      · rfl
      · dsimp only
        rcases store.commit session'' s'' with ⟨_ | _, _⟩ <;> rfl
      · rfl

end Stage

/-! ### Schedules -/

/-- A store with any number of calls at work on it. -/
structure Concurrent (ι σ κ : Type) (α : ι → Type) where
  /-- The state of the store. -/
  state : σ
  /-- How far each call has come. -/
  stage : (i : ι) → Stage κ (α i)
  /-- The calls that have committed, in the order of their commits. -/
  commits : List ι

namespace Concurrent

variable {ι σ κ ε : Type} {α : ι → Type}

/-- All calls before their first steps. -/
def start (ops : (i : ι) → Operation (α i)) (s : σ) : Concurrent ι σ κ α :=
  ⟨s, fun i => .waiting (ops i), []⟩

variable [DecidableEq ι]

/-- The next step of one of the calls. -/
def step (store : Store σ κ ε) (titles : CanonicalUrl → TitleAnswer) (c : Concurrent ι σ κ α)
    (i : ι) : Concurrent ι σ κ α :=
  let next := (c.stage i).step store titles c.state
  ⟨next.2.1, Function.update c.stage i next.1, if next.2.2 then c.commits ++ [i] else c.commits⟩

/-- The steps of a schedule, which names for each step the call that makes it. -/
def run (store : Store σ κ ε) (titles : CanonicalUrl → TitleAnswer) (c : Concurrent ι σ κ α)
    (schedule : List ι) : Concurrent ι σ κ α := schedule.foldl (step store titles) c

end Concurrent

/-! ### One call after another -/

namespace Serial

variable {ι : Type} {α : ι → Type} (titles : CanonicalUrl → TitleAnswer)
  (ops : (i : ι) → Operation (α i))

/-- What a call returns and leaves if it has the store in memory to itself. -/
def call (i : ι) (mem : Memory) : Except EngineError (α i) × Memory :=
  let result := (ops i).run Memory.store (.always titles) .never (mem, ())
  (result.1, result.2.1)

/-- The store after some calls, one after another. -/
def state (mem : Memory) (calls : List ι) : Memory :=
  calls.foldl (fun mem i => (call titles ops i mem).2) mem

/-- The result of a call that has left nothing behind: it is the result that the call has alone
after some of the commits, and the call changes nothing there; or the call would have committed
there, but has found a newer version. -/
def Traceless (mem : Memory) (commits : List ι) (i : ι) (result : Except EngineError (α i)) :
    Prop :=
  ∃ before, before <+: commits ∧
    let here := state titles ops mem before
    call titles ops i here = (result, here) ∨
      ∃ a version, (call titles ops i here).1 = .ok a ∧
        (call titles ops i here).2.version = here.version + 1 ∧
        here.version < version ∧ version ≤ (state titles ops mem commits).version ∧
        result = .error (.store "commit" (Memory.Fault.conflict here.version version).message)

/-- How far a call has come is explained by some commits. A call without a session would go on as it
would have begun. A session has the copy that some of the commits have left, and its program comes
to what the whole call comes to on it. A call that has committed has returned what it returns at its
place among the commits, and any other call has left nothing behind. -/
def Progress (mem : Memory) (commits : List ι) (i : ι) : Stage Memory.Session (α i) → Prop
  | .waiting op => i ∉ commits ∧
      ∀ t, op.on (.always titles) (t, ()) = (ops i).on (.always titles) (t, ())
  | .running session rest => i ∉ commits ∧
      ∃ before, before <+: commits ∧ session.base = (state titles ops mem before).version ∧
        (ops i).on (.always titles) ((state titles ops mem before).tables, ()) =
          ((rest.on session.tables).1, (rest.on session.tables).2, ())
  | .finished result =>
    (∃ before after, commits = before ++ i :: after ∧
      ∃ a, result = .ok a ∧ (call titles ops i (state titles ops mem before)).1 = .ok a) ∨
    i ∉ commits ∧ Traceless titles ops mem commits i result

/-- **The commits so far explain everything**: what is committed is what they leave one after
another, and how far each call has come is explained by them. -/
structure Explains (mem : Memory) (c : Concurrent ι Memory Memory.Session α) : Prop where
  /-- The state is that after a serial run. -/
  state_eq : c.state = state titles ops mem c.commits
  /-- Every commit has made a new version. -/
  version : ∀ before, before <+: c.commits →
    (state titles ops mem before).version = mem.version + before.length
  /-- No call commits twice. -/
  nodup : c.commits.Nodup
  /-- Each call has come as far as the commits explain. -/
  progress : ∀ i, Progress titles ops mem c.commits i (c.stage i)

/-- What the next step of a call may do, given its next stage, the next state, and whether it
commits. Either nothing is committed, and the call has come as far as the commits explain; or the
call commits, and does what it does with the store to itself. -/
def Outcome (mem : Memory) (c : Concurrent ι Memory Memory.Session α) (i : ι)
    (next : Stage Memory.Session (α i) × Memory × Bool) : Prop :=
  next.2.2 = false ∧ next.2.1 = c.state ∧ Progress titles ops mem c.commits i next.1 ∨
    next.2.2 = true ∧ i ∉ c.commits ∧ next.2.1 = (call titles ops i c.state).2 ∧
      next.2.1.version = c.state.version + 1 ∧
      ∃ a, next.1 = .finished (.ok a) ∧ (call titles ops i c.state).1 = .ok a

variable {titles ops} {mem : Memory} {i : ι}

lemma state_append (mem : Memory) (l : List ι) (i : ι) :
    state titles ops mem (l ++ [i]) = (call titles ops i (state titles ops mem l)).2 := by
  rw [state, List.foldl_append]
  rfl

/-- What a call does alone is what its program comes to. -/
lemma call_eq (h : mem.writesLeft = none) :
    call titles ops i mem =
      match (ops i).on (.always titles) (mem.tables, ()) with
      | (.ok (.commit a), t, _) => (.ok a, ⟨t, mem.version + 1, none⟩)
      | (.ok (.discard a), _, _) => (.ok a, mem)
      | (.error e, _, _) => (.error (e.toError Memory.Fault.message), mem) := by
  rw [call, (ops i).run_store (.always titles) () h]
  rcases (ops i).on (.always titles) (mem.tables, ()) with ⟨_ | _ | _, t, u⟩ <;> rfl

/-- Where writes have no limit, they have none after any call. -/
lemma call_unlimited (h : mem.writesLeft = none) :
    (call titles ops i mem).2.writesLeft = none := by
  rw [call_eq h]
  rcases (ops i).on (.always titles) (mem.tables, ()) with ⟨_ | _ | _, t, u⟩
  · exact h
  · rfl
  · exact h

lemma state_unlimited (h : mem.writesLeft = none) (l : List ι) :
    (state titles ops mem l).writesLeft = none := by
  induction l generalizing mem with
  | nil => exact h
  | cons i l ih => exact ih (call_unlimited h)

variable {c : Concurrent ι Memory Memory.Session α}

lemma Explains.version_le (h : Explains titles ops mem c) {before : List ι}
    (hb : before <+: c.commits) :
    (state titles ops mem before).version ≤ (state titles ops mem c.commits).version := by
  rw [h.version before hb, h.version c.commits (List.prefix_refl _)]
  exact Nat.add_le_add_left hb.length_le _

/-- All calls begin without commits. -/
lemma explains_start (titles : CanonicalUrl → TitleAnswer) (ops : (i : ι) → Operation (α i))
    (mem : Memory) : Explains titles ops mem (.start ops mem) where
  state_eq := rfl
  version before hb := by
    rw [List.prefix_nil.1 hb]
    rfl
  nodup := List.nodup_nil
  progress _ := ⟨List.not_mem_nil, fun _ => rfl⟩

/-- A commit of another call changes nothing about how far a call has come. -/
lemma Progress.mono {commits : List ι} {i j : ι} {stage : Stage Memory.Session (α i)}
    (h : Progress titles ops mem commits i stage) (hne : i ≠ j)
    (hversion : (state titles ops mem commits).version ≤
      (state titles ops mem (commits ++ [j])).version) :
    Progress titles ops mem (commits ++ [j]) i stage := by
  have hnot : i ∉ commits → i ∉ commits ++ [j] := by
    intro hi hmem
    rcases List.mem_append.1 hmem with hmem | hmem
    · exact hi hmem
    · exact hne (List.mem_singleton.1 hmem)
  have hprefix : ∀ {before}, before <+: commits → before <+: commits ++ [j] :=
    fun hb => hb.trans (List.prefix_append _ _)
  cases stage with
  | waiting op => exact ⟨hnot h.1, h.2⟩
  | running session rest =>
    obtain ⟨hi, before, hb, hbase, hon⟩ := h
    exact ⟨hnot hi, before, hprefix hb, hbase, hon⟩
  | finished result =>
    rcases h with ⟨before, after, rfl, hresult⟩ | ⟨hi, before, hb, hresult⟩
    · exact .inl ⟨before, after ++ [j], by simp, hresult⟩
    · refine .inr ⟨hnot hi, before, hprefix hb, ?_⟩
      rcases hresult with hsame | ⟨a, version, hok, hnext, hlt, hle, herror⟩
      · exact .inl hsame
      · exact .inr ⟨a, version, hok, hnext, hlt, Nat.le_trans hle hversion, herror⟩

/-- **What the commit of a session does.** It succeeds only if the version is the one that the
session began with. Then all commits have been made before that, so its copy is of the state that
there still is. -/
lemma Explains.commit_cases (h : Explains titles ops mem c) (hmem : mem.writesLeft = none)
    {session : Memory.Session} {a : α i} {before : List ι} (hi : i ∉ c.commits)
    (hb : before <+: c.commits) (hbase : session.base = (state titles ops mem before).version)
    (hon : (ops i).on (.always titles) ((state titles ops mem before).tables, ()) =
      (.ok (.commit a), session.tables, ())) :
    Outcome titles ops mem c i
      ((Stage.running session (.done (.commit a))).step Memory.store titles c.state) := by
  have hresult : call titles ops i (state titles ops mem before) =
      (.ok a, ⟨session.tables, (state titles ops mem before).version + 1, none⟩) := by
    rw [call_eq (state_unlimited hmem before), hon]
  by_cases hversion : c.state.version = session.base
  · have hlength : c.commits.length ≤ before.length := by
      have hthen := h.version before hb
      have hnow := h.version c.commits (List.prefix_refl _)
      rw [← h.state_eq] at hnow
      omega
    obtain rfl : before = c.commits := hb.eq_of_length_le hlength
    rw [← h.state_eq] at hresult
    have hunlimited : c.state.writesLeft = none := by
      rw [h.state_eq]
      exact state_unlimited hmem _
    have hstep : (Stage.running session (.done (.commit a))).step Memory.store titles c.state =
        (.finished (.ok a), (call titles ops i c.state).2, true) := by
      simp only [Stage.step, Memory.store, Memory.commit, if_pos hversion, hresult]
      rw [← hunlimited]
    rw [hstep]
    refine .inr ⟨rfl, hi, rfl, ?_, a, rfl, ?_⟩
    · rw [hresult]
    · rw [hresult]
  · have hstep : (Stage.running session (.done (.commit a))).step Memory.store titles c.state =
        (.finished (.error (.store "commit"
          (Memory.Fault.conflict session.base c.state.version).message)), c.state, false) := by
      simp only [Stage.step, Memory.store, Memory.commit, if_neg hversion]
      rfl
    rw [hstep]
    have hle := h.version_le hb
    rw [← h.state_eq] at hle
    refine .inl ⟨rfl, rfl, .inr ⟨hi, before, hb, .inr ⟨a, c.state.version, ?_, ?_, ?_, ?_, ?_⟩⟩⟩
    · rw [hresult]
    · rw [hresult]
    · omega
    · exact Nat.le_of_eq (by rw [h.state_eq])
    · rw [hbase]

/-- **What a step does.**

**Proof sketch.** By cases on the stage. A step of a session changes its copy only, as the copy of
the same program alone changes. `Explains.commit_cases` is about the only step that changes more. -/
lemma Explains.step_cases (h : Explains titles ops mem c) (hmem : mem.writesLeft = none) (i : ι) :
    Outcome titles ops mem c i ((c.stage i).step Memory.store titles c.state) := by
  have hstage := h.progress i
  have hunlimited : c.state.writesLeft = none := by
    rw [h.state_eq]
    exact state_unlimited hmem _
  have hcall : ∀ before, call titles ops i (state titles ops mem before) = _ := fun before =>
    call_eq (state_unlimited hmem before)
  generalize c.stage i = stage at hstage ⊢
  cases stage with
  | waiting op =>
    obtain ⟨hi, hon⟩ := hstage
    cases op with
    | answer a =>
      refine .inl ⟨rfl, rfl, .inr ⟨hi, c.commits, List.prefix_refl _, .inl ?_⟩⟩
      rw [hcall, ← hon]
      rfl
    | fetchTitle url next => exact .inl ⟨rfl, rfl, hi, hon⟩
    | session body =>
      refine .inl ⟨rfl, rfl, hi, c.commits, List.prefix_refl _, ?_, ?_⟩
      · rw [← h.state_eq]
        rfl
      · rw [← hon, ← h.state_eq]
        rfl
  | running session rest =>
    obtain ⟨hi, before, hb, hbase, hon⟩ := hstage
    cases rest with
    | done ending =>
      cases ending with
      | discard a =>
        refine .inl ⟨rfl, rfl, .inr ⟨hi, before, hb, .inl ?_⟩⟩
        rw [hcall, hon]
        rfl
      | commit a => exact h.commit_cases hmem hi hb hbase hon
    | fail e =>
      refine .inl ⟨rfl, rfl, .inr ⟨hi, before, hb, .inl ?_⟩⟩
      rw [hcall, hon]
      rfl
    | look purpose next => exact .inl ⟨rfl, rfl, hi, before, hb, hbase, hon⟩
    | ask purpose r next =>
      have hans : Memory.store.backend.answer r (session, c.state) = _ :=
        Memory.answerIn_unlimited r session hunlimited
      rw [Program.on_ask] at hon
      simp only [Stage.step, hans]
      -- The reply is the one that the program has alone, as both read the same copy.
      generalize Memory.reply r session.tables = answered at hon ⊢
      rcases answered with ⟨e | a, t⟩
      · refine .inl ⟨rfl, rfl, .inr ⟨hi, before, hb, .inl ?_⟩⟩
        rw [hcall, hon]
        rfl
      · exact .inl ⟨rfl, rfl, hi, before, hb, hbase, hon⟩
  | finished result => exact .inl ⟨rfl, rfl, hstage⟩

/-- A call that has committed has returned what it returns at its place among the commits. -/
lemma Explains.committed (h : Explains titles ops mem c) {before after : List ι}
    (hi : c.commits = before ++ i :: after) :
    ∃ a, c.stage i = .finished (.ok a) ∧
      (call titles ops i (Serial.state titles ops mem before)).1 = .ok a := by
  have hmem : i ∈ c.commits := by
    rw [hi]
    exact List.mem_append_right _ List.mem_cons_self
  have hnodup := h.nodup
  have hstage := h.progress i
  generalize c.stage i = stage at hstage ⊢
  cases stage with
  | waiting op => exact absurd hmem hstage.1
  | running session rest => exact absurd hmem hstage.1
  | finished result =>
    rcases hstage with ⟨before', after', hi', a, rfl, hresult⟩ | ⟨hnot, -⟩
    · rw [hi, List.nodup_middle, List.nodup_cons, List.mem_append, not_or] at hnodup
      obtain ⟨⟨hbefore, hafter⟩, -⟩ := hnodup
      rw [hi] at hi'
      obtain ⟨rfl, -⟩ := (List.append_cons_inj_of_notMem hbefore hafter).1 hi'
      exact ⟨a, rfl, hresult⟩
    · exact absurd hmem hnot

/-- A call that has returned without a commit has left nothing behind. -/
lemma Explains.traceless (h : Explains titles ops mem c) {result : Except EngineError (α i)}
    (hi : i ∉ c.commits) (hstage : c.stage i = .finished result) :
    Traceless titles ops mem c.commits i result := by
  have hprogress := h.progress i
  rw [hstage] at hprogress
  rcases hprogress with ⟨before, after, hcommits, -⟩ | ⟨-, htraceless⟩
  · rw [hcommits] at hi
    exact absurd (List.mem_append_right _ List.mem_cons_self) hi
  · exact htraceless

variable [DecidableEq ι]

/-- **Every step keeps the explanation.** -/
theorem Explains.step (h : Explains titles ops mem c) (hmem : mem.writesLeft = none) (i : ι) :
    Explains titles ops mem (c.step Memory.store titles i) := by
  rcases h.step_cases hmem i with ⟨hno, hstate, hprogress⟩ |
    ⟨hyes, hi, hstate, hversion, a, hstage, hresult⟩
  · have hcommits : (c.step Memory.store titles i).commits = c.commits := by
      simp only [Concurrent.step, hno, Bool.false_eq_true, if_false]
    refine ⟨?_, ?_, ?_, fun j => ?_⟩
    · rw [hcommits, ← h.state_eq]
      exact hstate
    · rw [hcommits]
      exact h.version
    · rw [hcommits]
      exact h.nodup
    · rw [hcommits]
      simp only [Concurrent.step]
      by_cases hj : j = i
      · subst hj
        rw [Function.update_self]
        exact hprogress
      · rw [Function.update_of_ne hj]
        exact h.progress j
  · have hcommits : (c.step Memory.store titles i).commits = c.commits ++ [i] := by
      simp only [Concurrent.step, hyes, if_true]
    have hstate' : (c.step Memory.store titles i).state =
        Serial.state titles ops mem (c.commits ++ [i]) := by
      rw [state_append, ← h.state_eq]
      exact hstate
    have hnext : (Serial.state titles ops mem (c.commits ++ [i])).version =
        (Serial.state titles ops mem c.commits).version + 1 := by
      rw [← hstate', ← h.state_eq]
      exact hversion
    refine ⟨?_, ?_, ?_, fun j => ?_⟩
    · rw [hcommits, hstate']
    · rw [hcommits]
      intro before hb
      rcases List.prefix_concat_iff.1 hb with rfl | hb
      · rw [hnext, h.version c.commits (List.prefix_refl _), List.length_append]
        rfl
      · exact h.version before hb
    · rw [hcommits, ← List.concat_eq_append]
      exact (List.nodup_concat _ _).2 ⟨hi, h.nodup⟩
    · rw [hcommits]
      simp only [Concurrent.step]
      by_cases hj : j = i
      · subst hj
        rw [Function.update_self, hstage]
        refine .inl ⟨c.commits, [], rfl, a, rfl, ?_⟩
        rw [← h.state_eq, hresult]
      · rw [Function.update_of_ne hj]
        exact (h.progress j).mono hj (by omega)

/-- Every schedule keeps the explanation. -/
lemma Explains.run (h : Explains titles ops mem c) (hmem : mem.writesLeft = none)
    (schedule : List ι) : Explains titles ops mem (c.run Memory.store titles schedule) := by
  induction schedule generalizing c with
  | nil => exact h
  | cons i schedule ih => exact ih (h.step hmem i)

end Serial

namespace Concurrent

variable {ι : Type} {α : ι → Type} [DecidableEq ι] {mem : Memory}

/-- **Calls that run at the same time are serializable.** Whatever the schedule, the state is the
one that the calls that have committed leave one after another, in the order of their commits. Each
of them commits once, makes one version, and returns what it returns in that serial run. Any other
call that has returned has left nothing behind. -/
theorem serializable (h : mem.writesLeft = none) (titles : CanonicalUrl → TitleAnswer)
    (ops : (i : ι) → Operation (α i)) (schedule : List ι) :
    let c := (start ops mem).run Memory.store titles schedule
    c.state = Serial.state titles ops mem c.commits ∧
      c.state.version = mem.version + c.commits.length ∧
      c.commits.Nodup ∧
      (∀ before i after, c.commits = before ++ i :: after → ∃ a, c.stage i = .finished (.ok a) ∧
        (Serial.call titles ops i (Serial.state titles ops mem before)).1 = .ok a) ∧
      ∀ i result, i ∉ c.commits → c.stage i = .finished result →
        Serial.Traceless titles ops mem c.commits i result := by
  have hrun := (Serial.explains_start titles ops mem).run h schedule
  refine ⟨hrun.state_eq, ?_, hrun.nodup, fun _ _ _ hi => hrun.committed hi,
    fun _ _ hi hstage => hrun.traceless hi hstage⟩
  rw [hrun.state_eq]
  exact hrun.version _ (List.prefix_refl _)

/-- Two siblings below a root. -/
def siblings : Memory :=
  ((Memory.perform ∅ (.createRepository "Books" ⟨⟨1⟩⟩ ⟨⟨1⟩⟩ default)).perform
    (.upsertTopic ⟨⟨1⟩⟩ "Novels" none [] ⟨⟨2⟩⟩ default)).perform
    (.upsertTopic ⟨⟨1⟩⟩ "Diaries" none [] ⟨⟨3⟩⟩ default)

/-- Two calls that would each move one of the siblings below the other. -/
def exchange : Bool → Operation (Updated Topic)
  | false => .updateParents ⟨⟨2⟩⟩ [⟨⟨3⟩⟩]
  | true => .updateParents ⟨⟨3⟩⟩ [⟨⟨2⟩⟩]

/-- Both calls begin, the second one goes on to its end, and then the first one. -/
def overtaken : Concurrent Bool Memory Memory.Session fun _ => Updated Topic :=
  (start exchange siblings).run Memory.store (fun _ => .title none)
    ([false, true] ++ List.replicate 60 true ++ List.replicate 60 false)

/-- The two calls would close a cycle together, as each has found that it may move its topic. The
one that comes to its end first commits, and the other one leaves nothing behind. -/
theorem serializable_siblings : siblings.writesLeft = none ∧ overtaken.commits = [true] ∧
    overtaken.state = Serial.state (fun _ => .title none) exchange siblings [true] ∧
    Serial.Traceless (fun _ => .title none) exchange siblings [true] false
      (.error (.store "commit" (Memory.Fault.conflict 3 4).message)) := by
  have hcommits : overtaken.commits = [true] := by decide +kernel
  have herror : (overtaken.stage false).error? =
      some (.store "commit" (Memory.Fault.conflict 3 4).message) := by decide +kernel
  have hunlimited : siblings.writesLeft = none := by decide +kernel
  obtain ⟨hstate, -, -, -, htraceless⟩ := serializable hunlimited (fun _ => .title none) exchange
    ([false, true] ++ List.replicate 60 true ++ List.replicate 60 false)
  have hnot : false ∉ overtaken.commits := by
    rw [hcommits]
    decide
  rw [← hcommits]
  exact ⟨hunlimited, rfl, hstate, htraceless false _ hnot (Stage.error?_eq_some.1 herror)⟩

/-- **Calls that run at the same time are no way around what holds after every history**: where the
identifiers that are minted are fresh when a call commits, the state is one that a history leads to,
with one call after another. -/
theorem reachable (hreach : mem.Reachable) (h : mem.writesLeft = none)
    (titles : CanonicalUrl → TitleAnswer) (m : ι → Mutation) (schedule : List ι) :
    let ops := fun i => (m i).operation
    let c := (start ops mem).run Memory.store titles schedule
    (∀ before i, before ++ [i] <+: c.commits →
      (m i).IsFresh (Serial.state titles ops mem before).tables) → c.state.Reachable := by
  intro ops c hfresh
  have hserial : ∀ l, l <+: c.commits → (Serial.state titles ops mem l).Reachable := by
    intro l
    induction l using List.reverseRecOn with
    | nil => exact fun _ => hreach
    | append_singleton l i ih =>
      intro hl
      rw [Serial.state_append]
      exact .call (m i) (.always titles) () .never (ih ((List.prefix_append _ _).trans hl))
        (hfresh l i hl)
  have hrun := (Serial.explains_start titles ops mem).run h schedule
  rw [show c.state = _ from hrun.state_eq]
  exact hserial _ (List.prefix_refl _)

end Concurrent

end Polyhierarchy

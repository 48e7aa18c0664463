import Mathlib.Tactic.Lemma
import Polyhierarchy.Operation.Basic
import Polyhierarchy.Store.Memory

set_option relaxedAutoImplicit false
set_option autoImplicit false

/-!
# Programs on tables

Where nothing makes a write fail and no deadline passes, a program in a session of the store in
memory is a function of the tables that the session works on. All that the operations do is proved
of this function. Faults and deadlines only add errors: a program that ends with a value in any
session ends with the same value, and leaves the same tables, as the function does.

## Main definitions

* `Memory.reply` — the reply to a request where no write is made to fail.
* `Program.on` — a program as a function of tables.
* `Program.Reads` — a program that comes to a value by reading only.
* `Operation.on` — the program of an operation as a function of tables.
* `Memory.Settles` — what a call returns and leaves committed, if it does not fail.

## Main results

* `Program.on_bind`, `Program.on_bind_eq_ok` — how programs go on.
* `Program.run_store` — without faults, a session runs a program as `on` does, whatever is
  committed meanwhile.
* `Program.on_of_run_eq_ok` — with any fault and any deadline, a program that ends with a value ends
  as `on` does.
* `Program.run_frame` — no program changes what is committed.
* `Operation.run_store` — what a call does without faults and deadlines.
* `Operation.committed_or_unchanged` — with any of them, a call changes nothing, or its program has
  come to its end.
* `Operation.on_of_run_eq_ok` — with any of them, a call that returns a value has come to the end
  that it comes to without.
* `Memory.settles_of_commit`, `Memory.settles_of_discard` — what a call settles, by the end that its
  program comes to.
-/

namespace Polyhierarchy

namespace Memory

/-- The reply to a request where no write is made to fail, and the tables afterwards. -/
def reply (r : Request) (t : Tables) : Except Fault r.Reply × Tables :=
  ((answer r ⟨t, none⟩).1, (answer r ⟨t, none⟩).2.tables)

/-- Sessions without anything but their tables. -/
def plain : Program.Backend Tables Fault := ⟨reply, Fault.message⟩

/-- Whether a request writes to the closure. -/
def writesClosure : Request → Bool
  | .replaceDescendants _ _ | .purge _ => true
  | _ => false

/-- Only writes to the closure count as writes. -/
lemma answer_of_not_writesClosure {r : Request} (h : writesClosure r = false) (w : Working) :
    answer r w = ((reply r w.tables).1, ⟨(reply r w.tables).2, w.writesLeft⟩) := by
  cases r with
  | replaceDescendants ancestor nodes => simp [writesClosure] at h
  | purge node => simp [writesClosure] at h
  | updateTopic row => simp only [reply, answer]; split <;> rfl
  | updateLink row => simp only [reply, answer]; split <;> rfl
  | _ => rfl

/-- A write to the closure succeeds as long as some are left. -/
lemma answer_of_writesClosure {r : Request} (h : writesClosure r = true) (w : Working) :
    answer r w =
      match w.writesLeft with
      | some 0 => (.error .closureWrite, w)
      | some (n + 1) => ((reply r w.tables).1, ⟨(reply r w.tables).2, some n⟩)
      | none => ((reply r w.tables).1, ⟨(reply r w.tables).2, none⟩) := by
  obtain ⟨t, _ | _ | n⟩ := w <;> cases r <;> first | rfl | simp [writesClosure] at h

/-- Where the writes have no limit, none comes about. -/
lemma answer_unlimited (r : Request) (t : Tables) :
    answer r ⟨t, none⟩ = ((reply r t).1, ⟨(reply r t).2, none⟩) := by
  cases h : writesClosure r with
  | false => exact answer_of_not_writesClosure h _
  | true => exact answer_of_writesClosure h _

/-- A request that succeeds has the reply and leaves the tables that it has and leaves where no
write is made to fail. -/
lemma reply_of_answer_eq_ok {r : Request} {w w' : Working} {a : r.Reply}
    (h : answer r w = (.ok a, w')) : reply r w.tables = (.ok a, w'.tables) := by
  cases hr : writesClosure r with
  | false =>
    rw [answer_of_not_writesClosure hr] at h
    rw [← (Prod.mk.inj h).1, ← (Prod.mk.inj h).2]
  | true =>
    rw [answer_of_writesClosure hr] at h
    obtain ⟨t, _ | _ | n⟩ := w
    · rw [← (Prod.mk.inj h).1, ← (Prod.mk.inj h).2]
    · exact absurd (Prod.mk.inj h).1 (by simp)
    · rw [← (Prod.mk.inj h).1, ← (Prod.mk.inj h).2]

/-- A request that does not write to the closure takes no notice of the limit. -/
lemma answerIn_of_not_writesClosure {r : Request} (h : writesClosure r = false) (s : Session)
    (mem : Memory) :
    answerIn r (s, mem) =
      ((reply r s.tables).1, { s with tables := (reply r s.tables).2 }, mem) := by
  simp only [answerIn, answer_of_not_writesClosure h]

/-- Where the writes have no limit, a session is answered from its copy of the tables alone. -/
lemma answerIn_unlimited (r : Request) (s : Session) {mem : Memory} (h : mem.writesLeft = none) :
    answerIn r (s, mem) =
      ((reply r s.tables).1, { s with tables := (reply r s.tables).2 }, mem) := by
  simp only [answerIn, h, answer_unlimited]
  rw [← h]

end Memory

namespace Program

variable {α β γ : Type}

/-- A program as a function of the tables that it begins with: the value it ends with, or why it
fails, and the tables that it leaves. -/
def on (m : Program α) (t : Tables) : Except (Failure Memory.Fault) α × Tables :=
  m.run Memory.plain .never t

variable {t : Tables}

@[simp] lemma on_done (a : α) : (done a).on t = (.ok a, t) := rfl

@[simp] lemma on_fail (e : EngineError) : (fail e : Program α).on t = (.error (.refusal e), t) :=
  rfl

@[simp] lemma on_look (p : String) (m : Program α) : (look p m).on t = m.on t := rfl

lemma on_ask (p : String) (r : Request) (k : r.Reply → Program α) :
    (ask p r k).on t =
      match Memory.reply r t with
      | (.ok a, t') => (k a).on t'
      | (.error e, t') => (.error (.store p e), t') := by
  simp only [on, run, Memory.plain]
  rcases Memory.reply r t with ⟨_ | a, t'⟩ <;> rfl

@[simp] lemma on_lookAt (p : String) : (lookAt p).on t = (.ok (), t) := rfl

@[simp] lemma on_request (p : String) (r : Request) :
    @on (no_index r.Reply) (request p r) t =
      match Memory.reply r t with
      | (.ok a, t') => (.ok a, t')
      | (.error e, t') => (.error (.store p e), t') := on_ask p r done

/-- A program that depends on the value of another begins with the tables that the other leaves,
unless that one fails. -/
@[simp] lemma on_bind (m : Program α) (f : α → Program β) :
    (m >>= f).on t =
      match m.on t with
      | (.ok a, t') => (f a).on t'
      | (.error e, t') => (.error e, t') := by
  induction m generalizing t with
  | done a => rfl
  | fail e => rfl
  | look p m ih => exact ih
  | ask p r k ih =>
    rw [ask_bind, on_ask, on_ask]
    rcases Memory.reply r t with ⟨_ | a, t'⟩
    · rfl
    · exact ih a

/-- A program that ends well has gone on from a program that ended well. -/
lemma on_bind_eq_ok {m : Program α} {f : α → Program β} {t' : Tables} {b : β} :
    (m >>= f).on t = (.ok b, t') ↔
      ∃ a t₁, m.on t = (.ok a, t₁) ∧ (f a).on t₁ = (.ok b, t') := by
  rw [on_bind]
  rcases m.on t with ⟨_ | a, t₁⟩
  · simp
  · constructor
    · exact fun h => ⟨a, t₁, rfl, h⟩
    · rintro ⟨_, _, ⟨⟩, h⟩
      exact h

/-! ### Programs that only read -/

/-- A program comes to a value by reading: it does not look at its deadline, and each of its
requests is answered from the tables, leaves them as they are, and is no write. -/
inductive Reads (t : Tables) : Program α → α → Prop where
  | done (a : α) : Reads t (done a) a
  | ask {p : String} {r : Request} {k : r.Reply → Program α} {reply : r.Reply} {a : α} :
      Memory.writesClosure r = false → Memory.reply r t = (.ok reply, t) →
        Reads t (k reply) a → Reads t (ask p r k) a

/-- A program that depends on what another one has read goes on reading. -/
lemma Reads.bind {m : Program α} {f : α → Program β} {a : α} {b : β} (h : m.Reads t a)
    (hf : (f a).Reads t b) : (m >>= f).Reads t b := by
  induction h with
  | done a => exact hf
  | ask hread hreply _ ih => exact .ask hread hreply (ih hf)

/-- One request that is answered from the tables. -/
lemma reads_request {p : String} {r : Request} {reply : r.Reply}
    (hread : Memory.writesClosure r = false) (hreply : Memory.reply r t = (.ok reply, t)) :
    @Reads r.Reply t (request p r) reply := .ask hread hreply (.done reply)

/-- What a program has read is what it comes to as a function of the tables. -/
lemma Reads.on_eq {m : Program α} {a : α} (h : m.Reads t a) : m.on t = (.ok a, t) := by
  induction h with
  | done a => rfl
  | ask _ hreply _ ih =>
    rw [on_ask, hreply]
    exact ih

/-- No fault and no deadline stands in the way of a program that only reads. -/
theorem Reads.run {m : Program α} {s : Memory.Session} {a : α} (h : m.Reads s.tables a)
    (d : Deadline) (mem : Memory) :
    m.run Memory.store.backend d (s, mem) = (.ok a, s, mem) := by
  induction h with
  | done a => rfl
  | @ask p r k reply a hread hreply _ ih =>
    have hans : Memory.store.backend.answer r (s, mem) = (.ok reply, s, mem) := by
      show Memory.answerIn r (s, mem) = _
      rw [Memory.answerIn_of_not_writesClosure hread, hreply]
    rw [Program.run, hans]
    exact ih

/-! ### Sessions of the store in memory -/

/-- Without faults and deadlines a session runs a program as `on` does. What is committed is neither
read nor changed. -/
lemma run_store (m : Program α) (s : Memory.Session) {mem : Memory} (h : mem.writesLeft = none) :
    m.run Memory.store.backend .never (s, mem) =
      ((m.on s.tables).1, { s with tables := (m.on s.tables).2 }, mem) := by
  induction m generalizing s with
  | done a => rfl
  | fail e => rfl
  | look p m ih => exact ih s
  | ask p r k ih =>
    have hans : Memory.store.backend.answer r (s, mem) = _ := Memory.answerIn_unlimited r s h
    rw [run, hans, on_ask]
    rcases Memory.reply r s.tables with ⟨_ | a, t'⟩
    · rfl
    · exact ih a _

/-- No program changes what is committed. -/
lemma run_frame (m : Program α) (d : Deadline) (s : Memory.Session) (mem : Memory) :
    (m.run Memory.store.backend d (s, mem)).2.2.tables = mem.tables ∧
      (m.run Memory.store.backend d (s, mem)).2.2.version = mem.version ∧
      (m.run Memory.store.backend d (s, mem)).2.1.base = s.base := by
  induction m generalizing d s mem with
  | done a => exact ⟨rfl, rfl, rfl⟩
  | fail e => exact ⟨rfl, rfl, rfl⟩
  | look p m ih =>
    rw [run]
    cases d.look p with
    | error e => exact ⟨rfl, rfl, rfl⟩
    | ok d => exact ih d s mem
  | ask p r k ih =>
    simp only [run, Memory.store, Memory.answerIn]
    rcases Memory.answer r ⟨s.tables, mem.writesLeft⟩ with ⟨_ | a, w⟩
    · exact ⟨rfl, rfl, rfl⟩
    · exact ih a d _ _

/-- With any fault and any deadline, a program that ends with a value ends as `on` does. -/
lemma on_of_run_eq_ok {m : Program α} {d : Deadline} {s s' : Memory.Session} {mem mem' : Memory}
    {a : α} (h : m.run Memory.store.backend d (s, mem) = (.ok a, s', mem')) :
    m.on s.tables = (.ok a, s'.tables) := by
  induction m generalizing d s mem with
  | done b =>
    simp only [run, Prod.mk.injEq, Except.ok.injEq] at h
    rw [h.1, ← h.2.1]
    rfl
  | fail e => simp [run] at h
  | look p m ih =>
    rw [run] at h
    cases hd : d.look p with
    | error e => simp [hd] at h
    | ok d' =>
      rw [hd] at h
      exact ih h
  | ask p r k ih =>
    simp only [run, Memory.store, Memory.answerIn] at h
    rcases hw : Memory.answer r ⟨s.tables, mem.writesLeft⟩ with ⟨_ | b, w⟩
    · simp [hw] at h
    · simp only [hw] at h
      rw [on_ask, Memory.reply_of_answer_eq_ok hw]
      exact ih b h

end Program

/-- How the store in memory holds a session. -/
lemma Memory.hold_store {α : Type} (body : Program (Ending α)) (d : Deadline) (mem : Memory) :
    Memory.store.hold d body mem =
      match body.run Memory.store.backend d (mem.begin, mem) with
      | (.error failure, _, m) => (.error (failure.toError Fault.message), m)
      | (.ok (.discard a), _, m) => (.ok a, m)
      | (.ok (.commit a), s, m) =>
        match m.commit s with
        | .ok m => (.ok a, m)
        | .error e => (.error (.store "commit" e.message), m) := by
  have hbegin : Memory.store.begin mem = (.ok mem.begin, mem) := rfl
  rw [Store.hold, hbegin]
  dsimp only
  rcases body.run Memory.store.backend d (mem.begin, mem) with ⟨_ | _ | _, s, m⟩
  · rfl
  · have hcommit : Memory.store.commit s m =
        match m.commit s with
        | .ok m => (.ok (), m)
        | .error e => (.error e, m) := rfl
    dsimp only
    rw [hcommit]
    cases m.commit s <;> rfl
  · rfl

namespace Operation

variable {τ α : Type}

/-- What the program of an operation comes to, as a function of the tables that its session begins
with, and of the source of titles. An answer without a session leaves nothing to keep. -/
def on (titles : TitleSource τ) :
    Operation α → Tables × τ → Except (Program.Failure Memory.Fault) (Ending α) × Tables × τ
  | answer a, (t, s) => (.ok (.discard a), t, s)
  | fetchTitle url next, (t, s) =>
    let fetched := titles.fetch url s
    (next fetched.1.title?).on titles (t, fetched.2)
  | session body, (t, s) => ((body.on t).1, (body.on t).2, s)

/-- An operation that holds a session has come to what its program has come to. -/
lemma on_session_eq_ok {titles : TitleSource τ} {body : Program (Ending α)} {t t' : Tables}
    {s s' : τ} {a : Ending α} :
    (session body).on titles (t, s) = (.ok a, t', s') ↔ body.on t = (.ok a, t') ∧ s' = s := by
  rw [on]
  rcases body.on t with ⟨v, t₁⟩
  simp only [Prod.mk.injEq, and_assoc, eq_comm (a := s)]

/-- **A call without faults and deadlines** changes what is committed only if its program says so,
and then to the tables that the program leaves. -/
theorem run_store (op : Operation α) (titles : TitleSource τ) {mem : Memory} (s : τ)
    (h : mem.writesLeft = none) :
    op.run Memory.store titles .never (mem, s) =
      match op.on titles (mem.tables, s) with
      | (.ok (.commit a), t, s) => (.ok a, ⟨t, mem.version + 1, none⟩, s)
      | (.ok (.discard a), _, s) => (.ok a, mem, s)
      | (.error e, _, s) => (.error (e.toError Memory.Fault.message), mem, s) := by
  induction op generalizing s with
  | answer a => rfl
  | fetchTitle url next ih => exact ih _ _
  | session body =>
    simp only [run, on, Memory.hold_store, body.run_store mem.begin h]
    rw [Memory.begin]
    rcases body.on mem.tables with ⟨_ | _ | _, t⟩
    · rfl
    · simp [Memory.commit, h]
    · rfl

/-- With any faults and any deadline a call commits what its program leaves where there are none, or
it leaves what is committed. In that case it fails, or its program has come to a value that there
was nothing to commit for.

**Proof sketch.** Nothing is committed unless the program ends with a value, so that it has ended as
it does without faults. The commit finds the version that the session began with, as the session is
the only one. -/
theorem committed_or_unchanged (op : Operation α) (titles : TitleSource τ) (d : Deadline)
    (mem : Memory) (s : τ) :
    let result := op.run Memory.store titles d (mem, s)
    (∃ a, result.1 = .ok a ∧
        op.on titles (mem.tables, s) = (.ok (.commit a), result.2.1.tables, result.2.2) ∧
        result.2.1.version = mem.version + 1) ∨
      (result.2.1.tables = mem.tables ∧ result.2.1.version = mem.version) ∧
        ∀ a, result.1 = .ok a →
          ∃ t, op.on titles (mem.tables, s) = (.ok (.discard a), t, result.2.2) := by
  induction op generalizing s with
  | answer a =>
    refine .inr ⟨⟨rfl, rfl⟩, fun b hb => ⟨mem.tables, ?_⟩⟩
    cases hb
    rfl
  | fetchTitle url next ih => exact ih _ _
  | session body =>
    have hframe := body.run_frame d mem.begin mem
    simp only [run, on, Memory.hold_store]
    rcases hrun : body.run Memory.store.backend d (mem.begin, mem)
      with ⟨_ | a | a, session, mem'⟩ <;> rw [hrun] at hframe
    · exact .inr ⟨⟨hframe.1, hframe.2.1⟩, fun _ h => nomatch h⟩
    · obtain ⟨-, hversion, hbase⟩ := hframe
      have hcommit : mem'.version = session.base := hversion.trans hbase.symm
      have hon : body.on mem.tables = (.ok (.commit a), session.tables) :=
        Program.on_of_run_eq_ok hrun
      simp only [Memory.commit, if_pos hcommit, hon]
      exact .inl ⟨a, rfl, rfl, congrArg (· + 1) hversion⟩
    · have hon : body.on mem.tables = (.ok (.discard a), session.tables) :=
        Program.on_of_run_eq_ok hrun
      refine .inr ⟨⟨hframe.1, hframe.2.1⟩, fun b hb => ⟨session.tables, ?_⟩⟩
      cases hb
      rw [hon]

/-- With any faults and any deadline a call leaves what is committed, or commits what its program
leaves where there are none. -/
theorem unchanged_or_committed (op : Operation α) (titles : TitleSource τ) (d : Deadline)
    (mem : Memory) (s : τ) :
    let result := op.run Memory.store titles d (mem, s)
    result.2.1.tables = mem.tables ∧ result.2.1.version = mem.version ∨
      ∃ a, result.1 = .ok a ∧
        op.on titles (mem.tables, s) = (.ok (.commit a), result.2.1.tables, result.2.2) ∧
        result.2.1.version = mem.version + 1 :=
  (op.committed_or_unchanged titles d mem s).symm.imp_left And.left

/-- With any faults and any deadline, a call that returns a value has come to the end that its
program comes to where there are none. -/
lemma on_of_run_eq_ok (op : Operation α) (titles : TitleSource τ) (d : Deadline) (mem : Memory)
    (s : τ) {a : α} (h : (op.run Memory.store titles d (mem, s)).1 = .ok a) :
    let result := op.run Memory.store titles d (mem, s)
    op.on titles (mem.tables, s) = (.ok (.commit a), result.2.1.tables, result.2.2) ∨
      result.2.1.tables = mem.tables ∧
        ∃ t, op.on titles (mem.tables, s) = (.ok (.discard a), t, result.2.2) := by
  rcases op.committed_or_unchanged titles d mem s with ⟨b, hb, hon, -⟩ | ⟨⟨hsame, -⟩, hvalue⟩
  · rw [h] at hb
    cases hb
    exact .inl hon
  · exact .inr ⟨hsame, hvalue a h⟩

end Operation

/-! ### What a call settles -/

namespace Memory

variable {α : Type} {mem : Memory} {op : Operation α} {v : α} {t : Tables} {version : Nat}

/-- A call settles on a value, on tables and on a version: where nothing stands in its way it
returns that value, and whenever it returns any, it is that one, and those tables are committed with
that version. If it fails, it leaves what is committed as it was. -/
structure Settles (mem : Memory) (op : Operation α) (v : α) (t : Tables) (version : Nat) :
    Prop where
  /-- Without faults and deadlines the call returns. -/
  returns : ∀ {τ : Type} (titles : TitleSource τ) (s : τ), mem.writesLeft = none →
    (op.run store titles .never (mem, s)).1 = .ok v
  /-- With any of them, the call does the same, or fails and changes nothing. -/
  all_or_nothing : ∀ {τ : Type} (titles : TitleSource τ) (s : τ) (d : Deadline),
    let result := op.run store titles d (mem, s)
    result.1 = .ok v ∧ result.2.1.tables = t ∧ result.2.1.version = version ∨
      (∃ e, result.1 = .error e) ∧ result.2.1.tables = mem.tables ∧
        result.2.1.version = mem.version

/-- A call whose program ends with a commit settles on what it commits. -/
theorem settles_of_commit (h : ∀ {τ : Type} (titles : TitleSource τ) (s : τ),
    ∃ s', op.on titles (mem.tables, s) = (.ok (.commit v), t, s')) :
    mem.Settles op v t (mem.version + 1) where
  returns titles s hleft := by
    obtain ⟨s', hon⟩ := h titles s
    rw [op.run_store titles s hleft, hon]
  all_or_nothing titles s d := by
    obtain ⟨s', hon⟩ := h titles s
    rcases op.committed_or_unchanged titles d mem s with ⟨a, ha, hon', hversion⟩ | ⟨hsame, hvalue⟩
    · rw [hon] at hon'
      injection hon' with hend hrest
      injection hend with hend
      injection hend with hend
      injection hrest with htables _
      exact .inl ⟨hend ▸ ha, htables.symm, hversion⟩
    · refine .inr ⟨?_, hsame⟩
      cases hresult : (op.run store titles d (mem, s)).1 with
      | error e => exact ⟨e, rfl⟩
      | ok a =>
        obtain ⟨t', ht'⟩ := hvalue a hresult
        rw [hon] at ht'
        cases ht'

/-- A call whose program ends without anything to commit settles on what there was. -/
theorem settles_of_discard (h : ∀ {τ : Type} (titles : TitleSource τ) (s : τ),
    ∃ t s', op.on titles (mem.tables, s) = (.ok (.discard v), t, s')) :
    mem.Settles op v mem.tables mem.version where
  returns titles s hleft := by
    obtain ⟨t, s', hon⟩ := h titles s
    rw [op.run_store titles s hleft, hon]
  all_or_nothing titles s d := by
    obtain ⟨t, s', hon⟩ := h titles s
    rcases op.committed_or_unchanged titles d mem s with ⟨a, -, hon', -⟩ | ⟨hsame, hvalue⟩
    · rw [hon] at hon'
      cases hon'
    · cases hresult : (op.run store titles d (mem, s)).1 with
      | error e => exact .inr ⟨⟨e, hresult⟩, hsame⟩
      | ok a =>
        obtain ⟨t', ht'⟩ := hvalue a hresult
        rw [hon] at ht'
        cases ht'
        exact .inl ⟨hresult, hsame⟩

end Memory

end Polyhierarchy

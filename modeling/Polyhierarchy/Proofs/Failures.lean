import Polyhierarchy.Operation.Reading
import Polyhierarchy.Proofs.History

set_option relaxedAutoImplicit false
set_option autoImplicit false

/-!
# Failures leave nothing behind

A call may be stopped at any write to its closure, because writes are made to fail, and at any look
at its deadline. It then returns an error, and what is committed stays as it was. A call that is
not stopped does what it does where nothing can stop it. Which of the two happens is a matter of
counting: the writes that succeed are counted down, so a call gets through exactly if there are as
many as it makes.

## Main definitions

* `Program.closureWrites`, `Operation.closureWrites` — the number of writes to the closure that are
  made where none is made to fail.
* `Memory.limited` — a store whose writes to the closure succeed a number of times only.

## Main results

* `Program.run_limited` — a session whose writes are limited.
* `Operation.run_reading` — what an operation returns that only reads.
* `Program.run_never_or_expired` — a deadline stops a program, or is not noticed.
* `Operation.failures_atomic` — a call that is stopped leaves everything as it was, and any other
  call does what it does without faults and deadlines.
-/

namespace Polyhierarchy

namespace Memory

/-- The store where the writes to the closure succeed a number of times only, or always. -/
def limited (mem : Memory) (n : Option Nat) : Memory := { mem with writesLeft := n }

@[simp] lemma limited_tables (mem : Memory) (n : Option Nat) :
    (mem.limited n).tables = mem.tables := rfl

@[simp] lemma begin_limited (mem : Memory) (n : Option Nat) :
    (mem.limited n).begin = mem.begin := rfl

/-- A write to the closure is counted as long as some are left, and then fails. -/
lemma answerIn_of_writesClosure {r : Request} (h : writesClosure r = true) (s : Session)
    (mem : Memory) (n : Nat) :
    answerIn r (s, mem.limited (some (n + 1))) =
        ((reply r s.tables).1, { s with tables := (reply r s.tables).2 },
          mem.limited (some n)) ∧
      answerIn r (s, mem.limited (some 0)) =
        (.error .closureWrite, s, mem.limited (some 0)) := by
  simp only [answerIn, answer_of_writesClosure h, limited]
  exact ⟨trivial, trivial⟩

/-- A write to the closure fails only if it is made to. -/
lemma exists_reply_of_writesClosure {r : Request} (h : writesClosure r = true) (t : Tables) :
    ∃ a t', reply r t = (.ok a, t') := by
  cases r with
  | replaceDescendants ancestor nodes => exact ⟨_, _, rfl⟩
  | purge node => exact ⟨_, _, rfl⟩
  | _ => cases h

end Memory

/-! ### Sessions -/

namespace Program

variable {α : Type}

/-- The number of writes to the closure that a program makes where none is made to fail. -/
def closureWrites : Program α → Tables → Nat
  | done _, _ => 0
  | fail _, _ => 0
  | look _ next, t => next.closureWrites t
  | ask _ r next, t =>
    (if Memory.writesClosure r then 1 else 0) +
      match Memory.reply r t with
      | (.ok a, t') => (next a).closureWrites t'
      | (.error _, _) => 0

/-- A program that depends on the value of another makes the writes of both. -/
lemma closureWrites_bind {β : Type} (m : Program α) (f : α → Program β) (t : Tables) :
    (m >>= f).closureWrites t = m.closureWrites t +
      match m.on t with
      | (.ok a, t') => (f a).closureWrites t'
      | (.error _, _) => 0 := by
  induction m generalizing t with
  | done a => exact (Nat.zero_add _).symm
  | fail e => rfl
  | look purpose next ih => exact ih t
  | ask purpose r next ih =>
    rw [ask_bind, closureWrites, closureWrites, on_ask, Nat.add_assoc]
    rcases Memory.reply r t with ⟨e | a, t'⟩
    · rfl
    · exact congrArg _ (ih a t')

/-- **A session whose writes are limited.** If the limit allows for all writes of its program, the
program ends as it does without a limit, and the writes are taken off. Otherwise a write fails.

**Proof sketch.** Induction on the program. Each request that writes to the closure takes one off
both the limit and the number of writes to come. -/
lemma run_limited (m : Program α) (s : Memory.Session) (mem : Memory) (n : Nat) :
    (m.closureWrites s.tables ≤ n →
      m.run Memory.store.backend .never (s, mem.limited (some n)) =
        ((m.on s.tables).1, { s with tables := (m.on s.tables).2 },
          mem.limited (some (n - m.closureWrites s.tables)))) ∧
    (n < m.closureWrites s.tables →
      ∃ purpose s', m.run Memory.store.backend .never (s, mem.limited (some n)) =
        (.error (.store purpose .closureWrite), s', mem.limited (some 0))) := by
  induction m generalizing s n with
  | done a => exact ⟨fun _ => rfl, fun h => absurd h (Nat.not_lt_zero n)⟩
  | fail e => exact ⟨fun _ => rfl, fun h => absurd h (Nat.not_lt_zero n)⟩
  | look purpose next ih => exact ih s n
  | ask purpose r next ih =>
    have hrun : ∀ {reply s' mem'}, Memory.answerIn r (s, mem.limited (some n)) =
        (reply, s', mem') → (ask purpose r next).run Memory.store.backend .never
          (s, mem.limited (some n)) = match reply with
            | .ok a => (next a).run Memory.store.backend .never (s', mem')
            | .error e => (.error (.store purpose e), s', mem') := by
      intro reply s' mem' h
      rw [run, show Memory.store.backend.answer r (s, mem.limited (some n)) = _ from h]
      cases reply <;> rfl
    rw [on_ask, closureWrites]
    cases hr : Memory.writesClosure r with
    | false =>
      rw [hrun (Memory.answerIn_of_not_writesClosure hr s _)]
      simp only [Bool.false_eq_true, if_false, Nat.zero_add]
      rcases Memory.reply r s.tables with ⟨e | a, t⟩
      · exact ⟨fun _ => rfl, fun h => absurd h (Nat.not_lt_zero n)⟩
      · exact ih a { s with tables := t } n
    | true =>
      simp only [if_true]
      cases n with
      | zero =>
        refine ⟨fun h => absurd h (by omega), fun _ => ⟨purpose, s, ?_⟩⟩
        rw [hrun (Memory.answerIn_of_writesClosure hr s mem 0).2]
      | succ n =>
        rw [hrun (Memory.answerIn_of_writesClosure hr s mem n).1]
        obtain ⟨a, t, hreply⟩ := Memory.exists_reply_of_writesClosure hr s.tables
        rw [hreply]
        obtain ⟨henough, hshort⟩ := ih a { s with tables := t } n
        dsimp only at henough hshort ⊢
        constructor
        · intro h
          rw [henough (by omega)]
          congr 4
          omega
        · exact fun h => hshort (by omega)

/-- A deadline stops a program with an error of its own, or the program takes no notice of it. -/
lemma run_never_or_expired {σ ε : Type} (b : Backend σ ε) (m : Program α) (d : Deadline) (s : σ) :
    m.run b d s = m.run b .never s ∨
      ∃ purpose, (m.run b d s).1 = .error (.refusal (.deadlineExceeded purpose)) := by
  induction m generalizing d s with
  | done a => exact .inl rfl
  | fail e => exact .inl rfl
  | look purpose next ih =>
    cases d with
    | never => exact .inl rfl
    | afterLooks left =>
      cases left with
      | zero => exact .inr ⟨purpose, rfl⟩
      | succ left => exact ih (.afterLooks left) s
  | ask purpose r next ih =>
    simp only [run]
    rcases b.answer r s with ⟨e | a, s'⟩
    · exact .inl rfl
    · exact ih a d s'

end Program

/-! ### Calls -/

namespace Operation

variable {α τ : Type}

/-- The number of writes to the closure that a call makes where none is made to fail. -/
def closureWrites (titles : TitleSource τ) : Operation α → Tables × τ → Nat
  | answer _, _ => 0
  | fetchTitle url next, (t, s) =>
    let fetched := titles.fetch url s
    (next fetched.1.title?).closureWrites titles (t, fetched.2)
  | session body, (t, _) => body.closureWrites t

/-- **A call whose writes are limited.** If the limit allows for all of its writes, the call returns
and commits what it returns and commits without a limit. Otherwise it returns the error of the write
that fails, and commits nothing. -/
lemma run_limited (op : Operation α) (titles : TitleSource τ) (mem : Memory) (s : τ) (n : Nat) :
    let clean := op.run Memory.store titles .never (mem.limited none, s)
    (op.closureWrites titles (mem.tables, s) ≤ n →
      op.run Memory.store titles .never (mem.limited (some n), s) =
        (clean.1, clean.2.1.limited (some (n - op.closureWrites titles (mem.tables, s))),
          clean.2.2)) ∧
    (n < op.closureWrites titles (mem.tables, s) →
      ∃ purpose, op.run Memory.store titles .never (mem.limited (some n), s) =
        (.error (.store purpose Memory.Fault.closureWrite.message), mem.limited (some 0),
          clean.2.2)) := by
  induction op generalizing s with
  | answer a => exact ⟨fun _ => rfl, fun h => absurd h (Nat.not_lt_zero n)⟩
  | fetchTitle url next ih => exact ih _ _
  | session body =>
    obtain ⟨henough, hshort⟩ := body.run_limited mem.begin mem n
    have hclean := body.run_store mem.begin (rfl : (mem.limited none).writesLeft = none)
    simp only [run, closureWrites, Memory.hold_store, Memory.begin_limited]
    constructor
    · intro h
      rw [henough h, hclean]
      rcases body.on mem.begin.tables with ⟨_ | a | _, t⟩
      · rfl
      · simp [Memory.commit, Memory.begin, Memory.limited]
      · rfl
    · intro h
      obtain ⟨purpose, s', hrun⟩ := hshort h
      rw [hrun]
      exact ⟨purpose, rfl⟩

/-- **An operation that only reads**, and does not write to the closure on the way, returns what its
program comes to, whatever the limit of the writes is. -/
theorem run_reading (body : Program α) (titles : TitleSource τ) (mem : Memory) (s : τ)
    (h : body.closureWrites mem.tables = 0) :
    (reading body).run Memory.store titles .never (mem, s) =
      ((body.on mem.tables).1.mapError (·.toError Memory.Fault.message), mem, s) := by
  have hclean : (reading body).run Memory.store titles .never (mem.limited none, s) =
      ((body.on mem.tables).1.mapError (·.toError Memory.Fault.message), mem.limited none, s) := by
    rw [run_store _ titles s rfl, reading, on, Program.on_bind, Memory.limited_tables]
    rcases body.on mem.tables with ⟨_ | _, t⟩ <;> rfl
  obtain ⟨tables, version, writesLeft⟩ := mem
  cases writesLeft with
  | none => exact hclean
  | some n =>
    have hwrites : (reading body).closureWrites titles (tables, s) = 0 := by
      rw [reading, closureWrites, Program.closureWrites_bind, h]
      rcases body.on tables with ⟨_ | _, t⟩ <;> rfl
    have hlimited := ((reading body).run_limited titles ⟨tables, version, some n⟩ s n).1
      (by rw [hwrites]; exact Nat.zero_le n)
    rw [hwrites, hclean] at hlimited
    exact hlimited

/-- A deadline stops a call with an error of its own and leaves what is committed, or the call takes
no notice of it. -/
lemma run_never_or_expired (op : Operation α) (titles : TitleSource τ) (d : Deadline)
    (mem : Memory) (s : τ) :
    let late := op.run Memory.store titles d (mem, s)
    late = op.run Memory.store titles .never (mem, s) ∨
      (∃ purpose, late.1 = .error (.deadlineExceeded purpose)) ∧
        late.2.1.tables = mem.tables ∧ late.2.1.version = mem.version := by
  induction op generalizing s with
  | answer a => exact .inl rfl
  | fetchTitle url next ih => exact ih _ _
  | session body =>
    have hframe := body.run_frame d mem.begin mem
    simp only [run, Memory.hold_store]
    rcases body.run_never_or_expired Memory.store.backend d (mem.begin, mem) with hsame |
      ⟨purpose, hlate⟩
    · rw [hsame]
      exact .inl rfl
    · generalize body.run Memory.store.backend d (mem.begin, mem) = outcome at hlate hframe ⊢
      obtain ⟨result, session, mem'⟩ := outcome
      obtain rfl : result = _ := hlate
      exact .inr ⟨⟨purpose, rfl⟩, hframe.1, hframe.2.1⟩

/-- **Failures leave nothing behind.** If writes to the closure succeed `n` times only, a call that
makes no more than `n` of them returns and commits what it does without faults, and any other call
returns the error of the store and commits nothing. With a deadline, whenever it passes, a call does
what it does without one, or returns that its time is up and commits nothing. With both, no call
does anything else. -/
theorem failures_atomic (op : Operation α) (titles : TitleSource τ) (mem : Memory) (s : τ) :
    let clean := op.run Memory.store titles .never (mem.limited none, s)
    let writes := op.closureWrites titles (mem.tables, s)
    (∀ n, let faulty := op.run Memory.store titles .never (mem.limited (some n), s)
      if writes ≤ n then faulty = (clean.1, clean.2.1.limited (some (n - writes)), clean.2.2)
      else ∃ purpose, faulty =
        (.error (.store purpose Memory.Fault.closureWrite.message), mem.limited (some 0),
          clean.2.2)) ∧
    (∀ d, let late := op.run Memory.store titles d (mem, s)
      late = op.run Memory.store titles .never (mem, s) ∨
        (∃ purpose, late.1 = .error (.deadlineExceeded purpose)) ∧
          late.2.1.tables = mem.tables ∧ late.2.1.version = mem.version) ∧
    ∀ n d, let stopped := op.run Memory.store titles d (mem.limited n, s)
      stopped.1 = clean.1 ∧ stopped.2.1.tables = clean.2.1.tables ∧
          stopped.2.1.version = clean.2.1.version ∨
        (∃ purpose, stopped.1 = .error (.deadlineExceeded purpose) ∨
            stopped.1 = .error (.store purpose Memory.Fault.closureWrite.message)) ∧
          stopped.2.1.tables = mem.tables ∧ stopped.2.1.version = mem.version := by
  intro clean writes
  have hlimited := fun n => op.run_limited titles mem s n
  refine ⟨fun n => ?_, fun d => op.run_never_or_expired titles d mem s, fun n d => ?_⟩
  · dsimp only
    split
    next henough => exact (hlimited n).1 henough
    next hshort => exact (hlimited n).2 (Nat.lt_of_not_le hshort)
  · intro stopped
    rcases op.run_never_or_expired titles d (mem.limited n) s with
      hnever | ⟨⟨purpose, hlate⟩, hrest⟩
    · rw [show stopped = _ from hnever]
      cases n with
      | none => exact .inl ⟨rfl, rfl, rfl⟩
      | some n =>
        by_cases h : writes ≤ n
        · rw [(hlimited n).1 h]
          exact .inl ⟨rfl, rfl, rfl⟩
        · obtain ⟨purpose, hshort⟩ := (hlimited n).2 (Nat.lt_of_not_le h)
          rw [hshort]
          exact .inr ⟨⟨purpose, .inr rfl⟩, rfl, rfl⟩
    · exact .inr ⟨⟨purpose, .inl hlate⟩, hrest⟩

/-- A deletion writes to the closure of the topic that goes and of each topic above it. With one
write less it fails and nothing is committed. -/
theorem failures_atomic_chain :
    let delete := deleteTopic ⟨⟨3⟩⟩
    let writes := delete.closureWrites .silent (Memory.chain.tables, ())
    writes = 3 ∧ ∃ purpose,
      delete.run Memory.store .silent .never (Memory.chain.limited (some 2), ()) =
        (.error (.store purpose Memory.Fault.closureWrite.message), Memory.chain.limited (some 0),
          ()) := by
  intro delete writes
  have hwrites : writes = 3 := by decide +kernel
  obtain ⟨hfaulty, -, -⟩ := delete.failures_atomic .silent Memory.chain ()
  have hshort : ¬ writes ≤ 2 := by omega
  have htwo := hfaulty 2
  rw [if_neg hshort] at htwo
  exact ⟨hwrites, htwo⟩

end Operation

end Polyhierarchy

import Polyhierarchy.Proofs.Evaluation

set_option relaxedAutoImplicit false
set_option autoImplicit false

/-!
# Two runs of a program

To say that something makes no difference to a call is to compare two runs of it, on tables that
differ in that. The runs are alike if they look at their deadlines at the same points, write to the
closure at the same points, and end alike. Then no deadline and no fault tells them apart either.
How the tables of both runs go together is a relation that the steps of the program keep.

## Main definitions

* `Program.Alike` — two programs, each on tables of its own, do alike, and leave related tables.
* `Operation.EachSession` — a property of the program of whatever session an operation holds.

## Main results

* `Program.Alike.bind` — how programs that do alike are put together.
* `Program.Alike.run` — with any deadline and any faults, programs that do alike end alike.
* `Operation.run_alike` — so do operations, and either neither of them commits, or both do.
-/

namespace Polyhierarchy

/-- A limit of the writes lets a request through whatever the tables are, or stops it whatever they
are. -/
lemma Memory.answer_cases (q : Request) (left : Option Nat) :
    (∃ left', ∀ t, answer q ⟨t, left⟩ = ((reply q t).1, ⟨(reply q t).2, left'⟩)) ∨
      ∀ t, answer q ⟨t, left⟩ = (.error .closureWrite, ⟨t, left⟩) := by
  cases h : writesClosure q with
  | false => exact .inl ⟨left, fun t => answer_of_not_writesClosure h _⟩
  | true =>
    rcases left with _ | _ | n
    · exact .inl ⟨none, fun t => answer_of_writesClosure h _⟩
    · exact .inr fun t => answer_of_writesClosure h _
    · exact .inl ⟨some n, fun t => answer_of_writesClosure h _⟩

namespace Program

variable {α β : Type}

/-- Two programs, each on tables of its own, do alike: they look at their deadlines at the same
points, make the same requests, none of which fails on one side only, and come to the same end. If
they come to a value, this and the tables of both sides are related. -/
inductive Alike (R : α → Tables → Tables → Prop) :
    Program α → Tables → Program α → Tables → Prop
  | done {a : α} {t u : Tables} (h : R a t u) : Alike R (.done a) t (.done a) u
  | fail {e : EngineError} {t u : Tables} : Alike R (.fail e) t (.fail e) u
  | look {p : String} {m n : Program α} {t u : Tables} (h : Alike R m t n u) :
    Alike R (.look p m) t (.look p n) u
  | ask {p : String} {q : Request} {k l : q.Reply → Program α} {t t' u u' : Tables}
    {a b : q.Reply} (ht : Memory.reply q t = (.ok a, t')) (hu : Memory.reply q u = (.ok b, u'))
    (h : Alike R (k a) t' (l b) u') : Alike R (.ask p q k) t (.ask p q l) u
  | refused {p : String} {q : Request} {k l : q.Reply → Program α} {t t' u u' : Tables}
    {e : Memory.Fault} (ht : Memory.reply q t = (.error e, t'))
    (hu : Memory.reply q u = (.error e, u')) : Alike R (.ask p q k) t (.ask p q l) u

namespace Alike

variable {R : α → Tables → Tables → Prop} {m n : Program α} {t u : Tables}

/-- Programs that do alike may go on with programs that do alike on all values and tables that are
related. -/
lemma bind {S : β → Tables → Tables → Prop} {f g : α → Program β} (h : Alike R m t n u)
    (hfg : ∀ a t u, R a t u → Alike S (f a) t (g a) u) : Alike S (m >>= f) t (n >>= g) u := by
  induction h with
  | done h => exact hfg _ _ _ h
  | fail => exact .fail
  | look _ ih => exact .look ih
  | ask ht hu _ ih => exact .ask ht hu ih
  | refused ht hu => exact .refused ht hu

/-- **With any deadline and any faults, programs that do alike end alike**: they come to the same
value or fail for the same reason, and as many writes are left.

**Proof sketch.** Induction on how they do alike. Both notice the deadline at the same look. A write
that is made to fail fails on both sides, since as many are left on both. -/
theorem run (h : Alike R m t n u) (d : Deadline) (base base' : Nat) {mem mem' : Memory}
    (hleft : mem.writesLeft = mem'.writesLeft) :
    let x := m.run Memory.store.backend d (⟨base, t⟩, mem)
    let y := n.run Memory.store.backend d (⟨base', u⟩, mem')
    x.1 = y.1 ∧ x.2.2.writesLeft = y.2.2.writesLeft ∧
      ∀ a, x.1 = .ok a → R a x.2.1.tables y.2.1.tables := by
  induction h generalizing d mem mem' with
  | done h =>
    refine ⟨rfl, hleft, ?_⟩
    rintro _ ⟨⟩
    exact h
  | fail => exact ⟨rfl, hleft, fun _ ha => by cases ha⟩
  | look _ ih =>
    simp only [Program.run]
    rcases d.look _ with _ | d'
    · exact ⟨rfl, hleft, fun _ ha => by cases ha⟩
    · exact ih d' hleft
  | @ask p q k l t t' u u' a b ht hu _ ih =>
    simp only [Program.run, Memory.store, Memory.answerIn, ← hleft]
    rcases Memory.answer_cases q mem.writesLeft with ⟨left, hans⟩ | hans
    · simp only [hans, ht, hu]
      exact ih d rfl
    · simp only [hans]
      exact ⟨trivial, trivial, fun _ ha => by cases ha⟩
  | @refused p q k l t t' u u' e ht hu =>
    simp only [Program.run, Memory.store, Memory.answerIn, ← hleft]
    rcases Memory.answer_cases q mem.writesLeft with ⟨left, hans⟩ | hans
    · simp only [hans, ht, hu]
      exact ⟨trivial, trivial, fun _ ha => by cases ha⟩
    · simp only [hans]
      exact ⟨trivial, trivial, fun _ ha => by cases ha⟩

end Alike

end Program

namespace Operation

variable {α τ : Type}

/-- Whether the program of whatever session an operation holds has a property. -/
def EachSession (P : Program (Ending α) → Prop) : Operation α → Prop
  | answer _ => True
  | fetchTitle _ next => ∀ title, (next title).EachSession P
  | session body => P body

lemma EachSession.mono {P Q : Program (Ending α) → Prop} {op : Operation α}
    (h : op.EachSession P) (hPQ : ∀ body, P body → Q body) : op.EachSession Q := by
  induction op with
  | answer a => trivial
  | fetchTitle url next ih => exact fun title => ih title (h title)
  | session body => exact hPQ body h

/-- **Two runs of a call whose sessions do alike** return the same, leave as many writes, and either
leave on both sides what was committed, or commit related tables on both sides. -/
theorem run_alike (op : Operation α) {R : Ending α → Tables → Tables → Prop} {mem mem' : Memory}
    (h : op.EachSession fun body => body.Alike R mem.tables body mem'.tables)
    (hleft : mem.writesLeft = mem'.writesLeft) (titles : TitleSource τ) (d : Deadline) (s : τ) :
    let x := op.run Memory.store titles d (mem, s)
    let y := op.run Memory.store titles d (mem', s)
    x.1 = y.1 ∧ x.2.2 = y.2.2 ∧ x.2.1.writesLeft = y.2.1.writesLeft ∧
      (x.2.1.tables = mem.tables ∧ y.2.1.tables = mem'.tables ∨
        ∃ a, R (.commit a) x.2.1.tables y.2.1.tables) := by
  induction op generalizing s with
  | answer a => exact ⟨rfl, rfl, hleft, .inl ⟨rfl, rfl⟩⟩
  | fetchTitle url next ih => exact ih _ (h _) _
  | session body =>
    obtain ⟨hend, hwrites, hR⟩ := Program.Alike.run h d mem.version mem'.version hleft
    have hframe := body.run_frame d mem.begin mem
    have hframe' := body.run_frame d mem'.begin mem'
    simp only [run, Memory.hold_store]
    rw [Memory.begin] at hframe hframe' ⊢
    rw [Memory.begin]
    generalize body.run Memory.store.backend d (⟨mem.version, mem.tables⟩, mem) = x at *
    generalize body.run Memory.store.backend d (⟨mem'.version, mem'.tables⟩, mem') = y at *
    obtain ⟨result, session, m⟩ := x
    obtain ⟨_, session', m'⟩ := y
    obtain rfl : result = _ := hend
    obtain ⟨htables, hversion, hbase⟩ := hframe
    obtain ⟨htables', hversion', hbase'⟩ := hframe'
    rcases result with failure | a | a
    · exact ⟨rfl, trivial, hwrites, .inl ⟨htables, htables'⟩⟩
    · have hcommit : m.version = session.base := hversion.trans hbase.symm
      have hcommit' : m'.version = session'.base := hversion'.trans hbase'.symm
      simp only [Memory.commit, if_pos hcommit, if_pos hcommit']
      exact ⟨trivial, trivial, hwrites, .inr ⟨a, hR _ rfl⟩⟩
    · exact ⟨rfl, trivial, hwrites, .inl ⟨htables, htables'⟩⟩

end Operation

end Polyhierarchy

import Polyhierarchy.Proofs.Failures
import Polyhierarchy.Proofs.Upkeep

set_option relaxedAutoImplicit false
set_option autoImplicit false

/-!
# Computing closures anew repairs them

Whatever the closure holds, computing the closures of some topics anew makes them right: a walk over
the direct edges does not look at the closure that is being written. So it does not matter how far
earlier attempts have come. An attempt that is stopped, by a write that fails or by its deadline,
has written the closures of the first of the topics, and another attempt writes these once more.

## Main definitions

* `Tables.rebuilt` — the tables after the closures of some topics have been computed anew.
* `Memory.Attempt` — what an attempt leaves of a session, however far it comes.

## Main results

* `Closure.run_recomputeEach_cons` — an attempt, topic by topic.
* `Closure.exists_run_recomputeEach` — an attempt leaves the first of the topics computed anew.
* `Memory.recompute_repairs` — computing closures anew repairs them, whatever attempts came before.
-/

namespace Polyhierarchy

open Reachability

/-! ### Closures computed anew -/

namespace Tables

variable {t : Tables}

/-- The tables after the closures of some topics have been computed anew, one after another. -/
def rebuilt (t : Tables) (l : List TopicId) : Tables :=
  { t with closure := l.foldl (fun c a => c.setRow a (t.below a)) t.closure }

/-- What is found below a topic does not depend on the closure. -/
@[simp] lemma below_rebuilt (l : List TopicId) (a : TopicId) : (t.rebuilt l).below a = t.below a :=
  rfl

lemma rebuilt_append (l m : List TopicId) : (t.rebuilt l).rebuilt m = t.rebuilt (l ++ m) := by
  rw [rebuilt, rebuilt, rebuilt, List.foldl_append]
  rfl

lemma mem_row_rebuilt {l : List TopicId} {a : TopicId} {d : Node} :
    d ∈ (t.rebuilt l).closure.row a ↔
      a ∈ l ∧ d ∈ t.below a ∨ a ∉ l ∧ d ∈ t.closure.row a := SortedRel.mem_row_foldl_setRow

/-- What has been computed anew before does not matter. -/
lemma rebuilt_rebuilt {l m : List TopicId} (h : ∀ a ∈ l, a ∈ m) :
    (t.rebuilt l).rebuilt m = t.rebuilt m := by
  have hclosure : ((t.rebuilt l).rebuilt m).closure = (t.rebuilt m).closure := by
    ext a d
    rw [mem_row_rebuilt, mem_row_rebuilt, mem_row_rebuilt, below_rebuilt]
    by_cases ha : a ∈ m
    · tauto
    · have hal : a ∉ l := fun hal => ha (h a hal)
      tauto
  calc (t.rebuilt l).rebuilt m
      = { t with closure := ((t.rebuilt l).rebuilt m).closure } := rfl
    _ = t.rebuilt m := by rw [hclosure]; rfl

end Tables

/-! ### Attempts -/

/-- A program that only puts together a value from that of another one. -/
lemma Program.run_bind_done {α β σ ε : Type} (m : Program α) (g : α → β) (b : Backend σ ε)
    (d : Deadline) (s : σ) :
    (m >>= fun a => .done (g a)).run b d s = ((m.run b d s).1.map g, (m.run b d s).2) := by
  induction m generalizing d s with
  | done a => rfl
  | fail e => rfl
  | look purpose next ih =>
    rw [look_bind, run, run]
    cases d.look purpose with
    | error e => rfl
    | ok d => exact ih d s
  | ask purpose r next ih =>
    rw [ask_bind, run, run]
    rcases b.answer r s with ⟨e | a, s'⟩
    · rfl
    · exact ih a d s'

namespace Closure

open Program Memory

/-- An attempt begins with a look at its deadline. Then the closure of the first topic is written,
which may fail, and the attempt goes on with the other topics. -/
lemma run_recomputeEach_cons (a : TopicId) (l : List TopicId) (d : Deadline) (s : Session)
    (mem : Memory) (n : Option Nat) :
    (recomputeEach (a :: l)).run store.backend d (s, mem.limited n) =
      match d.look "closure recompute", n with
      | .error e, n => (.error (.refusal e), s, mem.limited n)
      | .ok _, some 0 =>
        (.error (.store "write closure rows" .closureWrite), s, mem.limited (some 0))
      | .ok d, n =>
        let rest := (recomputeEach l).run store.backend d
          ({ s with tables := s.tables.rebuilt [a] }, mem.limited (n.map (· - 1)))
        (rest.1.map ((s.tables.below a).size + ·), rest.2) := by
  have hcons : recomputeEach (a :: l) = look "closure recompute" (ask "compute reachable set"
      (.reachable a) fun nodes => ask "write closure rows" (.replaceDescendants a nodes) fun _ =>
        recomputeEach l >>= fun others => done (nodes.size + others)) := rfl
  rw [hcons, run]
  cases d.look "closure recompute" with
  | error e => rfl
  | ok d =>
    cases n with
    | none => exact run_bind_done ..
    | some n =>
      cases n with
      | zero => rfl
      | succ n => exact run_bind_done ..

/-- **An attempt** leaves the first of the topics computed anew, however far it comes. -/
lemma exists_run_recomputeEach (l : List TopicId) (d : Deadline) (s : Session) (mem : Memory)
    (n : Option Nat) :
    ∃ l₁ l₂, l = l₁ ++ l₂ ∧ ((recomputeEach l).run store.backend d (s, mem.limited n)).2.1 =
      { s with tables := s.tables.rebuilt l₁ } := by
  induction l generalizing d s n with
  | nil => exact ⟨[], [], rfl, rfl⟩
  | cons a l ih =>
    have hstopped : ∃ l₁ l₂, a :: l = l₁ ++ l₂ ∧ s = { s with tables := s.tables.rebuilt l₁ } :=
      ⟨[], a :: l, rfl, rfl⟩
    have hnext : ∀ d n, ∃ l₁ l₂, a :: l = l₁ ++ l₂ ∧
        ((recomputeEach l).run store.backend d
          ({ s with tables := s.tables.rebuilt [a] }, mem.limited n)).2.1 =
            { s with tables := s.tables.rebuilt l₁ } := by
      intro d n
      obtain ⟨l₁, l₂, rfl, hrun⟩ := ih d { s with tables := s.tables.rebuilt [a] } n
      exact ⟨a :: l₁, l₂, rfl, hrun⟩
    rw [run_recomputeEach_cons]
    rcases d.look "closure recompute" with e | d
    · exact hstopped
    · match n with
      | none => exact hnext d none
      | some 0 => exact hstopped
      | some (n + 1) => exact hnext d (some n)

/-- A deadline that lets as many looks pass as there are topics in the first part of a list stops an
attempt after that part. -/
lemma run_recomputeEach_expired (l₁ l₂ : List TopicId) (a : TopicId) (s : Session) (mem : Memory) :
    (recomputeEach (l₁ ++ a :: l₂)).run store.backend (.afterLooks l₁.length)
        (s, mem.limited none) =
      (.error (.refusal (.deadlineExceeded "closure recompute")),
        { s with tables := s.tables.rebuilt l₁ }, mem.limited none) := by
  induction l₁ generalizing s with
  | nil => exact run_recomputeEach_cons ..
  | cons b l₁ ih =>
    have hrest := ih { s with tables := s.tables.rebuilt [b] }
    rw [List.cons_append, run_recomputeEach_cons]
    simp only [List.length_cons, Deadline.look, Option.map_none, hrest]
    rfl

/-- A write that fails after as many writes as there are topics in the first part of a list stops an
attempt after that part. -/
lemma run_recomputeEach_faulty (l₁ l₂ : List TopicId) (a : TopicId) (s : Session) (mem : Memory) :
    (recomputeEach (l₁ ++ a :: l₂)).run store.backend .never (s, mem.limited (some l₁.length)) =
      (.error (.store "write closure rows" .closureWrite),
        { s with tables := s.tables.rebuilt l₁ }, mem.limited (some 0)) := by
  induction l₁ generalizing s with
  | nil => exact run_recomputeEach_cons ..
  | cons b l₁ ih =>
    have hrest := ih { s with tables := s.tables.rebuilt [b] }
    rw [List.cons_append, run_recomputeEach_cons]
    simp only [List.length_cons, Deadline.look, Option.map_some, Nat.add_sub_cancel, hrest]
    rfl

end Closure

namespace Memory

/-- What an attempt to compute the closures of some topics anew leaves of a session: whenever its
deadline passes, and however many of its writes succeed. -/
def Attempt (A : SortedSet TopicId) (mem : Memory) (s s' : Session) : Prop :=
  ∃ (d : Deadline) (n : Option Nat),
    ((Closure.recompute A).run store.backend d (s, mem.limited n)).2.1 = s'

/-- Attempts leave closures computed anew, and nothing else changed. -/
lemma exists_rebuilt_of_attempts {A : SortedSet TopicId} {mem : Memory} {s s' : Session}
    (h : Relation.ReflTransGen (Attempt A mem) s s') :
    ∃ l, (∀ a ∈ l, a ∈ A.toList) ∧ s' = { s with tables := s.tables.rebuilt l } := by
  induction h with
  | refl => exact ⟨[], by simp, rfl⟩
  | tail _ hattempt ih =>
    obtain ⟨l, hl, rfl⟩ := ih
    obtain ⟨d, n, rfl⟩ := hattempt
    obtain ⟨l₁, l₂, hA, hrun⟩ := Closure.exists_run_recomputeEach A.toList d
      { s with tables := s.tables.rebuilt l } mem n
    refine ⟨l ++ l₁, fun a ha => ?_, hrun.trans ?_⟩
    · rcases List.mem_append.1 ha with ha | ha
      · exact hl a ha
      · exact hA ▸ List.mem_append_left l₂ ha
    · rw [Tables.rebuilt_append]

/-- **Computing closures anew repairs them.** Whatever the direct edges and the closure of a session
are, the closures of some topics can be computed anew. Then the closure of each of them has just the
other nodes that can be reached from it, the rest of the tables is as it was, and the number that is
returned is that of the pairs that these topics now have in the closure.

An attempt can be stopped after any number of topics, by its deadline or by a write that fails. But
however many attempts are stopped or come to their end, the next one that comes to its end returns
that same number and leaves those same tables; and where nothing stops it, it comes to its end. In
particular, to do it twice is the same as to do it once. -/
theorem recompute_repairs (s : Session) (mem : Memory) (A : SortedSet TopicId) :
    ∃ (n : Nat) (t : Tables),
      (Closure.recompute A).run store.backend .never (s, mem.limited none) =
        (.ok n, { s with tables := t }, mem.limited none) ∧
      t = { s.tables with closure := t.closure } ∧
      (∀ a ∈ A, ∀ d, d ∈ t.closure.row a ↔ d ≠ .topic a ∧ Reaches s.tables.edges (.topic a) d) ∧
      (∀ a ∉ A, t.closure.row a = s.tables.closure.row a) ∧
      n = (A.toList.map fun a => (t.closure.row a).size).sum ∧
      (∀ l₁ a l₂, A.toList = l₁ ++ a :: l₂ →
        (Closure.recompute A).run store.backend (.afterLooks l₁.length) (s, mem.limited none) =
          (.error (.refusal (.deadlineExceeded "closure recompute")),
            { s with tables := s.tables.rebuilt l₁ }, mem.limited none) ∧
        (Closure.recompute A).run store.backend .never (s, mem.limited (some l₁.length)) =
          (.error (.store "write closure rows" .closureWrite),
            { s with tables := s.tables.rebuilt l₁ }, mem.limited (some 0))) ∧
      ∀ s', Relation.ReflTransGen (Attempt A mem) s s' →
        (Closure.recompute A).run store.backend .never (s', mem.limited none) =
          (.ok n, { s with tables := t }, mem.limited none) ∧
        ∀ d limit k s'' mem', (Closure.recompute A).run store.backend d (s', mem.limited limit) =
          (.ok k, s'', mem') → k = n ∧ s'' = { s with tables := t } := by
  have hon : ∀ l, (∀ a ∈ l, a ∈ A.toList) → (Closure.recompute A).on (s.tables.rebuilt l) =
      (.ok (A.toList.foldr (fun a n => (s.tables.below a).size + n) 0),
        s.tables.rebuilt A.toList) := by
    intro l hl
    rw [← Tables.rebuilt_rebuilt hl]
    exact Closure.on_recomputeEach A.toList
  have hrun : ∀ l, (∀ a ∈ l, a ∈ A.toList) →
      (Closure.recompute A).run store.backend .never
          ({ s with tables := s.tables.rebuilt l }, mem.limited none) =
        (.ok (A.toList.foldr (fun a n => (s.tables.below a).size + n) 0),
          { s with tables := s.tables.rebuilt A.toList }, mem.limited none) := by
    intro l hl
    rw [Program.run_store _ _ rfl, hon l hl]
  have hrow : ∀ a ∈ A.toList, (s.tables.rebuilt A.toList).closure.row a = s.tables.below a := by
    intro a ha
    ext d
    rw [Tables.mem_row_rebuilt]
    tauto
  refine ⟨_, _, hrun [] (by simp), rfl, fun a ha d => ?_, fun a ha => ?_, ?_, ?_, ?_⟩
  · rw [hrow a (SortedSet.mem_def.1 ha), Tables.mem_below]
  · ext d
    rw [Tables.mem_row_rebuilt, ← SortedSet.mem_def]
    tauto
  · rw [List.map_congr_left fun a ha => congrArg SortedSet.size (hrow a ha), List.sum_eq_foldr,
      List.foldr_map]
  · intro l₁ a l₂ hA
    rw [Closure.recompute, hA]
    exact ⟨Closure.run_recomputeEach_expired l₁ l₂ a s mem,
      Closure.run_recomputeEach_faulty l₁ l₂ a s mem⟩
  · intro s' hs'
    obtain ⟨l, hl, rfl⟩ := exists_rebuilt_of_attempts hs'
    refine ⟨hrun l hl, fun d limit k s'' mem' h => ?_⟩
    have hbase := ((Closure.recompute A).run_frame d { s with tables := s.tables.rebuilt l }
      (mem.limited limit)).2.2
    have htables := Program.on_of_run_eq_ok h
    rw [h] at hbase
    rw [hon l hl, Prod.mk.injEq, Except.ok.injEq] at htables
    obtain ⟨base, tables⟩ := s''
    obtain ⟨rfl, rfl⟩ := htables
    exact ⟨rfl, by rw [show base = s.base from hbase]⟩

/-- Two topics above each other, where the closure has one of them below itself and nothing else.
An attempt that is stopped after the first topic leaves the wrong pair. The next one puts the other
topic and the link below each of the two. -/
theorem recompute_repairs_loop :
    let edges : SortedRel TopicId Node := ((∅ : SortedRel TopicId Node).insert ⟨⟨1⟩⟩
      (.topic ⟨⟨2⟩⟩)).insert ⟨⟨2⟩⟩ (.topic ⟨⟨1⟩⟩) |>.insert ⟨⟨2⟩⟩ (.link ⟨⟨3⟩⟩)
    let closure : SortedRel TopicId Node := (∅ : SortedRel TopicId Node).insert ⟨⟨2⟩⟩
      (.topic ⟨⟨2⟩⟩)
    let s : Session := ⟨0, { (∅ : Tables) with edges := edges, closure := closure }⟩
    let both : SortedSet TopicId := (∅ : SortedSet TopicId).insert ⟨⟨1⟩⟩ |>.insert ⟨⟨2⟩⟩
    ∃ (s' : Session) (t : Tables),
      (Closure.recompute both).run store.backend .never (s, limited ∅ (some 1)) =
        (.error (.store "write closure rows" .closureWrite), s', limited ∅ (some 0)) ∧
      Node.topic ⟨⟨2⟩⟩ ∈ s'.tables.closure.row ⟨⟨2⟩⟩ ∧
      (Closure.recompute both).run store.backend .never (s', limited ∅ none) =
        (.ok 4, { s with tables := t }, limited ∅ none) ∧
      Node.topic ⟨⟨2⟩⟩ ∉ t.closure.row ⟨⟨2⟩⟩ ∧ Node.link ⟨⟨3⟩⟩ ∈ t.closure.row ⟨⟨1⟩⟩ := by
  intro edges closure s both
  obtain ⟨n, t, hrun, -, hrow, -, -, hcut, hagain⟩ := recompute_repairs s ∅ both
  have hstopped := (hcut [⟨⟨1⟩⟩] ⟨⟨2⟩⟩ [] (by decide +kernel)).2
  obtain ⟨hagain, -⟩ := hagain _ (.single ⟨.never, some 1, congrArg (·.2.1) hstopped⟩)
  have hn : n = 4 := by
    have hfour : ((Closure.recompute both).run store.backend .never
        (s, limited ∅ none)).1.toOption = some 4 := by decide +kernel
    rw [hrun] at hfour
    exact Option.some.inj hfour
  have hdown : Step s.tables.edges (.topic ⟨⟨1⟩⟩) (.topic ⟨⟨2⟩⟩) := by
    rw [step_topic_iff]
    decide +kernel
  have hlink : Step s.tables.edges (.topic ⟨⟨2⟩⟩) (.link ⟨⟨3⟩⟩) := by
    rw [step_topic_iff]
    decide +kernel
  exact ⟨_, t, hstopped, by decide +kernel, hn ▸ hagain,
    fun h => ((hrow _ (by decide +kernel) _).1 h).1 rfl,
    (hrow _ (by decide +kernel) _).2 ⟨by decide, (Relation.TransGen.single hdown).tail hlink⟩⟩

end Memory

end Polyhierarchy

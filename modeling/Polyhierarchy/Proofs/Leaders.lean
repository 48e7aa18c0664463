import Mathlib.Logic.Relation
import Polyhierarchy.Proofs.Line

set_option relaxedAutoImplicit false
set_option autoImplicit false

/-!
# Who waits for whom

The callers of a loader come and go in any order. The first one of a queue leads it, and the others
rely on the leader. As long as no leader goes away before it has taken its queue, nobody relies on
one in vain: the leader of the queue is there to take it, and the leader of a batch answers everyone
in it, even by going away. But a queue whose leader has gone is never taken. Those in it wait for
good, and whoever comes later joins them.

## Main definitions

* `Loader.Step`, `Loader.Reachable` — the steps of a loader, whose callers may go away while they do
  certain things, and the loaders that they lead to.
* `Loader.Filed` — what every caller does, according to the place where it is.
* `Loader.Deserted` — a queue whose leader has gone.
* `Loader.WillTake` — a leader who is there to take the queue.

## Main results

* `Loader.Filed.step` — every step leaves everyone in a place.
* `Loader.Filed.deserted` — a queue whose leader has gone is never taken.
* `Loader.Reachable.relied_on` — if no leader leaves a queue, everyone who waits is provided for.
* `Loader.deserted_queue` — a run after which everyone waits in vain.
-/

namespace Polyhierarchy.Loader

variable {l l' : Loader} {asked : List TopicId} {taken : List (List Waiter)}
  {b q : List Waiter} {w : Waiter} {i : Nat} {ps ps' : List Phase} {mayLeave : Phase → Prop}

/-! ### Steps -/

/-- The steps of a loader. A caller may come at any time. A leader takes its queue at the end of its
window, and answers its batch once the store has. A caller may go away while it does certain
things. -/
inductive Step (mayLeave : Phase → Prop) (l : Loader) : Loader → Prop
  | enter (topic : TopicId) : Step mayLeave l (l.enter topic)
  | dispatch {i : Nat} (hi : l.callers[i]? = some .collecting) : Step mayLeave l (l.dispatch i)
  | answer {i : Nat} {b : List Waiter} (hi : l.callers[i]? = some (.fetching b))
      (fetched : Except EngineError (List Topic)) : Step mayLeave l (l.answer i fetched)
  | leave {i : Nat} {p : Phase} (hi : l.callers[i]? = some p) (hp : mayLeave p) :
      Step mayLeave l (l.leave i)

/-- The loaders that the steps of others lead to. -/
abbrev Steps (mayLeave : Phase → Prop) : Loader → Loader → Prop :=
  Relation.ReflTransGen (Step mayLeave)

/-- The loaders that come of callers who come and go. -/
abbrev Reachable (mayLeave : Phase → Prop) (l : Loader) : Prop := Steps mayLeave idle l

/-! ### What everyone does -/

/-- The head of a queue is in its window. If leaders may go away in theirs, it may have gone. -/
def Leads (mayLeave : Phase → Prop) (ps : List Phase) (w : Waiter) : Prop :=
  ps[w.caller]? = some .collecting ∨ mayLeave .collecting ∧ ps[w.caller]? = some .gone

/-- A caller waits for its leader, or has gone. -/
def Follows (ps : List Phase) (w : Waiter) : Prop :=
  ps[w.caller]? = some .waiting ∨ ps[w.caller]? = some .gone

/-- A caller has its answer, or has gone. -/
def IsDone (ps : List Phase) (w : Waiter) : Prop :=
  (∃ reply, ps[w.caller]? = some (.answered reply)) ∨ ps[w.caller]? = some .gone

/-- All is done for a caller in a batch once answers are given to those who wait for them. -/
lemma isDone_deliver (reply : TopicId → LoadReply) (hw : w ∈ b) {p : Phase}
    (hp : ps[w.caller]? = some p) (h : p.awaits = true ∨ p = .gone) :
    IsDone (deliver reply b ps) w := by
  rcases h with hawaits | rfl
  · obtain ⟨v, -, -, hanswered⟩ := exists_getElem?_deliver reply hw hp hawaits
    exact .inl ⟨_, hanswered⟩
  · exact .inr (getElem?_deliver_of_not_awaits reply b hp rfl)

/-- The phase of a caller after one has gone away. -/
lemma getElem?_set_gone (i : Nat) {j : Nat} {p : Phase} (hj : ps[j]? = some p) :
    (ps.set i .gone)[j]? = some .gone ∨ (ps.set i .gone)[j]? = some p := by
  by_cases hij : i = j
  · subst hij
    exact .inl (List.getElem?_set_self (List.getElem?_eq_some_iff.1 hj).1)
  · exact .inr ((List.getElem?_set_ne hij).trans hj)

lemma Follows.set_gone (h : Follows ps w) (i : Nat) : Follows (ps.set i .gone) w := by
  rcases h with hw | hw
  · exact (getElem?_set_gone i hw).symm
  · exact .inr ((getElem?_set_gone i hw).elim id id)

lemma IsDone.set_gone (h : IsDone ps w) (i : Nat) : IsDone (ps.set i .gone) w := by
  rcases h with ⟨reply, hw⟩ | hw
  · exact (getElem?_set_gone i hw).symm.imp (fun hanswered => ⟨reply, hanswered⟩) id
  · exact .inr ((getElem?_set_gone i hw).elim id id)

/-- A queue has a leader in its window, or one who has gone. -/
def Gathers (mayLeave : Phase → Prop) (ps : List Phase) : List Waiter → Prop :=
  Headed (Leads mayLeave ps) (Follows ps)

/-- The leader of a batch waits for the store, or all is done. -/
def Served (ps : List Phase) (b : List Waiter) : Prop :=
  Headed (fun w => ps[w.caller]? = some (.fetching b)) (Follows ps) b ∨
    Headed (IsDone ps) (IsDone ps) b

/-- It only matters what those in the queue do. -/
lemma Gathers.of_same (h : Gathers mayLeave ps q)
    (hsame : ∀ w ∈ q, ps'[w.caller]? = ps[w.caller]?) : Gathers mayLeave ps' q :=
  h.imp (fun w hw => by simp only [Leads, hsame w hw, imp_self])
    fun w hw => by simp only [Follows, hsame w hw, imp_self]

/-- It only matters what those in the batch do. -/
lemma Served.of_same (h : Served ps b) (hsame : ∀ w ∈ b, ps'[w.caller]? = ps[w.caller]?) :
    Served ps' b := by
  refine h.imp (fun hopen => ?_) fun hdone => ?_
  · exact hopen.imp (fun w hw => by simp only [hsame w hw, imp_self])
      fun w hw => by simp only [Follows, hsame w hw, imp_self]
  · exact hdone.imp (fun w hw => by simp only [IsDone, hsame w hw, imp_self])
      fun w hw => by simp only [IsDone, hsame w hw, imp_self]

/-- Everyone stands in the line, and does what is done at that place. -/
structure Filed (mayLeave : Phase → Prop) (l : Loader) (asked : List TopicId)
    (taken : List (List Waiter)) : Prop where
  /-- Everyone stands in the line. -/
  line : l.Line asked taken
  /-- Those in the queue. -/
  queue : ∀ q, l.pending = some q → Gathers mayLeave l.callers q
  /-- Those in a batch. -/
  batch : ∀ b ∈ taken, Served l.callers b

namespace Filed

lemma idle (mayLeave : Phase → Prop) : Filed mayLeave idle [] [] :=
  ⟨⟨rfl, rfl⟩, nofun, nofun⟩

/-- A leader in its window leads the queue. -/
lemma pending_of_collecting (h : Filed mayLeave l asked taken)
    (hi : l.callers[i]? = some .collecting) :
    ∃ topic rest, l.pending = some (⟨i, topic⟩ :: rest) := by
  refine h.line.pending_of_collecting hi (fun b hb w hw hcollecting => ?_) fun q hq =>
    (h.queue q hq).imp (fun w _ hw => hw) fun w _ hw hcollecting => ?_
  · rcases h.batch b hb with hopen | hdone
    · rcases hopen.or_of_mem hw with hw | hw <;> simp [hcollecting, Follows] at hw
    · rcases hdone.or_of_mem hw with hw | hw <;> simp [hcollecting, IsDone] at hw
  · simp [hcollecting, Follows] at hw

/-- A leader who waits for the store leads a batch that was taken. -/
lemma batch_of_fetching (h : Filed mayLeave l asked taken)
    (hi : l.callers[i]? = some (.fetching b)) :
    b ∈ taken ∧ ∃ topic rest, b = ⟨i, topic⟩ :: rest ∧ ∀ v ∈ rest, Follows l.callers v := by
  obtain ⟨hb, topic, rest, rfl⟩ := h.line.batch_of_fetching hi
    (fun q hq w hw hfetching => by
      rcases (h.queue q hq).or_of_mem hw with hw | hw <;> simp [hfetching, Leads, Follows] at hw)
    (fun c hc => by
      rcases h.batch c hc with hopen | hdone
      · refine hopen.imp (fun w _ hw hfetching => ?_) fun w _ hw hfetching => ?_
        · cases hw.symm.trans hfetching
          rfl
        · simp [hfetching, Follows] at hw
      · refine hdone.imp (fun w _ hw hfetching => ?_) fun w _ hw hfetching => ?_
        · simp [hfetching, IsDone] at hw
        · simp [hfetching, IsDone] at hw)
  refine ⟨hb, topic, rest, rfl, ?_⟩
  rcases h.batch _ hb with hopen | hdone
  · exact hopen.2
  · have hw := hdone.1
    simp [hi, IsDone] at hw

/-- A caller who waits is in the queue, or in a batch whose leader waits for the store. -/
lemma place_of_waiting (h : Filed mayLeave l asked taken) (hi : l.callers[i]? = some .waiting) :
    ∃ topic, (∃ q, l.pending = some q ∧ ⟨i, topic⟩ ∈ q) ∨
      ∃ (leader : Nat) (b : List Waiter),
        l.callers[leader]? = some (.fetching b) ∧ ⟨i, topic⟩ ∈ b := by
  obtain ⟨topic, ⟨b, hb, hmem⟩ | hplace⟩ := h.line.exists_place hi
  · refine ⟨topic, .inr ?_⟩
    rcases h.batch b hb with hopen | hdone
    · cases b with
      | nil => cases hmem
      | cons w rest => exact ⟨w.caller, _, hopen.1, hmem⟩
    · rcases hdone.or_of_mem hmem with hw | hw <;> simp [hi, IsDone] at hw
  · exact ⟨topic, .inl hplace⟩

/-! #### Each step -/

lemma enter (h : Filed mayLeave l asked taken) (topic : TopicId) :
    Filed mayLeave (l.enter topic) (asked ++ [topic]) taken := by
  have hold : ∀ p w, ((∃ b ∈ taken, w ∈ b) ∨ ∃ q, l.pending = some q ∧ w ∈ q) →
      (l.callers ++ [p])[w.caller]? = l.callers[w.caller]? :=
    fun p w hw => List.getElem?_append_left (h.line.lt_length hw)
  have hbatch : ∀ p, ∀ b ∈ taken, Served (l.callers ++ [p]) b :=
    fun p b hb => (h.batch b hb).of_same fun w hw => hold p w (.inl ⟨b, hb, hw⟩)
  have hline := h.line.enter topic
  cases hq : l.pending with
  | none =>
    rw [enter_of_none hq] at hline ⊢
    refine ⟨hline, ?_, hbatch _⟩
    rintro _ ⟨⟩
    exact ⟨.inl List.getElem?_concat_length, nofun⟩
  | some q =>
    rw [enter_of_some hq] at hline ⊢
    refine ⟨hline, ?_, hbatch _⟩
    rintro _ ⟨⟩
    exact ((h.queue q hq).of_same fun w hw => hold .waiting w (.inr ⟨q, hq, hw⟩)).concat
      (.inl List.getElem?_concat_length)

/-- The queue becomes a batch. -/
lemma dispatch (h : Filed mayLeave l asked taken) (hi : l.callers[i]? = some .collecting)
    (hq : l.pending = some q) : Filed mayLeave (l.dispatch i) asked (taken ++ [q]) := by
  obtain ⟨topic, rest, hpending⟩ := h.pending_of_collecting hi
  obtain rfl : q = ⟨i, topic⟩ :: rest := Option.some.inj (hq.symm.trans hpending)
  have hlt : i < l.callers.length := (List.getElem?_eq_some_iff.1 hi).1
  have horder := h.line.order
  rw [hq] at horder
  rw [dispatch_of_collecting hi hq]
  refine ⟨⟨?_, by simpa using horder⟩, nofun, fun b hb => ?_⟩
  · rw [List.length_set, h.line.length]
  · rcases List.mem_append.1 hb with hb | hb
    · exact (h.batch b hb).of_same fun w hw =>
        List.getElem?_set_ne (h.line.caller_ne hb hq hw List.mem_cons_self).symm
    · obtain rfl := List.mem_singleton.1 hb
      refine .inl ⟨List.getElem?_set_self hlt, fun v hv => ?_⟩
      have hfollows := (h.queue _ hq).2 v hv
      have hne : i ≠ v.caller := by
        rintro rfl
        simp [Follows, hi] at hfollows
      simpa only [Follows, List.getElem?_set_ne hne] using hfollows

/-- All is done for those in one batch, and nobody else does anything. -/
lemma settle (h : Filed mayLeave l asked taken) (hb : b ∈ taken)
    (hlength : ps.length = l.callers.length)
    (hothers : ∀ j, (∀ w ∈ b, w.caller ≠ j) → ps[j]? = l.callers[j]?)
    (hdone : ∀ w ∈ b, IsDone ps w) :
    Filed mayLeave ⟨l.pending, ps, l.batches⟩ asked taken where
  line := h.line.of_callers hlength l.batches
  queue q hq := (h.queue q hq).of_same fun w hw =>
    hothers w.caller fun v hv => h.line.caller_ne hb hq hv hw
  batch c hc := by
    by_cases hcb : c = b
    · subst hcb
      refine .inr ?_
      rcases h.batch c hc with hopen | hended
      · exact hopen.imp (fun w hw _ => hdone w hw) fun w hw _ => hdone w hw
      · exact hended.imp (fun w hw _ => hdone w hw) fun w hw _ => hdone w hw
    · exact (h.batch c hc).of_same fun w hw => hothers w.caller fun v hv hvw =>
        hcb (h.line.batch_unique hc hb hw hv hvw.symm)

/-- A leader answers its batch. -/
lemma answer (h : Filed mayLeave l asked taken) (hi : l.callers[i]? = some (.fetching b))
    (fetched : Except EngineError (List Topic)) :
    Filed mayLeave (l.answer i fetched) asked taken := by
  obtain ⟨hb, topic, rest, rfl, hrest⟩ := h.batch_of_fetching hi
  rw [answer_of_fetching hi]
  refine h.settle hb (length_deliver _ _ _) (fun j hj => getElem?_deliver_of_ne _ _ hj)
    fun w hw => ?_
  rcases List.mem_cons.1 hw with rfl | hv
  · exact isDone_deliver _ hw hi (.inl rfl)
  · rcases hrest w hv with hwaiting | hgone
    · exact isDone_deliver _ hw hwaiting (.inl rfl)
    · exact isDone_deliver _ hw hgone (.inr rfl)

/-- A caller goes away. -/
lemma leave (h : Filed mayLeave l asked taken) {p : Phase} (hi : l.callers[i]? = some p)
    (hp : mayLeave p) : Filed mayLeave (l.leave i) asked taken := by
  have hlt : i < l.callers.length := (List.getElem?_eq_some_iff.1 hi).1
  by_cases hfetching : ∃ b, p = .fetching b
  · obtain ⟨b, rfl⟩ := hfetching
    obtain ⟨hb, topic, rest, rfl, hrest⟩ := h.batch_of_fetching hi
    rw [leave_of_fetching hi]
    have hself : (l.callers.set i .gone)[i]? = some .gone := List.getElem?_set_self hlt
    refine h.settle hb ?_ (fun j hj => ?_) fun w hw => ?_
    · rw [length_deliver, List.length_set]
    · rw [getElem?_deliver_of_ne _ _ hj, List.getElem?_set_ne (hj _ List.mem_cons_self)]
    · by_cases hwi : i = w.caller
      · exact isDone_deliver _ hw (hwi ▸ hself) (.inr rfl)
      · rcases List.mem_cons.1 hw with rfl | hv
        · exact absurd rfl hwi
        · rcases hrest w hv with hwaiting | hgone
          · exact isDone_deliver _ hw ((List.getElem?_set_ne hwi).trans hwaiting) (.inl rfl)
          · exact isDone_deliver _ hw ((List.getElem?_set_ne hwi).trans hgone) (.inr rfl)
  · rw [leave_of_not_fetching hi fun b hb => hfetching ⟨b, hb⟩]
    refine ⟨h.line.of_callers List.length_set l.batches, fun q hq => ?_, fun b hb => ?_⟩
    · refine (h.queue q hq).imp (fun w _ hw => ?_) fun w _ hw => hw.set_gone i
      by_cases hwi : i = w.caller
      · -- The leader of the queue goes away in its window, or has gone before.
        subst hwi
        rcases hw with hcollecting | ⟨hmay, -⟩
        · cases hi.symm.trans hcollecting
          exact .inr ⟨hp, List.getElem?_set_self hlt⟩
        · exact .inr ⟨hmay, List.getElem?_set_self hlt⟩
      · simpa only [Leads, List.getElem?_set_ne hwi] using hw
    · refine (h.batch b hb).imp (fun hopen => ?_) fun hdone => ?_
      · refine hopen.imp (fun w _ hw => ?_) fun w _ hw => hw.set_gone i
        rw [List.getElem?_set_ne, hw]
        rintro rfl
        exact hfetching ⟨b, Option.some.inj (hi.symm.trans hw)⟩
      · exact hdone.imp (fun w _ hw => hw.set_gone i) fun w _ hw => hw.set_gone i

/-- **Every step leaves everyone in a place.** -/
theorem step (h : Filed mayLeave l asked taken) (hstep : Step mayLeave l l') :
    ∃ asked' taken', Filed mayLeave l' asked' taken' := by
  cases hstep with
  | enter topic => exact ⟨_, _, h.enter topic⟩
  | dispatch hi =>
    obtain ⟨_, _, hq⟩ := h.pending_of_collecting hi
    exact ⟨_, _, h.dispatch hi hq⟩
  | answer hi fetched => exact ⟨_, _, h.answer hi fetched⟩
  | leave hi hp => exact ⟨_, _, h.leave hi hp⟩

end Filed

lemma Reachable.exists_filed (h : Reachable mayLeave l) :
    ∃ asked taken, Filed mayLeave l asked taken := by
  induction h with
  | refl => exact ⟨_, _, .idle mayLeave⟩
  | tail _ hstep ih =>
    obtain ⟨_, _, hfiled⟩ := ih
    exact hfiled.step hstep

/-! ### Queues without a leader -/

/-- A queue whose leader has gone. -/
def Deserted (l : Loader) (q : List Waiter) : Prop :=
  l.pending = some q ∧ Headed (fun w => l.callers[w.caller]? = some .gone) (Follows l.callers) q

lemma Deserted.waits_or_gone (h : l.Deserted q) (hw : w ∈ q) :
    l.callers[w.caller]? = some .waiting ∨ l.callers[w.caller]? = some .gone := by
  rcases h.2.or_of_mem hw with hgone | hfollows
  · exact .inr hgone
  · exact hfollows

/-- The queue stays, and nobody in it does anything but go away. -/
lemma Deserted.of_callers (h : l.Deserted q) (n : Nat)
    (hq : ∀ w ∈ q, ps[w.caller]? = l.callers[w.caller]? ∨ ps[w.caller]? = some .gone) :
    Deserted ⟨l.pending, ps, n⟩ q := by
  refine ⟨h.1, h.2.imp (fun w hw hgone => ?_) fun w hw hfollows => ?_⟩
  · rcases hq w hw with hsame | hgone'
    · exact hsame.trans hgone
    · exact hgone'
  · rcases hq w hw with hsame | hgone
    · simpa only [Follows, hsame] using hfollows
    · exact .inr hgone

/-- Nobody leads a deserted queue. -/
lemma Filed.not_collecting (h : Filed mayLeave l asked taken) (hq : l.Deserted q) (i : Nat) :
    l.callers[i]? ≠ some .collecting := by
  intro hi
  obtain ⟨topic, rest, hpending⟩ := h.pending_of_collecting hi
  obtain rfl : q = ⟨i, topic⟩ :: rest := Option.some.inj (hq.1.symm.trans hpending)
  cases hi.symm.trans hq.2.1

/-- **A queue whose leader has gone is never taken.** Nobody takes it, for whoever comes joins it
and does not lead. -/
theorem Filed.deserted (h : Filed mayLeave l asked taken) (hq : l.Deserted q)
    (hstep : Step mayLeave l l') : ∃ later, l'.Deserted (q ++ later) := by
  cases hstep with
  | enter topic =>
    have hsame : ∀ w ∈ q, (l.callers ++ [.waiting])[w.caller]? = l.callers[w.caller]? :=
      fun w hw => List.getElem?_append_left (h.line.lt_length (.inr ⟨q, hq.1, hw⟩))
    rw [enter_of_some hq.1]
    refine ⟨[⟨l.callers.length, topic⟩], rfl, Headed.concat ?_
      (.inl List.getElem?_concat_length)⟩
    exact hq.2.imp (fun w hw hgone => (hsame w hw).trans hgone)
      fun w hw hfollows => by simpa only [Follows, hsame w hw] using hfollows
  | dispatch hi => exact absurd hi (h.not_collecting hq _)
  | answer hi fetched =>
    obtain ⟨hb, -⟩ := h.batch_of_fetching hi
    rw [answer_of_fetching hi]
    refine ⟨[], ?_⟩
    rw [List.append_nil]
    exact hq.of_callers l.batches fun w hw => .inl <|
      getElem?_deliver_of_ne _ _ fun v hv => h.line.caller_ne hb hq.1 hv hw
  | @leave i p hi hp =>
    refine ⟨[], ?_⟩
    rw [List.append_nil]
    have hset : ∀ w ∈ q, (l.callers.set i .gone)[w.caller]? = l.callers[w.caller]? ∨
        (l.callers.set i .gone)[w.caller]? = some .gone := by
      intro w hw
      rcases hq.waits_or_gone hw with hwaits | hgone
      · rw [hwaits]
        exact (getElem?_set_gone i hwaits).symm
      · rw [hgone]
        exact .inl ((getElem?_set_gone i hgone).elim id id)
    by_cases hfetching : ∃ b, p = .fetching b
    · obtain ⟨b, rfl⟩ := hfetching
      obtain ⟨hb, -⟩ := h.batch_of_fetching hi
      rw [leave_of_fetching hi]
      refine hq.of_callers l.batches fun w hw => ?_
      rw [getElem?_deliver_of_ne _ _ fun v hv => h.line.caller_ne hb hq.1 hv hw]
      exact hset w hw
    · rw [leave_of_not_fetching hi fun b hb => hfetching ⟨b, hb⟩]
      exact hq.of_callers l.batches hset

/-- A deserted queue stays deserted, however many come later. -/
lemma Filed.deserted_steps (h : Filed mayLeave l asked taken) (hq : l.Deserted q)
    (hsteps : Steps mayLeave l l') :
    ∃ asked' taken' later, Filed mayLeave l' asked' taken' ∧ l'.Deserted (q ++ later) := by
  induction hsteps with
  | refl => exact ⟨asked, taken, [], h, by rwa [List.append_nil]⟩
  | tail _ hstep ih =>
    obtain ⟨_, _, later, hfiled, hlater⟩ := ih
    obtain ⟨_, _, hfiled'⟩ := hfiled.step hstep
    obtain ⟨latest, hlatest⟩ := hfiled.deserted hlater hstep
    exact ⟨_, _, later ++ latest, hfiled', by rwa [← List.append_assoc]⟩

/-! ### Everyone is provided for -/

/-- A caller who leads the queue is in its window, and takes the queue at the end of it. -/
def WillTake (l : Loader) (leader : Nat) (q : List Waiter) : Prop :=
  l.callers[leader]? = some .collecting ∧ (l.dispatch leader).pending = none ∧
    (l.dispatch leader).callers[leader]? = some (.fetching q)

/-- The leader of the queue is there, and takes it. -/
lemma Filed.exists_willTake (h : Filed mayLeave l asked taken) (hstay : ¬ mayLeave .collecting)
    (hq : l.pending = some q) :
    ∃ leader topic rest, q = ⟨leader, topic⟩ :: rest ∧ l.WillTake leader q := by
  have hqueue := h.queue q hq
  cases q with
  | nil => exact hqueue.elim
  | cons w rest =>
    have hi : l.callers[w.caller]? = some .collecting := by
      rcases hqueue.1 with hi | ⟨hmay, -⟩
      · exact hi
      · exact absurd hmay hstay
    refine ⟨w.caller, w.topic, rest, rfl, hi, ?_, ?_⟩
    · rw [dispatch_of_collecting hi hq]
    · rw [dispatch_of_collecting hi hq]
      exact List.getElem?_set_self (List.getElem?_eq_some_iff.1 hi).1

/-- Whoever waits in a batch gets the answer to what it asked for, whatever the leader does. -/
lemma Filed.answered (h : Filed mayLeave l asked taken) (hi : l.callers[i]? = some (.fetching b))
    (hw : w ∈ b) (hwaits : l.callers[w.caller]? = some .waiting) :
    (l.leave i).callers[w.caller]? = some (.answered (.error .abandoned)) ∧
      ∀ fetched, (l.answer i fetched).callers[w.caller]? =
        some (.answered (replyFrom fetched w.topic)) := by
  obtain ⟨hb, -⟩ := h.batch_of_fetching hi
  constructor
  · have hne : i ≠ w.caller := by
      rintro rfl
      cases hi.symm.trans hwaits
    rw [leave_of_fetching hi]
    obtain ⟨v, -, -, hanswered⟩ := exists_getElem?_deliver (fun _ => .error .abandoned) hw
      ((List.getElem?_set_ne hne).trans hwaits) rfl
    exact hanswered
  · intro fetched
    rw [answer_of_fetching hi]
    obtain ⟨v, hv, hvw, hanswered⟩ := exists_getElem?_deliver (replyFrom fetched) hw hwaits rfl
    obtain rfl : v = w := Line.eq_of_caller_eq (h.line.mem_iff.1 (.inl ⟨b, hb, hv⟩))
      (h.line.mem_iff.1 (.inl ⟨b, hb, hw⟩)) hvw
    exact hanswered

/-- **Nobody waits in vain, unless a leader leaves its queue.** If callers come and go in any order,
but none goes away between coming as a leader and taking its queue,

* a queue has a leader in its window, which takes it;
* whoever waits is in the queue, or in a batch whose leader waits for the store;
* whoever waits in a batch learns that no answer will come if its leader goes away, and otherwise
  gets the answer for its own topic;
* whoever comes is in a queue with a leader, which takes it. -/
theorem Reachable.relied_on (h : Reachable mayLeave l) (hstay : ¬ mayLeave .collecting) :
    (∀ q, l.pending = some q →
      ∃ leader topic rest, q = ⟨leader, topic⟩ :: rest ∧ l.WillTake leader q) ∧
    (∀ i : Nat, l.callers[i]? = some .waiting → ∃ topic,
      (∃ q, l.pending = some q ∧ ⟨i, topic⟩ ∈ q) ∨ ∃ (leader : Nat) (b : List Waiter),
        l.callers[leader]? = some (.fetching b) ∧ ⟨i, topic⟩ ∈ b) ∧
    (∀ (leader : Nat) (b : List Waiter), l.callers[leader]? = some (.fetching b) →
      ∀ w ∈ b, l.callers[w.caller]? = some .waiting →
        (l.leave leader).callers[w.caller]? = some (.answered (.error .abandoned)) ∧
          ∀ fetched, (l.answer leader fetched).callers[w.caller]? =
            some (.answered (replyFrom fetched w.topic))) ∧
    ∀ topic, ∃ q leader, (l.enter topic).pending = some q ∧ ⟨l.callers.length, topic⟩ ∈ q ∧
      (l.enter topic).WillTake leader q := by
  obtain ⟨asked, taken, hfiled⟩ := h.exists_filed
  refine ⟨fun q hq => hfiled.exists_willTake hstay hq, fun i hi => hfiled.place_of_waiting hi,
    fun leader b hi w hw hwaits => hfiled.answered hi hw hwaits, fun topic => ?_⟩
  have hjoined : ∃ q, (l.enter topic).pending = some q ∧ ⟨l.callers.length, topic⟩ ∈ q := by
    cases hq : l.pending with
    | none => exact ⟨_, by rw [enter_of_none hq], List.mem_singleton_self _⟩
    | some q => exact ⟨_, by rw [enter_of_some hq], List.mem_append_right q (by simp)⟩
  obtain ⟨q, hq, hmem⟩ := hjoined
  obtain ⟨leader, _, _, -, htakes⟩ := (hfiled.enter topic).exists_willTake hstay hq
  exact ⟨q, leader, hq, hmem, htakes⟩

/-- Two callers come, and the first takes the queue. Then a third one comes. -/
def twoBatches : Loader :=
  (((idle.enter ⟨⟨3⟩⟩).enter ⟨⟨4⟩⟩).dispatch 0).enter ⟨⟨3⟩⟩

/-- If the first leader goes away, the second caller learns that no answer will come, and the third
one leads the next queue. -/
theorem relied_on_twoBatches :
    (twoBatches.leave 0).callers[1]? = some (.answered (.error .abandoned)) ∧
      ∃ leader topic, twoBatches.pending = some [⟨leader, topic⟩] ∧
        twoBatches.WillTake leader [⟨leader, topic⟩] := by
  have hreach : Reachable (· ≠ .collecting) twoBatches :=
    .tail (.tail (.tail (.tail .refl (.enter _)) (.enter _)) (.dispatch rfl)) (.enter _)
  obtain ⟨hqueue, -, hbatch, -⟩ := hreach.relied_on (fun h => h rfl)
  refine ⟨(hbatch 0 [⟨0, ⟨⟨3⟩⟩⟩, ⟨1, ⟨⟨4⟩⟩⟩] rfl ⟨1, ⟨⟨4⟩⟩⟩ (by simp) rfl).1, ?_⟩
  obtain ⟨leader, topic, rest, hq, htakes⟩ := hqueue [⟨2, ⟨⟨3⟩⟩⟩] rfl
  cases hq
  exact ⟨2, ⟨⟨3⟩⟩, rfl, htakes⟩

/-- Why the store does not answer. -/
def lost : EngineError := .store "get topics" "Connection lost"

/-- A call for two topics has begun two batches, as the second topic came when the queue of the
first one had been taken. Another caller joins the second queue. Then the store fails on the first
batch, so the call returns the error and drops the load that leads the second queue. -/
def cutShort : Loader :=
  (((((idle.enter ⟨⟨3⟩⟩).dispatch 0).enter ⟨⟨4⟩⟩).enter ⟨⟨5⟩⟩).answer 0
    (.error lost)).leave 1

/-- **A queue that a leader has left holds everyone up.** The first load of the call has its error,
and the queue that the second load led is still there, but nobody is there to take it. Whatever
happens from then on, the other caller in it gets no answer, not even that none will come, and
whoever comes joins it. -/
theorem deserted_queue :
    Reachable (fun _ => True) cutShort ∧
    cutShort.callers[0]? = some (.answered (.error (.fetch lost.message))) ∧
    ¬ (∀ q, cutShort.pending = some q →
      ∃ leader : Nat, cutShort.callers[leader]? = some .collecting) ∧
    cutShort.callers[2]? = some .waiting ∧
    ∀ l, Steps (fun _ => True) cutShort l →
      (l.callers[2]? = some .waiting ∨ l.callers[2]? = some .gone) ∧
      ∃ q, l.pending = some q ∧ (∀ leader : Nat, l.callers[leader]? ≠ some .collecting) ∧
        ∀ topic, (l.enter topic).pending = some (q ++ [⟨l.callers.length, topic⟩]) := by
  have hreach : Reachable (fun _ => True) cutShort :=
    .tail (.tail (.tail (.tail (.tail (.tail .refl (.enter _)) (.dispatch rfl)) (.enter _))
      (.enter _)) (.answer rfl _)) (.leave rfl trivial)
  obtain ⟨asked, taken, hfiled⟩ := hreach.exists_filed
  have hdeserted : cutShort.Deserted [⟨1, ⟨⟨4⟩⟩⟩, ⟨2, ⟨⟨5⟩⟩⟩] :=
    ⟨rfl, rfl, fun v hv => by cases List.mem_singleton.1 hv; exact .inl rfl⟩
  refine ⟨hreach, rfl, fun hled => ?_, rfl, fun l hsteps => ?_⟩
  · obtain ⟨leader, hleader⟩ := hled _ hdeserted.1
    exact hfiled.not_collecting hdeserted leader hleader
  · obtain ⟨_, _, later, hfiled', hlater⟩ := hfiled.deserted_steps hdeserted hsteps
    refine ⟨hlater.waits_or_gone (w := ⟨2, ⟨⟨5⟩⟩⟩) (by simp), _, hlater.1,
      hfiled'.not_collecting hlater, fun topic => ?_⟩
    rw [enter_of_some hlater.1]

end Polyhierarchy.Loader

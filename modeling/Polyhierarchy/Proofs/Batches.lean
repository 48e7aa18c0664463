import Polyhierarchy.Operation.Reading
import Polyhierarchy.Proofs.History
import Polyhierarchy.Proofs.Line

set_option relaxedAutoImplicit false
set_option autoImplicit false

/-!
# Loads in batches

Callers come to a loader, leaders take their queues, ask the store, and reply to one caller after
the other, while the store goes on changing. Whatever the order of these steps is, everyone is in
one batch, and is sent one reply, which comes of what the store gave to that batch. As long as
nobody goes away, there is always a leader who can go on until everyone has a reply.

## Main definitions

* `Loading` — a loader, the store behind it, and what has happened so far.
* `Loading.Work`, `Loading.Step`, `Loading.Reachable` — what leaders do, what else happens, and what
  comes of it.
* `Loading.Orderly` — what everyone does, according to what has happened.
* `Loading.owed` — how much the leaders still have to do.
* `Loading.IsLed` — whether a caller has a leader who can go on.

## Main results

* `Loading.Orderly.step`, `Loading.Reachable.orderly` — order is kept.
* `Loading.Orderly.isLed` — everyone has a leader who can go on.
* `Loading.Orderly.owed_lt` — leaders get on with their work.
* `Loading.Orderly.replied_of_stuck` — leaders who have nothing to do have replied to everyone.
-/

namespace Polyhierarchy

/-- What the store gave to a batch, and what was committed when it was asked. -/
structure Fetch where
  /-- The batch. -/
  batch : List Loader.Waiter
  /-- The committed tables. -/
  tables : Tables
  /-- What the store gave. -/
  result : Except EngineError (List Topic)

/-- The store gave the rows of the batch that were committed, or an error. -/
structure Fetch.IsHonest (f : Fetch) : Prop where
  /-- Rows are stored under their identifiers. -/
  keyed : f.tables.topics.KeyedBy Topic.id
  /-- Nothing else was given. -/
  result : f.result = .ok (f.tables.topicsOf (Loader.keys f.batch)) ∨ ∃ e, f.result = .error e

/-- A loader, the store behind it, and what has happened so far. -/
structure Loading where
  /-- The loader. -/
  loader : Loader
  /-- The store. -/
  store : Memory
  /-- What was asked for, in the order of arrival. -/
  asked : List TopicId
  /-- The batches that were taken. -/
  taken : List (List Loader.Waiter)
  /-- What the store gave. -/
  fetches : List Fetch
  /-- The replies that were sent. -/
  sent : List (Loader.Waiter × LoadReply)

namespace Loading

open Loader

variable {s s' : Loading} {b q : List Waiter} {w : Waiter} {i : Nat} {f : Fetch}

/-! ### Steps -/

/-- Nobody has called yet. -/
def start (mem : Memory) : Loading := ⟨idle, mem, [], [], [], []⟩

/-- A caller comes. -/
def enter (s : Loading) (topic : TopicId) : Loading :=
  { s with loader := s.loader.enter topic, asked := s.asked ++ [topic] }

/-- A call changes the store. -/
def call (s : Loading) {τ : Type} (m : Mutation) (titles : TitleSource τ) (d : Deadline) (t : τ) :
    Loading :=
  { s with store := (m.operation.run Memory.store titles d (s.store, t)).2.1 }

/-- A leader takes the queue. -/
def dispatch (s : Loading) (i : Nat) : Loading :=
  { s with loader := s.loader.dispatch i, taken := s.taken ++ s.loader.pending.toList }

/-- The store gives something to a batch. -/
def fetch (s : Loading) (b : List Waiter) (result : Except EngineError (List Topic)) : Loading :=
  { s with fetches := s.fetches ++ [⟨b, s.store.tables, result⟩] }

/-- A leader replies to someone in its batch. -/
def reply (s : Loading) (f : Fetch) (w : Waiter) : Loading :=
  { s with
    loader := { s.loader with
      callers := deliver (replyFrom f.result) [w] s.loader.callers }
    sent := s.sent ++ [(w, replyFrom f.result w.topic)] }

/-- Whether a reply was sent to a caller. -/
def IsReplied (s : Loading) (w : Waiter) : Prop := ∃ r, (w, r) ∈ s.sent

/-- What leaders do. One takes its queue at the end of its window, asks the store for the topics of
its batch, which gives what is committed, or fails, and replies to everyone in it. -/
inductive Work (s : Loading) : Loading → Prop
  | dispatch {i : Nat} (hi : s.loader.callers[i]? = some .collecting) : Work s (s.dispatch i)
  | fetch {i : Nat} {b : List Waiter} (hi : s.loader.callers[i]? = some (.fetching b))
      (hnew : ∀ f ∈ s.fetches, f.batch ≠ b) {τ : Type} (titles : TitleSource τ) (d : Deadline)
      (t : τ) :
      Work s (s.fetch b ((Operation.topics (keys b)).run Memory.store titles d (s.store, t)).1)
  | fail {i : Nat} {b : List Waiter} (hi : s.loader.callers[i]? = some (.fetching b))
      (hnew : ∀ f ∈ s.fetches, f.batch ≠ b) (e : EngineError) : Work s (s.fetch b (.error e))
  | reply {f : Fetch} {w : Waiter} (hf : f ∈ s.fetches) (hw : w ∈ f.batch)
      (hnew : ¬ s.IsReplied w) : Work s (s.reply f w)

/-- What happens: callers come, calls change the store, and leaders go on. -/
inductive Step (s : Loading) : Loading → Prop
  | enter (topic : TopicId) : Step s (s.enter topic)
  | call {τ : Type} (m : Mutation) (titles : TitleSource τ) (d : Deadline) (t : τ)
      (hfresh : m.IsFresh s.store.tables) : Step s (s.call m titles d t)
  | work {s' : Loading} (h : s.Work s') : Step s s'

/-- What comes of any number of steps, from any store that a history has led to. -/
inductive Reachable : Loading → Prop
  | start {mem : Memory} (h : mem.Reachable) : Reachable (start mem)
  | step {s s' : Loading} (h : Reachable s) (hstep : s.Step s') : Reachable s'

/-! ### Order -/

/-- Everyone is in one place, and does what is to be done there. -/
structure Orderly (s : Loading) : Prop where
  /-- The store has come of some history. -/
  store : s.store.Reachable
  /-- Everyone stands in the line. -/
  line : s.loader.Line s.asked s.taken
  /-- The batches are counted. -/
  count : s.loader.batches = s.taken.length
  /-- A queue has a leader in its window. -/
  queue : ∀ q, s.loader.pending = some q →
    Headed (fun w => s.loader.callers[w.caller]? = some .collecting)
      (fun w => s.loader.callers[w.caller]? = some .waiting) q
  /-- Until replies are sent, the leader of a batch waits for the store, and the others wait for
  the leader. -/
  batch : ∀ b ∈ s.taken,
    Headed (fun w => s.IsReplied w ∨ s.loader.callers[w.caller]? = some (.fetching b))
      (fun w => s.IsReplied w ∨ s.loader.callers[w.caller]? = some .waiting) b
  /-- The store was asked for batches that were taken. -/
  fetched : ∀ f ∈ s.fetches, f.batch ∈ s.taken ∧ f.IsHonest
  /-- It was asked for each once. -/
  fetched_once : (s.fetches.map (·.batch)).Nodup
  /-- A reply was received, and comes of what was given to the batch. -/
  replied : ∀ w r, (w, r) ∈ s.sent → s.loader.callers[w.caller]? = some (.answered r) ∧
    ∃ f ∈ s.fetches, w ∈ f.batch ∧ r = replyFrom f.result w.topic
  /-- One reply was sent to each. -/
  replied_once : (s.sent.map (·.1)).Nodup

namespace Orderly

lemma start {mem : Memory} (h : mem.Reachable) : (start mem).Orderly where
  store := h
  line := ⟨rfl, rfl⟩
  count := rfl
  queue := nofun
  batch := nofun
  fetched := nofun
  fetched_once := .nil
  replied := nofun
  replied_once := .nil

lemma mem_line (h : s.Orderly) (hb : b ∈ s.taken) (hw : w ∈ b) :
    s.asked[w.caller]? = some w.topic := h.line.mem_iff.1 (.inl ⟨b, hb, hw⟩)

/-- A caller in a batch has a reply, or waits for one. -/
lemma awaits (h : s.Orderly) (hb : b ∈ s.taken) (hw : w ∈ b) :
    s.IsReplied w ∨ s.loader.callers[w.caller]? = some (.fetching b) ∨
      s.loader.callers[w.caller]? = some .waiting := by
  rcases (h.batch b hb).or_of_mem hw with (hreplied | hw) | (hreplied | hw)
  · exact .inl hreplied
  · exact .inr (.inl hw)
  · exact .inl hreplied
  · exact .inr (.inr hw)

/-- A leader in its window leads the queue. -/
lemma pending_of_collecting (h : s.Orderly) (hi : s.loader.callers[i]? = some .collecting) :
    ∃ topic rest, s.loader.pending = some (⟨i, topic⟩ :: rest) := by
  refine h.line.pending_of_collecting hi (fun b hb w hw hcollecting => ?_) fun q hq =>
    (h.queue q hq).imp (fun w _ hw => hw) fun w _ hw hcollecting => ?_
  · rcases h.awaits hb hw with ⟨r, hr⟩ | hw | hw
    · cases hcollecting.symm.trans (h.replied w r hr).1
    · cases hcollecting.symm.trans hw
    · cases hcollecting.symm.trans hw
  · cases hcollecting.symm.trans hw

/-- A leader who waits for the store leads a batch that was taken. -/
lemma batch_of_fetching (h : s.Orderly) (hi : s.loader.callers[i]? = some (.fetching b)) :
    b ∈ s.taken := by
  refine (h.line.batch_of_fetching hi (fun q hq w hw hfetching => ?_) fun c hc =>
    (h.batch c hc).imp (fun w _ hw hfetching => ?_) fun w _ hw hfetching => ?_).1
  · rcases (h.queue q hq).or_of_mem hw with hw | hw <;> cases hfetching.symm.trans hw
  · rcases hw with ⟨r, hr⟩ | hw
    · cases hfetching.symm.trans (h.replied w r hr).1
    · cases hfetching.symm.trans hw
      rfl
  · rcases hw with ⟨r, hr⟩ | hw
    · cases hfetching.symm.trans (h.replied w r hr).1
    · cases hfetching.symm.trans hw

/-! #### Each step -/

lemma enter (h : s.Orderly) (topic : TopicId) : (s.enter topic).Orderly := by
  have hold : ∀ {j : Nat} {p : Phase}, j < s.loader.callers.length →
      (s.loader.callers ++ [p])[j]? = s.loader.callers[j]? :=
    fun hj => List.getElem?_append_left hj
  have hbatch : ∀ p, ∀ b ∈ s.taken,
      Headed (fun w => s.IsReplied w ∨
          (s.loader.callers ++ [p])[w.caller]? = some (.fetching b))
        (fun w => s.IsReplied w ∨ (s.loader.callers ++ [p])[w.caller]? = some .waiting) b := by
    intro p b hb
    have hlt := fun w hw => h.line.lt_length (w := w) (.inl ⟨b, hb, hw⟩)
    exact (h.batch b hb).imp (fun w hw => Or.imp_right (hold (hlt w hw)).trans)
      fun w hw => Or.imp_right (hold (hlt w hw)).trans
  have hreplied : ∀ p w r, (w, r) ∈ s.sent →
      (s.loader.callers ++ [p])[w.caller]? = some (.answered r) ∧
        ∃ f ∈ s.fetches, w ∈ f.batch ∧ r = replyFrom f.result w.topic := by
    intro p w r hr
    obtain ⟨hw, hfetch⟩ := h.replied w r hr
    exact ⟨(hold (List.getElem?_eq_some_iff.1 hw).1).trans hw, hfetch⟩
  have hline := h.line.enter topic
  unfold Loading.enter
  cases hq : s.loader.pending with
  | none =>
    rw [enter_of_none hq] at hline ⊢
    refine ⟨h.store, hline, h.count, ?_, hbatch _, h.fetched, h.fetched_once, hreplied _,
      h.replied_once⟩
    rintro _ ⟨⟩
    exact ⟨List.getElem?_concat_length, nofun⟩
  | some q =>
    rw [enter_of_some hq] at hline ⊢
    refine ⟨h.store, hline, h.count, ?_, hbatch _, h.fetched, h.fetched_once, hreplied _,
      h.replied_once⟩
    rintro _ ⟨⟩
    have hlt := fun w hw => h.line.lt_length (w := w) (.inr ⟨q, hq, hw⟩)
    refine Headed.concat ?_ List.getElem?_concat_length
    exact (h.queue q hq).imp (fun w hw => (hold (hlt w hw)).trans)
      fun w hw => (hold (hlt w hw)).trans

lemma call (h : s.Orderly) {τ : Type} (m : Mutation) (titles : TitleSource τ) (d : Deadline)
    (t : τ) (hfresh : m.IsFresh s.store.tables) : (s.call m titles d t).Orderly :=
  { h with store := .call m titles t d h.store hfresh }

/-- The queue becomes a batch. -/
lemma dispatch (h : s.Orderly) (hi : s.loader.callers[i]? = some .collecting) :
    (s.dispatch i).Orderly := by
  obtain ⟨topic, rest, hq⟩ := h.pending_of_collecting hi
  have hlt : i < s.loader.callers.length := (List.getElem?_eq_some_iff.1 hi).1
  have hset : ∀ {j : Nat} {p : Phase}, j ≠ i → s.loader.callers[j]? = some p →
      (s.loader.callers.set i (.fetching (⟨i, topic⟩ :: rest)))[j]? = some p :=
    fun hj hp => (List.getElem?_set_ne hj.symm).trans hp
  have horder := h.line.order
  rw [hq] at horder
  rw [Loading.dispatch, dispatch_of_collecting hi hq, hq]
  constructor
  case store => exact h.store
  case line =>
    refine ⟨?_, by simpa using horder⟩
    rw [List.length_set, h.line.length]
  case count => simp [h.count]
  case queue => exact nofun
  case batch =>
    intro b hb
    rcases List.mem_append.1 hb with hb | hb
    · have hne := fun w hw => h.line.caller_ne (v := w) hb hq hw List.mem_cons_self
      exact (h.batch b hb).imp (fun w hw => Or.imp_right (hset (hne w hw)))
        fun w hw => Or.imp_right (hset (hne w hw))
    · obtain rfl := List.mem_singleton.1 hb
      refine ⟨.inr (List.getElem?_set_self hlt), fun v hv => .inr ?_⟩
      have hwaiting := (h.queue _ hq).2 v hv
      refine hset ?_ hwaiting
      rintro rfl
      cases hi.symm.trans hwaiting
  case fetched =>
    exact fun f hf => (h.fetched f hf).imp_left (List.mem_append_left _)
  case fetched_once => exact h.fetched_once
  case replied =>
    intro w r hr
    obtain ⟨hw, hfetch⟩ := h.replied w r hr
    refine ⟨hset ?_ hw, hfetch⟩
    rintro rfl
    cases hi.symm.trans hw
  case replied_once => exact h.replied_once

/-- The store gives something to a batch. -/
lemma fetch (h : s.Orderly) (hi : s.loader.callers[i]? = some (.fetching b))
    (hnew : ∀ f ∈ s.fetches, f.batch ≠ b) {result : Except EngineError (List Topic)}
    (hresult : result = .ok (s.store.tables.topicsOf (keys b)) ∨ ∃ e, result = .error e) :
    (s.fetch b result).Orderly :=
  { h with
    fetched := by
      intro f hf
      rcases List.mem_append.1 hf with hf | hf
      · exact h.fetched f hf
      · obtain rfl := List.mem_singleton.1 hf
        exact ⟨h.batch_of_fetching hi, h.store.coherent.keyed.topics, hresult⟩
    fetched_once := by
      rw [Loading.fetch, List.map_append, List.nodup_append]
      refine ⟨h.fetched_once, List.nodup_singleton _, fun c hc d hd hcd => ?_⟩
      obtain ⟨f, hf, rfl⟩ := List.mem_map.1 hc
      exact hnew f hf (hcd.trans (List.mem_singleton.1 hd))
    replied := by
      intro w r hr
      obtain ⟨hw, f, hf, hreply⟩ := h.replied w r hr
      exact ⟨hw, f, List.mem_append_left _ hf, hreply⟩ }

/-- One in a batch gets its reply. -/
lemma reply (h : s.Orderly) (hf : f ∈ s.fetches) (hw : w ∈ f.batch) (hnew : ¬ s.IsReplied w) :
    (s.reply f w).Orderly := by
  have hb := (h.fetched f hf).1
  have hline := h.mem_line hb hw
  have hcallers : deliver (replyFrom f.result) [w] s.loader.callers =
      s.loader.callers.set w.caller (.answered (replyFrom f.result w.topic)) := by
    rw [deliver_singleton, if_pos]
    rcases h.awaits hb hw with hreplied | hfetching | hwaiting
    · exact absurd hreplied hnew
    · simp [hfetching, Phase.awaits]
    · simp [hwaiting, Phase.awaits]
  have hset : ∀ {j : Nat} {p : Phase}, j ≠ w.caller → s.loader.callers[j]? = some p →
      (s.loader.callers.set w.caller (.answered (replyFrom f.result w.topic)))[j]? = some p :=
    fun hj hp => (List.getElem?_set_ne hj.symm).trans hp
  have hself : (s.loader.callers.set w.caller (.answered (replyFrom f.result w.topic)))[w.caller]? =
      some (.answered (replyFrom f.result w.topic)) :=
    List.getElem?_set_self (h.line.lt_length (.inl ⟨_, hb, hw⟩))
  have hold : ∀ {v}, s.IsReplied v → ∃ r, (v, r) ∈ s.sent ++ [(w, replyFrom f.result w.topic)] :=
    fun ⟨r, hr⟩ => ⟨r, List.mem_append_left _ hr⟩
  have hnow : ∃ r, (w, r) ∈ s.sent ++ [(w, replyFrom f.result w.topic)] :=
    ⟨_, List.mem_append_right _ (List.mem_singleton_self _)⟩
  rw [Loading.reply, hcallers]
  constructor
  case store => exact h.store
  case line => exact h.line.of_callers List.length_set s.loader.batches
  case count => exact h.count
  case queue =>
    intro q hq
    have hne := fun v hv => (h.line.caller_ne (w := v) hb hq hw hv).symm
    exact (h.queue q hq).imp (fun v hv => hset (hne v hv)) fun v hv => hset (hne v hv)
  case batch =>
    intro c hc
    -- Whoever has not got its reply yet does what it did before.
    have hstep : ∀ v ∈ c, ∀ {p : Phase}, s.IsReplied v ∨ s.loader.callers[v.caller]? = some p →
        (∃ r, (v, r) ∈ s.sent ++ [(w, replyFrom f.result w.topic)]) ∨
          (s.loader.callers.set w.caller (.answered (replyFrom f.result w.topic)))[v.caller]? =
            some p := by
      rintro v hv p (hreplied | hp)
      · exact .inl (hold hreplied)
      · by_cases hvw : v.caller = w.caller
        · obtain rfl := Line.eq_of_caller_eq (h.mem_line hc hv) hline hvw
          exact .inl hnow
        · exact .inr (hset hvw hp)
    exact (h.batch c hc).imp (fun v hv => hstep v hv) fun v hv => hstep v hv
  case fetched => exact h.fetched
  case fetched_once => exact h.fetched_once
  case replied =>
    intro v r hr
    rcases List.mem_append.1 hr with hr | hr
    · obtain ⟨hv, g, hg, hvg, hreply⟩ := h.replied v r hr
      refine ⟨hset (fun hvw => hnew ⟨r, ?_⟩) hv, g, hg, hvg, hreply⟩
      rwa [← Line.eq_of_caller_eq (h.mem_line (h.fetched g hg).1 hvg) hline hvw]
    · obtain ⟨rfl, rfl⟩ := Prod.mk.inj (List.mem_singleton.1 hr)
      exact ⟨hself, f, hf, hw, rfl⟩
  case replied_once =>
    rw [List.map_append, List.nodup_append]
    refine ⟨h.replied_once, List.nodup_singleton _, fun v hv u hu hvu => ?_⟩
    obtain ⟨⟨v, r⟩, hr, rfl⟩ := List.mem_map.1 hv
    obtain rfl : v = w := hvu.trans (List.mem_singleton.1 hu)
    exact hnew ⟨r, hr⟩

/-- **Leaders keep order.** -/
theorem work (h : s.Orderly) (hwork : s.Work s') : s'.Orderly := by
  cases hwork with
  | dispatch hi => exact h.dispatch hi
  | fetch hi hnew titles d t => exact h.fetch hi hnew (.inl rfl)
  | fail hi hnew e => exact h.fetch hi hnew (.inr ⟨e, rfl⟩)
  | reply hf hw hnew => exact h.reply hf hw hnew

/-- **Every step keeps order.** -/
theorem step (h : s.Orderly) (hstep : s.Step s') : s'.Orderly := by
  cases hstep with
  | enter topic => exact h.enter topic
  | call m titles d t hfresh => exact h.call m titles d t hfresh
  | work hwork => exact h.work hwork

end Orderly

lemma Reachable.orderly (h : s.Reachable) : s.Orderly := by
  induction h with
  | start h => exact .start h
  | step _ hstep ih => exact ih.step hstep

/-! ### Progress -/

/-- How much the leaders still have to do: take the queue and ask the store for it, ask the store
for the batches that it was not asked for yet, and reply to those who have no reply. -/
def owed (s : Loading) : Nat :=
  2 * s.loader.pending.toList.length + (s.taken.length - s.fetches.length) +
    (s.asked.length - s.sent.length)

/-- Whether a caller has a leader who can go on: one who can take the queue, one who can ask the
store for the batch, or one who can reply with what the store gave. -/
def IsLed (s : Loading) (w : Waiter) : Prop :=
  (∃ (i : Nat) (q : List Waiter), s.loader.callers[i]? = some .collecting ∧
    s.loader.pending = some q ∧ w ∈ q) ∨
  (∃ (i : Nat) (b : List Waiter), s.loader.callers[i]? = some (.fetching b) ∧
    (∀ f ∈ s.fetches, f.batch ≠ b) ∧ w ∈ b) ∨
  ∃ f ∈ s.fetches, w ∈ f.batch

namespace Orderly

lemma fetches_le (h : s.Orderly) : s.fetches.length ≤ s.taken.length := by
  have hsub : s.fetches.map (·.batch) ⊆ s.taken := by
    intro b hb
    obtain ⟨f, hf, rfl⟩ := List.mem_map.1 hb
    exact (h.fetched f hf).1
  simpa using (h.fetched_once.subperm hsub).length_le

lemma sent_subset (h : s.Orderly) : s.sent.map (·.1) ⊆ arrivals s.asked := by
  intro w hw
  obtain ⟨⟨w, r⟩, hr, rfl⟩ := List.mem_map.1 hw
  obtain ⟨-, f, hf, hwf, -⟩ := h.replied w r hr
  exact mem_arrivals.2 (h.mem_line (h.fetched f hf).1 hwf)

lemma sent_le (h : s.Orderly) : s.sent.length ≤ s.asked.length := by
  simpa [arrivals] using (h.replied_once.subperm h.sent_subset).length_le

/-- **Leaders get on with their work.** -/
theorem owed_lt (h : s.Orderly) (hwork : s.Work s') : s'.owed < s.owed := by
  have hafter := h.work hwork
  have hfetches := hafter.fetches_le
  have hsent := hafter.sent_le
  cases hwork with
  | dispatch hi =>
    obtain ⟨topic, rest, hq⟩ := h.pending_of_collecting hi
    have hbefore := h.fetches_le
    simp only [owed, Loading.dispatch, dispatch_of_collecting hi hq, hq, Option.toList_none,
      Option.toList_some, List.length_append, List.length_nil, List.length_singleton]
    omega
  | fetch hi hnew titles d t =>
    simp only [owed, Loading.fetch, List.length_append, List.length_singleton] at hfetches ⊢
    omega
  | fail hi hnew e =>
    simp only [owed, Loading.fetch, List.length_append, List.length_singleton] at hfetches ⊢
    omega
  | reply hf hw hnew =>
    simp only [owed, Loading.reply, List.length_append, List.length_singleton] at hsent ⊢
    omega

/-- **Everyone has a leader** who can go on. -/
theorem isLed (h : s.Orderly) (hw : s.asked[w.caller]? = some w.topic) : s.IsLed w := by
  rcases h.line.mem_iff.2 hw with ⟨b, hb, hwb⟩ | ⟨q, hq, hwq⟩
  · by_cases hfetched : ∃ f ∈ s.fetches, f.batch = b
    · obtain ⟨f, hf, rfl⟩ := hfetched
      exact .inr (.inr ⟨f, hf, hwb⟩)
    · have hbatch := h.batch b hb
      cases b with
      | nil => exact hbatch.elim
      | cons v rest =>
        rcases hbatch.1 with ⟨r, hr⟩ | hfetching
        · -- Where the leader has its reply, the store has been asked.
          obtain ⟨-, f, hf, hvf, -⟩ := h.replied v r hr
          exact absurd ⟨f, hf, h.line.batch_unique (h.fetched f hf).1 hb hvf List.mem_cons_self
            rfl⟩ hfetched
        · exact .inr (.inl ⟨v.caller, _, hfetching, fun f hf hfb => hfetched ⟨f, hf, hfb⟩, hwb⟩)
  · have hqueue := h.queue q hq
    cases q with
    | nil => exact hqueue.elim
    | cons v rest => exact .inl ⟨v.caller, _, hqueue.1, hq, hwq⟩

/-- **Leaders who have nothing to do have replied to everyone.** -/
theorem replied_of_stuck (h : s.Orderly) (hstuck : ∀ s', ¬ s.Work s') :
    s.loader.pending = none ∧ (s.sent.map (·.1)).Perm (arrivals s.asked) := by
  constructor
  · rw [Option.eq_none_iff_forall_ne_some]
    intro q hq
    have hqueue := h.queue q hq
    cases q with
    | nil => exact hqueue.elim
    | cons w rest => exact hstuck _ (.dispatch hqueue.1)
  · refine (List.perm_ext_iff_of_nodup h.replied_once (nodup_arrivals _)).2
      fun w => ⟨fun hw => h.sent_subset hw, fun hw => ?_⟩
    by_contra hsent
    have hnew : ¬ s.IsReplied w := fun ⟨r, hr⟩ => hsent (List.mem_map.2 ⟨(w, r), hr, rfl⟩)
    rcases h.isLed (mem_arrivals.1 hw) with
      ⟨i, q, hi, -⟩ | ⟨i, b, hi, hnotAsked, -⟩ | ⟨f, hf, hwf⟩
    · exact hstuck _ (.dispatch hi)
    · exact hstuck _ (.fetch hi hnotAsked TitleSource.silent .never ())
    · exact hstuck _ (.reply hf hwf hnew)

end Orderly

end Loading

end Polyhierarchy

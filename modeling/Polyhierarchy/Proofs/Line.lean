import Mathlib.Data.List.Nodup
import Mathlib.Data.List.Pairwise
import Mathlib.Tactic.Lemma
import Polyhierarchy.Loader

set_option relaxedAutoImplicit false
set_option autoImplicit false

/-!
# The line in front of a loader

Whoever has come to a loader is in one place: in one of the batches that were taken, or in the
queue. The batches, one after the other, and then the queue list everyone in the order of arrival,
each with the topic that was asked for.

## Main definitions

* `Loader.Line` — everyone who has come is in a batch or in the queue, in the order of arrival.
* `Loader.Headed` — the first of some callers is in one state, and all others are in another.
* `Loader.replyFrom` — the reply to a load, given what the store gave.

## Main results

* `Loader.Line.mem_iff`, `Loader.Line.batch_unique`, `Loader.Line.caller_ne` — everyone is in one
  place.
* `Loader.Line.enter` — whoever comes is the last in the line.
* `Loader.Line.pending_of_collecting`, `Loader.Line.batch_of_fetching` — what a leader leads.
* `Loader.getElem?_deliver_of_ne`, `Loader.getElem?_deliver_of_not_awaits`,
  `Loader.exists_getElem?_deliver` — who gets which answer.
-/

namespace Polyhierarchy.Loader

variable {l : Loader} {asked : List TopicId} {taken : List (List Waiter)} {b c q : List Waiter}
  {v w : Waiter} {i : Nat} {ps : List Phase}

/-! ### The line -/

/-- The callers who ask for some topics, in the order in which they come. -/
def arrivals (asked : List TopicId) : List Waiter := asked.mapIdx fun i topic => ⟨i, topic⟩

/-- A caller asks for one topic: the one that was asked for when it came. -/
lemma mem_arrivals : w ∈ arrivals asked ↔ asked[w.caller]? = some w.topic := by
  obtain ⟨caller, topic⟩ := w
  simp only [arrivals, List.mem_mapIdx, List.getElem?_eq_some_iff, Waiter.mk.injEq]
  constructor
  · rintro ⟨_, h, rfl, rfl⟩
    exact ⟨h, rfl⟩
  · rintro ⟨h, rfl⟩
    exact ⟨caller, h, rfl, rfl⟩

lemma arrivals_concat (asked : List TopicId) (topic : TopicId) :
    arrivals (asked ++ [topic]) = arrivals asked ++ [⟨asked.length, topic⟩] := by
  simp [arrivals, List.mapIdx_append]

lemma callers_arrivals (asked : List TopicId) :
    (arrivals asked).map (·.caller) = List.range asked.length := by
  rw [arrivals, List.mapIdx_eq_zipIdx_map, List.map_map, List.range_eq_range']
  exact List.zipIdx_map_snd 0 asked

lemma nodup_arrivals (asked : List TopicId) : (arrivals asked).Nodup := by
  apply List.Nodup.of_map (·.caller)
  rw [callers_arrivals]
  exact List.nodup_range

/-- The callers of a loader who asked for some topics are, in the order of arrival, those of the
batches that were taken, and then those of the queue. -/
structure Line (l : Loader) (asked : List TopicId) (taken : List (List Waiter)) : Prop where
  /-- One topic was asked for by each caller. -/
  length : asked.length = l.callers.length
  /-- Nobody is left out, nobody is listed twice, and nobody is overtaken. -/
  order : taken.flatten ++ l.pending.getD [] = arrivals asked

namespace Line

/-- Who stands in the line. -/
lemma mem_iff (h : l.Line asked taken) :
    ((∃ b ∈ taken, w ∈ b) ∨ ∃ q, l.pending = some q ∧ w ∈ q) ↔
      asked[w.caller]? = some w.topic := by
  rw [← mem_arrivals, ← h.order, List.mem_append, List.mem_flatten]
  cases l.pending <;> simp

/-- A caller stands in the line once. -/
lemma eq_of_caller_eq (hv : asked[v.caller]? = some v.topic) (hw : asked[w.caller]? = some w.topic)
    (h : v.caller = w.caller) : v = w := by
  obtain ⟨i, a⟩ := v
  obtain ⟨j, c⟩ := w
  obtain rfl : i = j := h
  obtain rfl : a = c := Option.some.inj (hv.symm.trans hw)
  rfl

/-- Every caller stands in the line. -/
lemma exists_place (h : l.Line asked taken) {p : Phase} (hi : l.callers[i]? = some p) :
    ∃ topic, (∃ b ∈ taken, ⟨i, topic⟩ ∈ b) ∨ ∃ q, l.pending = some q ∧ ⟨i, topic⟩ ∈ q := by
  have hlt : i < asked.length := h.length ▸ (List.getElem?_eq_some_iff.1 hi).1
  exact ⟨asked[i], h.mem_iff.2 (List.getElem?_eq_getElem hlt)⟩

/-- A caller is in one batch. -/
lemma batch_unique (h : l.Line asked taken) (hb : b ∈ taken) (hc : c ∈ taken) (hv : v ∈ b)
    (hw : w ∈ c) (hvw : v.caller = w.caller) : b = c := by
  obtain rfl : v = w := eq_of_caller_eq (h.mem_iff.1 (.inl ⟨b, hb, hv⟩))
    (h.mem_iff.1 (.inl ⟨c, hc, hw⟩)) hvw
  have hnodup : taken.flatten.Nodup := by
    have harrivals := nodup_arrivals asked
    rw [← h.order, List.nodup_append] at harrivals
    exact harrivals.1
  have hsymm : Std.Symm (List.Disjoint (α := Waiter)) := ⟨fun _ _ h _ hv hv' => h hv' hv⟩
  by_contra hne
  exact (List.nodup_flatten.1 hnodup).2.forall hb hc hne hv hw

/-- A caller that is in a batch is not in the queue. -/
lemma caller_ne (h : l.Line asked taken) (hb : b ∈ taken) (hq : l.pending = some q) (hv : v ∈ b)
    (hw : w ∈ q) : v.caller ≠ w.caller := by
  intro hvw
  obtain rfl : v = w := eq_of_caller_eq (h.mem_iff.1 (.inl ⟨b, hb, hv⟩))
    (h.mem_iff.1 (.inr ⟨q, hq, hw⟩)) hvw
  have harrivals := nodup_arrivals asked
  rw [← h.order, hq, List.nodup_append] at harrivals
  exact harrivals.2.2 v (List.mem_flatten_of_mem hb hv) v hw rfl

/-- A caller that is in the line has come. -/
lemma lt_length (h : l.Line asked taken)
    (hw : (∃ b ∈ taken, w ∈ b) ∨ ∃ q, l.pending = some q ∧ w ∈ q) :
    w.caller < l.callers.length :=
  h.length ▸ (List.getElem?_eq_some_iff.1 (h.mem_iff.1 hw)).1

/-- Whoever comes is the last in the line. -/
lemma enter (h : l.Line asked taken) (topic : TopicId) :
    (l.enter topic).Line (asked ++ [topic]) taken := by
  have hwaiter : arrivals (asked ++ [topic]) =
      arrivals asked ++ [⟨l.callers.length, topic⟩] := by rw [arrivals_concat, h.length]
  have horder := h.order
  unfold Loader.enter
  cases hq : l.pending with
  | none =>
    rw [hq] at horder
    exact ⟨by simp [h.length], by simpa [hwaiter] using horder⟩
  | some q =>
    rw [hq] at horder
    exact ⟨by simp [h.length], by simp [hwaiter, ← horder]⟩

/-- What callers do, and how many batches are counted, does not matter to the line. -/
lemma of_callers (h : l.Line asked taken) (hlength : ps.length = l.callers.length) (n : Nat) :
    Line ⟨l.pending, ps, n⟩ asked taken :=
  ⟨h.length.trans hlength.symm, h.order⟩

end Line

/-! ### Leaders -/

/-- The first of some callers is in one state, and all others are in another. -/
def Headed (P Q : Waiter → Prop) : List Waiter → Prop
  | [] => False
  | w :: rest => P w ∧ ∀ v ∈ rest, Q v

lemma Headed.imp {P Q P' Q' : Waiter → Prop} (h : Headed P Q b) (hP : ∀ w ∈ b, P w → P' w)
    (hQ : ∀ w ∈ b, Q w → Q' w) : Headed P' Q' b := by
  cases b with
  | nil => exact h
  | cons w rest =>
    exact ⟨hP w List.mem_cons_self h.1,
      fun v hv => hQ v (List.mem_cons_of_mem w hv) (h.2 v hv)⟩

lemma Headed.or_of_mem {P Q : Waiter → Prop} (h : Headed P Q b) (hw : w ∈ b) : P w ∨ Q w := by
  cases b with
  | nil => exact h.elim
  | cons v rest =>
    rcases List.mem_cons.1 hw with rfl | hw
    · exact .inl h.1
    · exact .inr (h.2 w hw)

lemma Headed.concat {P Q : Waiter → Prop} (h : Headed P Q b) (hw : Q w) :
    Headed P Q (b ++ [w]) := by
  cases b with
  | nil => exact h.elim
  | cons v rest =>
    refine ⟨h.1, fun u hu => ?_⟩
    rcases List.mem_append.1 hu with hu | hu
    · exact h.2 u hu
    · rwa [List.mem_singleton.1 hu]

/-- A leader in its window leads the queue, if nobody else is in a window. -/
lemma Line.pending_of_collecting (h : l.Line asked taken) (hi : l.callers[i]? = some .collecting)
    (hbatch : ∀ b ∈ taken, ∀ w ∈ b, l.callers[w.caller]? ≠ some .collecting) {P : Waiter → Prop}
    (hqueue : ∀ q, l.pending = some q →
      Headed P (fun w => l.callers[w.caller]? ≠ some .collecting) q) :
    ∃ topic rest, l.pending = some (⟨i, topic⟩ :: rest) := by
  obtain ⟨topic, ⟨b, hb, hmem⟩ | ⟨q, hq, hmem⟩⟩ := h.exists_place hi
  · exact absurd hi (hbatch b hb _ hmem)
  · cases q with
    | nil => cases hmem
    | cons w rest =>
      rcases List.mem_cons.1 hmem with rfl | hrest
      · exact ⟨topic, rest, hq⟩
      · exact absurd hi ((hqueue _ hq).2 _ hrest)

/-- A leader who waits for the store leads the batch that it has taken, if nobody else waits for the
store. -/
lemma Line.batch_of_fetching (h : l.Line asked taken) (hi : l.callers[i]? = some (.fetching b))
    (hqueue : ∀ q, l.pending = some q → ∀ w ∈ q, l.callers[w.caller]? ≠ some (.fetching b))
    (hbatch : ∀ c ∈ taken, Headed (fun w => l.callers[w.caller]? = some (.fetching b) → c = b)
      (fun w => l.callers[w.caller]? ≠ some (.fetching b)) c) :
    b ∈ taken ∧ ∃ topic rest, b = ⟨i, topic⟩ :: rest := by
  obtain ⟨topic, ⟨c, hc, hmem⟩ | ⟨q, hq, hmem⟩⟩ := h.exists_place hi
  · cases c with
    | nil => cases hmem
    | cons w rest =>
      rcases List.mem_cons.1 hmem with rfl | hrest
      · obtain rfl := (hbatch _ hc).1 hi
        exact ⟨hc, topic, rest, rfl⟩
      · exact absurd hi ((hbatch _ hc).2 _ hrest)
  · exact absurd hi (hqueue q hq _ hmem)

/-! ### Answers -/

lemma deliver_cons (reply : TopicId → LoadReply) (w : Waiter) (b : List Waiter) (ps : List Phase) :
    deliver reply (w :: b) ps = deliver reply b (deliver reply [w] ps) := rfl

lemma deliver_singleton (reply : TopicId → LoadReply) (w : Waiter) (ps : List Phase) :
    deliver reply [w] ps = if (ps[w.caller]?.map Phase.awaits).getD false then
      ps.set w.caller (.answered (reply w.topic)) else ps := rfl

@[simp] lemma length_deliver (reply : TopicId → LoadReply) (b : List Waiter) (ps : List Phase) :
    (deliver reply b ps).length = ps.length := by
  induction b generalizing ps with
  | nil => rfl
  | cons w b ih =>
    rw [deliver_cons, ih, deliver_singleton]
    split
    · exact List.length_set
    · rfl

/-- Nobody else is answered. -/
lemma getElem?_deliver_of_ne (reply : TopicId → LoadReply) (ps : List Phase)
    (h : ∀ w ∈ b, w.caller ≠ i) : (deliver reply b ps)[i]? = ps[i]? := by
  induction b generalizing ps with
  | nil => rfl
  | cons w b ih =>
    rw [deliver_cons, ih _ fun v hv => h v (List.mem_cons_of_mem w hv), deliver_singleton]
    split
    · exact List.getElem?_set_ne (h w List.mem_cons_self)
    · rfl

/-- Who does not wait for an answer goes on as before. -/
lemma getElem?_deliver_of_not_awaits (reply : TopicId → LoadReply) (b : List Waiter) {p : Phase}
    (hp : ps[i]? = some p) (hawaits : p.awaits = false) : (deliver reply b ps)[i]? = some p := by
  induction b generalizing ps with
  | nil => exact hp
  | cons w b ih =>
    rw [deliver_cons]
    apply ih
    rw [deliver_singleton]
    split
    · next hw =>
      rw [List.getElem?_set_ne]
      · exact hp
      · rintro rfl
        simp [hp, hawaits] at hw
    · exact hp

/-- Everyone who waits for an answer is answered. -/
lemma exists_getElem?_deliver (reply : TopicId → LoadReply) (hw : w ∈ b) {p : Phase}
    (hp : ps[w.caller]? = some p) (hawaits : p.awaits = true) :
    ∃ v ∈ b, v.caller = w.caller ∧
      (deliver reply b ps)[w.caller]? = some (.answered (reply v.topic)) := by
  induction b generalizing ps with
  | nil => cases hw
  | cons v b ih =>
    rw [deliver_cons]
    by_cases hv : v.caller = w.caller
    · refine ⟨v, List.mem_cons_self, hv, ?_⟩
      rw [deliver_singleton, hv, hp, if_pos (by simpa using hawaits)]
      apply getElem?_deliver_of_not_awaits _ _ _ rfl
      rw [List.getElem?_set_self (List.getElem?_eq_some_iff.1 hp).1]
    · have hw' : w ∈ b := by
        rcases List.mem_cons.1 hw with rfl | hw'
        · exact absurd rfl hv
        · exact hw'
      have hp' : (deliver reply [v] ps)[w.caller]? = some p := by
        rw [getElem?_deliver_of_ne reply ps, hp]
        intro u hu
        rwa [List.mem_singleton.1 hu]
      obtain ⟨u, hu, huw, hanswered⟩ := ih hw' hp'
      exact ⟨u, List.mem_cons_of_mem v hu, huw, hanswered⟩

/-! ### What a step does -/

lemma enter_of_none (h : l.pending = none) (topic : TopicId) :
    l.enter topic =
      ⟨some [⟨l.callers.length, topic⟩], l.callers ++ [.collecting], l.batches⟩ := by
  simp only [enter, h]

lemma enter_of_some (h : l.pending = some q) (topic : TopicId) :
    l.enter topic =
      ⟨some (q ++ [⟨l.callers.length, topic⟩]), l.callers ++ [.waiting], l.batches⟩ := by
  simp only [enter, h]

lemma dispatch_of_collecting (hi : l.callers[i]? = some .collecting) (hq : l.pending = some q) :
    l.dispatch i = ⟨none, l.callers.set i (.fetching q), l.batches + 1⟩ := by
  simp only [dispatch, hi, hq]

/-- The reply to a load, given what the store gave. -/
def replyFrom (fetched : Except EngineError (List Topic)) (id : TopicId) : LoadReply :=
  match fetched with
  | .ok rows => .ok (pick rows id)
  | .error e => .error (.fetch e.message)

lemma answer_of_fetching (hi : l.callers[i]? = some (.fetching b))
    (fetched : Except EngineError (List Topic)) :
    l.answer i fetched = ⟨l.pending, deliver (replyFrom fetched) b l.callers, l.batches⟩ := by
  simp only [answer, batchOf, hi]
  cases fetched <;> rfl

lemma leave_of_fetching (hi : l.callers[i]? = some (.fetching b)) :
    l.leave i =
      ⟨l.pending, deliver (fun _ => .error .abandoned) b (l.callers.set i .gone), l.batches⟩ := by
  simp only [leave, batchOf, hi]

lemma leave_of_not_fetching {p : Phase} (hi : l.callers[i]? = some p)
    (hp : ∀ b, p ≠ .fetching b) : l.leave i = ⟨l.pending, l.callers.set i .gone, l.batches⟩ := by
  cases p with
  | fetching b => exact absurd rfl (hp b)
  | _ => simp only [leave, batchOf, hi]; rfl

end Polyhierarchy.Loader

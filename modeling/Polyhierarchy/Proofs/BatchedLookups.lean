import Mathlib.Data.List.Perm.Basic
import Polyhierarchy.Http.Service
import Polyhierarchy.Proofs.Batches
import Polyhierarchy.Proofs.Lookups

set_option relaxedAutoImplicit false
set_option autoImplicit false

/-!
# Loading topics is looking them up

The reply to a load is the row that was committed when the store was asked for the batch of the
load. So however many loads there are, and however they are split into batches, a call for several
topics gets the rows that are stored, in the order in which it names the topics, as long as the
store does not change. In particular the service shows the parents of a topic that a look-up finds.

## Main definitions

* `Fetch.Gives` — the reply that what the store gave to a batch comes to.
* `Loading.IsSteady` — whether the store has neither changed nor failed.

## Main results

* `Loader.pick_topicsOf` — of the rows that the store gave, each load gets its own.
* `Loader.gather_perm` — the order in which loads end does not matter.
* `Engine.run_loadTopics`, `Http.Service.run_topic` — what is loaded for callers who come together.
* `Loading.Reachable.loads_exact` — every load is in one batch and gets one reply, its own row.
-/

namespace Polyhierarchy

/-! ### Rows -/

namespace Loader

/-- Of the rows that the store gives for some topics, each load gets its own. -/
lemma pick_topicsOf {t : Tables} (h : t.topics.KeyedBy Topic.id) {ids : List TopicId}
    {id : TopicId} (hid : id ∈ ids) : pick (t.topicsOf ids) id = t.topics.get? id := by
  have hmem : ∀ row, row ∈ t.topicsOf ids ↔ ∃ k ∈ ids, t.topics.get? k = some row := by
    intro row
    rw [Tables.topicsOf, List.mem_filterMap]
    simp only [← SortedSet.mem_def, SortedSet.mem_ofList]
  cases hpick : pick (t.topicsOf ids) id with
  | some row =>
    have hfound := List.find?_some (p := fun row : Topic => row.id == id) hpick
    have hrow : row.id = id := beq_iff_eq.1 hfound
    obtain ⟨k, -, hk⟩ := (hmem row).1 (List.mem_reverse.1 (List.mem_of_find?_eq_some hpick))
    rw [← hrow, h k row hk, hk]
  | none =>
    symm
    rw [Option.eq_none_iff_forall_ne_some]
    intro row hrow
    have hnone := List.find?_eq_none.1 hpick row
      (List.mem_reverse.2 ((hmem row).2 ⟨id, hid, hrow⟩))
    rw [h id row hrow] at hnone
    simp at hnone

/-! ### Calls for several topics -/

/-- Rows are found at the places where they were put. -/
lemma exists_gather (ended : List (Nat × Option Topic)) (hnodup : (ended.map (·.1)).Nodup)
    (found : SortedMap Nat Topic) (hnew : ∀ e ∈ ended, found.get? e.1 = none) :
    ∃ all, gather (ended.map fun e => (e.1, .ok e.2)) found = .ok all ∧
      ∀ i row, all.get? i = some row ↔ (i, some row) ∈ ended ∨ found.get? i = some row := by
  induction ended generalizing found with
  | nil => exact ⟨found, rfl, by simp⟩
  | cons e rest ih =>
    obtain ⟨j, o⟩ := e
    rw [List.map_cons, List.nodup_cons] at hnodup
    obtain ⟨hj, hrest⟩ := hnodup
    cases o with
    | none =>
      obtain ⟨all, hall, hget⟩ := ih hrest found fun e he => hnew e (List.mem_cons_of_mem _ he)
      exact ⟨all, hall, fun i row => by simp [hget]⟩
    | some new =>
      obtain ⟨all, hall, hget⟩ := ih hrest (found.insert j new) fun e he => by
        rw [SortedMap.get?_insert_ne _ _ fun hej => hj (List.mem_map.2 ⟨e, he, hej⟩)]
        exact hnew e (List.mem_cons_of_mem _ he)
      refine ⟨all, hall, fun i row => ?_⟩
      rw [hget]
      by_cases hij : i = j
      · subst hij
        have hnone := hnew _ List.mem_cons_self
        simp [hnone, eq_comm, or_comm]
      · simp [SortedMap.get?_insert_ne _ _ hij, hij]

/-- The rows of a list, with their places, in order. -/
lemma values_eq_of_get? {all : SortedMap Nat Topic} {rows : List (Option Topic)}
    (h : ∀ i row, all.get? i = some row ↔ rows[i]? = some (some row)) :
    all.values = rows.filterMap id := by
  have hsorted : (rows.zipIdx.map (·.2)).Pairwise (· < ·) := by
    rw [List.zipIdx_map_snd]
    exact List.pairwise_lt_range'
  have hentries : all.entries = rows.zipIdx.filterMap fun e => e.1.map (e.2, ·) := by
    refine SortedMap.entries_eq_of_sorted all.sorted ?_ fun e => ?_
    · rw [List.pairwise_map, List.pairwise_filterMap]
      rw [List.pairwise_map] at hsorted
      refine hsorted.imp fun {e e'} hlt p hp p' hp' => ?_
      obtain ⟨-, -, rfl⟩ := Option.map_eq_some_iff.1 hp
      obtain ⟨-, -, rfl⟩ := Option.map_eq_some_iff.1 hp'
      exact hlt
    · obtain ⟨i, row⟩ := e
      rw [SortedMap.mem_entries_iff, h, List.mem_filterMap]
      constructor
      · exact fun hi => ⟨(some row, i), List.mem_zipIdx_iff_getElem?.2 hi, rfl⟩
      · rintro ⟨⟨o, j⟩, hj, ho⟩
        obtain ⟨row', rfl, hrow'⟩ := Option.map_eq_some_iff.1 ho
        cases hrow'
        exact List.mem_zipIdx_iff_getElem?.1 hj
  have hrows : rows.filterMap id = (rows.zipIdx.map (·.1)).filterMap id := by
    rw [List.zipIdx_map_fst]
  rw [SortedMap.values, hentries, List.map_filterMap, hrows, List.filterMap_map]
  congr 1
  funext e
  simp

/-- **The order in which loads end does not matter.** The rows come in the order of the topics. -/
theorem gather_perm {rows : List (Option Topic)} {ended : List (Nat × LoadReply)}
    (h : ended.Perm ((rows.map Except.ok).zipIdx.map Prod.swap)) :
    (gather ended ∅).map (·.values) = .ok (rows.filterMap id) := by
  let places := rows.zipIdx.map Prod.swap
  have hplaces : (rows.map Except.ok).zipIdx.map Prod.swap =
      places.map fun e => ((e.1, .ok e.2) : Nat × LoadReply) := by
    simp [places, List.zipIdx_map]
  have hfst : places.map (·.1) = List.range' 0 rows.length := by
    rw [List.map_map]
    exact List.zipIdx_map_snd 0 rows
  have hsplit : Relation.Comp (· = List.map (fun e => (e.1, .ok e.2)) ·) (·.Perm ·)
      ended places := by
    rw [List.eq_map_comp_perm]
    show ended.Perm (places.map _)
    rwa [← hplaces]
  obtain ⟨done, rfl, hdone⟩ := hsplit
  have hnodup : (done.map (·.1)).Nodup := by
    rw [(hdone.map _).nodup_iff, hfst]
    exact List.nodup_range'
  obtain ⟨all, hall, hget⟩ := exists_gather done hnodup ∅ fun e _ => SortedMap.get?_empty e.1
  rw [hall]
  refine congrArg _ (values_eq_of_get? fun i row => ?_)
  rw [hget, hdone.mem_iff]
  simp [places, List.mem_zipIdx_iff_getElem?]

lemma results_map_ok (rows : List (Option Topic)) :
    results (rows.map fun o => .answered (.ok o)) = .ok (rows.filterMap id) := by
  induction rows with
  | nil => rfl
  | cons o rest ih =>
    cases o with
    | none => exact ih
    | some row =>
      rw [List.map_cons, results, ih]
      rfl

end Loader

/-! ### Replies -/

/-- The reply to a load that what the store gave to its batch comes to: the row that was committed
when the store was asked, if there was one, or the error that the store gave. -/
def Fetch.Gives (f : Fetch) (topic : TopicId) (r : LoadReply) : Prop :=
  (∃ given, f.result = .ok given) ∧ r = .ok (f.tables.topics.get? topic) ∨
    ∃ e, f.result = .error e ∧ r = .error (.fetch e.message)

namespace Loading

open Loader

variable {s : Loading} {f : Fetch} {w : Waiter} {r : LoadReply} {rows : SortedMap TopicId Topic}
  {i : Nat} {id : TopicId}

/-- Whether the store has had the same rows whenever it was asked, and has never failed. -/
def IsSteady (s : Loading) (rows : SortedMap TopicId Topic) : Prop :=
  ∀ f ∈ s.fetches, f.tables.topics = rows ∧ ∃ given, f.result = .ok given

namespace Orderly

/-- Every reply comes of what the store gave to the batch of the load. -/
lemma exists_gives (h : s.Orderly) (hr : (w, r) ∈ s.sent) :
    ∃ f ∈ s.fetches, w ∈ f.batch ∧ f.Gives w.topic r := by
  obtain ⟨-, f, hf, hw, rfl⟩ := h.replied w r hr
  obtain ⟨-, hkeyed, hgiven | ⟨e, he⟩⟩ := h.fetched f hf
  · have hasked : w.topic ∈ keys f.batch := by
      rw [keys, ← SortedSet.mem_def, SortedSet.mem_ofList]
      exact List.mem_map_of_mem hw
    refine ⟨f, hf, hw, .inl ⟨⟨_, hgiven⟩, ?_⟩⟩
    rw [hgiven]
    exact congrArg _ (pick_topicsOf hkeyed hasked)
  · refine ⟨f, hf, hw, .inr ⟨e, he, ?_⟩⟩
    rw [he]
    rfl

/-- Whoever has an answer was sent one. -/
lemma sent_of_answered (h : s.Orderly) (hi : s.loader.callers[i]? = some (.answered r))
    (hid : s.asked[i]? = some id) : (⟨i, id⟩, r) ∈ s.sent := by
  rcases (h.line.mem_iff (w := ⟨i, id⟩)).2 hid with ⟨b, hb, hw⟩ | ⟨q, hq, hw⟩
  · rcases h.awaits hb hw with ⟨r', hr'⟩ | hw | hw
    · cases hi.symm.trans (h.replied _ _ hr').1
      exact hr'
    · cases hi.symm.trans hw
    · cases hi.symm.trans hw
  · rcases (h.queue q hq).or_of_mem hw with hw | hw <;> cases hi.symm.trans hw

/-- If the store is steady, the answer to a load is the row that is stored. -/
lemma answer_eq (h : s.Orderly) (hsteady : s.IsSteady rows)
    (hi : s.loader.callers[i]? = some (.answered r)) (hid : s.asked[i]? = some id) :
    r = .ok (rows.get? id) := by
  obtain ⟨f, hf, -, ⟨-, rfl⟩ | ⟨e, he, -⟩⟩ := h.exists_gives (h.sent_of_answered hi hid)
  · rw [(hsteady f hf).1]
  · obtain ⟨-, given, hgiven⟩ := hsteady f hf
    cases hgiven.symm.trans he

/-- If the store is steady, some loads get the rows of their topics. -/
lemma answers_eq (h : s.Orderly) (hsteady : s.IsSteady rows)
    {loads : List Nat} {ids : List TopicId} {replies : List LoadReply}
    (hids : loads.map (s.asked[·]?) = ids.map some)
    (hreplies : loads.map (s.loader.callers[·]?) = replies.map fun r => some (.answered r)) :
    replies = (ids.map rows.get?).map .ok := by
  induction loads generalizing ids replies with
  | nil =>
    obtain rfl := List.map_eq_nil_iff.1 hids.symm
    obtain rfl := List.map_eq_nil_iff.1 hreplies.symm
    rfl
  | cons i loads ih =>
    cases ids with
    | nil => cases hids
    | cons id ids =>
      cases replies with
      | nil => cases hreplies
      | cons r replies =>
        obtain ⟨hid, hids⟩ := List.cons.inj hids
        obtain ⟨hi, hreplies⟩ := List.cons.inj hreplies
        rw [h.answer_eq hsteady hi hid, ih hids hreplies]
        rfl

/-- If the store is steady and everyone has a reply, everyone has the row of its topic. -/
lemma callers_eq (h : s.Orderly) (hsteady : s.IsSteady rows)
    (hall : ∀ w : Waiter, s.asked[w.caller]? = some w.topic → s.IsReplied w) :
    s.loader.callers = (s.asked.map rows.get?).map fun o => .answered (.ok o) := by
  apply List.ext_getElem?
  intro i
  rw [List.map_map, List.getElem?_map]
  cases hid : s.asked[i]? with
  | none =>
    rw [List.getElem?_eq_none_iff, h.line.length] at hid
    exact List.getElem?_eq_none hid
  | some id =>
    obtain ⟨r, hr⟩ := hall ⟨i, id⟩ hid
    have hi := (h.replied _ r hr).1
    rw [hi, h.answer_eq hsteady hi hid]
    rfl

end Orderly

/-! ### Loads that come together -/

/-- Some callers come, one after the other. -/
lemma foldl_enter (ids : List TopicId) (s : Loading) :
    ids.foldl Loading.enter s =
      { s with loader := ids.foldl Loader.enter s.loader, asked := s.asked ++ ids } := by
  induction ids generalizing s with
  | nil => simp
  | cons id ids ih => simp [ih, Loading.enter]

lemma Reachable.foldl_enter (ids : List TopicId) (h : s.Reachable) :
    (ids.foldl Loading.enter s).Reachable := by
  induction ids generalizing s with
  | nil => exact h
  | cons id ids ih => exact ih (.step h (.enter id))

/-- A leader who replies to everyone in its batch answers it. -/
lemma Reachable.foldl_reply (h : s.Reachable) (hf : f ∈ s.fetches) {b : List Waiter}
    (hb : ∀ w ∈ b, w ∈ f.batch) (hnodup : b.Nodup) (hnew : ∀ w ∈ b, ¬ s.IsReplied w) :
    let s' := b.foldl (·.reply f ·) s
    s'.Reachable ∧ s'.fetches = s.fetches ∧ s'.asked = s.asked ∧
      s'.loader = { s.loader with
        callers := deliver (replyFrom f.result) b s.loader.callers } ∧
      ∀ w, s'.IsReplied w ↔ s.IsReplied w ∨ w ∈ b := by
  induction b generalizing s with
  | nil => exact ⟨h, rfl, rfl, rfl, by simp⟩
  | cons w b ih =>
    obtain ⟨hw, hnodup⟩ := List.nodup_cons.1 hnodup
    have hreplied : ∀ v, (s.reply f w).IsReplied v ↔ s.IsReplied v ∨ v = w := by
      intro v
      simp only [IsReplied, Loading.reply, List.mem_append, List.mem_singleton, Prod.mk.injEq,
        exists_or, exists_and_left, exists_eq, and_true]
    have hstep : (s.reply f w).Reachable :=
      .step h (.work (.reply hf (hb w List.mem_cons_self) (hnew w List.mem_cons_self)))
    obtain ⟨hreach, hfetches, hasked, hloader, hall⟩ := ih hstep hf
      (fun v hv => hb v (List.mem_cons_of_mem w hv)) hnodup fun v hv hv' => by
        rcases (hreplied v).1 hv' with hv' | rfl
        · exact hnew v (List.mem_cons_of_mem w hv) hv'
        · exact hw hv
    refine ⟨hreach, hfetches, hasked, hloader, fun v => ?_⟩
    rw [List.foldl_cons, hall, hreplied, List.mem_cons, or_assoc]

end Loading

section Together

variable {τ : Type} {mem : Memory}

open Loader

/-- Callers who come together are all in one batch, and the leader answers each with its row.

**Proof sketch.** That they come, that the first one takes the queue and asks the store, and that it
replies to everyone are steps, after which there is order, and everyone has a reply. -/
lemma Loader.answer_together (hmem : mem.Reachable) (first : TopicId) (others : List TopicId) :
    let ids := first :: others
    let collected := (ids.foldl Loader.enter idle).dispatch 0
    let given := mem.tables.topicsOf (keys (arrivals ids))
    collected.batchOf 0 = arrivals ids ∧ collected.batches = 1 ∧
      (collected.answer 0 (.ok given)).callers =
        (ids.map mem.tables.topics.get?).map fun o => .answered (.ok o) := by
  intro ids collected given
  let came : Loading := ⟨ids.foldl Loader.enter idle, mem, ids, [], [], []⟩
  have hcame : came.Reachable := by
    have hreach := (Loading.Reachable.start hmem).foldl_enter ids
    rwa [Loading.foldl_enter] at hreach
  obtain ⟨rest, hrest⟩ : ∃ rest, arrivals ids = ⟨0, first⟩ :: rest := ⟨_, List.mapIdx_cons⟩
  have hpending : came.loader.pending = some (arrivals ids) := by
    have horder : came.loader.pending.getD [] = arrivals ids := hcame.orderly.line.order
    cases hq : came.loader.pending with
    | none =>
      rw [hq, hrest] at horder
      cases horder
    | some q =>
      rw [hq] at horder
      exact congrArg some horder
  have hi : came.loader.callers[0]? = some .collecting := by
    have hqueue := hcame.orderly.queue _ hpending
    rw [hrest] at hqueue
    exact hqueue.1
  have hlt : 0 < came.loader.callers.length := (List.getElem?_eq_some_iff.1 hi).1
  have hcollected : collected = ⟨none, came.loader.callers.set 0 (.fetching (arrivals ids)),
      came.loader.batches + 1⟩ := dispatch_of_collecting hi hpending
  have hfetching : collected.callers[0]? = some (.fetching (arrivals ids)) := by
    rw [hcollected]
    exact List.getElem?_set_self hlt
  let took := came.dispatch 0
  have htook : took.Reachable := .step hcame (.work (.dispatch hi))
  have hnone : ∀ f ∈ took.fetches, f.batch ≠ arrivals ids := fun f hf => by cases hf
  let asked := took.fetch (arrivals ids) (.ok given)
  have hasked : asked.Reachable :=
    .step htook (.work (.fetch hfetching hnone TitleSource.silent .never ()))
  let f : Fetch := ⟨arrivals ids, mem.tables, .ok given⟩
  have hf : f ∈ asked.fetches := List.mem_singleton_self f
  obtain ⟨hreplied, hfetches, hids, hloader, hall⟩ := hasked.foldl_reply hf (fun _ hw => hw)
    (nodup_arrivals ids) (fun w _ hw => by obtain ⟨r, hr⟩ := hw; cases hr)
  have hsteady : asked.IsSteady mem.tables.topics := by
    intro g hg
    obtain rfl := List.mem_singleton.1 hg
    exact ⟨rfl, given, rfl⟩
  rw [Loading.IsSteady, ← hfetches] at hsteady
  have hcallers := hreplied.orderly.callers_eq hsteady
    fun w hw => (hall w).2 (.inr (mem_arrivals.2 (by rwa [hids] at hw)))
  refine ⟨by simp only [batchOf, hfetching], ?_, ?_⟩
  · have hcount : collected.batches = took.taken.length := htook.orderly.count
    rw [hcount]
    show ([] ++ came.loader.pending.toList).length = 1
    rw [hpending]
    rfl
  · rw [hids, hloader] at hcallers
    rw [answer_of_fetching hfetching]
    exact hcallers

/-- **What is loaded for callers who come together.** They are served by one batch, and get the rows
that are stored. -/
theorem Engine.run_loadTopics (e : Engine Memory Memory.Session Memory.Fault τ)
    (he : e.store = Memory.store) (hmem : mem.Reachable) (ids : List TopicId) (t : τ) :
    (e.loadTopics ids).run (mem, t) =
      ((.ok (ids.filterMap mem.tables.topics.get?), if ids.isEmpty then 0 else 1), mem, t) := by
  cases ids with
  | nil => rfl
  | cons first others =>
    obtain ⟨hbatch, hbatches, hcallers⟩ := Loader.answer_together hmem first others
    have hrun : ∀ b, (e.perform (Operation.topics (keys b))).run (mem, t) =
        (.ok (mem.tables.topicsOf (keys b)), mem, t) := by
      intro b
      rw [Engine.perform, he]
      rfl
    have hresults := results_map_ok ((first :: others).map mem.tables.topics.get?)
    rw [← hcallers, List.filterMap_map, Function.id_comp] at hresults
    obtain ⟨rest, hrest⟩ : ∃ rest, arrivals (first :: others) = ⟨0, first⟩ :: rest :=
      ⟨_, List.mapIdx_cons⟩
    have hanswered : ∀ given,
        (((first :: others).foldl Loader.enter idle).dispatch 0 |>.answer 0 given).batches =
          1 := fun _ => hbatches
    rw [hrest] at hresults
    simp only [Engine.loadTopics, hbatch, hrest, StateT.run_bind, hrun, hanswered, StateT.run_pure]
    exact congrArg (fun found => ((found, 1), mem, t)) hresults

end Together

/-! ### The parents of a topic -/

namespace Http.Service

variable {τ α β : Type} {v : Service Memory Memory.Session Memory.Fault τ} {mem : Memory} {t : τ}

/-- What succeeds is followed by the rest. -/
lemma run_bind_of_ok {x : Task Memory τ α} {k : α → Task Memory τ β} {a : α}
    (h : x.run (mem, t) = (.ok a, mem, t)) : (x >>= k).run (mem, t) = (k a).run (mem, t) := by
  have h' : x (mem, t) = (.ok a, mem, t) := h
  show ExceptT.bind x k (mem, t) = k a (mem, t)
  simp only [ExceptT.bind, ExceptT.mk, bind, StateT.bind, h']
  rfl

/-- What cannot fail succeeds. -/
lemma run_liftM {x : StateM (Memory × τ) α} {a : α} (h : x.run (mem, t) = (a, mem, t)) :
    (liftM x : Task Memory τ α).run (mem, t) = (.ok a, mem, t) := by
  have h' : x (mem, t) = (a, mem, t) := h
  show ExceptT.lift x (mem, t) = _
  simp only [ExceptT.lift, ExceptT.mk, Functor.map, StateT.map, bind, h']
  rfl

/-- **The service shows a topic with the parents that are loaded for it**: those that are stored, in
the order of their identifiers. -/
theorem run_topic (hv : v.engine.store = Memory.store) (hmem : mem.Reachable) {id : TopicId}
    {row : Topic} (hrow : mem.tables.topics.get? id = some row) :
    (v.topic id).run (mem, t) = (.ok (.ok (.object [
      ("topic", Topic.form.write row),
      ("parent_topics", Topic.form.list.write
        ((mem.tables.edges.column (.topic row.id)).toList.filterMap mem.tables.topics.get?))]),
      []), mem, t) := by
  have hrun : ∀ {γ : Type} {op : Operation γ} {a : γ},
      (∀ d, op.run Memory.store v.engine.titles d (mem, t) = (.ok a, mem, t)) →
        (v.run op).run (mem, t) = (.ok a, mem, t) := by
    intro γ op a h
    rw [← h (Deadline.ofTimeout v.engine.settings.timeout), ← hv]
    rfl
  have hload : ∀ ids, (v.loadParents ids).run (mem, t) =
      (.ok (ids.filterMap mem.tables.topics.get?), mem, t) := by
    intro ids
    rw [loadParents, run_bind_of_ok (run_liftM (v.engine.run_loadTopics hv hmem ids t))]
    rfl
  rw [topic, run_bind_of_ok (a := some row) (hrun fun d => by rw [← hrow]; rfl)]
  dsimp only
  rw [run_bind_of_ok (hrun fun d => rfl), run_bind_of_ok (hload _)]
  rfl

end Http.Service

namespace Loading

open Loader

variable {s : Loading}

/-- **Loading topics in batches is looking them up.** However callers, leaders and the store take
turns,

* the batches that were taken, and then the queue, list every load once, and the store is asked for
  a batch at most once;
* a load is sent at most one reply, and receives it: the row of its own topic that was committed
  when the store was asked for its batch, or the error that the store gave;
* every load has a leader who can go on, leaders get on with their work, and once they have nothing
  to do, every load was sent a reply;
* as long as the store neither changes nor fails, a call for several topics gets the rows that are
  stored, in the order in which it names the topics, in whatever order its loads end;
* the service shows the parents of a topic that a look-up finds. -/
theorem Reachable.loads_exact (h : s.Reachable) :
    (s.taken.flatten ++ s.loader.pending.getD [] = arrivals s.asked ∧
      s.loader.batches = s.taken.length ∧ (∀ f ∈ s.fetches, f.batch ∈ s.taken) ∧
      (s.fetches.map (·.batch)).Nodup) ∧
    ((s.sent.map (·.1)).Nodup ∧ ∀ w r, (w, r) ∈ s.sent → s.asked[w.caller]? = some w.topic ∧
      s.loader.callers[w.caller]? = some (.answered r) ∧
        ∃ f ∈ s.fetches, w ∈ f.batch ∧ f.Gives w.topic r) ∧
    ((∀ w : Waiter, s.asked[w.caller]? = some w.topic → s.IsLed w) ∧
      (∀ s', s.Work s' → s'.owed < s.owed) ∧
      ((∀ s', ¬ s.Work s') →
        s.loader.pending = none ∧ (s.sent.map (·.1)).Perm (arrivals s.asked))) ∧
    (∀ (rows : SortedMap TopicId Topic) (loads : List Nat) (ids : List TopicId)
        (replies : List LoadReply), loads.map (s.asked[·]?) = ids.map some →
      loads.map (s.loader.callers[·]?) = replies.map (fun r => some (.answered r)) →
      s.IsSteady rows →
        results (replies.map .answered) = .ok (ids.filterMap rows.get?) ∧
        ∀ ended : List (Nat × LoadReply), ended.Perm (replies.zipIdx.map Prod.swap) →
          (gather ended ∅).map (·.values) = .ok (ids.filterMap rows.get?)) ∧
    ∀ {τ : Type} (v : Http.Service Memory Memory.Session Memory.Fault τ) (t : τ) (id : TopicId)
      (row : Topic), v.engine.store = Memory.store → s.store.tables.topics.get? id = some row →
      ∃ (ids : List TopicId) (parents : List Topic),
        (∀ d, (Operation.parentIds (.topic id)).run Memory.store v.engine.titles d (s.store, t) =
          (.ok ids, s.store, t)) ∧
        (∀ d, (Operation.parentTopics (.topic id)).run Memory.store v.engine.titles d
          (s.store, t) = (.ok parents, s.store, t)) ∧
        parents = ids.filterMap s.store.tables.topics.get? ∧
        (v.topic id).run (s.store, t) = (.ok (.ok (.object [
          ("topic", Topic.form.write row),
          ("parent_topics", Topic.form.list.write parents)]), []), s.store, t) := by
  have ho := h.orderly
  refine ⟨⟨ho.line.order, ho.count, fun f hf => (ho.fetched f hf).1, ho.fetched_once⟩,
    ⟨ho.replied_once, fun w r hr => ?_⟩,
    ⟨fun w hw => ho.isLed hw, fun s' hwork => ho.owed_lt hwork, ho.replied_of_stuck⟩,
    fun rows loads ids replies hids hreplies hsteady => ?_, fun v t id row hv hrow => ?_⟩
  · obtain ⟨hreceived, f, hf, hwf, -⟩ := ho.replied w r hr
    exact ⟨ho.mem_line (ho.fetched f hf).1 hwf, hreceived, ho.exists_gives hr⟩
  · obtain rfl := ho.answers_eq hsteady hids hreplies
    have hfound : (ids.map rows.get?).filterMap id = ids.filterMap rows.get? := by
      rw [List.filterMap_map, Function.id_comp]
    rw [← hfound]
    refine ⟨?_, fun ended hended => gather_perm hended⟩
    rw [List.map_map]
    exact results_map_ok (ids.map rows.get?)
  · obtain rfl : row.id = id := ho.store.coherent.keyed.topics id row hrow
    let ids := (s.store.tables.edges.column (.topic row.id)).toList
    refine ⟨ids, s.store.tables.topicsOf ids, fun d => rfl, fun d => rfl, ?_, ?_⟩
    · rw [Tables.topicsOf, SortedSet.ofList_toList]
    · rw [Tables.topicsOf, SortedSet.ofList_toList]
      exact Http.Service.run_topic hv ho.store hrow

/-- What the store gives to a batch that asks for one topic of the chain. -/
def firstFetch : Fetch :=
  ⟨[⟨0, ⟨⟨3⟩⟩⟩], Memory.chain.tables, .ok (Memory.chain.tables.topicsOf [⟨⟨3⟩⟩])⟩

/-- What the store gives to a batch that asks for the same topic, another one, and one that does not
exist. -/
def secondFetch : Fetch :=
  ⟨[⟨1, ⟨⟨9⟩⟩⟩, ⟨2, ⟨⟨2⟩⟩⟩, ⟨3, ⟨⟨3⟩⟩⟩], Memory.chain.tables,
    .ok (Memory.chain.tables.topicsOf (keys [⟨1, ⟨⟨9⟩⟩⟩, ⟨2, ⟨⟨2⟩⟩⟩, ⟨3, ⟨⟨3⟩⟩⟩]))⟩

/-- A call for four topics, split into two batches. The second one is collected before the store is
asked for the first one, and is the first to be answered. -/
def splitCall : Loading :=
  let came := [⟨⟨9⟩⟩, ⟨⟨2⟩⟩, ⟨⟨3⟩⟩].foldl enter (((start Memory.chain).enter ⟨⟨3⟩⟩).dispatch 0)
  let asked := ((came.dispatch 1).fetch secondFetch.batch secondFetch.result).fetch
    firstFetch.batch firstFetch.result
  firstFetch.batch.foldl (·.reply firstFetch ·)
    (secondFetch.batch.foldl (·.reply secondFetch ·) asked)

lemma reachable_splitCall : splitCall.Reachable := by
  have hcame := (((Reachable.start Memory.reachable_chain).step (.enter ⟨⟨3⟩⟩)).step
    (.work (.dispatch (i := 0) rfl))).foldl_enter [⟨⟨9⟩⟩, ⟨⟨2⟩⟩, ⟨⟨3⟩⟩]
  have hasked := hcame.step (.work (.dispatch (i := 1) rfl))
    |>.step (.work (.fetch (i := 1) (b := secondFetch.batch) rfl (fun f hf => by cases hf)
      TitleSource.silent .never ()))
    |>.step (.work (.fetch (i := 0) (b := firstFetch.batch) rfl
      (fun f hf => by cases List.mem_singleton.1 hf; exact nofun) TitleSource.silent .never ()))
  obtain ⟨hsecond, -, -, -, hreplied⟩ := hasked.foldl_reply (f := secondFetch) (.head _)
    (fun _ hw => hw) (by decide) (fun w _ hw => by obtain ⟨r, hr⟩ := hw; cases hr)
  refine (hsecond.foldl_reply (f := firstFetch) (.tail _ (.head _)) (fun _ hw => hw) (by decide)
    fun w hw hw' => ?_).1
  rcases (hreplied w).1 hw' with ⟨r, hr⟩ | hw'
  · cases hr
  · obtain rfl := List.mem_singleton.1 hw
    simp [secondFetch] at hw'

/-- The service over a store in memory. -/
def plainService : Http.Service Memory Memory.Session Memory.Fault Unit :=
  ⟨⟨Memory.store, TitleSource.silent, .standard⟩, .certain⟩

/-- The call gets the rows of the topics that exist, in the order in which it names them, one of
them twice. The service shows the topic at the end of the chain with its parent. -/
theorem loads_exact_splitCall :
    (∃ found, results splitCall.loader.callers = .ok found ∧
      found.map (·.name) = ["Diaries", "Novels", "Diaries"]) ∧
    ∃ row parents, splitCall.store.tables.topics.get? ⟨⟨3⟩⟩ = some row ∧
      (plainService.topic ⟨⟨3⟩⟩).run (splitCall.store, ()) = (.ok (.ok (.object [
        ("topic", Topic.form.write row),
        ("parent_topics", Topic.form.list.write parents)]), []), splitCall.store, ()) ∧
      parents.map (·.name) = ["Novels"] := by
  obtain ⟨-, -, -, hcall, hservice⟩ := reachable_splitCall.loads_exact
  constructor
  · have hsteady : splitCall.IsSteady Memory.chain.tables.topics := by
      intro f hf
      rcases List.mem_cons.1 hf with rfl | hf
      · exact ⟨rfl, _, rfl⟩
      · obtain rfl := List.mem_singleton.1 hf
        exact ⟨rfl, _, rfl⟩
    have hresults := hcall Memory.chain.tables.topics [0, 1, 2, 3]
      [⟨⟨3⟩⟩, ⟨⟨9⟩⟩, ⟨⟨2⟩⟩, ⟨⟨3⟩⟩]
      [replyFrom firstFetch.result ⟨⟨3⟩⟩, replyFrom secondFetch.result ⟨⟨9⟩⟩,
        replyFrom secondFetch.result ⟨⟨2⟩⟩, replyFrom secondFetch.result ⟨⟨3⟩⟩] rfl rfl hsteady
    exact ⟨_, hresults.1, by decide +kernel⟩
  · obtain ⟨row, hrow⟩ := Option.isSome_iff_exists.1
      (show (Memory.chain.tables.topics.get? ⟨⟨3⟩⟩).isSome by decide +kernel)
    obtain ⟨ids, parents, hids, -, rfl, hshown⟩ := hservice plainService () ⟨⟨3⟩⟩ row rfl hrow
    obtain rfl : ids = [⟨⟨2⟩⟩] := by
      have hparents : (Memory.chain.tables.edges.column (.topic ⟨⟨3⟩⟩)).toList = [⟨⟨2⟩⟩] := by
        decide +kernel
      rw [← hparents]
      exact (Except.ok.inj (congrArg Prod.fst (hids .never))).symm
    exact ⟨row, _, hrow, hshown, by decide +kernel⟩

end Loading

end Polyhierarchy

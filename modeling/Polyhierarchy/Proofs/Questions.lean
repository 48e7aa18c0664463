import Polyhierarchy.Proofs.Adjacency

set_option relaxedAutoImplicit false
set_option autoImplicit false

/-!
# Questions one after another

A reader that walks over the edges answers questions one after another, and makes use of what it
has found before. Whatever the edges are, and whatever has been asked before, each answer is the
right one: what lies below a topic, and what lies above a node. The two answer each other, though
each comes from a map of its own.

## Main definitions

* `Reachability.Question`, `Reachability.Answer` — what a reader is asked, and what it answers.
* `Reachability.Reader.ask`, `Reachability.Reader.askEach` — asks a reader one question, or several.
* `Tables.above` — the topics above a node.
* `Tables.answer` — the right answer to a question.

## Main results

* `Reachability.reads_ask` — one answer is right, and leaves what makes the next ones right.
* `Reachability.reads_askEach` — all answers are right.
* `Memory.walks_agree` — over edges that any changes have left, all walks find the same.
-/

namespace Polyhierarchy

open Reachability

namespace Reachability

/-! ### Questions and answers -/

/-- A question to a reader: what lies below a topic, or above a node. -/
inductive Question
  | below (id : TopicId)
  | above (node : Node)

/-- An answer: the nodes below a topic, or the topics above a node. -/
inductive Answer
  | below (nodes : SortedSet Node)
  | above (topics : SortedSet TopicId)

namespace Reader

variable {σ : Type}

/-- Asks a reader a question. -/
def ask (reader : Reader σ) : Question → σ → Program (Answer × σ)
  | .below id, s => do
    let (nodes, s) ← reader.descendants id s
    return (.below nodes, s)
  | .above node, s => do
    let (topics, s) ← reader.ancestors node s
    return (.above topics, s)

/-- Asks a reader questions one after another. -/
def askEach (reader : Reader σ) : List Question → σ → Program (List Answer × σ)
  | [], s => return ([], s)
  | question :: rest, s => do
    let (answer, s) ← reader.ask question s
    let (others, s) ← reader.askEach rest s
    return (answer :: others, s)

end Reader

end Reachability

namespace Tables

/-- The topics other than a node from which it is reachable over direct edges. -/
def above (t : Tables) (n : Node) : SortedSet TopicId := (closureOf t.edges).column n

lemma mem_above {t : Tables} {n : Node} {a : TopicId} :
    a ∈ t.above n ↔ .topic a ≠ n ∧ Reaches t.edges (.topic a) n := by
  rw [above, SortedRel.mem_column, mem_row_closureOf, ne_comm]

/-- A topic lies above a node exactly if the node lies below the topic. -/
lemma mem_above_iff {t : Tables} {n : Node} {a : TopicId} : a ∈ t.above n ↔ n ∈ t.below a := by
  rw [mem_above, mem_below, ne_comm]

/-- The right answer to a question. -/
def answer (t : Tables) : Question → Answer
  | .below id => .below (t.below id)
  | .above node => .above (t.above node)

end Tables

/-! ### Answers are right -/

namespace Reachability

open Program

variable {t : Tables} {memo : Memo} {edges : Nat}

/-- **An answer is right**, whatever has been asked before, and leaves what makes the next one
right. -/
lemma reads_ask (h : Learned edges t memo) (hedges : t.edges.size ≤ edges) (question : Question) :
    ∃ memo', ((walked edges).ask question memo).Reads t (t.answer question, memo') ∧
      Learned edges t memo' := by
  cases question with
  | below id =>
    obtain ⟨nodes, memo', hreads, hnodes, -⟩ := reads_descendants (h.downExact hedges) hedges id
    obtain rfl : nodes = t.below id := by
      ext n
      rw [hnodes, Tables.mem_below]
    exact ⟨memo', hreads.bind (.done _), h.down hreads.on_eq⟩
  | above node =>
    obtain ⟨topics, memo', hreads, htopics, -⟩ := reads_ancestors (h.upExact hedges) hedges node
    obtain rfl : topics = t.above node := by
      ext a
      rw [htopics, Tables.mem_above]
    exact ⟨memo', hreads.bind (.done _), h.up hreads.on_eq⟩

/-- **All answers are right**, one after another. -/
lemma reads_askEach (h : Learned edges t memo) (hedges : t.edges.size ≤ edges)
    (questions : List Question) :
    ∃ memo', ((walked edges).askEach questions memo).Reads t (questions.map t.answer, memo') ∧
      Learned edges t memo' := by
  induction questions generalizing memo with
  | nil => exact ⟨memo, .done _, h⟩
  | cons question rest ih =>
    obtain ⟨memo₁, hreads, hlearned⟩ := reads_ask h hedges question
    obtain ⟨memo₂, hrest, hlast⟩ := ih hlearned
    exact ⟨memo₂, hreads.bind (hrest.bind (.done _)), hlast⟩

/-- A walk down without a bound ends with what lies below its start, and maybe the start itself. -/
lemma drains_down_below (h : memo.DownExact t.edges) (id : TopicId) :
    ∃ n nodes, n ≤ t.edges.size + 1 ∧
      Drains (stepDown memo id (childList t.edges)) n [id] ∅ nodes ∧
      nodes.erase (.topic id) = t.below id := by
  obtain ⟨n, nodes, hn, hdrains, hdone⟩ := exists_drains_down h id
  refine ⟨n, nodes, hn, hdrains, ?_⟩
  ext v
  rw [SortedSet.mem_erase, Tables.mem_below, and_comm]
  exact and_congr_right fun hne => hdone.mem_iff hne

/-- A walk up without a bound ends with what lies above its start, and maybe the start itself. -/
lemma drains_up_above (h : memo.UpExact t.edges) (v : Node) :
    ∃ n topics, n ≤ t.edges.size + 1 ∧
      Drains (stepUp memo v (parentList t.edges)) n [v] ∅ topics ∧
      topics.filter (fun a => Node.topic a != v) = t.above v := by
  obtain ⟨n, topics, hn, hdrains, hdone⟩ := exists_drains_up h v
  refine ⟨n, topics, hn, hdrains, ?_⟩
  ext a
  rw [SortedSet.mem_filter, Tables.mem_above, bne_iff_ne, and_comm]
  refine and_congr_right fun hne => ?_
  rw [← topic_mem_upward, hdone.mem_iff hne, Relation.transGen_swap]

end Reachability

namespace Memory

open EdgeChange

/-- **All walks over the same edges find the same.** Take a session, and two maps that hold its
edges, and make any changes of single edges to both. Whether the graph then has cycles or not, the
following is true.

The changes say the same of the session and of the two maps, and these hold the edges of the session
again: they list the same children and parents as the session does, and mirror each other. A reader
that walks over the edges answers any questions, one after another, with exactly what lies below a
topic, which is what a walk without a memo finds as well, and exactly what lies above a node; and
the two say the same of each pair. No fault and no deadline stands in its way, and all it needs is a
bound that allows for the edges. Nor is that bound ever reached: after any questions, the loop over
either map ends of its own accord, with the same nodes. -/
theorem walks_agree (s : Session) (mem : Memory) (m : Adjacency) (h : m.Mirrors s.tables.edges)
    (changes : List EdgeChange) :
    let t := { s.tables with edges := applyAll changes s.tables.edges }
    let m' := (Adjacency.changeEach changes m).2
    (each request changes).run store.backend .never (s, mem.limited none) =
      (.ok (Adjacency.changeEach changes m).1, { s with tables := t }, mem.limited none) ∧
    m'.Mirrors t.edges ∧ (∀ a n, a ∈ m'.parentTopics n ↔ n ∈ m'.childNodes a) ∧
    (∀ p a d mem', (Program.request p (.children a)).run store.backend d
      ({ s with tables := t }, mem') = (.ok (m'.childNodes a), { s with tables := t }, mem')) ∧
    (∀ p n d mem', (Program.request p (.parents n)).run store.backend d
      ({ s with tables := t }, mem') = (.ok (m'.parentTopics n), { s with tables := t }, mem')) ∧
    (∀ id n, n ∈ t.below id ↔ n ≠ .topic id ∧ Reaches t.edges (.topic id) n) ∧
    (∀ n a, a ∈ t.above n ↔ .topic a ≠ n ∧ Reaches t.edges (.topic a) n) ∧
    (∀ a n, a ∈ t.above n ↔ n ∈ t.below a) ∧
    (∀ id d mem', (Program.request "compute reachable set" (.reachable id)).run store.backend d
      ({ s with tables := t }, mem') = (.ok (t.below id), { s with tables := t }, mem')) ∧
    (∀ id, ∃ n, n ≤ t.edges.size + 1 ∧
      Drains (fun a seen => meet id seen (m'.childNodes a)) n [id] ∅ (t.below id)) ∧
    ∀ edges, t.edges.size ≤ edges → ∀ questions, ∃ memo,
      (∀ d mem', ((walked edges).askEach questions .empty).run store.backend d
        ({ s with tables := t }, mem') =
          (.ok (questions.map t.answer, memo), { s with tables := t }, mem')) ∧
      (∀ id, ∃ n nodes, n ≤ t.edges.size + 1 ∧
        Drains (stepDown memo id m'.childNodes) n [id] ∅ nodes ∧
        nodes.erase (.topic id) = t.below id) ∧
      ∀ v, ∃ n topics, n ≤ t.edges.size + 1 ∧
        Drains (stepUp memo v m'.parentTopics) n [v] ∅ topics ∧
        topics.filter (fun a => Node.topic a != v) = t.above v := by
  intro t m'
  obtain ⟨hdue, hmirrors⟩ := h.changeEach changes
  have hchildren : m'.childNodes = childList t.edges := hmirrors.childNodes_eq
  have hparents : m'.parentTopics = parentList t.edges := hmirrors.parentTopics_eq
  rw [hchildren, hparents]
  refine ⟨?_, hmirrors, ?_, fun p a d mem' => (Program.reads_request rfl rfl).run d mem',
    fun p n d mem' => (Program.reads_request rfl rfl).run d mem', fun _ _ => Tables.mem_below,
    fun _ _ => Tables.mem_above, fun _ _ => Tables.mem_above_iff, ?_, ?_, ?_⟩
  · rw [hdue, Program.run_store _ s rfl, on_each_request]
  · intro a n
    rw [← hchildren, ← hparents]
    exact hmirrors.mem_parents_iff
  · exact fun id d mem' => (Program.reads_request rfl rfl).run d mem'
  · intro id
    obtain ⟨n, hn, hdrains, -⟩ := exists_drains_below (E := t.edges) id
    exact ⟨n, hn, hdrains⟩
  · intro edges hedges questions
    obtain ⟨memo, hreads, hlearned⟩ := reads_askEach .empty hedges questions
    exact ⟨memo, fun d mem' => hreads.run d mem', drains_down_below (hlearned.downExact hedges),
      drains_up_above (hlearned.upExact hedges)⟩

/-- Two topics above each other, one of which is above itself, and a link below that one. What lies
below the first topic is found by way of what is known to lie below the second. -/
theorem walks_agree_loop :
    let changes : List EdgeChange := [.add ⟨⟨⟨1⟩⟩, .topic ⟨⟨2⟩⟩⟩, .add ⟨⟨⟨2⟩⟩, .topic ⟨⟨1⟩⟩⟩,
      .add ⟨⟨⟨2⟩⟩, .topic ⟨⟨2⟩⟩⟩, .add ⟨⟨⟨2⟩⟩, .link ⟨⟨3⟩⟩⟩]
    let questions : List Question :=
      [.below ⟨⟨2⟩⟩, .below ⟨⟨1⟩⟩, .above (.link ⟨⟨3⟩⟩), .above (.topic ⟨⟨2⟩⟩)]
    ∃ (t : Tables) (memo : Memo),
      (each request changes).run store.backend .never (⟨0, ∅⟩, limited ∅ none) =
        (.ok [true, true, true, true], ⟨0, t⟩, limited ∅ none) ∧
      ((walked 4).askEach questions .empty).run store.backend .never (⟨0, t⟩, limited ∅ none) =
        (.ok ([.below (.ofList [.topic ⟨⟨1⟩⟩, .link ⟨⟨3⟩⟩]),
          .below (.ofList [.topic ⟨⟨2⟩⟩, .link ⟨⟨3⟩⟩]), .above (.ofList [⟨⟨1⟩⟩, ⟨⟨2⟩⟩]),
          .above (.ofList [⟨⟨1⟩⟩])], memo), ⟨0, t⟩, limited ∅ none) := by
  intro changes questions
  obtain ⟨hchanged, -, -, -, -, -, -, -, -, -, hasked⟩ :=
    walks_agree ⟨0, ∅⟩ ∅ ∅ .empty changes
  obtain ⟨memo, hanswers, -⟩ := hasked 4 (by decide +kernel) questions
  exact ⟨_, memo, hchanged, hanswers .never (limited ∅ none)⟩

end Memory

end Polyhierarchy

import Polyhierarchy.Collection.SortedMap
import Polyhierarchy.Operation.Reading
/-!
# Loading topics in batches

Callers who load topics at about the same time are served by one request to the store. The first of
them leads: it lets others join for a while, then takes the queue, asks the store for all topics in
it, and answers everyone. Whoever comes after the queue was taken begins a new one.

## Main definitions

* `Loader` — the queue and what each caller is doing.
* `Loader.enter`, `Loader.dispatch`, `Loader.answer`, `Loader.leave` — the steps: a caller comes, a
  leader takes the queue, a leader answers, a caller goes away.
* `Loader.results` — what callers who came together get.
* `Loader.gather` — how a call for several topics puts together what its loads get.
* `Engine.loadTopics` — loads topics for callers who all come at once.

## Design

A caller may go away at any time. If it has taken the queue, everyone in it learns that no answer
will come. If it leads a queue that it has not taken yet, the queue stays, and has no leader.
-/

namespace Polyhierarchy

/-- Why a load gave no answer. -/
inductive LoadError
  | fetch (text : String)
  | abandoned
  deriving DecidableEq

/-- The text of an error. -/
def LoadError.message : LoadError → String
  | fetch text => "Batch load failed: " ++ text
  | abandoned => "Batch load was abandoned"

/-- The answer to a load: the row, if there is one. -/
abbrev LoadReply : Type := Except LoadError (Option Topic)

namespace Loader

/-- Someone in the queue. -/
structure Waiter where
  /-- The number of the caller. -/
  caller : Nat
  /-- The topic asked for. -/
  topic : TopicId
  deriving DecidableEq

/-- What a caller is doing. -/
inductive Phase where
  | collecting
  | fetching (batch : List Waiter)
  | waiting
  | answered (reply : LoadReply)
  | gone

/-- Whether a caller takes an answer. -/
def Phase.awaits : Phase → Bool
  | fetching _ | waiting => true
  | _ => false

end Loader

open Loader in
/-- A loader: the queue that callers can join, if there is one, and what each caller is doing. -/
structure Loader where
  /-- The queue, in the order of arrival. -/
  pending : Option (List Waiter)
  /-- The callers in the order of their numbers. -/
  callers : List Phase
  /-- How many batches have been taken. -/
  batches : Nat

namespace Loader

/-- A loader that nobody has called yet. -/
def idle : Loader := ⟨none, [], 0⟩

/-- A caller comes: it joins the queue, or begins one and leads it. -/
def enter (l : Loader) (topic : TopicId) : Loader :=
  let waiter : Waiter := ⟨l.callers.length, topic⟩
  match l.pending with
  | some queue =>
    { l with pending := some (queue ++ [waiter]), callers := l.callers ++ [.waiting] }
  | none => { l with pending := some [waiter], callers := l.callers ++ [.collecting] }

/-- A leader takes the queue. -/
def dispatch (l : Loader) (leader : Nat) : Loader :=
  match l.callers[leader]?, l.pending with
  | some .collecting, some queue =>
    ⟨none, l.callers.set leader (.fetching queue), l.batches + 1⟩
  | some .collecting, none => { l with callers := l.callers.set leader .waiting }
  | _, _ => l

/-- The batch that a leader has taken; empty if it has taken none. -/
def batchOf (l : Loader) (leader : Nat) : List Waiter :=
  match l.callers[leader]? with
  | some (.fetching batch) => batch
  | _ => []

/-- The topics asked for in a batch, in order, each once. -/
def keys (batch : List Waiter) : List TopicId :=
  (SortedSet.ofList (batch.map (·.topic))).toList

/-- Gives each caller of a batch that still waits its answer. -/
def deliver (reply : TopicId → LoadReply) (batch : List Waiter) (callers : List Phase) :
    List Phase :=
  batch.foldl (fun callers waiter =>
    if (callers[waiter.caller]?.map Phase.awaits).getD false then
      callers.set waiter.caller (.answered (reply waiter.topic))
    else callers) callers

/-- The row of a topic among those that the store gave; of two, the later one. -/
def pick (rows : List Topic) (id : TopicId) : Option Topic :=
  rows.reverse.find? fun row => row.id == id

/-- A leader answers its batch with what the store gave. -/
def answer (l : Loader) (leader : Nat) (fetched : Except EngineError (List Topic)) : Loader :=
  let reply (id : TopicId) : LoadReply := match fetched with
    | .ok rows => .ok (pick rows id)
    | .error e => .error (.fetch e.message)
  { l with callers := deliver reply (l.batchOf leader) l.callers }

/-- A caller goes away. -/
def leave (l : Loader) (caller : Nat) : Loader :=
  let others := l.callers.set caller .gone
  { l with callers := deliver (fun _ => .error .abandoned) (l.batchOf caller) others }

/-- What callers who came together get: their rows in order, without those that do not exist, or
the first error. A caller without an answer got none because its leader went away. -/
def results : List Phase → Except LoadError (List Topic)
  | [] => .ok []
  | .answered (.ok (some row)) :: rest => (results rest).map (row :: ·)
  | .answered (.ok none) :: rest => results rest
  | .answered (.error e) :: _ => .error e
  | _ :: _ => .error .abandoned

/-- How a call for several topics puts together what its loads get, as they end one after the other.
Each is known by the place of its topic in the call. The first error ends the call. -/
def gather : List (Nat × LoadReply) → SortedMap Nat Topic → Except LoadError (SortedMap Nat Topic)
  | [], found => .ok found
  | (i, .ok (some row)) :: rest, found => gather rest (found.insert i row)
  | (_, .ok none) :: rest, found => gather rest found
  | (_, .error e) :: _, _ => .error e

end Loader

/-- Loads topics for callers who all come at once to a loader of their own. The value is what they
get, and the number of batches. -/
def Engine.loadTopics {σ κ ε τ : Type} (e : Engine σ κ ε τ) (ids : List TopicId) :
    StateM (σ × τ) (Except LoadError (List Topic) × Nat) := do
  let collected := (ids.foldl Loader.enter Loader.idle).dispatch 0
  match collected.batchOf 0 with
  | [] => return (.ok [], collected.batches)
  | batch =>
    let fetched ← e.perform (Operation.topics (Loader.keys batch))
    let answered := collected.answer 0 fetched
    return (Loader.results answered.callers, answered.batches)

end Polyhierarchy

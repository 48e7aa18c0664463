import Polyhierarchy.Store.Basic
import Polyhierarchy.Store.Tables
/-!
# A store in memory

The tables are kept in memory. A session works on a copy of the committed tables, which takes their
place when the session commits, unless another session has committed since it began. So that
failures can be tried out, writes to the closure can be made to fail after a number of them.

## Main definitions

* `Memory.Fault` — why the store fails.
* `Memory.Working` — the tables that a session works on.
* `Memory.answer` — the reply to a request.
* `Memory` — the committed tables, how often they were committed, and the number of closure writes
  that still succeed.
* `Memory.Session` — a copy of the tables, and which commit it was taken after.
* `Memory.commit` — ends a session.
* `Memory.store` — the store as a whole.
-/

namespace Polyhierarchy

namespace Memory

/-- Why the store fails. -/
inductive Fault
  | conflict (base current : Nat)
  | noSuchTopic (id : TopicId)
  | noSuchLink (id : LinkId)
  | closureWrite
  deriving DecidableEq

/-- The text of a fault. -/
def Fault.message : Fault → String
  | conflict base current =>
    "Concurrent commit detected (session began at version " ++ toString base ++
      ", store is at " ++ toString current ++ ")"
  | noSuchTopic id => "Row not found: topic " ++ toString id
  | noSuchLink id => "Row not found: link " ++ toString id
  | closureWrite => "Injected closure write failure"

/-- What a session works on: tables, and the number of closure writes that still succeed, if they
are made to fail. -/
structure Working where
  /-- The tables. -/
  tables : Tables
  /-- How many closure writes still succeed; all of them, if there is no number. -/
  writesLeft : Option Nat

namespace Working

/-- Does a write to the closure, unless it is made to fail. -/
def writeClosure (w : Working) (f : Tables → Tables) : Except Fault Unit × Working :=
  match w.writesLeft with
  | some 0 => (.error .closureWrite, w)
  | some (n + 1) => (.ok (), ⟨f w.tables, some n⟩)
  | none => (.ok (), ⟨f w.tables, none⟩)

/-- Changes the tables. -/
def edit (w : Working) (f : Tables → Tables) : Working := { w with tables := f w.tables }

end Working

/-! ### Changes to the tables -/

/-- Stores a topic, unless its repository has one of that name. -/
def insertTopic (t : Tables) (row : Topic) : Inserted Topic × Tables :=
  match t.topicNamed row.repository row.name with
  | some old => (⟨false, old⟩, t)
  | none => (⟨true, row⟩, { t with topics := t.topics.insert row.id row })

/-- Stores a link, unless its repository has one to that page. -/
def insertLink (t : Tables) (row : Link) : Inserted Link × Tables :=
  match t.linkHashed row.repository row.urlHash with
  | some old => (⟨false, old⟩, t)
  | none => (⟨true, row⟩, { t with links := t.links.insert row.id row })

/-- Removes every pair of the closure that a node is part of. -/
def purge (t : Tables) (node : Node) : Tables :=
  let closure := match node with
    | .topic id => t.closure.setRow id ∅
    | .link _ => t.closure
  { t with closure := closure.eraseRight node }

/-- The reply to a request, and what the session works on afterwards. -/
def answer : (r : Request) → Working → Except Fault r.Reply × Working
  | .lockRepository _, w => (.ok (), w)
  | .repository id, w => (.ok (w.tables.repositories.get? id), w)
  | .insertRepository row, w =>
    (.ok (), w.edit fun t => { t with repositories := t.repositories.insert row.id row })
  | .topic id, w => (.ok (w.tables.topics.get? id), w)
  | .topics ids, w => (.ok (w.tables.topicsOf ids), w)
  | .topicNamed repository name, w => (.ok (w.tables.topicNamed repository name), w)
  | .insertTopic row, w =>
    let (inserted, t) := insertTopic w.tables row
    (.ok inserted, { w with tables := t })
  | .updateTopic row, w =>
    match w.tables.topics.get? row.id with
    | some _ => (.ok (), w.edit fun t => { t with topics := t.topics.insert row.id row })
    | none => (.error (.noSuchTopic row.id), w)
  | .deleteTopic id, w => (.ok (), w.edit fun t => { t with topics := t.topics.erase id })
  | .link id, w => (.ok (w.tables.links.get? id), w)
  | .links ids, w => (.ok (w.tables.linksOf ids), w)
  | .insertLink row, w =>
    let (inserted, t) := insertLink w.tables row
    (.ok inserted, { w with tables := t })
  | .updateLink row, w =>
    match w.tables.links.get? row.id with
    | some old =>
      (.ok (), w.edit fun t =>
        { t with links := t.links.insert row.id { old with title := row.title } })
    | none => (.error (.noSuchLink row.id), w)
  | .deleteLink id, w => (.ok (), w.edit fun t => { t with links := t.links.erase id })
  | .insertEdge e, w =>
    (.ok (!w.tables.edges.holds e.parent e.child),
      w.edit fun t => { t with edges := t.edges.insert e.parent e.child })
  | .deleteEdge e, w =>
    (.ok (w.tables.edges.holds e.parent e.child),
      w.edit fun t => { t with edges := t.edges.erase e.parent e.child })
  | .parents node, w => (.ok (w.tables.edges.column node).toList, w)
  | .children topic, w => (.ok (w.tables.edges.row topic).toList, w)
  | .reachable topic, w => (.ok (w.tables.below topic), w)
  | .descendants topic, w => (.ok (w.tables.closure.row topic), w)
  | .ancestors node, w => (.ok (w.tables.closure.column node), w)
  | .replaceDescendants ancestor nodes, w =>
    w.writeClosure fun t => { t with closure := t.closure.setRow ancestor nodes }
  | .purge node, w => w.writeClosure fun t => purge t node
  | .searchTopics scope, w => (.ok (w.tables.searchTopics scope), w)
  | .searchLinks scope, w => (.ok (w.tables.searchLinks scope), w)
  | .matchTopics repository query limit, w =>
    (.ok (w.tables.matchTopics repository query limit), w)

end Memory

/-! ### Sessions -/

/-- A store in memory. -/
structure Memory where
  /-- The committed tables. -/
  tables : Tables
  /-- How many sessions have committed. -/
  version : Nat
  /-- How many closure writes still succeed; all of them, if there is no number. -/
  writesLeft : Option Nat

namespace Memory

instance : EmptyCollection Memory := ⟨⟨∅, 0, none⟩⟩

/-- A session: its copy of the tables, and which commit it was taken after. -/
structure Session where
  /-- How many sessions had committed when this one began. -/
  base : Nat
  /-- The copy of the tables. -/
  tables : Tables

/-- Begins a session. -/
def begin (m : Memory) : Session := ⟨m.version, m.tables⟩

/-- Ends a session: its tables become the committed ones, unless another session has committed
since it began. -/
def commit (m : Memory) (s : Session) : Except Fault Memory :=
  if m.version = s.base then .ok { m with tables := s.tables, version := m.version + 1 }
  else .error (.conflict s.base m.version)

/-- Answers a request of a session. -/
def answerIn (r : Request) (s : Session × Memory) : Except Fault r.Reply × Session × Memory :=
  let (reply, w) := answer r ⟨s.1.tables, s.2.writesLeft⟩
  (reply, { s.1 with tables := w.tables }, { s.2 with writesLeft := w.writesLeft })

/-- The store in memory. -/
def store : Store Memory Session Fault where
  begin m := (.ok m.begin, m)
  backend := ⟨answerIn, Fault.message⟩
  commit s m :=
    match m.commit s with
    | .ok m => (.ok (), m)
    | .error e => (.error e, m)

end Memory

end Polyhierarchy

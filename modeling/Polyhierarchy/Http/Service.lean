import Polyhierarchy.Http.Response
import Polyhierarchy.Loader
import Polyhierarchy.Store.Health
/-!
# The service

The service answers requests with operations on a store, and reports what it has done. It also
tells whether the store can be reached.

## Main definitions

* `Http.Service` — an engine and the health of its store.
* `Http.Occasion` — when a request is answered, and the identifiers for new rows.
* `Http.Service.perform` — does what a request asks for.
* `Http.Service.answer` — answers a request.
-/

namespace Polyhierarchy.Http

/-- A service. -/
structure Service (σ κ ε τ : Type) where
  /-- What operations are run with. -/
  engine : Engine σ κ ε τ
  /-- The health of the store. -/
  health : Store.Health σ

/-- When a request is answered, and two identifiers that no row has yet. -/
structure Occasion where
  /-- The time. -/
  now : Instant
  /-- The identifier of the first new row. -/
  first : Uuid
  /-- The identifier of the second new row. -/
  second : Uuid

/-- The version that the service reports. -/
def version : String := "0.1.0"

namespace Service

variable {σ κ ε τ α : Type}

/-- Something that operations are run for. -/
abbrev Task (σ τ α : Type) := ExceptT EngineError (StateM (σ × τ)) α

/-- What a request that is not in vain gives. -/
abbrev Outcome := Response × List Metric

/-- Runs an operation. -/
def run (s : Service σ κ ε τ) (op : Operation α) : Task σ τ α := ExceptT.mk (s.engine.perform op)

/-- Runs an operation that only reads, and answers with its value. -/
def lookUp (s : Service σ κ ε τ) (op : Operation α) (toJson : α → Json) : Task σ τ Outcome := do
  return (.ok (toJson (← s.run op)), [])

/-- Runs an operation that changes something, answers with its value, and reports the number of
alerts. -/
def change (s : Service σ κ ε τ) (name : String) (op : Operation α) (alerts : α → List Alert)
    (toJson : α → Json) : Task σ τ Outcome := do
  let a ← s.run op
  return (.ok (toJson a), [.mutation name (alerts a).length])

/-! ### Look-ups -/

/-- Loads the parents of a topic. -/
def loadParents (s : Service σ κ ε τ) (ids : List TopicId) : Task σ τ (List Topic) := do
  match (← liftM (s.engine.loadTopics ids)).1 with
  | .ok rows => return rows
  | .error e => throw (.store "load parent topics" e.message)

/-- A topic with its parents. -/
def topic (s : Service σ κ ε τ) (id : TopicId) : Task σ τ Outcome := do
  match ← s.run (.topic id) with
  | none => throw (.topicNotFound id)
  | some row =>
    let parents ← s.loadParents (← s.run (.parentIds (.topic row.id)))
    return (.ok (.object [
      ("topic", Topic.form.write row),
      ("parent_topics", Topic.form.list.write parents)]), [])

/-- The operation for what a search below a topic asks for. The size of a page stands in for both
limits. -/
def searchOperation (root : TopicId) (p : SearchParameters) : Operation SearchResults :=
  match p.pageSize with
  | some size => .searchPage root p.query size
  | none => .search root p.query (p.topicLimit.getD 100) (p.linkLimit.getD 100)

/-- Searches below a topic. -/
def search (s : Service σ κ ε τ) (root : TopicId) (p : SearchParameters) : Task σ τ Outcome := do
  let found ← s.run (searchOperation root p)
  return (.ok (SearchResults.form.write found), [.search found.topics.length found.links.length])

/-! ### Health -/

/-- Tries to reach the store. -/
def probe (s : Service σ κ ε τ) : Task σ τ Bool :=
  liftM (m := StateM (σ × τ)) (modifyGet fun (store, titles) =>
    let (isReachable, store) := s.health.probe store
    (isReachable, store, titles))

/-- Whether the service is well, and its store. -/
def healthReport (s : Service σ κ ε τ) : Task σ τ Outcome := do
  let isReachable ← s.probe
  let database := s.health.connections.map fun n =>
    ("database", Json.object [("connected", .bool isReachable), ("pool_max", .int n)])
  return (.ok (.object <|
    [("status", .string (if isReachable then "healthy" else "degraded")),
      ("version", .string version)] ++ database.toList), [])

/-- Whether the service can answer requests. -/
def readinessReport (s : Service σ κ ε τ) : Task σ τ Outcome := do
  let isReachable ← s.probe
  let details := if isReachable then Json.null else .string "Database connection failed"
  let report := Json.object [
    ("ready", .bool isReachable), ("database", .bool isReachable), ("details", details)]
  return (⟨if isReachable then 200 else 503, some report⟩, [])

/-! ### Answers -/

/-- Does what a request asks for. -/
def perform (s : Service σ κ ε τ) (o : Occasion) : Call → Task σ τ Outcome
  | .createRepository b =>
    s.change "create_repository" (.createRepository b.name ⟨o.first⟩ ⟨o.second⟩ o.now)
      (fun _ => []) CreatedRepository.toJson
  | .matchTopics repository p =>
    s.lookUp (.matchTopics repository p.query (p.limit.getD 20)) Topic.form.list.write
  | .upsertTopic b =>
    s.change "upsert_topic"
      (.upsertTopic b.repository b.name b.description b.parents ⟨o.first⟩ o.now)
      (·.alerts) (Upserted.toJson "topic" Topic.form)
  | .topic id => s.topic id
  | .deleteTopic id =>
    s.change "delete_topic" (.deleteTopic id) (fun _ => []) TopicId.deletedToJson
  | .updateParents id b =>
    s.change "update_topic_parent_topics" (.updateParents id b.parents)
      (·.alerts) (Updated.toJson "topic" Topic.form)
  | .updateSynonyms id b =>
    s.change "update_topic_synonyms" (.updateSynonyms id b.synonyms)
      (·.alerts) (Updated.toJson "topic" Topic.form)
  | .setTimeRange id range =>
    s.change "upsert_topic_timerange" (.setTimeRange id range)
      (·.alerts) (Updated.toJson "topic" Topic.form)
  | .deleteTimeRange id =>
    s.change "delete_topic_timerange" (.deleteTimeRange id)
      (·.alerts) (Updated.toJson "topic" Topic.form)
  | .mergeTopic id b =>
    s.change "merge_topic" (.mergeTopic id b.target) (·.alerts) Merged.toJson
  | .search root p => s.search root p
  | .upsertLink b =>
    s.change "upsert_link" (.upsertLink b.repository b.url b.title b.parents ⟨o.first⟩ o.now)
      (·.alerts) (Upserted.toJson "link" Link.form)
  | .updateLinkParents id b =>
    s.change "update_link_parent_topics" (.updateLinkParents id b.parents)
      (·.alerts) (Updated.toJson "link" Link.form)
  | .deleteLink id =>
    s.change "delete_link" (.deleteLink id) (fun _ => []) LinkId.deletedToJson
  | .health => s.healthReport
  | .liveness => return (.ok (.object [("status", .string "alive")]), [])
  | .readiness => s.readinessReport

/-- The response to a request with the metrics of what was done for it. -/
def respond (s : Service σ κ ε τ) (o : Occasion) (r : Request) : StateM (σ × τ) Outcome := do
  match r.call with
  | .error rejection => return (.ofRejection rejection, [])
  | .ok call =>
    match ← (s.perform o call).run with
    | .ok outcome => return outcome
    | .error e => return (.ofError e, [])

/-- Answers a request. Where only the head is asked for, the body is left out. The last metric is
about the request itself. -/
def answer (s : Service σ κ ε τ) (o : Occasion) (r : Request) : StateM (σ × τ) Outcome := do
  let (response, metrics) ← s.respond o r
  let body := if r.method = "HEAD" then none else response.body
  return (⟨response.status, body⟩,
    metrics ++ [.request (maskIdentifiers r.path) r.method response.status])

end Service

end Polyhierarchy.Http

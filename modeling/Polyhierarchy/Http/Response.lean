import Polyhierarchy.Http.Request
import Polyhierarchy.Operation.Links
/-!
# Responses of the service

A response has a status and, unless the request was rejected, a body. Beside it the service tells
what it has done in metrics.

## Main definitions

* `Http.Response` — a status and a body.
* `Http.ErrorBody` — the body that reports an error.
* `Http.Response.ofError`, `Http.Response.ofRejection` — responses to requests that failed.
* `Http.Metric` — what the service tells about a request.
* `CreatedRepository.toJson`, `Upserted.toJson`, `Updated.toJson`, `Merged.toJson` — the values of
  operations as bodies.
-/

namespace Polyhierarchy

open Json (Form)

/-! ### Values of operations -/

/-- Alerts in order. -/
def Alert.listToJson (alerts : List Alert) : Json := Json.ofList Alert.toJson alerts

/-- A new repository with its root. -/
def CreatedRepository.toJson (c : CreatedRepository) : Json := .object [
  ("repository", Repository.form.write c.repository),
  ("rootTopic", Topic.form.write c.root)]

/-- A row that was created or found, under a name. -/
def Upserted.toJson {α : Type} (name : String) (f : Form α) (u : Upserted α) : Json := .object [
  (name, f.optional.write u.row),
  ("created", .bool u.isNew),
  ("alerts", Alert.listToJson u.alerts)]

/-- A row that was changed, under a name. -/
def Updated.toJson {α : Type} (name : String) (f : Form α) (u : Updated α) : Json := .object [
  (name, f.write u.row),
  ("alerts", Alert.listToJson u.alerts)]

/-- The topic that others were merged into, and the one that is gone. -/
def Merged.toJson (m : Merged) : Json := .object [
  ("topic", Topic.form.write m.topic),
  ("deletedTopicId", Identifier.form.write m.gone),
  ("alerts", Alert.listToJson m.alerts)]

/-- A topic that was deleted. -/
def TopicId.deletedToJson (id : TopicId) : Json :=
  .object [("deletedTopicId", Identifier.form.write id)]

/-- A link that was deleted. -/
def LinkId.deletedToJson (id : LinkId) : Json :=
  .object [("deletedLinkId", Identifier.form.write id)]

namespace Http

/-! ### Responses -/

/-- A response. -/
structure Response where
  /-- The status. -/
  status : Nat
  /-- The body; a rejected request gets none. -/
  body : Option Json

/-- The response to a request that went well. -/
def Response.ok (body : Json) : Response := ⟨200, some body⟩

/-- The response to a request that is rejected. -/
def Response.ofRejection (r : Rejection) : Response := ⟨r.status, none⟩

/-- The body that reports an error. -/
structure ErrorBody where
  /-- The kind of the error, for programs. -/
  code : String
  /-- What happened, for people. -/
  message : String
  /-- What was being done, if that is known. -/
  details : Option String

/-- The body as an object. -/
def ErrorBody.toJson (b : ErrorBody) : Json :=
  .object <|
    [("error", .string b.message), ("code", .string b.code)] ++
      (b.details.map fun d => ("details", Json.string d)).toList

end Http

namespace EngineError

/-- The status that an error is reported with. -/
def status : EngineError → Nat
  | topicNotFound _ | linkNotFound _ | repositoryNotFound _ => 404
  | rootTopic _ _ | invalidMerge _ _ => 422
  | deadlineExceeded _ => 504
  | store _ _ => 500

/-- The kind of an error, for programs. -/
def code : EngineError → String
  | topicNotFound _ => "TOPIC_NOT_FOUND"
  | linkNotFound _ => "LINK_NOT_FOUND"
  | repositoryNotFound _ => "REPOSITORY_NOT_FOUND"
  | rootTopic _ _ => "ROOT_TOPIC"
  | invalidMerge _ _ => "INVALID_MERGE"
  | deadlineExceeded _ => "DEADLINE_EXCEEDED"
  | store _ _ => "STORE_ERROR"

/-- What was being done, if the error says it. -/
def details? : EngineError → Option String
  | rootTopic _ attempt => some attempt
  | deadlineExceeded purpose => some purpose
  | store purpose _ => some purpose
  | _ => none

end EngineError

namespace Http

/-- The response to a request for which an operation failed. -/
def Response.ofError (e : EngineError) : Response :=
  ⟨e.status, some (ErrorBody.toJson ⟨e.code, e.message, e.details?⟩)⟩

/-! ### Metrics -/

/-- What the service tells about a request. -/
inductive Metric
  | mutation (operation : String) (alerts : Nat)
  | search (topics links : Nat)
  | request (path method : String) (status : Nat)
  deriving DecidableEq

/-- A metric as an object. -/
def Metric.toJson : Metric → Json
  | mutation operation alerts => .object [
    ("metric_type", .string "mutation"),
    ("operation", .string operation),
    ("alert_count", .int alerts)]
  | search topics links => .object [
    ("metric_type", .string "search"),
    ("topic_count", .int topics),
    ("link_count", .int links)]
  | request path method status => .object [
    ("metric_type", .string "request"),
    ("path", .string path),
    ("method", .string method),
    ("status", .int status)]

end Http

end Polyhierarchy

import Polyhierarchy.Http.Body
import Polyhierarchy.Http.MediaType
import Polyhierarchy.Http.Path
import Polyhierarchy.Url.Form
/-!
# Requests to the service

A request is read in full before anything is done: first the path and the method, then the
identifiers in the path, and last the query string or the body. The first thing that cannot be read
is the reason why the request is rejected.

## Main definitions

* `Http.Request` — a method, a target and a body.
* `Http.Rejection` — why a request is not even tried.
* `Http.Call` — what a request asks for.
* `Http.Request.call` — reads a request.
-/

namespace Polyhierarchy.Http

open Json (Form)

/-- A request. -/
structure Request where
  /-- The method. -/
  method : String
  /-- The path, and the query string after a question mark. -/
  target : String
  /-- The media type of the body, if it is said. -/
  contentType : Option String
  /-- The body. -/
  body : String

/-- Why a request is not even tried. -/
inductive Rejection
  | unknownPath
  | methodNotAllowed
  | unreadablePath
  | unreadableQuery
  | notJson
  | malformedBody
  | unexpectedBody
  deriving DecidableEq

/-- The status that a rejection is reported with. -/
def Rejection.status : Rejection → Nat
  | unknownPath => 404
  | methodNotAllowed => 405
  | unreadablePath | unreadableQuery | malformedBody => 400
  | notJson => 415
  | unexpectedBody => 422

/-! ### Query strings -/

/-- The keys and values of a query string. -/
structure Parameters where
  /-- The pairs in order. -/
  pairs : List (String × String)

namespace Parameters

/-- Reads a query string. -/
def ofQuery (query : List Char) : Parameters :=
  ⟨(Url.Form.read query).map fun p => (String.ofList p.1, String.ofList p.2)⟩

/-- The value of a key, which must not be given twice. -/
def text? (p : Parameters) (key : String) : Except Rejection (Option String) :=
  match p.pairs.filter fun pair => pair.1 == key with
  | [] => .ok none
  | [pair] => .ok (some pair.2)
  | _ => .error .unreadableQuery

/-- The number that is the value of a key. It has to fit into 64 bits. -/
def count? (p : Parameters) (key : String) : Except Rejection (Option Nat) := do
  match ← p.text? key with
  | none => return none
  | some s =>
    match Text.natBelow? UInt64.size s.toList with
    | some n => return some n
    | none => .error .unreadableQuery

/-- What a search below a topic asks for. -/
def search (p : Parameters) : Except Rejection SearchParameters := do
  return {
    query := (← p.text? "q").getD ""
    topicLimit := ← p.count? "topic_limit"
    linkLimit := ← p.count? "link_limit"
    pageSize := ← p.count? "page_size" }

/-- What a search for topics of a repository asks for. -/
def matching (p : Parameters) : Except Rejection MatchParameters := do
  return { query := (← p.text? "q").getD "", limit := ← p.count? "limit" }

end Parameters

/-! ### Methods -/

/-- What a method asks for. -/
inductive Verb
  | get
  | post
  | put
  | delete
  | other
  deriving DecidableEq

/-- What a method asks for. A request for the head alone is read like one for the whole. -/
def Verb.ofMethod : String → Verb
  | "GET" | "HEAD" => get
  | "POST" => post
  | "PUT" => put
  | "DELETE" => delete
  | _ => other

/-! ### Calls -/

/-- What a request asks for. -/
inductive Call
  | createRepository (body : RepositoryBody)
  | matchTopics (repository : RepositoryId) (parameters : MatchParameters)
  | upsertTopic (body : TopicBody)
  | topic (id : TopicId)
  | deleteTopic (id : TopicId)
  | updateParents (id : TopicId) (body : ParentsBody)
  | updateSynonyms (id : TopicId) (body : SynonymsBody)
  | setTimeRange (id : TopicId) (range : TimeRange)
  | deleteTimeRange (id : TopicId)
  | mergeTopic (id : TopicId) (body : MergeBody)
  | search (root : TopicId) (parameters : SearchParameters)
  | upsertLink (body : LinkBody)
  | updateLinkParents (id : LinkId) (body : ParentsBody)
  | deleteLink (id : LinkId)
  | health
  | liveness
  | readiness

namespace Request

/-- The target as characters, without a fragment. -/
def targetChars (r : Request) : List Char := r.target.toList.takeWhile (· != '#')

/-- The path. -/
def path (r : Request) : String := String.ofList (r.targetChars.takeWhile (· != '?'))

/-- The parameters in the query string. -/
def parameters (r : Request) : Parameters :=
  .ofQuery ((r.targetChars.dropWhile (· != '?')).drop 1)

/-- Whether the body is said to be JSON. -/
def isJson (r : Request) : Bool :=
  ((r.contentType.bind MediaType.parse?).map MediaType.isJson).getD false

/-- The value that the body holds. -/
def read {α : Type} (r : Request) (f : Form α) : Except Rejection α :=
  if r.isJson then
    match f.decoder.decodeText r.body with
    | .ok a => .ok a
    | .error .malformed => .error .malformedBody
    | .error .shape => .error .unexpectedBody
  else .error .notJson

/-- The identifier that a segment of the path stands for. -/
def identifier {entity : Entity} (segment : String) : Except Rejection (Identifier entity) :=
  match identifierOf? segment with
  | some id => .ok id
  | none => .error .unreadablePath

/-- What is asked for by a verb and a resource. -/
def callOf (r : Request) : Resource → Verb → Except Rejection Call
  | .repositories, .post => return .createRepository (← r.read RepositoryBody.form)
  | .repositoryTopics id, .get => return .matchTopics (← identifier id) (← r.parameters.matching)
  | .topics, .post => return .upsertTopic (← r.read TopicBody.form)
  | .topic id, .get => return .topic (← identifier id)
  | .topic id, .delete => return .deleteTopic (← identifier id)
  | .topicParents id, .put => return .updateParents (← identifier id) (← r.read ParentsBody.form)
  | .topicSynonyms id, .put => return .updateSynonyms (← identifier id) (← r.read SynonymsBody.form)
  | .topicTimeRange id, .put => return .setTimeRange (← identifier id) (← r.read timeRangeForm)
  | .topicTimeRange id, .delete => return .deleteTimeRange (← identifier id)
  | .topicMerge id, .post => return .mergeTopic (← identifier id) (← r.read MergeBody.form)
  | .topicSearch id, .get => return .search (← identifier id) (← r.parameters.search)
  | .links, .post => return .upsertLink (← r.read LinkBody.form)
  | .link id, .delete => return .deleteLink (← identifier id)
  | .linkParents id, .put => return .updateLinkParents (← identifier id) (← r.read ParentsBody.form)
  | .health, .get => return .health
  | .liveness, .get => return .liveness
  | .readiness, .get => return .readiness
  | _, _ => .error .methodNotAllowed

/-- Reads a request. -/
def call (r : Request) : Except Rejection Call :=
  match Resource.ofPath? r.path with
  | some resource => r.callOf resource (Verb.ofMethod r.method)
  | none => .error .unknownPath

end Request

end Polyhierarchy.Http

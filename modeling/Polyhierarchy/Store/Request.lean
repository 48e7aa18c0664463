import Polyhierarchy.Collection.SortedSet
import Polyhierarchy.Link
import Polyhierarchy.Node
import Polyhierarchy.Query.Basic
import Polyhierarchy.Topic
/-!
# Requests to a store

All that an operation does to stored rows is a sequence of requests, each of which has a reply of
its own type. A store is whatever answers them.

## Main definitions

* `Request` — what can be asked of a store within a session.
* `Request.Reply` — the type of the reply to a request.
* `Inserted` — the row that an insertion ends with, new or already there.
* `Scope` — where and for what a search looks.
-/

namespace Polyhierarchy

/-- The row that an insertion ends with: the new one, or one that was there under the same key. -/
structure Inserted (α : Type) where
  /-- Whether the row is new. -/
  isNew : Bool
  /-- The stored row. -/
  row : α

/-- Where and for what a search looks. -/
structure Scope where
  /-- The topic that results are, or lie below. -/
  root : TopicId
  /-- What results have to match. -/
  query : Query
  /-- The greatest number of results. -/
  limit : Nat

/-- A request to a store. -/
inductive Request
  | lockRepository (id : RepositoryId)
  | repository (id : RepositoryId)
  | insertRepository (row : Repository)
  | topic (id : TopicId)
  | topics (ids : List TopicId)
  | topicNamed (repository : RepositoryId) (name : String)
  | insertTopic (row : Topic)
  | updateTopic (row : Topic)
  | deleteTopic (id : TopicId)
  | link (id : LinkId)
  | links (ids : List LinkId)
  | insertLink (row : Link)
  | updateLink (row : Link)
  | deleteLink (id : LinkId)
  | insertEdge (edge : Edge)
  | deleteEdge (edge : Edge)
  | parents (node : Node)
  | children (topic : TopicId)
  | reachable (topic : TopicId)
  | descendants (topic : TopicId)
  | ancestors (node : Node)
  | replaceDescendants (ancestor : TopicId) (nodes : SortedSet Node)
  | purge (node : Node)
  | searchTopics (scope : Scope)
  | searchLinks (scope : Scope)
  | matchTopics (repository : RepositoryId) (query : Query) (limit : Nat)

/-- The type of the reply to a request. -/
@[reducible] def Request.Reply : Request → Type
  | lockRepository _ => Unit
  | repository _ => Option Repository
  | insertRepository _ => Unit
  | topic _ => Option Topic
  | topics _ => List Topic
  | topicNamed _ _ => Option Topic
  | insertTopic _ => Inserted Topic
  | updateTopic _ => Unit
  | deleteTopic _ => Unit
  | link _ => Option Link
  | links _ => List Link
  | insertLink _ => Inserted Link
  | updateLink _ => Unit
  | deleteLink _ => Unit
  | insertEdge _ => Bool
  | deleteEdge _ => Bool
  | parents _ => List TopicId
  | children _ => List Node
  | reachable _ => SortedSet Node
  | descendants _ => SortedSet Node
  | ancestors _ => SortedSet TopicId
  | replaceDescendants _ _ => Unit
  | purge _ => Unit
  | searchTopics _ => List Topic
  | searchLinks _ => List Link
  | matchTopics _ _ _ => List Topic

end Polyhierarchy

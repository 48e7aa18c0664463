import Polyhierarchy.Store.Program
/-!
# Searching below a topic

A search finds the topics and the links that are or lie below a root topic, lie below every topic
that the query refers to, and match every token of the query. Topics and links have limits of their
own, or share the size of a page: then links fill what the topics leave.

## Main definitions

* `SearchResults` — the topics and links found.
* `Search.run`, `Search.page` — the two kinds of search.
-/

namespace Polyhierarchy

/-- What a search found. -/
structure SearchResults where
  /-- The topics in order. -/
  topics : List Topic
  /-- The links in order. -/
  links : List Link

namespace SearchResults

/-- The number of topics and links found. -/
def size (r : SearchResults) : Nat := r.topics.length + r.links.length

/-- Whether nothing was found. -/
def isEmpty (r : SearchResults) : Bool := r.topics.isEmpty && r.links.isEmpty

end SearchResults

namespace Search

/-- The topics found in a scope. A limit of zero finds nothing, and the store is not asked. -/
def topics (scope : Scope) : Program (List Topic) :=
  if scope.limit = 0 then pure [] else Program.request "search topics" (.searchTopics scope)

/-- The links found in a scope. A limit of zero finds nothing, and the store is not asked. -/
def links (scope : Scope) : Program (List Link) :=
  if scope.limit = 0 then pure [] else Program.request "search links" (.searchLinks scope)

/-- A search with a limit for topics and one for links. -/
def run (root : TopicId) (query : Query) (topicLimit linkLimit : Nat) : Program SearchResults := do
  Program.lookAt "search"
  let topics ← topics ⟨root, query, topicLimit⟩
  Program.lookAt "search"
  let links ← links ⟨root, query, linkLimit⟩
  return ⟨topics, links⟩

/-- A search for one page of results: topics first, and links on what is left of the page. -/
def page (root : TopicId) (query : Query) (size : Nat) : Program SearchResults := do
  Program.lookAt "search"
  let topics ← topics ⟨root, query, size⟩
  Program.lookAt "search"
  let links ← links ⟨root, query, size - topics.length⟩
  return ⟨topics, links⟩

end Search

end Polyhierarchy

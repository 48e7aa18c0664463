import Polyhierarchy.Operation.Basic
import Polyhierarchy.Operation.Lookup
import Polyhierarchy.Search
/-!
# Operations that read

Rows by their identifiers, the neighbours of a node, and searches.

## Main definitions

* `Operation.repository`, `Operation.topic`, `Operation.topics`, `Operation.link` — rows.
* `Operation.parentIds`, `Operation.parentTopics`, `Operation.childTopics`,
  `Operation.childLinks` — neighbours.
* `Operation.search`, `Operation.searchPage`, `Operation.matchTopics` — searches.
-/

namespace Polyhierarchy.Operation

/-! ### Rows -/

/-- The repository with an identifier, if there is one. -/
def repository (id : RepositoryId) : Operation (Option Repository) :=
  .reading (Program.request "get repository" (.repository id))

/-- The topic with an identifier, if there is one. -/
def topic (id : TopicId) : Operation (Option Topic) :=
  .reading (Program.request "get topic" (.topic id))

/-- The topics with some identifiers. -/
def topics (ids : List TopicId) : Operation (List Topic) :=
  .reading (Program.request "get topics" (.topics ids))

/-- The link with an identifier, if there is one. -/
def link (id : LinkId) : Operation (Option Link) :=
  .reading (Program.request "get link" (.link id))

/-! ### Neighbours -/

/-- The identifiers of the parents of a node. -/
def parentIds (node : Node) : Operation (List TopicId) :=
  .reading (Program.request "list parents" (.parents node))

/-- The parents of a node. -/
def parentTopics (node : Node) : Operation (List Topic) :=
  .reading do
    let ids ← Program.request "list parents" (.parents node)
    Program.request "get topics" (.topics ids)

/-- The topics among the children of a topic. -/
def childTopics (topic : TopicId) : Operation (List Topic) :=
  .reading do
    let nodes ← Program.request "list children" (.children topic)
    Program.request "get topics" (.topics (nodes.filterMap Node.topic?))

/-- The links among the children of a topic. -/
def childLinks (topic : TopicId) : Operation (List Link) :=
  .reading do
    let nodes ← Program.request "list children" (.children topic)
    Program.request "get links" (.links (nodes.filterMap Node.link?))

/-! ### Searches -/

/-- Searches below a topic, with a limit for topics and one for links. -/
def search (root : TopicId) (text : String) (topicLimit linkLimit : Nat) :
    Operation SearchResults :=
  .reading do
    let _ ← Lookup.topic root
    Search.run root (Query.parse text) topicLimit linkLimit

/-- Searches below a topic for one page of results. -/
def searchPage (root : TopicId) (text : String) (size : Nat) : Operation SearchResults :=
  .reading do
    let _ ← Lookup.topic root
    Search.page root (Query.parse text) size

/-- Finds topics of a repository by the words of their names. A limit of zero finds nothing. -/
def matchTopics (repository : RepositoryId) (text : String) (limit : Nat) :
    Operation (List Topic) :=
  if limit = 0 then .answer []
  else .reading (Program.request "match topics" (.matchTopics repository (Query.parse text) limit))

end Polyhierarchy.Operation

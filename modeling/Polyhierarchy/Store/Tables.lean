import Polyhierarchy.Collection.SortedRel
import Polyhierarchy.Reachability
import Polyhierarchy.Text.Containment
/-!
# Stored tables

The rows of all repositories, the direct edges, and the closure: the pairs of a topic and a node
that lies below it, kept so that no walk is needed to read them.

## Main definitions

* `Tables` — the rows, the edges and the closure.
* `Tables.below` — the nodes below a topic, found by a walk over the edges.
* `Tables.searchTopics`, `Tables.searchLinks`, `Tables.matchTopics` — the searches.
* `Tables.edgeList`, `Tables.closureList` — the edges and the closure in order.
-/

namespace Polyhierarchy

/-- The rows of all repositories, the edges between them, and the closure of the edges. -/
structure Tables where
  /-- The repositories. -/
  repositories : SortedMap RepositoryId Repository
  /-- The topics. -/
  topics : SortedMap TopicId Topic
  /-- The links. -/
  links : SortedMap LinkId Link
  /-- The direct edges, from a parent to its children. -/
  edges : SortedRel TopicId Node
  /-- The closure, from a topic to the nodes below it. -/
  closure : SortedRel TopicId Node

namespace Tables

instance : EmptyCollection Tables := ⟨⟨∅, ∅, ∅, ∅, ∅⟩⟩

/-! ### Rows -/

/-- The topics of a set of identifiers, in their order, each once. -/
def topicsOf (t : Tables) (ids : List TopicId) : List Topic :=
  (SortedSet.ofList ids).toList.filterMap t.topics.get?

/-- The links of a set of identifiers, in their order, each once. -/
def linksOf (t : Tables) (ids : List LinkId) : List Link :=
  (SortedSet.ofList ids).toList.filterMap t.links.get?

/-- The first topic of a repository with a name. -/
def topicNamed (t : Tables) (repository : RepositoryId) (name : String) : Option Topic :=
  t.topics.values.find? fun row => row.repository == repository && row.name == name

/-- The first link of a repository to the page with a digest. -/
def linkHashed (t : Tables) (repository : RepositoryId) (hash : String) : Option Link :=
  t.links.values.find? fun row => row.repository == repository && row.urlHash == hash

/-! ### Edges -/

/-- The nodes other than a topic that are reachable from it over direct edges. -/
def below (t : Tables) (id : TopicId) : SortedSet Node :=
  Reachability.below t.edges.size (fun topic => (t.edges.row topic).toList) id

/-- The direct edges in order. -/
def edgeList (t : Tables) : List Edge := t.edges.pairs.map fun p => ⟨p.1, p.2⟩

/-- The pairs of the closure in order. -/
def closureList (t : Tables) : List Edge := t.closure.pairs.map fun p => ⟨p.1, p.2⟩

/-! ### Searches -/

/-- The first elements of a list; all of them, if there are no more than the limit. -/
def limited {α : Type} (limit : Nat) (l : List α) : List α := l.take limit

/-- Topics are listed by name, and topics of one name by their identifiers. -/
def topicOrder (a b : Topic) : Bool :=
  a.name < b.name || (a.name == b.name && rank a.id ≤ rank b.id)

/-- Links are listed from the newest to the oldest, and those of one instant by their
identifiers. -/
def linkOrder (a b : Link) : Bool :=
  b.createdAt.isBefore a.createdAt || (a.createdAt == b.createdAt && rank a.id ≤ rank b.id)

/-- Whether a node is a topic or lies below it, according to the closure. -/
def isWithin (t : Tables) (topic : TopicId) (node : Node) : Bool :=
  node == .topic topic || t.closure.holds topic node

/-- The nodes that a search looks at: the root and what lies below it, as far as it lies below
every topic that the query refers to. -/
def candidates (t : Tables) (scope : Scope) : List Node :=
  ((t.closure.row scope.root).insert (.topic scope.root)).toList.filter fun node =>
    scope.query.topics.all fun topic => t.isWithin topic node

/-- Whether a topic matches every token of a query. -/
def topicMatches (q : Query) (row : Topic) : Bool := q.tokens.all fun w => Text.contains row.name w

/-- Whether a link matches every token of a query. -/
def linkMatches (q : Query) (row : Link) : Bool :=
  q.tokens.all fun w =>
    Text.contains row.title w || Text.contains row.url w || Text.contains row.canonicalUrl w

/-- The topics that a search finds, in order, up to its limit. -/
def searchTopics (t : Tables) (scope : Scope) : List Topic :=
  let found := ((t.candidates scope).filterMap Node.topic?).filterMap t.topics.get?
  limited scope.limit ((found.filter (topicMatches scope.query)).mergeSort topicOrder)

/-- The links that a search finds, in order, up to its limit. -/
def searchLinks (t : Tables) (scope : Scope) : List Link :=
  let found := ((t.candidates scope).filterMap Node.link?).filterMap t.links.get?
  limited scope.limit ((found.filter (linkMatches scope.query)).mergeSort linkOrder)

/-- The words that a query asks for. -/
def wantedWords (q : Query) : List (List Char) := q.fullTextTokens.flatMap Text.foldedWords

/-- The topics of a repository whose names hold every word of a query, in order, up to a limit. A
query without words finds nothing. -/
def matchTopics (t : Tables) (repository : RepositoryId) (q : Query) (limit : Nat) : List Topic :=
  let wanted := wantedWords q
  if wanted.isEmpty then []
  else
    let found := t.topics.values.filter fun row =>
      row.repository == repository && wanted.all (Text.foldedWords row.name).contains
    limited limit (found.mergeSort topicOrder)

end Tables

end Polyhierarchy

import Polyhierarchy.Alert
import Polyhierarchy.Store.Program
/-!
# Look-ups of operations

What several operations look up before they change something: rows that have to exist, the parents
that a caller names, and whether a name is taken.

## Main definitions

* `Lookup.topic`, `Lookup.link`, `Lookup.repository` — rows that have to exist.
* `Lookup.parents` — the rows of the parents that a caller names.
* `Lookup.nameClash` — the alert that is raised if the name of a topic is taken.
-/

namespace Polyhierarchy.Lookup

/-- The row of a topic that has to exist. -/
def topic (id : TopicId) : Program Topic := do
  match ← Program.request "get topic" (.topic id) with
  | some row => return row
  | none => .fail (.topicNotFound id)

/-- The row of a link that has to exist. -/
def link (id : LinkId) : Program Link := do
  match ← Program.request "get link" (.link id) with
  | some row => return row
  | none => .fail (.linkNotFound id)

/-- The row of a repository that has to exist. -/
def repository (id : RepositoryId) : Program Repository := do
  match ← Program.request "get repository" (.repository id) with
  | some row => return row
  | none => .fail (.repositoryNotFound id)

/-- Whether some row is that of a topic of a repository. -/
def isAmong (rows : List Topic) (repository : RepositoryId) (id : TopicId) : Bool :=
  rows.any fun row => row.id == id && row.repository == repository

/-- The rows of topics that have to be topics of a repository. The first that is not is named. -/
def topicsOf (repository : RepositoryId) (ids : SortedSet TopicId) : Program (List Topic) := do
  let rows ← Program.request "get parent topics" (.topics ids.toList)
  match ids.toList.find? fun id => !isAmong rows repository id with
  | some id => .fail (.topicNotFound id)
  | none => return rows

/-- The rows of the parents that a caller names: the root of the repository, if the caller names
none. -/
def parents (repository : Repository) (ids : List TopicId) : Program (List Topic) :=
  topicsOf repository.id <|
    if ids.isEmpty then SortedSet.singleton repository.rootTopic else SortedSet.ofList ids

/-- The alert that is raised if another topic of the repository has the name of a topic. -/
def nameClash (row : Topic) : Program (Option Alert) := do
  match ← Program.request "find topic by name" (.topicNamed row.repository row.name) with
  | some other => return if other.id = row.id then none else some (.duplicateTopicName row.name)
  | none => return none

end Polyhierarchy.Lookup

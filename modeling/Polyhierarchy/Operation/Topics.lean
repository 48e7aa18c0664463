import Polyhierarchy.Closure
import Polyhierarchy.CycleGuard
import Polyhierarchy.Operation.Basic
import Polyhierarchy.Operation.Lookup
import Polyhierarchy.TopicName
/-!
# Operations on topics

A repository comes with a root topic. Every other topic is created below some parents and can be
moved, deleted, merged into a parent, renamed, and given a time range. The lock of the repository
is taken before anything is decided on what lies where.

## Main definitions

* `Operation.createRepository` — creates a repository with its root.
* `Operation.upsertTopic` — creates a topic, unless there is one of its name.
* `Operation.updateParents` — gives a topic other parents.
* `Operation.deleteTopic`, `Operation.mergeTopic` — take a topic out of the hierarchy.
* `Operation.updateSynonyms`, `Operation.setTimeRange`, `Operation.deleteTimeRange` — rename a
  topic.
-/

namespace Polyhierarchy

/-! ### What the operations give -/

/-- A new repository and its root. -/
structure CreatedRepository where
  /-- The repository. -/
  repository : Repository
  /-- Its root. -/
  root : Topic

/-- The row that was asked for, new or already there, or none if the request was refused. -/
structure Upserted (α : Type) where
  /-- The row. -/
  row : Option α
  /-- Whether the row is new. -/
  isNew : Bool
  /-- The alerts raised. -/
  alerts : List Alert

/-- A row after a change. -/
structure Updated (α : Type) where
  /-- The row. -/
  row : α
  /-- The alerts raised. -/
  alerts : List Alert

/-- What is left of two topics after a merge. -/
structure Merged where
  /-- The topic that is left. -/
  topic : Topic
  /-- The topic that is gone. -/
  gone : TopicId
  /-- The alerts raised. -/
  alerts : List Alert

namespace Operation

/-! ### Repositories -/

/-- Creates a repository with its root. -/
def createRepository (name : String) (id : RepositoryId) (root : TopicId) (now : Instant) :
    Operation CreatedRepository :=
  .session do
    let top := Topic.newRoot root id now
    let row : Repository := ⟨id, String.ofList (Text.trim name.toList), root, now⟩
    Program.request "insert repository" (.insertRepository row)
    let _ ← Program.request "insert root topic" (.insertTopic top)
    return .commit ⟨row, top⟩

/-! ### Creation -/

/-- Adds the edges from some parents to a child. -/
def addParents (child : Node) (parents : List TopicId) : Program Unit :=
  Program.forEach (fun parent => do let _ ← Closure.addEdge ⟨parent, child⟩) parents

/-- Creates a topic below some parents. If the repository has a topic of that name, it is returned
as it is, with an alert. A new topic has nothing below it, so no parent closes a cycle. -/
def upsertTopic (repository : RepositoryId) (name : String) (description : Option String)
    (parentIds : List TopicId) (id : TopicId) (now : Instant) : Operation (Upserted Topic) :=
  let (name, isValid) := normalizeName name
  if !isValid then .answer ⟨none, false, [.invalidTopicName name]⟩
  else .session do
    Program.request "lock repository" (.lockRepository repository)
    let owner ← Lookup.repository repository
    let parents ← Lookup.parents owner parentIds
    let candidate := Topic.new id owner.id (.ofName name) description now
    let inserted ← Program.request "insert topic" (.insertTopic candidate)
    let row := inserted.row
    if inserted.isNew then
      addParents (.topic row.id) (parents.map (·.id))
      return .commit ⟨some row, true, []⟩
    else
      return .discard ⟨some row, false, [.duplicateTopicName row.name]⟩

/-! ### Moves -/

/-- Offers topics as parents one by one. Those that are parents already are kept, those that would
close a cycle are refused with an alert, and the others are added. -/
def offerParents (row : Topic) (current : SortedSet TopicId) :
    List Topic → Program (SortedSet TopicId × List Alert)
  | [] => pure (∅, [])
  | parent :: rest => do
    if parent.id ∈ current then
      let (accepted, alerts) ← offerParents row current rest
      return (accepted.insert parent.id, alerts)
    else
      match ← CycleGuard.check row parent with
      | some alert =>
        let (accepted, alerts) ← offerParents row current rest
        return (accepted, alert :: alerts)
      | none =>
        let _ ← Closure.addEdge ⟨parent.id, .topic row.id⟩
        let (accepted, alerts) ← offerParents row current rest
        return (accepted.insert parent.id, alerts)

/-- Removes the edges from some parents to a child. -/
def removeParents (child : Node) (parents : SortedSet TopicId) : Program Unit :=
  Program.forEach (fun parent => do let _ ← Closure.removeEdge ⟨parent, child⟩) parents.toList

/-- The row of a topic that has to exist and must not be a root. -/
def movableTopic (id : TopicId) (attempt : String) : Program Topic := do
  let row ← Lookup.topic id
  if row.isRoot then .fail (.rootTopic row.id attempt) else return row

/-- Gives a topic other parents. If none of them can be taken, nothing changes. -/
def updateParents (id : TopicId) (parentIds : List TopicId) : Operation (Updated Topic) :=
  .session do
    let row ← movableTopic id "re-parent"
    Program.request "lock repository" (.lockRepository row.repository)
    let candidates ← Lookup.topicsOf row.repository (SortedSet.ofList parentIds)
    let current ← Program.request "list parents" (.parents (.topic row.id))
    let current := SortedSet.ofList current
    let (accepted, alerts) ← offerParents row current candidates
    if accepted.isEmpty then
      return .discard ⟨row, alerts ++ [.parentsUnchanged row.name]⟩
    else
      removeParents (.topic row.id) (current.difference accepted)
      return .commit ⟨row, alerts⟩

/-! ### Removal -/

/-- Takes a topic out of the hierarchy: its children move to other topics. -/
def removeTopic (id : TopicId) (parents : SortedSet TopicId) : Program Unit := do
  let _ ← Closure.splice id parents
  Closure.detach (.topic id)
  Program.request "delete topic" (.deleteTopic id)

/-- Deletes a topic; its children move to each of its parents. The value names the topic. -/
def deleteTopic (id : TopicId) : Operation TopicId :=
  .session do
    let row ← movableTopic id "delete"
    Program.request "lock repository" (.lockRepository row.repository)
    let parents ← Program.request "list parents" (.parents (.topic row.id))
    removeTopic row.id (SortedSet.ofList parents)
    return .commit row.id

/-- The row of a topic that takes over the synonyms of another one, unless its new name is taken.
The value is the row as it is stored then. -/
def takeSynonyms (target source : Topic) : Program (Updated Topic) := do
  let synonyms := target.synonyms.pushAll source.synonyms.toList
  if synonyms.toList.length = target.synonyms.toList.length then return ⟨target, []⟩
  else
    let renamed := target.withSynonyms synonyms
    match ← Lookup.nameClash renamed with
    | some alert => return ⟨target, [alert]⟩
    | none =>
      Program.request "update topic" (.updateTopic renamed)
      return ⟨renamed, []⟩

/-- Merges a topic into one of its parents: the parent gets its children and its synonyms. -/
def mergeTopic (source target : TopicId) : Operation Merged :=
  .session do
    let row ← movableTopic source "merge"
    Program.request "lock repository" (.lockRepository row.repository)
    let parents ← Program.request "list parents" (.parents (.topic row.id))
    if target ∉ parents then .fail (.invalidMerge row.id target)
    else
      let parent ← Lookup.topic target
      removeTopic row.id (SortedSet.singleton parent.id)
      let updated ← takeSynonyms parent row
      return .commit ⟨updated.row, row.id, updated.alerts⟩

/-! ### Names -/

/-- The valid synonyms among some, with their names normalized, each name once, and an alert for
each name that is not valid. -/
def cleanSynonyms : List Synonym → Synonyms → Synonyms × List Alert
  | [], found => (found, [])
  | s :: rest, found =>
    let (name, isValid) := normalizeName s.name
    if isValid then cleanSynonyms rest (found.push ⟨s.locale, name⟩)
    else
      let (synonyms, alerts) := cleanSynonyms rest found
      (synonyms, .invalidTopicName name :: alerts)

/-- Stores a row whose name has changed, unless the name is taken. -/
def saveRenamed (row renamed : Topic) (alerts : List Alert) : Program (Ending (Updated Topic)) := do
  match ← Lookup.nameClash renamed with
  | some alert => return .discard ⟨row, alerts ++ [alert]⟩
  | none =>
    Program.request "update topic" (.updateTopic renamed)
    return .commit ⟨renamed, alerts⟩

/-- Gives a topic other synonyms. At least one has to be valid. -/
def updateSynonyms (id : TopicId) (synonyms : List Synonym) : Operation (Updated Topic) :=
  let (valid, alerts) := cleanSynonyms synonyms ∅
  .session do
    let row ← Lookup.topic id
    if valid.toList.isEmpty then
      return .discard ⟨row, alerts ++ [.synonymRequired row.name]⟩
    else
      Program.request "lock repository" (.lockRepository row.repository)
      saveRenamed row (row.withSynonyms valid) alerts

/-- Gives a topic another time range, or none. -/
def changeTimeRange (id : TopicId) (range : Option TimeRange) : Operation (Updated Topic) :=
  .session do
    let row ← Lookup.topic id
    Program.request "lock repository" (.lockRepository row.repository)
    saveRenamed row (row.withTimeRange range) []

/-- Gives a topic a time range. -/
def setTimeRange (id : TopicId) (range : TimeRange) : Operation (Updated Topic) :=
  changeTimeRange id (some range)

/-- Takes the time range of a topic away. -/
def deleteTimeRange (id : TopicId) : Operation (Updated Topic) := changeTimeRange id none

end Operation

end Polyhierarchy

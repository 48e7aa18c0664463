import Polyhierarchy.Operation.Topics
/-!
# Operations on links

A link is created below some parents, or found if its page has been submitted before. Links are
leaves, so no parent of a link closes a cycle.

## Main definitions

* `Operation.upsertLink` — creates a link, or changes the one to the same page.
* `Operation.updateLinkParents` — gives a link other parents.
* `Operation.deleteLink` — deletes a link.
-/

namespace Polyhierarchy.Operation

/-- The title that a caller gives, if it is not blank. -/
def givenTitle? (title : Option String) : Option String :=
  (title.map fun t => String.ofList (Text.trim t.toList)).filter (· != "")

/-- Gives a link that was there before the title that a caller gives, if it is another one. -/
def retitle (row : Link) (given : Option String) : Program Link :=
  match given with
  | some title =>
    if title = row.title then return row
    else do
      let row := { row with title := title }
      Program.request "update link" (.updateLink row)
      return row
  | none => return row

/-- Files a link under some parents. A link that was there before keeps its parents, and stays
where it is if no parent is named. -/
def fileLink (repository : RepositoryId) (url : CanonicalUrl) (initial : String)
    (given : Option String) (parentIds : List TopicId) (id : LinkId) (now : Instant) :
    Program (Ending (Upserted Link)) := do
  Program.request "lock repository" (.lockRepository repository)
  let owner ← Lookup.repository repository
  let candidate := Link.new id owner.id url initial now
  let inserted ← Program.request "insert link" (.insertLink candidate)
  let row ← if inserted.isNew then pure inserted.row else retitle inserted.row given
  if inserted.isNew || !parentIds.isEmpty then
    let parents ← Lookup.parents owner parentIds
    addParents (.link row.id) (parents.map (·.id))
    return .commit ⟨some row, inserted.isNew, []⟩
  else
    return .commit ⟨some row, inserted.isNew, []⟩

/-- Creates a link below some parents, or changes the one to the same page. Without a title the
page is asked for one; if that finds none, the title stays empty. -/
def upsertLink (repository : RepositoryId) (url : String) (title : Option String)
    (parentIds : List TopicId) (id : LinkId) (now : Instant) : Operation (Upserted Link) :=
  match CanonicalUrl.parse url with
  | .error _ => .answer ⟨none, false, [.invalidUrl url]⟩
  | .ok page =>
    match givenTitle? title with
    | some given => .session (fileLink repository page given (some given) parentIds id now)
    | none =>
      .fetchTitle page fun found =>
        .session (fileLink repository page (found.getD "") none parentIds id now)

/-- Gives a link other parents; the root of its repository, if none is named. -/
def updateLinkParents (id : LinkId) (parentIds : List TopicId) : Operation (Updated Link) :=
  .session do
    let row ← Lookup.link id
    Program.request "lock repository" (.lockRepository row.repository)
    let owner ← Lookup.repository row.repository
    let parents ← Lookup.parents owner parentIds
    let requested := SortedSet.ofList (parents.map (·.id))
    let current ← Program.request "list parents" (.parents (.link row.id))
    let current := SortedSet.ofList current
    addParents (.link row.id) (requested.difference current).toList
    removeParents (.link row.id) (current.difference requested)
    return .commit ⟨row, []⟩

/-- Deletes a link. The value names it. -/
def deleteLink (id : LinkId) : Operation LinkId :=
  .session do
    let row ← Lookup.link id
    Program.request "lock repository" (.lockRepository row.repository)
    Closure.detach (.link row.id)
    Program.request "delete link" (.deleteLink row.id)
    return .commit row.id

end Polyhierarchy.Operation

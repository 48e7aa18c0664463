import Polyhierarchy.Identifier
import Polyhierarchy.Url.Percent
/-!
# Paths of the service

A path leads to a resource. Some of its segments are identifiers of rows, which are still encoded.

## Main definitions

* `Http.Resource` — what a path leads to.
* `Http.Resource.ofPath?` — the resource at a path.
* `Http.identifierOf?` — the identifier that a segment stands for.
* `Http.maskIdentifiers` — a path without the identifiers, under which requests are counted.
-/

namespace Polyhierarchy.Http

/-- What a path leads to. The texts are segments that stand for identifiers. -/
inductive Resource
  | repositories
  | repositoryTopics (repository : String)
  | topics
  | topic (id : String)
  | topicParents (id : String)
  | topicSynonyms (id : String)
  | topicTimeRange (id : String)
  | topicMerge (id : String)
  | topicSearch (id : String)
  | links
  | link (id : String)
  | linkParents (id : String)
  | health
  | liveness
  | readiness
  deriving DecidableEq

/-- The resource that some segments lead to. -/
def Resource.ofSegments? : List String → Option Resource
  | ["api", "repositories"] => some repositories
  | ["api", "repositories", id, "topics"] => some (repositoryTopics id)
  | ["api", "topics"] => some topics
  | ["api", "topics", id] => some (topic id)
  | ["api", "topics", id, "parents"] => some (topicParents id)
  | ["api", "topics", id, "synonyms"] => some (topicSynonyms id)
  | ["api", "topics", id, "timerange"] => some (topicTimeRange id)
  | ["api", "topics", id, "merge"] => some (topicMerge id)
  | ["api", "topics", id, "search"] => some (topicSearch id)
  | ["api", "links"] => some links
  | ["api", "links", id] => some (link id)
  | ["api", "links", id, "parents"] => some (linkParents id)
  | ["health"] => some health
  | ["health", "live"] => some liveness
  | ["health", "ready"] => some readiness
  | _ => none

/-- The resource at a path. The path begins with a slash, and no segment is empty. -/
def Resource.ofPath? (path : String) : Option Resource :=
  match path.splitOn "/" with
  | "" :: segments => if segments.contains "" then none else ofSegments? segments
  | _ => none

/-- The identifier that a segment stands for. -/
def identifierOf? {entity : Entity} (segment : String) : Option (Identifier entity) :=
  Identifier.parse? (String.ofList (Text.utf8Lossy (Url.percentDecode segment.toList)))

/-- A text in which every UUID in the hyphenated form gives way to the same three signs. -/
def maskUuids : List Char → List Char
  | [] => []
  | c :: rest =>
    if (Uuid.ofHyphenated? (c :: rest.take 35)).isSome then
      ":id".toList ++ maskUuids (rest.drop 35)
    else c :: maskUuids rest
termination_by s => s.length
decreasing_by
  all_goals
    simp only [List.length_cons, List.length_drop]
    omega

/-- A path without the identifiers. -/
def maskIdentifiers (path : String) : String := String.ofList (maskUuids path.toList)

end Polyhierarchy.Http

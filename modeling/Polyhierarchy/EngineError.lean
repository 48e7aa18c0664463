import Polyhierarchy.Identifier
/-!
# Errors of operations

An operation that fails changes nothing. It fails because something that it names does not exist,
because the hierarchy would lose its shape, because its time is up, or because the store failed.

## Main definitions

* `EngineError` — why an operation failed.
* `EngineError.message` — the text of an error.
* `EngineError.isNotFound`, `EngineError.isInvariantViolation` — the two classes of errors that a
  caller can mend.
-/

namespace Polyhierarchy

/-- Why an operation failed. -/
inductive EngineError
  | topicNotFound (id : TopicId)
  | linkNotFound (id : LinkId)
  | repositoryNotFound (id : RepositoryId)
  | rootTopic (id : TopicId) (attempt : String)
  | invalidMerge (source target : TopicId)
  | deadlineExceeded (purpose : String)
  | store (purpose message : String)
  deriving DecidableEq

namespace EngineError

/-- The text of an error. -/
def message : EngineError → String
  | topicNotFound id => "Topic not found: " ++ toString id
  | linkNotFound id => "Link not found: " ++ toString id
  | repositoryNotFound id => "Repository not found: " ++ toString id
  | rootTopic id attempt => "Cannot " ++ attempt ++ " the root topic " ++ toString id
  | invalidMerge source target =>
    "Cannot merge " ++ toString source ++ " into " ++ toString target ++
      ": target is not a parent topic"
  | deadlineExceeded purpose => "Deadline exceeded during " ++ purpose
  | store purpose text => "Store error during " ++ purpose ++ ": " ++ text

/-- Whether something that was named does not exist. -/
def isNotFound : EngineError → Bool
  | topicNotFound _ | linkNotFound _ | repositoryNotFound _ => true
  | _ => false

/-- Whether the hierarchy would have lost its shape. -/
def isInvariantViolation : EngineError → Bool
  | rootTopic _ _ | invalidMerge _ _ => true
  | _ => false

end EngineError

end Polyhierarchy

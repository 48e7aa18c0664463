import Polyhierarchy.Identifier
/-!
# References to topics

A query may name topics whose descendants it is limited to. A reference has the form
`in:/ORG/topics/ID`; only the last part selects the topic.

## Main definitions

* `TopicRef` — a reference as it is written.
* `TopicRef.parse?` — the reference that a token is.
* `TopicRef.topic` — the topic that a reference selects, or the identifier that names none.
-/

namespace Polyhierarchy

/-- A reference to a topic, as it is written. -/
structure TopicRef where
  /-- The written form. -/
  text : String
  deriving DecidableEq

namespace TopicRef

/-- Whether a character may stand in the name of an organisation or in the last part. -/
def isWordChar (c : Char) : Bool := c.isAlphanum || c == '_' || c == '-'

/-- The rest of a text after a text that it has to start with. -/
def after? (start s : List Char) : Option (List Char) :=
  if start.isPrefixOf s then some (s.drop start.length) else none

/-- The last part of a reference, if the text is one. -/
def segment? (s : List Char) : Option (List Char) := do
  let s ← after? "in:/".toList s
  let org := s.takeWhile isWordChar
  if org.isEmpty then none
  else
    let segment ← after? "/topics/".toList (s.dropWhile isWordChar)
    if segment.all isWordChar then some segment else none

/-- The reference that a token is. -/
def parse? (token : String) : Option TopicRef :=
  (segment? token.toList).map fun _ => ⟨token⟩

/-- What stands after the last slash. -/
def lastPart (s : List Char) : List Char := (s.reverse.takeWhile (· != '/')).reverse

/-- The topic that a reference selects: the one whose identifier is the last part, or the
identifier that names no topic if the last part is none. -/
def topic (r : TopicRef) : TopicId :=
  match Uuid.ofChars? (lastPart r.text.toList) with
  | some u => ⟨u⟩
  | none => TopicId.none

end TopicRef

end Polyhierarchy

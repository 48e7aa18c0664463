import Polyhierarchy.Uuid
import Polyhierarchy.Hash.Xxh64
/-!
# Identifiers of rows

Topics, links and repositories are named by UUIDs. An identifier carries in its type what it names,
so that a link is never looked up as a topic.

## Main definitions

* `Entity` — what an identifier names.
* `Identifier` — a UUID for an entity; `TopicId`, `LinkId` and `RepositoryId` are its three uses.
* `TopicId.none` — the topic identifier that never names a stored topic.
* `RepositoryId.lockKey` — the 64-bit number that a repository is locked under.
* `Actor` — the name of whoever makes a change.
-/

namespace Polyhierarchy

/-- What an identifier names. -/
inductive Entity
  | topic
  | link
  | repository
  deriving DecidableEq

/-- An identifier of an entity. -/
structure Identifier (entity : Entity) where
  /-- The number. -/
  uuid : Uuid
  deriving DecidableEq

/-- An identifier of a topic. -/
abbrev TopicId := Identifier .topic

/-- An identifier of a link. -/
abbrev LinkId := Identifier .link

/-- An identifier of a repository. -/
abbrev RepositoryId := Identifier .repository

namespace Identifier

variable {entity : Entity}

instance : Inhabited (Identifier entity) := ⟨⟨Uuid.nil⟩⟩

/-- Identifiers are in order of their numbers. -/
instance : Ranked (Identifier entity) where
  rank i := rank i.uuid
  rank_injective {a b} h := by
    cases a
    cases b
    exact congrArg Identifier.mk (rank_injective h)

theorem rank_lt (i : Identifier entity) : rank i < Nat.pow 2 128 := i.uuid.rank_lt

instance : ToString (Identifier entity) := ⟨fun i => toString i.uuid⟩

/-- Reads an identifier. -/
def parse? (s : String) : Option (Identifier entity) := (Uuid.parse? s).map Identifier.mk

end Identifier

/-- The topic identifier that never names a stored topic: references that name none resolve to
it. -/
def TopicId.none : TopicId := ⟨Uuid.nil⟩

/-- Whether this is the identifier that names no topic. -/
def TopicId.isNone (t : TopicId) : Bool := t.uuid.isNil

/-- The signed 64-bit number that a repository is locked under. -/
def RepositoryId.lockKey (r : RepositoryId) : Int :=
  (Hash.Xxh64.hash 0 r.uuid.bytes).toNat.toUInt64.toInt64.toInt

/-- The name of whoever makes a change. -/
structure Actor where
  /-- The name. -/
  name : String
  deriving DecidableEq

/-- The actor of a change that nobody signed. -/
def Actor.anonymous : Actor := ⟨"anonymous"⟩

end Polyhierarchy

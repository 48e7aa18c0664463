import Polyhierarchy.Identifier
import Polyhierarchy.Text.Case
/-!
# Nodes and edges

The nodes of the hierarchy are topics and links. A direct edge leads from a parent, which is always
a topic, to a child of either kind, so links are leaves.

## Main definitions

* `NodeKind` — topic or link.
* `Node` — a topic or a link by its identifier; topics come before links.
* `Edge` — a parent and a child; edges are in order of the parent, then of the child.

## Main statements

* `Node.rank_lt` — ranks of nodes stay below 2 ^ 129, so an edge has one number.
-/

namespace Polyhierarchy

/-- The kind of a node. -/
inductive NodeKind
  | topic
  | link
  deriving DecidableEq

namespace NodeKind

/-- The name of a kind. -/
def name : NodeKind → String
  | topic => "topic"
  | link => "link"

instance : ToString NodeKind := ⟨name⟩

/-- The kind with a given name, in any letter case. -/
def parse? (s : String) : Option NodeKind :=
  let lowered := Text.toLower s.toList
  if lowered = "topic".toList then some .topic
  else if lowered = "link".toList then some .link
  else none

end NodeKind

/-- A node of the hierarchy. -/
inductive Node
  | topic (id : TopicId)
  | link (id : LinkId)
  deriving DecidableEq

namespace Node

/-- The kind of a node. -/
def kind : Node → NodeKind
  | topic _ => .topic
  | link _ => .link

/-- The number of the identifier, whatever it names. -/
def uuid : Node → Uuid
  | topic id => id.uuid
  | link id => id.uuid

/-- The identifier of a topic node. -/
def topic? : Node → Option TopicId
  | topic id => some id
  | link _ => none

/-- The identifier of a link node. -/
def link? : Node → Option LinkId
  | topic _ => none
  | link id => some id

instance : ToString Node := ⟨fun n => toString n.kind ++ ":" ++ toString n.uuid⟩

instance : Inhabited Node := ⟨topic default⟩

/-- All topics come before all links, and within a kind identifiers decide. -/
instance : Ranked Node where
  rank
    | topic id => rank id
    | link id => Nat.pow 2 128 + rank id
  rank_injective {a b} h := by
    cases a with
    | topic i =>
      cases b with
      | topic j => exact congrArg topic (rank_injective h)
      | link j => exact absurd h (by have := i.rank_lt; simp only [Nat.pow_eq] at *; omega)
    | link i =>
      cases b with
      | topic j => exact absurd h (by have := j.rank_lt; simp only [Nat.pow_eq] at *; omega)
      | link j => exact congrArg link (rank_injective (Nat.add_left_cancel h))

theorem rank_lt (n : Node) : rank n < Nat.pow 2 129 := by
  cases n with
  | topic i => have := i.rank_lt; simp only [rank, Nat.pow_eq] at *; omega
  | link i => have := i.rank_lt; simp only [rank, Nat.pow_eq] at *; omega

end Node

/-- A direct edge from a parent to a child. -/
structure Edge where
  /-- The parent, always a topic. -/
  parent : TopicId
  /-- The child. -/
  child : Node
  deriving DecidableEq

namespace Edge

instance : ToString Edge := ⟨fun e => toString e.parent ++ " -> " ++ toString e.child⟩

/-- Edges are in order of the parent, then of the child. -/
instance : Ranked Edge where
  rank e := rank e.parent * Nat.pow 2 129 + rank e.child
  rank_injective {a b} h := by
    have ha := a.child.rank_lt
    have hb := b.child.rank_lt
    cases a
    cases b
    simp only [Nat.pow_eq] at *
    congr 1
    · exact rank_injective (by omega)
    · exact rank_injective (by omega)

/-- Whether one edge comes no later than another. -/
def le (a b : Edge) : Bool := rank a ≤ rank b

end Edge

end Polyhierarchy

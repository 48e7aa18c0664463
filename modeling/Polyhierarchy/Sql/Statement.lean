import Polyhierarchy.Node
import Polyhierarchy.Topic
/-!
# Statements

A statement is a text with numbered places, and the values that stand in them.

## Main definitions

* `Sql.Value` — a value that can be bound.
* `Sql.Statement` — a text with its values.
-/

namespace Polyhierarchy.Sql

/-- A value that can be bound to a place of a statement. -/
inductive Value where
  | null
  | bool (value : Bool)
  | integer (value : Int)
  | text (value : String)
  | texts (values : List String)
  | uuid (value : Uuid)
  | uuids (values : List Uuid)
  | instant (value : Instant)
  | synonyms (value : Synonyms)

namespace Value

/-- An optional value. -/
def optional {α : Type} (f : α → Value) : Option α → Value
  | some a => f a
  | none => .null

/-- An identifier. -/
def id {e : Entity} (i : Identifier e) : Value := .uuid i.uuid

/-- A list of identifiers. -/
def ids {e : Entity} (l : List (Identifier e)) : Value := .uuids (l.map Identifier.uuid)

/-- A point of time, as exact as the database keeps it. -/
def time (t : Instant) : Value := .instant t.toMicroseconds

/-- The greatest number of rows. Numbers that the database does not have become the greatest that
it has. -/
def limit (n : Nat) : Value := .integer (min n (Nat.pow 2 63 - 1))

end Value

/-- A statement: its text, and the values for its places in order. -/
structure Statement where
  /-- The text. -/
  text : String
  /-- The values. -/
  values : List Value

/-- A statement without places. -/
def Statement.plain (text : String) : Statement := ⟨text, []⟩

end Polyhierarchy.Sql

import Polyhierarchy.Sql.Exchange
/-!
# Transcripts

A database whose replies are known beforehand: it writes down what it is told, and gives one reply
after another. When there are no replies left, it answers with nothing.

## Main definitions

* `Sql.Transcript` — the replies left, and what was said so far.
* `Sql.Transcript.database` — the database.
-/

namespace Polyhierarchy.Sql

/-- The replies that a database will give, and what it was told. -/
structure Transcript where
  /-- The replies left; a refusal has a message. -/
  replies : List (Except String Reply)
  /-- The message of the refusal to begin a session, if it is refused. -/
  beginRefusal : Option String
  /-- The message of the refusal to commit, if it is refused. -/
  commitRefusal : Option String
  /-- The statements, the last one first. -/
  said : List Statement

namespace Transcript

/-- Nothing was said, and there are no replies. -/
def empty : Transcript := ⟨[], none, none, []⟩

/-- The statements in order. -/
def statements (t : Transcript) : List Statement := t.said.reverse

/-- Writes down a statement. -/
def note (t : Transcript) (s : Statement) : Transcript := { t with said := s :: t.said }

/-- The number of rows in the replies that are left. -/
def rowsLeft (t : Transcript) : Nat :=
  (t.replies.flatMap fun
    | .ok reply => reply.rows
    | .error _ => []).length

/-- The answer to beginning or committing a session. -/
def accepted : Option String → Except String Unit
  | some message => .error message
  | none => .ok ()

/-- The database that gives the replies. -/
def database : Database Transcript where
  begin t := (accepted t.beginRefusal, t.note (.plain "BEGIN"))
  execute s t :=
    match t.replies with
    | [] => (.ok ⟨[], 0⟩, t.note s)
    | reply :: rest => (reply, { t with replies := rest }.note s)
  commit t := (accepted t.commitRefusal, t.note (.plain "COMMIT"))

end Transcript

end Polyhierarchy.Sql

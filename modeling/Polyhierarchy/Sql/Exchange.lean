import Polyhierarchy.Sql.Reply
import Polyhierarchy.Sql.Statement
import Polyhierarchy.Store.Basic
/-!
# Exchanges with a database

An exchange is what a session says to a database and makes of the replies. It ends with a value, or
with an error, at the latest when the database refuses a statement.

## Main definitions

* `Sql.Exchange` — a sequence of statements that depend on earlier replies.
* `Sql.Database` — whatever takes statements.
* `Sql.Exchange.run` — holds an exchange with a database.
-/

namespace Polyhierarchy.Sql

/-- A sequence of statements that depend on earlier replies. -/
inductive Exchange (α : Type) where
  | done (value : α)
  | fail (error : Error)
  | send (statement : Statement) (next : Reply → Exchange α)

/-- Whatever takes statements, with a state of its own. A refusal comes with a message. -/
structure Database (σ : Type) where
  /-- Begins a session. -/
  begin : σ → Except String Unit × σ
  /-- Takes a statement. -/
  execute : Statement → σ → Except String Reply × σ
  /-- Commits a session. -/
  commit : σ → Except String Unit × σ

namespace Exchange

variable {α β : Type}

/-- Goes on with an exchange that depends on the value of the first. -/
protected def bind : Exchange α → (α → Exchange β) → Exchange β
  | done a, f => f a
  | fail e, _ => fail e
  | send s next, f => send s fun reply => (next reply).bind f

instance : Monad Exchange where
  pure := done
  bind := Exchange.bind

/-- The value that was read, or the error of reading it. -/
def ofExcept : Except Error α → Exchange α
  | .ok a => done a
  | .error e => fail e

/-! ### Single statements -/

/-- What every row of the reply stands for. -/
def readAll (s : Statement) (read : Row → Except Error α) : Exchange (List α) :=
  send s fun reply => ofExcept (reply.rows.mapM read)

/-- What the first row of the reply stands for, if there is one. -/
def readFirst (s : Statement) (read : Row → Except Error α) : Exchange (Option α) :=
  send s fun reply => ofExcept (reply.rows.head?.mapM read)

/-- Whether the reply has a row. -/
def hasRow (s : Statement) : Exchange Bool := send s fun reply => done !reply.rows.isEmpty

/-- How many rows were changed. -/
def changed (s : Statement) : Exchange Nat := send s fun reply => done reply.changed

/-- Sends a statement whose reply does not matter. -/
def execute (s : Statement) : Exchange Unit := send s fun _ => done ()

/-- Sends statements one after another. -/
def executeAll : List Statement → Exchange Unit
  | [] => done ()
  | s :: rest => do
    execute s
    executeAll rest

/-! ### Running -/

/-- Holds an exchange with a database. -/
def run {σ : Type} (db : Database σ) : Exchange α → σ → Except Error α × σ
  | done a, s => (.ok a, s)
  | fail e, s => (.error e, s)
  | send statement next, s =>
    match db.execute statement s with
    | (.ok reply, s) => (next reply).run db s
    | (.error message, s) => (.error (.refused message), s)

end Exchange

end Polyhierarchy.Sql

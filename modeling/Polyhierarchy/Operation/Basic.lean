import Polyhierarchy.Settings
import Polyhierarchy.Store.Basic
import Polyhierarchy.Titles
/-!
# Operations

An operation is one call to the service: it may ask for the title of a page first, and then holds
at most one session with the store. Titles are asked for before the session begins, so no session
waits for another site.

## Main definitions

* `Operation` — what a call does.
* `Operation.run` — runs an operation with a store and a source of titles.
* `Engine` — a store, a source of titles and settings; `Engine.perform` runs operations with them.
-/

namespace Polyhierarchy

/-- What a call does: it answers at once, asks for the title of a page, or holds a session. -/
inductive Operation (α : Type) where
  | answer (value : α)
  | fetchTitle (url : CanonicalUrl) (next : Option String → Operation α)
  | session (body : Program (Ending α))

namespace Operation

variable {σ κ ε τ α β : Type}

/-- Applies a function to the value. -/
def map (f : α → β) : Operation α → Operation β
  | answer a => .answer (f a)
  | fetchTitle url next => .fetchTitle url fun title => (next title).map f
  | session body => .session do return (← body).map f

/-- An operation that only reads: its session is dropped. -/
def reading (body : Program α) : Operation α :=
  .session do return .discard (← body)

/-- Runs an operation. A title that could not be fetched counts as not found. -/
def run (store : Store σ κ ε) (titles : TitleSource τ) (deadline : Deadline) :
    Operation α → σ × τ → Except EngineError α × σ × τ
  | answer a, s => (.ok a, s)
  | fetchTitle url next, s =>
    let fetched := titles.fetch url s.2
    (next fetched.1.title?).run store titles deadline (s.1, fetched.2)
  | session body, s =>
    let held := store.hold deadline body s.1
    (held.1, held.2, s.2)

end Operation

/-- All that operations are run with. -/
structure Engine (σ κ ε τ : Type) where
  /-- The store. -/
  store : Store σ κ ε
  /-- The source of titles. -/
  titles : TitleSource τ
  /-- The settings. -/
  settings : EngineSettings

/-- Runs an operation. Its time begins to count when it begins. -/
def Engine.perform {σ κ ε τ α : Type} (e : Engine σ κ ε τ) (op : Operation α) :
    StateM (σ × τ) (Except EngineError α) :=
  op.run e.store e.titles (Deadline.ofTimeout e.settings.timeout)

end Polyhierarchy

import Polyhierarchy.Store.Program
/-!
# Stores

A store holds rows, and sessions can be held with it. What a session does becomes visible to others
when it commits; a session that is dropped leaves nothing behind.

## Main definitions

* `Store` — how sessions begin, what happens within them, and how they commit.
* `Ending` — what becomes of the session of a program that ended well.
* `Store.hold` — holds a session in which a program runs.
-/

namespace Polyhierarchy

/-- A store with states of type `σ`, sessions of type `κ` and errors of type `ε`. -/
structure Store (σ κ ε : Type) where
  /-- Begins a session. -/
  begin : σ → Except ε κ × σ
  /-- Answers the requests of a session. -/
  backend : Program.Backend (κ × σ) ε
  /-- Ends a session and makes visible what it did. -/
  commit : κ → σ → Except ε Unit × σ

/-- What becomes of a session once its program has come to a value: it commits, or it is dropped,
since there is nothing to keep. -/
inductive Ending (α : Type) where
  | commit (value : α)
  | discard (value : α)

/-- Applies a function to the value. -/
def Ending.map {α β : Type} (f : α → β) : Ending α → Ending β
  | commit a => commit (f a)
  | discard a => discard (f a)

namespace Store

variable {σ κ ε α : Type}

/-- The error of an operation for which the store failed. -/
def error (store : Store σ κ ε) (purpose : String) (cause : ε) : EngineError :=
  .store purpose (store.backend.describe cause)

/-- Holds a session in which a program runs. Unless the program commits, the session is dropped. -/
def hold (store : Store σ κ ε) (deadline : Deadline) (body : Program (Ending α)) (s : σ) :
    Except EngineError α × σ :=
  match store.begin s with
  | (.error e, s) => (.error (store.error "begin session" e), s)
  | (.ok session, s) =>
    match body.run store.backend deadline (session, s) with
    | (.error failure, _, s) => (.error (failure.toError store.backend.describe), s)
    | (.ok (.discard a), _, s) => (.ok a, s)
    | (.ok (.commit a), session, s) =>
      match store.commit session s with
      | (.ok (), s) => (.ok a, s)
      | (.error e, s) => (.error (store.error "commit" e), s)

end Store

end Polyhierarchy

import Polyhierarchy.Deadline
import Polyhierarchy.Store.Request
/-!
# Programs over a store

A program is what an operation does within a session: it asks the store, looks at its deadline, and
ends with a value or an error. Programs are data. The same program is run against a store in
memory, against a database, with failures, or step by step between the steps of others.

## Main definitions

* `Program` — a sequence of requests that depend on earlier replies.
* `Program.Backend` — whatever answers requests.
* `Program.run` — runs a program against a backend.

## Main statements

* `Program.done_bind`, `Program.fail_bind`, `Program.look_bind`, `Program.ask_bind` — how a program
  goes on after each kind of step.
-/

namespace Polyhierarchy

/-- What an operation does within a session. Each request comes with the purpose that is named if
it fails. -/
inductive Program (α : Type) where
  | done (value : α)
  | fail (error : EngineError)
  | look (purpose : String) (next : Program α)
  | ask (purpose : String) (request : Request) (next : request.Reply → Program α)

namespace Program

variable {α β : Type}

/-- Goes on with a program that depends on the value of the first. -/
protected def bind : Program α → (α → Program β) → Program β
  | done a, f => f a
  | fail e, _ => fail e
  | look purpose next, f => look purpose (next.bind f)
  | ask purpose request next, f => ask purpose request fun reply => (next reply).bind f

instance : Monad Program where
  pure := done
  bind := Program.bind

@[simp] theorem pure_eq (a : α) : (pure a : Program α) = done a := rfl

@[simp] theorem done_bind (a : α) (f : α → Program β) : (done a >>= f) = f a := rfl

@[simp] theorem fail_bind (e : EngineError) (f : α → Program β) : (fail e >>= f) = fail e := rfl

@[simp] theorem look_bind (p : String) (m : Program α) (f : α → Program β) :
    (look p m >>= f) = look p (m >>= f) := rfl

@[simp] theorem ask_bind (p : String) (r : Request) (k : r.Reply → Program α)
    (f : α → Program β) : (ask p r k >>= f) = ask p r fun reply => k reply >>= f := rfl

/-! ### Single steps -/

/-- Asks the store once. -/
def request (purpose : String) (r : Request) : Program r.Reply := ask purpose r done

/-- Looks at the deadline once. -/
def lookAt (purpose : String) : Program Unit := look purpose (done ())

/-- Does the same for each element of a list, in order. -/
def forEach {γ : Type} (f : γ → Program Unit) : List γ → Program Unit
  | [] => done ()
  | c :: cs => do
    f c
    forEach f cs

/-! ### Running -/

/-- What answers requests, with a state of type `σ` and errors of type `ε`. -/
structure Backend (σ ε : Type) where
  /-- Answers a request, or fails, in some state. -/
  answer : (r : Request) → σ → Except ε r.Reply × σ
  /-- The text of an error. -/
  describe : ε → String

/-- Why a program did not end with a value: it refused, or the store failed on a request. -/
inductive Failure (ε : Type) where
  | refusal (error : EngineError)
  | store (purpose : String) (cause : ε)

/-- The error of an operation whose program failed. -/
def Failure.toError {ε : Type} (describe : ε → String) : Failure ε → EngineError
  | refusal error => error
  | store purpose cause => .store purpose (describe cause)

/-- Runs a program against whatever answers requests. -/
def run {σ ε : Type} (b : Backend σ ε) : Program α → Deadline → σ → Except (Failure ε) α × σ
  | done a, _, s => (.ok a, s)
  | fail e, _, s => (.error (.refusal e), s)
  | look purpose next, d, s =>
    match d.look purpose with
    | .ok d => next.run b d s
    | .error e => (.error (.refusal e), s)
  | ask purpose r next, d, s =>
    match b.answer r s with
    | (.ok reply, s) => (next reply).run b d s
    | (.error e, s) => (.error (.store purpose e), s)

end Program

end Polyhierarchy

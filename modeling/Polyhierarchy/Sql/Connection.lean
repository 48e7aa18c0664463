import Polyhierarchy.Sql.Requests
import Polyhierarchy.Store.Health
import Polyhierarchy.Url.Reader
/-!
# Connections to a database

Before anything is said to a database it has to be reached. It is named by a URL, and it can refuse
a connection.

## Main definitions

* `Sql.ConnectionError` — why a database was not reached.
* `Sql.connect` — reaches a database, given what it says to a new connection.
* `Sql.health` — how a database is found to be reachable.
-/

namespace Polyhierarchy.Sql

/-- Why a database was not reached. -/
inductive ConnectionError
  | unreadableUrl (fault : Url.Fault)
  | refused (message : String)

/-- The text of an error. -/
def ConnectionError.message : ConnectionError → String
  | unreadableUrl fault => "error with configuration: " ++ fault.message
  | refused message => "error returned from database: " ++ message

/-- Reaches the database at a URL, which refuses the connection if it has a reason. -/
def connect (url : String) (refusal : Option String) : Except ConnectionError Unit :=
  match Url.read url.toList, refusal with
  | .error fault, _ => .error (.unreadableUrl fault)
  | .ok _, some message => .error (.refused message)
  | .ok _, none => .ok ()

/-- A database is reachable if it answers. -/
def health {σ : Type} (db : Database σ) (connections : Nat) : Store.Health σ where
  probe := isReachable db
  connections := some connections

end Polyhierarchy.Sql

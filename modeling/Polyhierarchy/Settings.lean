import Polyhierarchy.Text.Case
import Polyhierarchy.Text.Digits
/-!
# Settings

Every setting has a default and can be set by a variable of the environment. A value that cannot be
read counts as if it were not there, so no setting keeps the program from starting.

## Main definitions

* `Environment` — variables with their values.
* `EngineSettings` — how long an operation may take, and how titles are fetched.
* `LogFormat`, `ServiceSettings` — where the service listens, and how it logs.
* `DatabaseSettings` — which database is used, and how many connections to it are kept.
-/

namespace Polyhierarchy

/-- The variables of an environment with their values. -/
structure Environment where
  /-- The variables. -/
  assigned : List (String × String)

namespace Environment

/-- No variables. -/
def empty : Environment := ⟨[]⟩

/-- The text of a variable, or a default. -/
def text (e : Environment) (name default : String) : String :=
  (e.assigned.lookup name).getD default

/-- The number that a variable holds, if it is one that fits into so many bits, or a default. -/
def number (e : Environment) (name : String) (bits default : Nat) : Nat :=
  ((e.assigned.lookup name).bind fun s => Text.natBelow? (Nat.pow 2 bits) s.toList).getD default

end Environment

/-! ### Operations -/

/-- Settings of operations. -/
structure EngineSettings where
  /-- How many milliseconds an operation may take; without a number there is no bound. -/
  timeout : Option Nat
  /-- How many titles are kept. -/
  titleCacheSize : Nat
  /-- How many milliseconds fetching a title may take. -/
  fetchTimeout : Nat
  deriving DecidableEq

namespace EngineSettings

/-- The settings used if nothing else is said. -/
def standard : EngineSettings := ⟨some 10000, 512, 5000⟩

/-- The settings used if nothing else is said, but without a bound on the time. -/
def unbounded : EngineSettings := { standard with timeout := none }

/-- Reads the settings from an environment. A time of zero stands for no bound. -/
def ofEnvironment (e : Environment) : EngineSettings where
  timeout :=
    let milliseconds := e.number "GRAPH_OPERATION_TIMEOUT_MS" 64 10000
    if milliseconds = 0 then none else some milliseconds
  titleCacheSize := e.number "GRAPH_TITLE_CACHE_SIZE" 64 512
  fetchTimeout := e.number "GRAPH_FETCH_TIMEOUT_MS" 64 5000

end EngineSettings

/-! ### The service -/

/-- How the service writes its log. -/
inductive LogFormat
  | json
  | pretty
  deriving DecidableEq

namespace LogFormat

/-- The name of a format. -/
def name : LogFormat → String
  | json => "Json"
  | pretty => "Pretty"

/-- The format that a text asks for, in any letter case: JSON, unless it asks for the other. -/
def ofText (s : String) : LogFormat :=
  if Text.toLower s.toList = "pretty".toList then pretty else json

end LogFormat

/-- Settings of the service. -/
structure ServiceSettings where
  /-- The host to listen on. -/
  host : String
  /-- The port to listen on. -/
  port : Nat
  /-- How the log is written. -/
  logFormat : LogFormat
  /-- For how many milliseconds look-ups are collected. -/
  loaderWindow : Nat
  deriving DecidableEq

namespace ServiceSettings

/-- Reads the settings from an environment. -/
def ofEnvironment (e : Environment) : ServiceSettings where
  host := e.text "HOST" "0.0.0.0"
  port := e.number "PORT" 16 8001
  logFormat := LogFormat.ofText (e.text "LOG_FORMAT" "")
  loaderWindow := e.number "LOADER_WINDOW_MS" 64 2

/-- The address to listen on. -/
def address (s : ServiceSettings) : String := s.host ++ ":" ++ toString s.port

end ServiceSettings

/-! ### The database -/

/-- Settings of the connections to a database. -/
structure DatabaseSettings where
  /-- The database. -/
  url : String
  /-- The greatest number of connections. -/
  maxConnections : Nat
  /-- The number of connections that are kept even if they are not in use. -/
  minConnections : Nat
  /-- For how many seconds a connection is waited for. -/
  connectTimeout : Nat
  /-- After how many seconds an unused connection is closed. -/
  idleTimeout : Nat
  /-- After how many seconds any connection is closed. -/
  maxLifetime : Nat
  deriving DecidableEq

namespace DatabaseSettings

/-- Reads the settings from an environment. -/
def ofEnvironment (e : Environment) : DatabaseSettings where
  url := e.text "DATABASE_URL" "postgresql://localhost/digraph"
  maxConnections := e.number "DB_MAX_CONNECTIONS" 32 10
  minConnections := e.number "DB_MIN_CONNECTIONS" 32 2
  connectTimeout := e.number "DB_CONNECT_TIMEOUT_SECS" 64 10
  idleTimeout := e.number "DB_IDLE_TIMEOUT_SECS" 64 300
  maxLifetime := e.number "DB_MAX_LIFETIME_SECS" 64 1800

end DatabaseSettings

end Polyhierarchy

import Polyhierarchy.Json.Rows
import Polyhierarchy.Text.Quoted
/-!
# Replies of the database

The database answers a statement with rows and the number of rows that the statement changed. Rows
are read column by column.

## Main definitions

* `Sql.Error` — why a session with the database failed.
* `Sql.Row`, `Sql.Reply` — what the database answers.
* `Sql.Row.get`, `Sql.Row.get?` — the value of a column.
* `Sql.Row.topic`, `Sql.Row.link`, `Sql.Row.repository`, `Sql.Row.node` — what a row stands for.

## Design

The columns of a row are read in a fixed order, and the first that cannot be read is the error.
-/

namespace Polyhierarchy.Sql

open Json (Decoder Draft)

/-- Why a session with the database failed. -/
inductive Error
  | refused (message : String)
  | missingColumn (column : String)
  | unexpectedNull (column : String)
  | unreadable (column : String)
  | rowNotFound (what : String)
  | invalidValue (column value : String)
  deriving DecidableEq

namespace Error

/-- The text of an error that arises when a column is read. -/
def inColumn (column cause : String) : String :=
  "Database error: error occurred while decoding column " ++ Text.quoted column ++ ": " ++ cause

/-- The text of an error. -/
def message : Error → String
  | refused message => "Database error: error returned from database: " ++ message
  | missingColumn column => "Database error: no column found for name: " ++ column
  | unexpectedNull column => inColumn column "unexpected null; try decoding as an \x60Option\x60"
  | unreadable column => inColumn column "invalid value"
  | rowNotFound what => "Row not found: " ++ what
  | invalidValue column value => "Invalid stored value in " ++ column ++ ": " ++ value

end Error

/-- A row: its columns by name. -/
structure Row where
  /-- The columns. -/
  columns : List (String × Draft)

/-- The answer to a statement that the database did not refuse. -/
structure Reply where
  /-- The rows. -/
  rows : List Row
  /-- How many rows the statement changed. -/
  changed : Nat

namespace Row

/-! ### Columns -/

/-- The value of a column that may be empty. -/
def get? {α : Type} (row : Row) (column : String) (d : Decoder α) : Except Error (Option α) :=
  match row.columns.lookup column with
  | none => .error (.missingColumn column)
  | some .null => .ok none
  | some cell =>
    match d.decode cell with
    | .ok a => .ok (some a)
    | .error _ => .error (.unreadable column)

/-- The value of a column. -/
def get {α : Type} (row : Row) (column : String) (d : Decoder α) : Except Error α := do
  match ← row.get? column d with
  | some a => return a
  | none => .error (.unexpectedNull column)

/-- An identifier. -/
def id {e : Entity} (row : Row) (column : String) : Except Error (Identifier e) :=
  row.get column Identifier.form.decoder

/-- A point of time, as exact as the database keeps it. -/
def timeDecoder : Decoder Instant := Instant.form.decoder.map Instant.toMicroseconds

/-- A point of time. -/
def time (row : Row) (column : String) : Except Error Instant := row.get column timeDecoder

/-! ### What a row stands for -/

/-- The kind of label with a given name. -/
def labelOf (name : String) : Except Error TimeLabel :=
  match TimeLabel.parse? name with
  | some label => .ok label
  | none => .error (.invalidValue "timerange_prefix_format" name)

/-- The time range with a given beginning. No name of a kind of label counts as an empty one. -/
def timeRangeFrom (start : Instant) (stop : Option Instant) (label : Option String) :
    Except Error TimeRange := do
  return ⟨start, stop, ← labelOf (label.getD "")⟩

/-- A topic. -/
def topic (row : Row) : Except Error Topic := do
  let id ← row.id "id"
  let repository ← row.id "repository_id"
  let synonyms ← row.get "synonyms" Synonyms.form.decoder
  let start ← row.get? "timerange_starts_at" timeDecoder
  let stop ← row.get? "timerange_ends_at" timeDecoder
  let label ← row.get? "timerange_prefix_format" .string
  let timeRange ← start.mapM fun t => timeRangeFrom t stop label
  let name ← row.get "name" .string
  let description ← row.get? "description" .string
  let isRoot ← row.get "root" .bool
  let createdAt ← row.time "created_at"
  return ⟨id, repository, name, synonyms, description, timeRange, isRoot, createdAt⟩

/-- A link. -/
def link (row : Row) : Except Error Link := do
  let id ← row.id "id"
  let repository ← row.id "repository_id"
  let url ← row.get "url" .string
  let canonicalUrl ← row.get "canonical_url" .string
  let urlHash ← row.get "url_hash" .string
  let title ← row.get "title" .string
  let createdAt ← row.time "created_at"
  return ⟨id, repository, url, canonicalUrl, urlHash, title, createdAt⟩

/-- A repository. -/
def repository (row : Row) : Except Error Repository := do
  let id ← row.id "id"
  let name ← row.get "name" .string
  let rootTopic ← row.id "root_topic_id"
  let createdAt ← row.time "created_at"
  return ⟨id, name, rootTopic, createdAt⟩

/-- A node, by the name of its kind. -/
def node (row : Row) : Except Error Node := do
  let kind ← row.get "kind" .string
  let id ← row.get "id" (.parsed Uuid.parse?)
  match NodeKind.parse? kind with
  | some k => return Node.ofKind k id
  | none => .error (.invalidValue "kind" kind)

/-- A parent. -/
def parent (row : Row) : Except Error TopicId := row.id "parent_id"

end Row

end Polyhierarchy.Sql

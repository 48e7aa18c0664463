import Polyhierarchy.Alert
import Polyhierarchy.Json.Form
import Polyhierarchy.Link
import Polyhierarchy.Node
import Polyhierarchy.Query.Basic
import Polyhierarchy.Search
import Polyhierarchy.Time.Reader
/-!
# JSON forms of rows

The forms of identifiers, nodes, topics, links, repositories, alerts, queries and search results.
The fields of an object are written in the order of this module.

## Main definitions

* `Topic.form`, `Link.form`, `Repository.form` — rows.
* `Node.form`, `Edge.form` — nodes and edges.
* `Alert.toJson`, `IdentifiedAlert.form` — alerts, without and with an identifier.
* `Query.form`, `SearchResults.form` — queries and what they find.
-/

namespace Polyhierarchy

open Json (Form Record)

/-! ### Identifiers, nodes and edges -/

/-- Identifiers are texts. -/
def Identifier.form {entity : Entity} : Form (Identifier entity) :=
  .ofText toString Identifier.parse?

/-- Actors are texts. -/
def Actor.form : Form Actor := ⟨fun a => .string a.name, Json.Decoder.string.map Actor.mk⟩

/-- Instants are texts. -/
def Instant.form : Form Instant := .ofText Instant.toText Instant.parse?

/-- Kinds of nodes are their names. -/
def NodeKind.form : Form NodeKind := .ofNames NodeKind.name [("topic", .topic), ("link", .link)]

/-- The node of a kind with a number. -/
def Node.ofKind : NodeKind → Uuid → Node
  | .topic, u => .topic ⟨u⟩
  | .link, u => .link ⟨u⟩

/-- A node is an object that says its kind. -/
def Node.form : Form Node where
  write n := .object [("kind", NodeKind.form.write n.kind), ("id", Json.text n.uuid)]
  decoder := Record.decoder <|
    Node.ofKind <$> .field "kind" NodeKind.form.decoder <*> .field "id" (.parsed Uuid.parse?)

/-- An edge is an object. -/
def Edge.form : Form Edge where
  write e := .object [
    ("parent", Identifier.form.write e.parent),
    ("child", Node.form.write e.child)]
  decoder := Record.decoder <|
    Edge.mk <$> .field "parent" Identifier.form.decoder <*> .field "child" Node.form.decoder

/-! ### Topics -/

/-- A synonym is an object. -/
def Synonym.form : Form Synonym where
  write s := .object [("locale", .string s.locale), ("name", .string s.name)]
  decoder := Record.decoder <| Synonym.mk <$> .field "locale" .string <*> .field "name" .string

/-- Synonyms are an array. -/
def Synonyms.form : Form Synonyms where
  write s := (Form.list Synonym.form).write s.toList
  decoder := (Form.list Synonym.form).decoder.map Synonyms.mk

/-- Kinds of labels are their names. -/
def TimeLabel.form : Form TimeLabel :=
  .ofNames TimeLabel.name
    [("NONE", .none), ("START_YEAR", .startYear), ("START_YEAR_MONTH", .startYearMonth)]

/-- A time range is an object. -/
def TimeRange.form : Form TimeRange where
  write r := .object [
    ("starts_at", Instant.form.write r.startsAt),
    ("ends_at", Instant.form.optional.write r.endsAt),
    ("prefix_format", TimeLabel.form.write r.label)]
  decoder := Record.decoder <|
    TimeRange.mk
      <$> .field "starts_at" Instant.form.decoder
      <*> .field "ends_at" Instant.form.optional.decoder
      <*> .field "prefix_format" TimeLabel.form.decoder

/-- The row of a topic is an object. -/
def Topic.form : Form Topic where
  write t := .object [
    ("id", Identifier.form.write t.id),
    ("repository_id", Identifier.form.write t.repository),
    ("name", .string t.name),
    ("synonyms", Synonyms.form.write t.synonyms),
    ("description", Form.string.optional.write t.description),
    ("timerange", TimeRange.form.optional.write t.timeRange),
    ("root", .bool t.isRoot),
    ("created_at", Instant.form.write t.createdAt)]
  decoder := Record.decoder <|
    Topic.mk
      <$> .field "id" Identifier.form.decoder
      <*> .field "repository_id" Identifier.form.decoder
      <*> .field "name" .string
      <*> .field "synonyms" Synonyms.form.decoder
      <*> .field "description" Form.string.optional.decoder
      <*> .field "timerange" TimeRange.form.optional.decoder
      <*> .field "root" .bool
      <*> .field "created_at" Instant.form.decoder

/-! ### Links and repositories -/

/-- The row of a link is an object. -/
def Link.form : Form Link where
  write l := .object [
    ("id", Identifier.form.write l.id),
    ("repository_id", Identifier.form.write l.repository),
    ("url", .string l.url),
    ("canonical_url", .string l.canonicalUrl),
    ("url_hash", .string l.urlHash),
    ("title", .string l.title),
    ("created_at", Instant.form.write l.createdAt)]
  decoder := Record.decoder <|
    Link.mk
      <$> .field "id" Identifier.form.decoder
      <*> .field "repository_id" Identifier.form.decoder
      <*> .field "url" .string
      <*> .field "canonical_url" .string
      <*> .field "url_hash" .string
      <*> .field "title" .string
      <*> .field "created_at" Instant.form.decoder

/-- The row of a repository is an object. -/
def Repository.form : Form Repository where
  write r := .object [
    ("id", Identifier.form.write r.id),
    ("name", .string r.name),
    ("root_topic_id", Identifier.form.write r.rootTopic),
    ("created_at", Instant.form.write r.createdAt)]
  decoder := Record.decoder <|
    Repository.mk
      <$> .field "id" Identifier.form.decoder
      <*> .field "name" .string
      <*> .field "root_topic_id" Identifier.form.decoder
      <*> .field "created_at" Instant.form.decoder

/-! ### Alerts -/

/-- Levels of alerts are their names. -/
def AlertLevel.form : Form AlertLevel := .ofNames AlertLevel.name AlertLevel.named

/-- Codes of alerts are their names. -/
def AlertCode.form : Form AlertCode := .ofNames AlertCode.name AlertCode.named

/-- The fields of an alert. -/
def Alert.members (a : Alert) : List (String × Json) := [
  ("type", AlertLevel.form.write a.level),
  ("code", AlertCode.form.write a.code),
  ("text", .string a.text)]

/-- An alert is an object. -/
def Alert.toJson (a : Alert) : Json := .object a.members

/-- An alert with an identifier, by which it can be told from others of the same text. -/
structure IdentifiedAlert where
  /-- The identifier. -/
  id : String
  /-- The alert. -/
  alert : Alert

/-- An alert with an identifier is an object. -/
def IdentifiedAlert.form : Form IdentifiedAlert where
  write a := .object (("id", .string a.id) :: a.alert.members)
  decoder := Record.decoder <|
    (fun id level code text => IdentifiedAlert.mk id ⟨level, code, text⟩)
      <$> .field "id" .string
      <*> .field "type" AlertLevel.form.decoder
      <*> .field "code" AlertCode.form.decoder
      <*> .field "text" .string

/-! ### Queries -/

/-- References to topics are texts; every text is taken for one. -/
def TopicRef.form : Form TopicRef := ⟨fun r => .string r.text, Json.Decoder.string.map TopicRef.mk⟩

/-- A query is an object. -/
def Query.form : Form Query where
  write q := .object [
    ("string_tokens", Form.string.list.write q.tokens),
    ("topic_refs", TopicRef.form.list.write q.references)]
  decoder := Record.decoder <|
    Query.mk
      <$> .field "string_tokens" Form.string.list.decoder
      <*> .field "topic_refs" TopicRef.form.list.decoder

/-- Search results are an object. -/
def SearchResults.form : Form SearchResults where
  write r := .object [
    ("topics", Topic.form.list.write r.topics),
    ("links", Link.form.list.write r.links)]
  decoder := Record.decoder <|
    SearchResults.mk
      <$> .field "topics" Topic.form.list.decoder
      <*> .field "links" Link.form.list.decoder

end Polyhierarchy

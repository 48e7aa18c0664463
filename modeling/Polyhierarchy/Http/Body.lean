import Polyhierarchy.Json.Rows
/-!
# Bodies and parameters

What the bodies of requests hold, and what query strings ask for.

## Main definitions

* `Http.RepositoryBody`, `Http.TopicBody`, `Http.ParentsBody`, `Http.SynonymsBody`,
  `Http.MergeBody`, `Http.LinkBody` — bodies of requests.
* `Http.timeRangeForm` — a time range as a body.
* `Http.SearchParameters`, `Http.MatchParameters` — what a search asks for.

## Design

A field with a default may be missing, but it must not be `null` unless its value is optional.
-/

namespace Polyhierarchy.Http

open Json (Decoder Form Record)

/-- A list of topics, empty if it is missing. -/
def parentsDecoder : Decoder (List TopicId) := .withDefault [] Identifier.form.list.decoder

/-- An optional text, which may be missing. -/
def textDecoder : Decoder (Option String) := .withDefault none Form.string.optional.decoder

/-! ### Bodies -/

/-- Asks for a new repository. -/
structure RepositoryBody where
  /-- The name. -/
  name : String

/-- The body is an object. -/
def RepositoryBody.form : Form RepositoryBody where
  write b := .object [("name", .string b.name)]
  decoder := Record.decoder (RepositoryBody.mk <$> .field "name" .string)

/-- Asks for a topic with a name. -/
structure TopicBody where
  /-- The repository. -/
  repository : RepositoryId
  /-- The name. -/
  name : String
  /-- A description. -/
  description : Option String
  /-- The parents; the root, if there are none. -/
  parents : List TopicId

/-- The body is an object. -/
def TopicBody.form : Form TopicBody where
  write b := .object [
    ("repository_id", Identifier.form.write b.repository),
    ("name", .string b.name),
    ("description", Form.string.optional.write b.description),
    ("parent_topic_ids", Identifier.form.list.write b.parents)]
  decoder := Record.decoder <|
    TopicBody.mk
      <$> .field "repository_id" Identifier.form.decoder
      <*> .field "name" .string
      <*> .field "description" textDecoder
      <*> .field "parent_topic_ids" parentsDecoder

/-- Asks for other parents. -/
structure ParentsBody where
  /-- The parents. -/
  parents : List TopicId

/-- The body is an object. -/
def ParentsBody.form : Form ParentsBody where
  write b := .object [("parent_topic_ids", Identifier.form.list.write b.parents)]
  decoder := Record.decoder (ParentsBody.mk <$> .field "parent_topic_ids" parentsDecoder)

/-- Asks for other synonyms. -/
structure SynonymsBody where
  /-- The synonyms in order. -/
  synonyms : List Synonym

/-- The body is an object. -/
def SynonymsBody.form : Form SynonymsBody where
  write b := .object [("synonyms", Synonym.form.list.write b.synonyms)]
  decoder := Record.decoder (SynonymsBody.mk <$> .field "synonyms" Synonym.form.list.decoder)

/-- A time range as a body. Only the beginning has to be there. -/
def timeRangeForm : Form TimeRange where
  write := TimeRange.form.write
  decoder := Record.decoder <|
    TimeRange.mk
      <$> .field "starts_at" Instant.form.decoder
      <*> .field "ends_at" (.withDefault none Instant.form.optional.decoder)
      <*> .field "prefix_format" (.withDefault .none TimeLabel.form.decoder)

/-- Asks for a merge into a parent. -/
structure MergeBody where
  /-- The parent. -/
  target : TopicId

/-- The body is an object. -/
def MergeBody.form : Form MergeBody where
  write b := .object [("target_topic_id", Identifier.form.write b.target)]
  decoder := Record.decoder (MergeBody.mk <$> .field "target_topic_id" Identifier.form.decoder)

/-- Asks for a link to a page. -/
structure LinkBody where
  /-- The repository. -/
  repository : RepositoryId
  /-- The URL of the page. -/
  url : String
  /-- The title; the page is asked for it, if there is none. -/
  title : Option String
  /-- The parents; the root for a new link, if there are none. -/
  parents : List TopicId

/-- The body is an object. -/
def LinkBody.form : Form LinkBody where
  write b := .object [
    ("repository_id", Identifier.form.write b.repository),
    ("url", .string b.url),
    ("title", Form.string.optional.write b.title),
    ("parent_topic_ids", Identifier.form.list.write b.parents)]
  decoder := Record.decoder <|
    LinkBody.mk
      <$> .field "repository_id" Identifier.form.decoder
      <*> .field "url" .string
      <*> .field "title" textDecoder
      <*> .field "parent_topic_ids" parentsDecoder

/-! ### Query strings -/

/-- What a search below a topic asks for. -/
structure SearchParameters where
  /-- The query. -/
  query : String
  /-- The greatest number of topics. -/
  topicLimit : Option Nat
  /-- The greatest number of links. -/
  linkLimit : Option Nat
  /-- The size of a page, which stands in for both limits. -/
  pageSize : Option Nat

/-- The parameters as an object. -/
def SearchParameters.form : Form SearchParameters where
  write p := .object [
    ("q", .string p.query),
    ("topic_limit", Form.count.optional.write p.topicLimit),
    ("link_limit", Form.count.optional.write p.linkLimit),
    ("page_size", Form.count.optional.write p.pageSize)]
  decoder := Record.decoder <|
    SearchParameters.mk
      <$> .field "q" (.withDefault "" .string)
      <*> .field "topic_limit" Form.count.optional.decoder
      <*> .field "link_limit" Form.count.optional.decoder
      <*> .field "page_size" Form.count.optional.decoder

/-- What a search for topics of a repository asks for. -/
structure MatchParameters where
  /-- The query. -/
  query : String
  /-- The greatest number of topics. -/
  limit : Option Nat

/-- The parameters as an object. -/
def MatchParameters.form : Form MatchParameters where
  write p := .object [
    ("q", .string p.query),
    ("limit", Form.count.optional.write p.limit)]
  decoder := Record.decoder <|
    MatchParameters.mk
      <$> .field "q" (.withDefault "" .string)
      <*> .field "limit" Form.count.optional.decoder

end Polyhierarchy.Http

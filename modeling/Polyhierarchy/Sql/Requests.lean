import Polyhierarchy.Sql.Exchange
import Polyhierarchy.Sql.Schema
/-!
# Requests as statements

What is said to the database for each request of a session.

## Main definitions

* `Sql.Exchange.ofRequest` — the exchange for a request.
* `Sql.store` — the store that a database is.
* `Sql.createSchema`, `Sql.isReachable` — what is said outside of sessions.
-/

namespace Polyhierarchy.Sql

open Exchange

/-! ### Texts -/

/-- The columns of a topic. -/
def topicColumns : String :=
  "t.id, t.repository_id, t.name, t.synonyms, t.description, t.root, " ++
    "t.timerange_starts_at, t.timerange_ends_at, t.timerange_prefix_format, t.created_at"

/-- The columns of a link. -/
def linkColumns : String :=
  "l.id, l.repository_id, l.url, l.canonical_url, l.url_hash, l.title, l.created_at"

/-- Selects topics. -/
def selectTopics (condition : String) : String :=
  "SELECT " ++ topicColumns ++ " FROM topics t WHERE " ++ condition

/-- Selects links. -/
def selectLinks (condition : String) : String :=
  "SELECT " ++ linkColumns ++ " FROM links l WHERE " ++ condition

/-- The table of the direct edges to a kind of node. -/
def edgeTable : Node → String
  | .topic _ => "topic_topics"
  | .link _ => "link_topics"

/-- The table of the closure for topics below a topic. -/
def topicClosure : String := "topic_transitive_closure"

/-- The table of the closure for links below a topic. -/
def linkClosure : String := "link_transitive_closure"

/-- The table of the closure for a kind of node. -/
def closureTable : Node → String
  | .topic _ => topicClosure
  | .link _ => linkClosure

/-- Selects the children of a topic in two tables, the topics first. -/
def selectChildren (topics links : String) : String :=
  "SELECT 'topic' AS kind, child_id AS id FROM " ++ topics ++ " WHERE parent_id = $1 " ++
    "UNION ALL SELECT 'link' AS kind, child_id AS id FROM " ++ links ++ " WHERE parent_id = $1"

/-- Selects the nodes that are reachable from a topic over direct edges. -/
def selectReachable : String :=
  "WITH RECURSIVE down(id) AS ( " ++
    "SELECT child_id FROM topic_topics WHERE parent_id = $1 UNION " ++
    "SELECT tt.child_id FROM topic_topics tt JOIN down d ON tt.parent_id = d.id ) " ++
    "SELECT 'topic' AS kind, id FROM down WHERE id <> $1 UNION " ++
    "SELECT 'link' AS kind, lt.child_id AS id FROM link_topics lt " ++
    "WHERE lt.parent_id = $1 OR lt.parent_id IN (SELECT id FROM down)"

/-- The children of the root according to a table of the closure. -/
def belowRoot (table : String) : String :=
  "SELECT child_id FROM " ++ table ++ " WHERE parent_id = $1"

/-- Whether no reference has a row below it missing in a table of the closure. -/
def belowReferences (table row exception : String) : String :=
  "NOT EXISTS ( SELECT 1 FROM UNNEST($2::uuid[]) AS r(id) WHERE " ++ exception ++
    "NOT EXISTS ( SELECT 1 FROM " ++ table ++ " c WHERE c.parent_id = r.id AND c.child_id = " ++
    row ++ " ) )"

/-- Whether no pattern fails. -/
def matchesPatterns (failure : String) : String :=
  "NOT EXISTS ( SELECT 1 FROM UNNEST($3::text[]) AS p(pattern) WHERE " ++ failure ++ " )"

/-- Whether a column is like the pattern. -/
def likePattern (column : String) : String := column ++ " ILIKE p.pattern ESCAPE '\\'"

/-- Selects the topics that a search finds. -/
def selectFoundTopics : String :=
  selectTopics <|
    "(t.id = $1 OR t.id IN ( " ++ belowRoot topicClosure ++ " )) AND " ++
      belowReferences topicClosure "t.id" "r.id <> t.id AND " ++ " AND " ++
      matchesPatterns (likePattern "t.name NOT") ++ " ORDER BY t.name, t.id LIMIT $4"

/-- Selects the links that a search finds. -/
def selectFoundLinks : String :=
  selectLinks <|
    "l.id IN ( " ++ belowRoot linkClosure ++ " ) AND " ++
      belowReferences linkClosure "l.id" "" ++ " AND " ++
      matchesPatterns
        ("NOT ( " ++ likePattern "l.title" ++ " OR " ++ likePattern "l.url" ++ " OR " ++
          likePattern "l.canonical_url" ++ " )") ++
      " ORDER BY l.created_at DESC, l.id LIMIT $4"

/-- Selects the topics that match a full-text query. -/
def selectMatchedTopics : String :=
  selectTopics <|
    "t.repository_id = $1 AND to_tsvector('simple', t.name) @@ to_tsquery('simple', $2) " ++
      "ORDER BY t.name, t.id LIMIT $3"

/-! ### Statements -/

/-- The values of the three columns of a time range. -/
def timeRangeValues (r : Option TimeRange) : List Value := [
  .optional (fun r => .time r.startsAt) r,
  .optional .time (r.bind TimeRange.endsAt),
  .optional (fun r => .text r.label.name) r]

/-- Inserts a topic, unless its repository has one of that name. -/
def insertTopicStatement (row : Topic) : Statement where
  text :=
    "INSERT INTO topics ( id, repository_id, name, synonyms, description, root, " ++
      "timerange_starts_at, timerange_ends_at, timerange_prefix_format, created_at ) " ++
      "VALUES ($1, $2, $3, $4, $5, $6, $7, $8, $9, $10) " ++
      "ON CONFLICT (repository_id, name) DO NOTHING RETURNING id"
  values :=
    [.id row.id, .id row.repository, .text row.name, .synonyms row.synonyms,
      .optional .text row.description, .bool row.isRoot] ++
      timeRangeValues row.timeRange ++ [.time row.createdAt]

/-- Updates a topic. -/
def updateTopicStatement (row : Topic) : Statement where
  text :=
    "UPDATE topics SET name = $2, synonyms = $3, description = $4, " ++
      "timerange_starts_at = $5, timerange_ends_at = $6, timerange_prefix_format = $7 " ++
      "WHERE id = $1"
  values :=
    [.id row.id, .text row.name, .synonyms row.synonyms, .optional .text row.description] ++
      timeRangeValues row.timeRange

/-- Inserts a link, unless its repository has one to that page. -/
def insertLinkStatement (row : Link) : Statement where
  text :=
    "INSERT INTO links (id, repository_id, url, canonical_url, url_hash, title, created_at) " ++
      "VALUES ($1, $2, $3, $4, $5, $6, $7) " ++
      "ON CONFLICT (repository_id, url_hash) DO NOTHING RETURNING id"
  values :=
    [.id row.id, .id row.repository, .text row.url, .text row.canonicalUrl, .text row.urlHash,
      .text row.title, .time row.createdAt]

/-- Deletes the pairs of a topic from a table of the closure. -/
def clearPairs (table : String) (topic : TopicId) : Statement :=
  ⟨"DELETE FROM " ++ table ++ " WHERE parent_id = $1", [.id topic]⟩

/-- Inserts pairs into a table of the closure. There is nothing to say for no pairs. -/
def fillPairs {e : Entity} (table : String) (topic : TopicId) (nodes : List (Identifier e)) :
    List Statement :=
  if nodes.isEmpty then []
  else [⟨"INSERT INTO " ++ table ++ " (parent_id, child_id) SELECT $1, UNNEST($2::uuid[])",
    [.id topic, .ids nodes]⟩]

/-- The values of a search. -/
def searchValues (s : Scope) : List Value :=
  [.id s.root, .ids s.query.topics, .texts s.query.wildcards, .limit s.limit]

/-! ### Exchanges -/

/-- Looks up a topic by its name. -/
def topicNamed (repository : RepositoryId) (name : String) : Exchange (Option Topic) :=
  readFirst ⟨selectTopics "t.repository_id = $1 AND t.name = $2", [.id repository, .text name]⟩
    Row.topic

/-- Looks up a link by the digest of its page. -/
def linkHashed (repository : RepositoryId) (hash : String) : Exchange (Option Link) :=
  readFirst ⟨selectLinks "l.repository_id = $1 AND l.url_hash = $2", [.id repository, .text hash]⟩
    Row.link

/-- Inserts a topic, or finds the one of its name. -/
def insertTopic (row : Topic) : Exchange (Inserted Topic) := do
  if ← hasRow (insertTopicStatement row) then return ⟨true, row⟩
  else
    match ← topicNamed row.repository row.name with
    | some old => return ⟨false, old⟩
    | none => .fail (.rowNotFound ("topic named " ++ Text.quoted row.name))

/-- Inserts a link, or finds the one to its page. -/
def insertLink (row : Link) : Exchange (Inserted Link) := do
  if ← hasRow (insertLinkStatement row) then return ⟨true, row⟩
  else
    match ← linkHashed row.repository row.urlHash with
    | some old => return ⟨false, old⟩
    | none => .fail (.rowNotFound ("link " ++ row.urlHash))

/-- Sends a statement that has to change a row. -/
def changeRow (s : Statement) (what : String) : Exchange Unit := do
  if (← changed s) = 0 then .fail (.rowNotFound what)

/-- The exchange for a request. -/
def Exchange.ofRequest : (r : Request) → Exchange r.Reply
  | .lockRepository id =>
    execute ⟨"SELECT pg_advisory_xact_lock($1)", [.integer id.lockKey]⟩
  | .repository id =>
    readFirst
      ⟨"SELECT id, name, root_topic_id, created_at FROM repositories WHERE id = $1", [.id id]⟩
      Row.repository
  | .insertRepository row =>
    execute
      ⟨"INSERT INTO repositories (id, name, root_topic_id, created_at) VALUES ($1, $2, $3, $4)",
        [.id row.id, .text row.name, .id row.rootTopic, .time row.createdAt]⟩
  | .topic id => readFirst ⟨selectTopics "t.id = $1", [.id id]⟩ Row.topic
  | .topics ids => readAll ⟨selectTopics "t.id = ANY($1) ORDER BY t.id", [.ids ids]⟩ Row.topic
  | .topicNamed repository name => topicNamed repository name
  | .insertTopic row => insertTopic row
  | .updateTopic row => changeRow (updateTopicStatement row) ("topic " ++ toString row.id)
  | .deleteTopic id => execute ⟨"DELETE FROM topics WHERE id = $1", [.id id]⟩
  | .link id => readFirst ⟨selectLinks "l.id = $1", [.id id]⟩ Row.link
  | .links ids => readAll ⟨selectLinks "l.id = ANY($1) ORDER BY l.id", [.ids ids]⟩ Row.link
  | .insertLink row => insertLink row
  | .updateLink row =>
    changeRow ⟨"UPDATE links SET title = $2 WHERE id = $1", [.id row.id, .text row.title]⟩
      ("link " ++ toString row.id)
  | .deleteLink id => execute ⟨"DELETE FROM links WHERE id = $1", [.id id]⟩
  | .insertEdge e => do
    let n ← changed
      ⟨"INSERT INTO " ++ edgeTable e.child ++
        " (parent_id, child_id) VALUES ($1, $2) ON CONFLICT DO NOTHING",
        [.id e.parent, .uuid e.child.uuid]⟩
    return 0 < n
  | .deleteEdge e => do
    let n ← changed
      ⟨"DELETE FROM " ++ edgeTable e.child ++ " WHERE parent_id = $1 AND child_id = $2",
        [.id e.parent, .uuid e.child.uuid]⟩
    return 0 < n
  | .parents node =>
    readAll
      ⟨"SELECT parent_id FROM " ++ edgeTable node ++ " WHERE child_id = $1 ORDER BY parent_id",
        [.uuid node.uuid]⟩
      Row.parent
  | .children topic =>
    readAll
      ⟨selectChildren "topic_topics" "link_topics" ++ " ORDER BY kind DESC, id", [.id topic]⟩
      Row.node
  | .reachable topic => do
    return SortedSet.ofList (← readAll ⟨selectReachable, [.id topic]⟩ Row.node)
  | .descendants topic => do
    let s : Statement := ⟨selectChildren topicClosure linkClosure, [.id topic]⟩
    return SortedSet.ofList (← readAll s Row.node)
  | .ancestors node => do
    let s : Statement :=
      ⟨"SELECT parent_id FROM " ++ closureTable node ++ " WHERE child_id = $1", [.uuid node.uuid]⟩
    return SortedSet.ofList (← readAll s Row.parent)
  | .replaceDescendants ancestor nodes =>
    executeAll <|
      [clearPairs topicClosure ancestor, clearPairs linkClosure ancestor] ++
        fillPairs topicClosure ancestor (nodes.toList.filterMap Node.topic?) ++
        fillPairs linkClosure ancestor (nodes.toList.filterMap Node.link?)
  | .purge (.topic id) =>
    executeAll [
      ⟨"DELETE FROM " ++ topicClosure ++ " WHERE parent_id = $1 OR child_id = $1", [.id id]⟩,
      clearPairs linkClosure id]
  | .purge (.link id) =>
    execute ⟨"DELETE FROM " ++ linkClosure ++ " WHERE child_id = $1", [.id id]⟩
  | .searchTopics scope => readAll ⟨selectFoundTopics, searchValues scope⟩ Row.topic
  | .searchLinks scope => readAll ⟨selectFoundLinks, searchValues scope⟩ Row.link
  | .matchTopics repository query limit =>
    match query.fullText? with
    | none => pure []
    | some text =>
      readAll ⟨selectMatchedTopics, [.id repository, .text text, .limit limit]⟩ Row.topic

/-- The store that a database is. What a session knows is all in the database. -/
def store {σ : Type} (db : Database σ) : Store σ Unit Error where
  begin s :=
    let (reply, s) := db.begin s
    (reply.mapError .refused, s)
  backend := {
    answer := fun r (_, s) =>
      let (reply, s) := (Exchange.ofRequest r).run db s
      (reply, (), s)
    describe := Error.message }
  commit _ s :=
    let (reply, s) := db.commit s
    (reply.mapError .refused, s)

/-! ### Outside of sessions -/

/-- Creates the tables and indexes that do not exist yet. -/
def createSchema : Exchange Unit := executeAll (Schema.statements.map .plain)

/-- Finds out whether the database answers. -/
def isReachable {σ : Type} (db : Database σ) (s : σ) : Bool × σ :=
  match (hasRow (.plain "SELECT 1")).run db s with
  | (.ok answered, s) => (answered, s)
  | (.error _, s) => (false, s)

end Polyhierarchy.Sql

/-!
# The schema of the database

The tables hold rows, direct edges and the closure. The closure has no pair of a topic with itself.

## Main definitions

* `Sql.Schema.statements` — the statements that create the tables and the indexes, in an order in
  which each can refer to earlier ones.
-/

namespace Polyhierarchy.Sql.Schema

/-- The statement that creates a table with some groups of columns and constraints. -/
def table (name : String) (groups : List (List String)) : String :=
  let group (items : List String) := ",\n".intercalate (items.map ("    " ++ ·))
  "\nCREATE TABLE IF NOT EXISTS " ++ name ++ " (\n" ++ ",\n\n".intercalate (groups.map group) ++
    "\n)\n"

/-- The statement that creates an index. -/
def index (name target : String) : String :=
  "CREATE INDEX IF NOT EXISTS " ++ name ++ " ON " ++ target

/-- A column that refers to rows of another table, and goes with them. -/
def reference (column target : String) : String :=
  column ++ " UUID NOT NULL REFERENCES " ++ target ++ "(id) ON DELETE CASCADE"

/-- The column that says when a row was created. -/
def createdAt : String := "created_at TIMESTAMPTZ NOT NULL DEFAULT NOW()"

/-- The key of a table of pairs. -/
def pairKey : String := "PRIMARY KEY (parent_id, child_id)"

/-- Repositories and their roots. -/
def repositories : String :=
  table "repositories"
    [["id UUID PRIMARY KEY", "name TEXT NOT NULL", "root_topic_id UUID NOT NULL", createdAt]]

/-- Topics. A repository has each name once. -/
def topics : String :=
  table "topics" [
    ["id UUID PRIMARY KEY",
      reference "repository_id" "repositories",
      "name TEXT NOT NULL",
      "synonyms JSONB NOT NULL DEFAULT '[]'::jsonb",
      "description TEXT",
      "root BOOLEAN NOT NULL DEFAULT FALSE",
      "timerange_starts_at TIMESTAMPTZ",
      "timerange_ends_at TIMESTAMPTZ",
      "timerange_prefix_format TEXT",
      createdAt],
    ["CONSTRAINT topics_repository_name_key UNIQUE (repository_id, name)",
      "CONSTRAINT topics_prefix_format_check CHECK (\n" ++
        "        timerange_prefix_format IS NULL\n" ++
        "        OR timerange_prefix_format IN ('NONE', 'START_YEAR', 'START_YEAR_MONTH')\n" ++
        "    )"]]

/-- Links. A repository has each page once. -/
def links : String :=
  table "links" [
    ["id UUID PRIMARY KEY",
      reference "repository_id" "repositories",
      "url TEXT NOT NULL",
      "canonical_url TEXT NOT NULL",
      "url_hash TEXT NOT NULL",
      "title TEXT NOT NULL DEFAULT ''",
      createdAt],
    ["CONSTRAINT links_repository_hash_key UNIQUE (repository_id, url_hash)"]]

/-- Direct edges, and the closure, by the kind of the child. -/
def pairs : List String := [
  table "topic_topics"
    [[reference "parent_id" "topics", reference "child_id" "topics", pairKey]],
  table "link_topics"
    [[reference "parent_id" "topics", reference "child_id" "links", pairKey]],
  table "topic_transitive_closure"
    [[reference "parent_id" "topics", reference "child_id" "topics", pairKey,
      "CONSTRAINT topic_closure_no_self_pair CHECK (parent_id <> child_id)"]],
  table "link_transitive_closure"
    [[reference "parent_id" "topics", reference "child_id" "links", pairKey]]]

/-- Indexes for looking up what lies above a node, and the words of names. -/
def indexes : List String := [
  index "idx_topic_topics_child" "topic_topics(child_id)",
  index "idx_link_topics_child" "link_topics(child_id)",
  index "idx_topic_closure_child" "topic_transitive_closure(child_id)",
  index "idx_link_closure_child" "link_transitive_closure(child_id)",
  index "idx_topics_name_fts" "topics USING GIN (to_tsvector('simple', name))"]

/-- All statements in order. -/
def statements : List String := [repositories, topics, links] ++ pairs ++ indexes

end Polyhierarchy.Sql.Schema

import Polyhierarchy.CanonicalUrl
import Polyhierarchy.Query.Reference
/-!
# Queries

A query is a text of tokens with white space between them. A token is a reference to a topic, the
URL of a web page, which stands for its canonical form, or a plain text. Every text is a query.

## Main definitions

* `Query` — the plain tokens and the references of a query, each reference once.
* `Query.parse` — the query that a text is.
* `Query.wildcards` — a pattern for each token that is matched anywhere in a text.
* `Query.fullText?` — the tokens as one expression of quoted operands.
-/

namespace Polyhierarchy

/-- A query. -/
structure Query where
  /-- The texts that results have to hold, in order. -/
  tokens : List String
  /-- The references to topics that results have to lie below, each once. -/
  references : List TopicRef
  deriving DecidableEq

namespace Query

instance : EmptyCollection Query := ⟨⟨[], []⟩⟩

/-- The text that a token which is no reference stands for: the canonical form of a URL, else the
token itself. -/
def plainToken (token : String) : String :=
  if isUrl token.toList then
    match CanonicalUrl.parse token with
    | .ok url => url.canonical
    | .error _ => token
  else token

/-- Takes a token into a query. -/
def addToken (q : Query) (token : String) : Query :=
  match TopicRef.parse? token with
  | some r => if q.references.contains r then q else { q with references := q.references ++ [r] }
  | none => { q with tokens := q.tokens ++ [plainToken token] }

/-- The query that a text is. -/
def parse (s : String) : Query :=
  ((Text.words s.toList).map String.ofList).foldl addToken ∅

/-- Whether a query has neither tokens nor references. -/
def isEmpty (q : Query) : Bool := q.tokens.isEmpty && q.references.isEmpty

/-- The topics that the references select. -/
def topics (q : Query) : List TopicId := q.references.map TopicRef.topic

/-! ### Wildcards -/

/-- The token with a backslash before each character that has a meaning in patterns. -/
def escapeWildcard (token : List Char) : List Char :=
  token.flatMap fun c => if c = '\\' ∨ c = '%' ∨ c = '_' then ['\\', c] else [c]

/-- The pattern that matches the texts which hold a token. -/
def wildcard (token : String) : String :=
  String.ofList ('%' :: escapeWildcard token.toList ++ ['%'])

/-- A pattern for each token. -/
def wildcards (q : Query) : List String := q.tokens.map wildcard

/-! ### Full text -/

/-- Whether a token can be put in quotes: it holds neither a quote nor a backslash. -/
def isQuotable (token : String) : Bool := token.toList.all fun c => c != '\'' && c != '\\'

/-- The tokens that can be put in quotes. -/
def fullTextTokens (q : Query) : List String := q.tokens.filter isQuotable

/-- The quotable tokens as one expression that asks for all of them; none if there are none. -/
def fullText? (q : Query) : Option String :=
  if q.fullTextTokens.isEmpty then none
  else some (" & ".intercalate (q.fullTextTokens.map fun t => "'" ++ t ++ "'"))

end Query

end Polyhierarchy

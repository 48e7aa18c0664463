import Polyhierarchy.CanonicalUrl
/-!
# Titles of pages

A link that is submitted without a title gets the title of its page, from a source that may fail or
find none. A cache in front of a source keeps a number of answers. Failures are not kept, so the
next request for the page tries again.

## Main definitions

* `FetchError` — why no answer came.
* `TitleSource` — whatever answers requests for titles.
* `TitleCache` — the answers that are kept, the last one stored first.
* `TitleSource.cached` — a source with a cache in front of it.

## Design

The state of a source is part of each step, so a source may answer the same request differently at
different times. A request that the cache answers leaves the cache as it is: only storing an answer
makes it the last one, and the first one stored is the first to go.
-/

namespace Polyhierarchy

/-- Why a source of titles gave no answer. -/
inductive FetchError
  | request (text : String)
  | status (code : Nat)
  | timeout
  deriving DecidableEq

/-- The text of an error. -/
def FetchError.message : FetchError → String
  | request text => "Request failed: " ++ text
  | status code => "Unexpected status " ++ toString code
  | timeout => "Fetch timed out"

/-- The answer to a request: the title, or nothing if the page has none, or why none came. -/
inductive TitleAnswer
  | title (text : Option String)
  | failure (error : FetchError)
  deriving DecidableEq

/-- The title that an answer holds, if any. -/
def TitleAnswer.title? : TitleAnswer → Option String
  | title text => text
  | failure _ => none

/-- Whatever answers requests for titles, with a state of its own. -/
structure TitleSource (σ : Type) where
  /-- Answers a request. -/
  fetch : CanonicalUrl → σ → TitleAnswer × σ

/-- A source that never finds a title. -/
def TitleSource.silent : TitleSource Unit := ⟨fun _ _ => (.title none, ())⟩

/-- The answers that are kept for canonical URLs. -/
structure TitleCache where
  /-- The greatest number of answers. -/
  capacity : Nat
  /-- The answers by canonical URL, the last one stored first. -/
  entries : List (String × Option String)

namespace TitleCache

/-- No answers, and room for some, at least for one. -/
def ofCapacity (capacity : Nat) : TitleCache := ⟨max capacity 1, []⟩

/-- The number of answers kept. -/
def size (c : TitleCache) : Nat := c.entries.length

/-- The answer kept for a URL. -/
def find? (c : TitleCache) (url : String) : Option (Option String) := c.entries.lookup url

/-- Stores an answer as the last one. If there is no room, the first one goes. -/
def store (c : TitleCache) (url : String) (title : Option String) : TitleCache :=
  { c with entries := ((url, title) :: c.entries.filter (·.1 != url)).take c.capacity }

/-- Forgets all answers. -/
def clear (c : TitleCache) : TitleCache := { c with entries := [] }

end TitleCache

/-- A source with a cache in front of it. -/
def TitleSource.cached {σ : Type} (source : TitleSource σ) : TitleSource (TitleCache × σ) where
  fetch url := fun (cache, s) =>
    match cache.find? url.canonical with
    | some text => (.title text, cache, s)
    | none =>
      match source.fetch url s with
      | (.title text, s) => (.title text, cache.store url.canonical text, s)
      | (.failure e, s) => (.failure e, cache, s)

end Polyhierarchy

import Polyhierarchy.CanonicalUrl
import Polyhierarchy.Identifier
import Polyhierarchy.Time.Instant
/-!
# Links

A link is a web page that is filed under topics. Within a repository a page has one link, whichever
of its URLs was submitted.

## Main definitions

* `Link` — the row of a link.
* `Link.new` — the row of a new link.
-/

namespace Polyhierarchy

/-- The row of a link. -/
structure Link where
  /-- The identifier. -/
  id : LinkId
  /-- The repository that owns the link. -/
  repository : RepositoryId
  /-- The URL as it was submitted. -/
  url : String
  /-- The canonical form of the URL. -/
  canonicalUrl : String
  /-- The digest of the canonical form. -/
  urlHash : String
  /-- The title of the page; empty if it is not known. -/
  title : String
  /-- When the link was created. -/
  createdAt : Instant
  deriving DecidableEq

/-- The row of a new link to a page. -/
def Link.new (id : LinkId) (repository : RepositoryId) (url : CanonicalUrl) (title : String)
    (now : Instant) : Link :=
  ⟨id, repository, url.input, url.canonical, url.hash, title, now⟩

end Polyhierarchy

import Polyhierarchy.CanonicalUrl
/-!
# Names of topics

A name is brought to one form before it is stored: without white space at its ends, and with one
space for each run of blanks inside. The empty text and the URL of a web page name no topic.

## Main definitions

* `normalizeName` — the form of a name, and whether it may name a topic.
-/

namespace Polyhierarchy

/-- The form in which a name is stored, and whether it may name a topic. -/
def normalizeName (name : String) : String × Bool :=
  let normalized := Text.collapse (Text.trim name.toList)
  (String.ofList normalized, !normalized.isEmpty && !isUrl normalized)

end Polyhierarchy

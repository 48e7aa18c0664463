import Polyhierarchy.Hash.Sha256
import Polyhierarchy.Text.WhiteSpace
import Polyhierarchy.Url.Form
import Polyhierarchy.Url.Reader
/-!
# Canonical URLs

Two URLs that differ only in their fragment, in the case of scheme and host, or in parameters that
trace where a reader came from, address the same page. The canonical URL has none of these, and its
digest is the key under which a link is found again.

## Main definitions

* `CanonicalUrl` — a submitted text and its canonical form.
* `CanonicalUrl.parse` — the canonical URL of a text, or why it has none.
* `CanonicalUrl.hash` — the digest of the canonical form.
* `isUrl` — whether a text is the URL of a web page.
-/

namespace Polyhierarchy

/-- Whether a text is the URL of a web page. -/
def isUrl (s : List Char) : Bool :=
  match Url.read s with
  | .ok (.web _) => true
  | _ => false

/-- The parameters that only trace where a reader came from. -/
def trackingKeys : List (List Char) :=
  ["fbclid".toList, "gclid".toList, "mc_cid".toList, "mc_eid".toList]

/-- Whether a parameter only traces where a reader came from. -/
def isTrackingKey (key : List Char) : Bool :=
  "utm_".toList.isPrefixOf key || trackingKeys.contains key

/-- The URL of a page without its fragment and without tracing parameters. If no parameter is left,
the query goes too. -/
def Url.Web.withoutTracking (u : Url.Web) : Url.Web :=
  let kept := ((u.query.map Url.Form.read).getD []).filter fun p => !isTrackingKey p.1
  { u with
    fragment := none
    query := if kept.isEmpty then none else some (Url.Form.write kept) }

/-- Why a text has no canonical URL. -/
inductive UrlError
  | invalid (fault : Url.Fault)
  | unsupportedScheme (scheme : String)
  deriving DecidableEq

/-- The text of an error. -/
def UrlError.message : UrlError → String
  | invalid fault => "Invalid url: " ++ fault.message
  | unsupportedScheme scheme => "Unsupported url scheme: " ++ scheme

/-- The URL of a web page in canonical form, with the text it was submitted as. -/
structure CanonicalUrl where
  /-- The submitted text, without blanks at its ends. -/
  input : String
  /-- The canonical form. -/
  canonical : String
  deriving DecidableEq

namespace CanonicalUrl

/-- The canonical URL of a text. -/
def parse (s : String) : Except UrlError CanonicalUrl :=
  let input := Text.trim s.toList
  match Url.read input with
  | .error fault => .error (.invalid fault)
  | .ok (.other scheme) => .error (.unsupportedScheme (String.ofList scheme))
  | .ok (.web page) => .ok ⟨String.ofList input, String.ofList page.withoutTracking.toChars⟩

/-- The digest of the canonical form: 64 hexadecimal digits. -/
def hash (u : CanonicalUrl) : String := Hash.Sha256.hexDigest u.canonical

end CanonicalUrl

end Polyhierarchy

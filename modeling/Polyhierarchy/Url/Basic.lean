import Polyhierarchy.Url.Ipv4
import Polyhierarchy.Url.Ipv6
/-!
# URLs

A URL either addresses a web page, and is kept with all its parts, or has another scheme, of which
nothing is kept but its name.

## Main definitions

* `Url.Host` — a domain name or an address.
* `Url.Web` — the parts of the URL of a web page, in their encoded form.
* `Url` — the URL of a web page, or one of another scheme.
* `Url.Web.toChars` — the written form.
* `Url.Fault` — why a text is no URL.
-/

namespace Polyhierarchy

namespace Url

/-- Why a text is no URL. -/
inductive Fault
  | relativeWithoutBase
  | emptyHost
  | invalidPort
  | invalidDomain
  | invalidHostCharacter
  | invalidIpv4
  | invalidIpv6
  deriving DecidableEq

/-- The text of a fault. -/
def Fault.message : Fault → String
  | relativeWithoutBase => "relative URL without a base"
  | emptyHost => "empty host"
  | invalidPort => "invalid port number"
  | invalidDomain => "invalid international domain name"
  | invalidHostCharacter => "invalid domain character"
  | invalidIpv4 => "invalid IPv4 address"
  | invalidIpv6 => "invalid IPv6 address"

/-- A host. -/
inductive Host
  | domain (name : List Char)
  | ipv4 (address : Ipv4)
  | ipv6 (address : Ipv6)
  deriving DecidableEq

/-- The written form of a host. -/
def Host.toChars : Host → List Char
  | domain name => name
  | ipv4 a => a.toChars
  | ipv6 a => '[' :: a.toChars ++ [']']

/-- The URL of a web page. Its texts are in encoded form. -/
structure Web where
  /-- Whether the scheme is `https` rather than `http`. -/
  isSecure : Bool
  /-- The user name, empty if there is none. -/
  username : List Char
  /-- The password, empty if there is none. -/
  password : List Char
  /-- The host. -/
  host : Host
  /-- The port, unless it is the one of the scheme. -/
  port : Option Nat
  /-- The segments of the path, of which there is at least one. -/
  path : List (List Char)
  /-- The query, if there is one. -/
  query : Option (List Char)
  /-- The fragment, if there is one. -/
  fragment : Option (List Char)
  deriving DecidableEq

namespace Web

/-- The name of the scheme. -/
def scheme (u : Web) : List Char := if u.isSecure then "https".toList else "http".toList

/-- The written user name and password with the sign that ends them. -/
def userInfo (u : Web) : List Char :=
  if u.username.isEmpty && u.password.isEmpty then []
  else u.username ++ (if u.password.isEmpty then [] else ':' :: u.password) ++ ['@']

/-- The written form. -/
def toChars (u : Web) : List Char :=
  u.scheme ++ [':', '/', '/'] ++ u.userInfo ++ u.host.toChars ++
    (match u.port with
      | some p => ':' :: Text.decimal p
      | none => []) ++
    u.path.flatMap (fun segment => '/' :: segment) ++
    (match u.query with
      | some q => '?' :: q
      | none => []) ++
    (match u.fragment with
      | some f => '#' :: f
      | none => [])

end Web

end Url

/-- A URL. -/
inductive Url
  | web (page : Url.Web)
  | other (scheme : List Char)
  deriving DecidableEq

end Polyhierarchy

import Polyhierarchy.Url.Percent
/-!
# Form-encoded pairs

The query of a URL holds pairs of a key and a value. A blank is written as a plus sign, and all but
letters, digits and four signs are percent-encoded.

## Main definitions

* `Url.Form.read` — the pairs of a query. Bytes that are not UTF-8 are read as U+FFFD.
* `Url.Form.write` — the query of pairs, each with an equals sign.
-/

namespace Polyhierarchy.Url.Form

/-- A key and its value. -/
abbrev Pair := List Char × List Char

/-! ### Reading -/

/-- Cuts a text at every ampersand. -/
def splitPairs : List Char → List (List Char)
  | [] => [[]]
  | c :: cs =>
    match splitPairs cs with
    | [] => [[c]]
    | piece :: rest => if c = '&' then [] :: piece :: rest else (c :: piece) :: rest

/-- The text that an encoded text stands for. -/
def decode (s : List Char) : List Char :=
  Text.utf8Lossy (percentDecode (s.map fun c => if c = '+' then ' ' else c))

/-- The pair that a piece of a query stands for; without an equals sign the value is empty. -/
def readPair (s : List Char) : Pair :=
  let key := s.takeWhile (· != '=')
  (decode key, decode (s.drop (key.length + 1)))

/-- The pairs of a query; empty pieces are skipped. -/
def read (query : List Char) : List Pair :=
  ((splitPairs query).filter fun piece => !piece.isEmpty).map readPair

/-! ### Writing -/

/-- Whether a character is written as it is. -/
def isPlain (c : Char) : Bool := c.isAlphanum || c == '*' || c == '-' || c == '.' || c == '_'

/-- The written form of a text. -/
def encode (s : List Char) : List Char :=
  s.flatMap fun c =>
    if c = ' ' then ['+']
    else if isPlain c then [c]
    else (String.utf8EncodeChar c).flatMap percentByte

/-- The written form of a pair. -/
def writePair (p : Pair) : List Char := encode p.1 ++ '=' :: encode p.2

/-- The query of pairs. -/
def write (pairs : List Pair) : List Char := ['&'].intercalate (pairs.map writePair)

end Polyhierarchy.Url.Form

import Polyhierarchy.Text.Digits
import Polyhierarchy.Text.Utf8
/-!
# Percent encoding

A byte that may not stand in a part of a URL is written as a percent sign and two hexadecimal
digits.

## Main definitions

* `Url.percentEncode` — encodes the characters of a text that a test picks out.
* `Url.percentDecode` — the bytes of a text, with every encoded byte decoded. A percent sign that
  no two digits follow stands for itself.
* `Url.inUserInfo`, `Url.inPath`, `Url.inQuery` — which characters are encoded in which part.
-/

namespace Polyhierarchy.Url

/-- A byte as a percent sign and two digits. -/
def percentByte (b : UInt8) : List Char := '%' :: Text.upperHexPair b

/-- Encodes the characters that a test picks out, byte by byte. -/
def percentEncode (mustEncode : Char → Bool) (s : List Char) : List Char :=
  s.flatMap fun c => if mustEncode c then (String.utf8EncodeChar c).flatMap percentByte else [c]

/-- The byte that two hexadecimal digits denote. -/
def byteOf? (h l : UInt8) : Option UInt8 := do
  let h ← Text.hexValue? (Char.ofNat h.toNat)
  let l ← Text.hexValue? (Char.ofNat l.toNat)
  return UInt8.ofNat (16 * h + l)

/-- Decodes the bytes of a text. -/
def decodeBytes : List UInt8 → List UInt8
  | b :: h :: l :: rest =>
    match if b = 0x25 then byteOf? h l else none with
    | some c => c :: decodeBytes rest
    | none => b :: decodeBytes (h :: l :: rest)
  | bytes => bytes

/-- The bytes of a text, with every encoded byte decoded. -/
def percentDecode (s : List Char) : List UInt8 := decodeBytes (Text.utf8Bytes s)

/-! ### Which characters are encoded -/

/-- Controls and what is not in ASCII. -/
def isControl (c : Char) : Bool := c.toNat < 0x20 || 0x7F ≤ c.toNat

/-- Whether a character is encoded in a path. -/
def inPath (c : Char) : Bool :=
  isControl c || [' ', '"', '<', '>', '\x60', '#', '?', '\x7b', '\x7d'].contains c

/-- Whether a character is encoded in a user name or a password. -/
def inUserInfo (c : Char) : Bool :=
  inPath c || ['/', ':', ';', '=', '@', '[', '\\', ']', '^', '|'].contains c

/-- Whether a character is encoded in the query of a web address. -/
def inQuery (c : Char) : Bool := isControl c || [' ', '"', '#', '<', '>', '\''].contains c

/-- Whether a character is encoded in a fragment. -/
def inFragment (c : Char) : Bool := isControl c || [' ', '"', '<', '>', '\x60'].contains c

end Polyhierarchy.Url

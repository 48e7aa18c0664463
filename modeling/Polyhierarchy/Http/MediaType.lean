/-!
# Media types

The type of a body is named by two words with a slash between them, and parameters may follow. The
second word may end in a plus sign and a suffix, which names the format that the type builds on.

## Main definitions

* `Http.MediaType` — the words of a media type.
* `Http.MediaType.parse?` — reads a media type.
* `Http.MediaType.isJson` — whether bodies of the type are JSON.
-/

namespace Polyhierarchy.Http

/-- A media type without its parameters, in small letters. -/
structure MediaType where
  /-- The word before the slash. -/
  family : String
  /-- The word after the slash, without the suffix. -/
  format : String
  /-- The suffix after the last plus sign. -/
  suffix : Option String
  deriving DecidableEq

namespace MediaType

/-- Whether a character can be part of a word. -/
def isWordChar (c : Char) : Bool :=
  c.isAlphanum || "!#$%&'+-.^_\x60|~".toList.contains c

/-! ### Parameters -/

/-- Where in the parameters a reader is. -/
inductive Place
  | start
  | name
  | valueStart
  | value
  | quotedStart
  | quoted
  | quotedEnd
  deriving DecidableEq

/-- Whether the parameters may end at a place. -/
def Place.isEnd : Place → Bool
  | start | valueStart | value | quotedEnd => true
  | name | quotedStart | quoted => false

/-- Whether a character can stand between quotes. -/
def isQuotedChar (c : Char) : Bool := 0x20 ≤ c.toNat && c.toNat < 0x7F

/-- The place after a character, if the character fits. -/
def Place.next? (c : Char) : Place → Option Place
  | start => if c = ' ' then some start else if isWordChar c then some name else none
  | name => if c = '=' then some valueStart else if isWordChar c then some name else none
  | valueStart => if c = '"' then some quotedStart else if isWordChar c then some value else none
  | value => if c = ';' then some start else if isWordChar c then some value else none
  | quotedStart => if isQuotedChar c then some quoted else none
  | quoted => if c = '"' then some quotedEnd else if isQuotedChar c then some quoted else none
  | quotedEnd => if c = ';' then some start else if c = ' ' then some quotedEnd else none

/-- Whether a text is well-formed as the parameters of a media type. -/
def areParameters (s : List Char) : Bool :=
  ((s.foldlM (fun place c => Place.next? c place) Place.start).map Place.isEnd).getD false

/-! ### Reading -/

/-- A word in small letters. -/
def lowerWord (s : List Char) : String := String.ofList (s.map Char.toLower)

/-- Splits a word at its last plus sign, unless the word begins with it. -/
def splitSuffix (word : List Char) : List Char × Option (List Char) :=
  let suffix := (word.reverse.takeWhile (· != '+')).reverse
  let front := word.take (word.length - suffix.length - 1)
  if front.isEmpty then (word, none) else (front, some suffix)

/-- The media type that a text names. -/
def ofChars? (s : List Char) : Option MediaType :=
  let family := s.takeWhile isWordChar
  match s.dropWhile isWordChar with
  | '/' :: rest =>
    let word := rest.takeWhile isWordChar
    let wellFormed := match rest.dropWhile isWordChar with
      | [] => true
      | c :: parameters => (c == ';' || c == ' ') && areParameters parameters
    if family.isEmpty || word.isEmpty || !wellFormed then none
    else
      let (format, suffix) := splitSuffix word
      some ⟨lowerWord family, lowerWord format, suffix.map lowerWord⟩
  | _ => none

/-- The media type that a text names. -/
def parse? (s : String) : Option MediaType := ofChars? s.toList

/-- Whether bodies of the type are JSON. -/
def isJson (t : MediaType) : Bool :=
  t.family == "application" && (t.format == "json" || t.suffix == some "json")

end MediaType

end Polyhierarchy.Http

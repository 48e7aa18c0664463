import Polyhierarchy.Text.Composed
import Polyhierarchy.Text.Direction
import Polyhierarchy.Text.Joining
import Polyhierarchy.Text.Mark
import Polyhierarchy.Url.DomainMapping
import Polyhierarchy.Url.Percent
import Polyhierarchy.Url.Punycode
/-!
# Domain names

A domain name as it is typed is brought to the one form in ASCII that it is looked up under: its
characters are mapped, its labels are checked, and labels with other characters are encoded.

## Main definitions

* `Url.isForbiddenInDomain` — the ASCII characters that no domain name holds.
* `Url.Label` — a label with its readable characters.
* `Url.Label.isSound` — whether the characters of a label may stand where they do.
* `Url.Label.keepsDirection` — whether a label reads in one direction.
* `Url.domainToAscii?` — the form in ASCII of a domain name.

## Design

A name of ASCII characters without encoded labels is only lowered and checked for forbidden
characters; no table is consulted.
-/

namespace Polyhierarchy.Url

open Text (isAscii Direction direction)

/-- Whether an ASCII character may not stand in a domain name. -/
def isForbiddenInDomain (c : Char) : Bool :=
  c.toNat ≤ 0x20 || c.toNat == 0x7F ||
    ['%', '#', '/', ':', '<', '>', '?', '@', '[', '\\', ']', '^', '|'].contains c

/-- Cuts a text at every dot. -/
def splitDots : List Char → List (List Char)
  | [] => [[]]
  | c :: cs =>
    match splitDots cs with
    | [] => [[c]]
    | label :: rest => if c = '.' then [] :: label :: rest else (c :: label) :: rest

/-- Puts dots between labels. -/
def joinDots (labels : List (List Char)) : List Char := ['.'].intercalate labels

/-- What an encoded label begins with. -/
def encodedStart : List Char := ['x', 'n', '-', '-']

/-- A label of a domain name. -/
structure Label where
  /-- The readable characters. -/
  chars : List Char
  /-- The form in ASCII. -/
  ascii : List Char

/-! ### Soundness of a label -/

/-- Whether a joiner or non-joiner may stand between the characters before it, the nearest first,
and those after it. -/
def joinerFits (c : Char) (before after : List Char) : Bool :=
  (match before with
    | d :: _ => Text.isVirama d
    | [] => false) ||
  (c == '\u200c' &&
    (match before.dropWhile Text.isTransparent with
      | d :: _ => Text.joinsNext d
      | [] => false) &&
    (match after.dropWhile Text.isTransparent with
      | d :: _ => Text.joinsPrevious d
      | [] => false))

/-- Whether every joiner stands where it may, given the characters before, the nearest first. -/
def joinersFit : List Char → List Char → Bool
  | _, [] => true
  | before, c :: after =>
    (if c == '\u200c' || c == '\u200d' then joinerFits c before after else true) &&
      joinersFit (c :: before) after

/-- Whether the characters of a label may stand where they do: it does not begin with a mark, and
joiners stand between letters that join. -/
def Label.isSound (l : Label) : Bool :=
  l.chars.all isAscii ||
    ((match l.chars with
      | c :: _ => !Text.isMark c
      | [] => true) && joinersFit [] l.chars)

/-! ### Direction of a label -/

/-- Whether a character takes part in writing from right to left. -/
def isRightward (d : Direction) : Bool := d == .rightToLeft || d == .arabicNumber

/-- The classes of a label without the marks at its end, the last first. -/
def endingWith (ds : List Direction) : Option Direction :=
  (ds.reverse.dropWhile (· == .nonspacingMark)).head?

/-- Whether a label reads in one direction: from left to right, or from right to left with numbers
of one kind. -/
def Label.keepsDirection (l : Label) : Bool :=
  let ds := l.chars.map direction
  match ds with
  | [] => true
  | .leftToRight :: _ =>
    ds.all (fun d => !isRightward d) &&
      (match endingWith ds with
        | some d => d == .leftToRight || d == .europeanNumber
        | none => false)
  | .rightToLeft :: _ =>
    ds.all (fun d => d != .leftToRight) &&
      (match endingWith ds with
        | some d => isRightward d || d == .europeanNumber
        | none => false) &&
      !(ds.contains .europeanNumber && ds.contains .arabicNumber)
  | _ => false

/-! ### The form in ASCII -/

/-- The most characters that a label which needs encoding may have. -/
def encodableLength : Nat := 1000

/-- The most characters that an encoded label may have. -/
def decodableLength : Nat := 2000

/-- The label that an encoded label stands for, if it is one that encoding gives: with at least one
character outside ASCII, all of them kept by the mapping, and in composed form. -/
def decodeLabel? (s : List Char) : Option Label := do
  let encoded := s.drop encodedStart.length
  if decodableLength < encoded.length then none
  else
    let chars ← Punycode.decode? encoded
    let isFit (c : Char) : Bool := if isAscii c then !isForbiddenInDomain c else isKept c
    if !chars.all isAscii && chars.all isFit
        && Text.isComposed chars then
      some ⟨chars, s⟩
    else none

/-- The label that mapped characters make up. -/
def readLabel? (s : List Char) : Option Label :=
  if encodedStart.isPrefixOf s then
    if s.all isAscii then decodeLabel? s else none
  else if s.all isAscii then some ⟨s, s⟩
  else if encodableLength < s.length then none
  else some ⟨s, encodedStart ++ Punycode.encode s⟩

/-- The characters of a domain name once each is mapped and the whole is composed. -/
def mapDomain? (s : List Char) : Option (List Char) := do
  let mapped ← s.mapM mapChar
  let chars := Text.composed mapped.flatten
  if chars.any isForbiddenInDomain then none else some chars

/-- The form in ASCII of a domain name; `none` if the text is no domain name. -/
def domainToAscii? (s : List Char) : Option (List Char) := do
  let chars ← mapDomain? s
  let labels ← (splitDots chars).mapM readLabel?
  let isTwoWay := labels.any fun l =>
    !l.chars.all isAscii && (l.chars.map direction).any isRightward
  if labels.all Label.isSound && (!isTwoWay || labels.all Label.keepsDirection) then
    some (joinDots (labels.map (·.ascii)))
  else none

end Polyhierarchy.Url

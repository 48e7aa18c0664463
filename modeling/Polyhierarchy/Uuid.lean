import Polyhierarchy.Collection.Ranked
import Polyhierarchy.Text.Digits
/-!
# 128-bit identifiers

A UUID is a 128-bit number. It is written as 32 hexadecimal digits in groups of 8, 4, 4, 4 and 12
with hyphens between them, and read in four forms, in any letter case.

## Main definitions

* `Uuid` — the number; `Uuid.nil` is zero.
* `Uuid.toString` — the written form.
* `Uuid.parse?` — reads the plain digits, the hyphenated form, the hyphenated form in braces and
  the hyphenated form after `urn:uuid:`.
* `Uuid.bytes` — the sixteen bytes, the high byte first.
-/

namespace Polyhierarchy

/-- A 128-bit identifier. -/
structure Uuid where
  /-- The number. -/
  bits : BitVec 128
  deriving DecidableEq

namespace Uuid

/-- The identifier zero, which names nothing. -/
def nil : Uuid := ⟨0⟩

instance : Inhabited Uuid := ⟨nil⟩

/-- Identifiers are in order of their numbers. -/
instance : Ranked Uuid where
  rank u := u.bits.toNat
  rank_injective {a b} h := by
    cases a
    cases b
    exact congrArg Uuid.mk (BitVec.eq_of_toNat_eq h)

theorem rank_lt (u : Uuid) : rank u < Nat.pow 2 128 := u.bits.isLt

/-- Whether this is the identifier zero. -/
def isNil (u : Uuid) : Bool := u.bits == 0

/-- The sixteen bytes, the high byte first. -/
def bytes (u : Uuid) : List UInt8 :=
  (List.range 16).reverse.map fun i => UInt8.ofNat (u.bits.toNat / Nat.pow 256 i % 256)

/-! ### Writing -/

/-- Puts hyphens after the 8th, 12th, 16th and 20th digit. -/
def hyphenate (digits : List Char) : List Char :=
  digits.take 8 ++ '-' :: (digits.drop 8).take 4 ++ '-' :: (digits.drop 12).take 4 ++
    '-' :: (digits.drop 16).take 4 ++ '-' :: digits.drop 20

/-- The written form, as characters. -/
def toChars (u : Uuid) : List Char := hyphenate (Text.hexDigits 32 u.bits.toNat)

/-- The written form: hexadecimal digits with small letters in groups of 8, 4, 4, 4 and 12. -/
protected def toString (u : Uuid) : String := String.ofList u.toChars

instance : ToString Uuid := ⟨Uuid.toString⟩

/-! ### Reading -/

/-- The identifier that 32 hexadecimal digits denote. -/
def ofDigits? (s : List Char) : Option Uuid :=
  if s.length = 32 then
    (Text.numeral? 16 Text.hexValue? s).map fun n => ⟨BitVec.ofNat 128 n⟩
  else none

/-- The identifier that a text denotes whose hyphens stand exactly at the four places of the
written form. -/
def ofHyphenated? (s : List Char) : Option Uuid :=
  if s.map (· == '-') = (hyphenate (List.replicate 32 '0')).map (· == '-') then
    ofDigits? (s.filter (· != '-'))
  else none

/-- What follows a given text at the start of another. -/
def after? (start s : List Char) : Option (List Char) :=
  if s.take start.length = start then some (s.drop start.length) else none

/-- The inside of a text in braces. -/
def unbraced? (s : List Char) : Option (List Char) :=
  match s with
  | '\x7b' :: rest => if rest.getLast? = some '\x7d' then some rest.dropLast else none
  | _ => none

/-- The identifier that a text denotes: 32 digits, or the hyphenated form, which may stand in
braces or after `urn:uuid:` in small or in capital letters. -/
def ofChars? (s : List Char) : Option Uuid :=
  ofDigits? s
    <|> ofHyphenated? s
    <|> (unbraced? s).bind ofHyphenated?
    <|> (after? "urn:uuid:".toList s).bind ofHyphenated?
    <|> (after? "URN:UUID:".toList s).bind ofHyphenated?

/-- The identifier that a text denotes. -/
def parse? (s : String) : Option Uuid := ofChars? s.toList

end Uuid

end Polyhierarchy

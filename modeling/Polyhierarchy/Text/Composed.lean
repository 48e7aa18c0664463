import Polyhierarchy.Text.CombiningClass
import Polyhierarchy.Text.Decomposition
/-!
# Composed form

Texts that look the same may be written with different characters. In the composed form marks are
in the order of their classes, and a letter and its marks are one character wherever there is one.

## Main definitions

* `Text.decomposed` — the text with every character decomposed and the marks in order.
* `Text.composed` — the composed form of a text.
* `Text.isComposed` — whether a text is in composed form.

## Design

The syllables of Hangul are composed and decomposed by arithmetic; all else is in the table. A text
of ASCII characters is in composed form as it stands.
-/

namespace Polyhierarchy.Text

/-- Whether a character belongs to ASCII. -/
def isAscii (c : Char) : Bool := c.toNat < 0x80

/-! ### Hangul syllables -/

/-- The leading consonant, vowel and final consonant of a syllable, as code points. -/
def hangulParts (n : Nat) : List Nat :=
  let i := n - 0xAC00
  let lead := 0x1100 + i / 588
  let vowel := 0x1161 + i % 588 / 28
  if i % 28 = 0 then [lead, vowel] else [lead, vowel, 0x11A7 + i % 28]

/-- The syllable of a consonant and a vowel, or of such a syllable and a final consonant. -/
def hangulPair (a b : Nat) : Option Nat :=
  if 0x1100 ≤ a ∧ a < 0x1113 ∧ 0x1161 ≤ b ∧ b < 0x1176 then
    some (0xAC00 + ((a - 0x1100) * 21 + (b - 0x1161)) * 28)
  else if 0xAC00 ≤ a ∧ a < 0xD7A4 ∧ (a - 0xAC00) % 28 = 0 ∧ 0x11A7 < b ∧ b < 0x11C3 then
    some (a + (b - 0x11A7))
  else none

/-! ### Decomposition -/

/-- Decomposes a code point a number of steps deep. -/
def decomposeCode : Nat → Nat → List Nat
  | 0, n => [n]
  | depth + 1, n =>
    if 0xAC00 ≤ n ∧ n < 0xD7A4 then hangulParts n
    else match decomposeOnce n with
      | some parts => parts.flatMap (decomposeCode depth)
      | none => [n]

/-- The characters that a character decomposes into; no decomposition is deeper than four steps. -/
def decomposeChar (c : Char) : List Char :=
  if c.toNat < 0xC0 then [c] else (decomposeCode 4 c.toNat).map Char.ofNat

/-- Puts a mark behind the marks of its class or a lower one, from the end of a run of marks that is
given backwards. -/
def insertMark (c : Char) : List Char → List Char
  | [] => [c]
  | d :: run =>
    if combiningClass c < combiningClass d then d :: insertMark c run else c :: d :: run

/-- Puts the marks between characters of class zero in order of their classes, given the run of
marks so far backwards. -/
def orderMarks : List Char → List Char → List Char
  | run, [] => run.reverse
  | run, c :: cs =>
    if combiningClass c = 0 then run.reverse ++ c :: orderMarks [] cs
    else orderMarks (insertMark c run) cs

/-- The text with every character decomposed and the marks in order. -/
def decomposed (s : List Char) : List Char := orderMarks [] (s.flatMap decomposeChar)

/-! ### Composition -/

/-- The character that a pair of characters is composed to. -/
def composePair (a b : Char) : Option Char :=
  ((hangulPair a.toNat b.toNat) <|> composeOnce a.toNat b.toNat).map Char.ofNat

/-- Composes a text after a character that may still take marks, given the marks after it that
it did not take, backwards. -/
def composeAfter (base : Char) : List Char → List Char → List Char
  | skipped, [] => base :: skipped.reverse
  | skipped, c :: cs =>
    let isFree := match skipped with
      | [] => true
      | d :: _ => combiningClass d < combiningClass c
    match if isFree then composePair base c else none with
    | some joined => composeAfter joined skipped cs
    | none =>
      if combiningClass c = 0 then base :: skipped.reverse ++ composeAfter c [] cs
      else composeAfter base (c :: skipped) cs

/-- Composes a decomposed text. -/
def compose : List Char → List Char
  | [] => []
  | c :: cs => if combiningClass c = 0 then composeAfter c [] cs else c :: compose cs

/-- The composed form of a text. -/
def composed (s : List Char) : List Char := if s.all isAscii then s else compose (decomposed s)

/-- Whether a text is in composed form. -/
def isComposed (s : List Char) : Bool := composed s == s

end Polyhierarchy.Text

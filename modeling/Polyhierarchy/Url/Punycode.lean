/-!
# Punycode

A label of a domain name is written in ASCII: the ASCII characters first, then, after a hyphen, the
places of the others as one string of digits in base 36 with changing thresholds.

## Main definitions

* `Url.Punycode.decode?` — the characters of an encoded label.
* `Url.Punycode.encode` — the encoded form of a label.
-/

namespace Polyhierarchy.Url.Punycode

/-- The number of digits. -/
def base : Nat := 36

/-- The least threshold. -/
def leastThreshold : Nat := 1

/-- The greatest threshold. -/
def greatestThreshold : Nat := 26

/-- The first code point that is written by its place. -/
def firstCode : Nat := 0x80

/-- The bias before the first character. -/
def firstBias : Nat := 72

/-- Codes stay below this bound. -/
def bound : Nat := UInt32.size

/-- The threshold of the digit at a place, where places count up by the base. -/
def threshold (place bias : Nat) : Nat :=
  if place ≤ bias then leastThreshold
  else if bias + greatestThreshold ≤ place then greatestThreshold
  else place - bias

/-- Divides a distance until it is small, and counts up by the base. -/
def settle (delta k : Nat) : Nat :=
  if 455 < delta then settle (delta / 35) (k + base)
  else k + 36 * delta / (delta + 38)
termination_by delta

/-- The bias after a character that lay at a distance, when there are so many characters. -/
def adapt (delta count : Nat) (isFirst : Bool) : Nat :=
  let delta := if isFirst then delta / 700 else delta / 2
  settle (delta + delta / count) 0

/-- The value of a digit. -/
def digitValue? (c : Char) : Option Nat :=
  if 'a' ≤ c ∧ c ≤ 'z' then some (c.toNat - 'a'.toNat)
  else if 'A' ≤ c ∧ c ≤ 'Z' then some (c.toNat - 'A'.toNat)
  else if '0' ≤ c ∧ c ≤ '9' then some (c.toNat - '0'.toNat + 26)
  else none

/-- The digit of a value. -/
def digit (n : Nat) : Char :=
  if n < 26 then Char.ofNat ('a'.toNat + n) else Char.ofNat ('0'.toNat + (n - 26))

/-! ### Decoding -/

/-- Where decoding stands: the characters so far, the last code point, the place in the text that
is next, and the bias. -/
structure Cursor where
  /-- The characters so far. -/
  chars : List Char
  /-- The code point of the last character that was put in. -/
  code : Nat
  /-- The place at which the next character may go. -/
  place : Nat
  /-- The bias of the thresholds. -/
  bias : Nat

/-- Puts a character in, after a distance from where decoding stands. -/
def Cursor.insert? (s : Cursor) (delta : Nat) : Option Cursor :=
  let count := s.chars.length + 1
  let i := s.place + delta
  let code := s.code + i / count
  let place := i % count
  if h : code.isValidChar then
    some {
      chars := s.chars.take place ++ Char.ofNatAux code h :: s.chars.drop place
      code := code
      place := place + 1
      bias := adapt delta count (s.place == 0) }
  else none

/-- Reads the digits of the distances, given the distance, weight and place of the number that is
being read; `none` as its state means that no digit of it was read yet. -/
def digits : Cursor → Option (Nat × Nat × Nat) → List Char → Option Cursor
  | s, none, [] => some s
  | _, some _, [] => none
  | s, state, c :: rest => do
    let d ← digitValue? c
    let (delta, weight, place) := state.getD (0, 1, base)
    let delta := delta + d * weight
    let t := threshold place s.bias
    if bound ≤ delta then none
    else if d < t then digits (← s.insert? delta) none rest
    else digits s (some (delta, weight * (base - t), place + base)) rest

/-- The text before and after the last hyphen. If there is none, or if nothing stands before it, all
of the text is after: a hyphen at the front is no digit, so such a text is not read. -/
def splitBasic (s : List Char) : List Char × List Char :=
  let after := (s.reverse.takeWhile (· != '-')).reverse
  let basic := s.take (s.length - after.length - 1)
  if basic.isEmpty then ([], s) else (basic, after)

/-- The characters of an encoded label. -/
def decode? (s : List Char) : Option (List Char) :=
  let (basic, rest) := splitBasic s
  if basic.all fun c => c.toNat < firstCode then
    (digits ⟨basic, firstCode, 0, firstBias⟩ none rest).map Cursor.chars
  else none

/-! ### Encoding -/

/-- The digits of a distance. More digits than the distance has bits are never needed. -/
def writeNumber : Nat → Nat → Nat → Nat → List Char
  | 0, _, _, _ => []
  | steps + 1, q, place, bias =>
    let t := threshold place bias
    if q < t then [digit q]
    else
      digit (t + (q - t) % (base - t)) ::
        writeNumber steps ((q - t) / (base - t)) (place + base) bias

/-- Where encoding stands: the distance since the last character that was written, the number of
characters that are written, and the bias. -/
structure Pen where
  /-- The distance since the last character that was written. -/
  delta : Nat
  /-- How many characters are written. -/
  count : Nat
  /-- The bias of the thresholds. -/
  bias : Nat
  /-- The digits so far. -/
  digits : List Char

/-- Goes over a character of the label while the characters of one code point are written. -/
def Pen.step (code firstCount : Nat) (p : Pen) (c : Char) : Pen :=
  if c.toNat < code then { p with delta := p.delta + 1 }
  else if c.toNat = code then
    { delta := 0
      count := p.count + 1
      bias := adapt p.delta (p.count + 1) (p.count == firstCount)
      digits := p.digits ++ writeNumber 64 p.delta base p.bias }
  else p

/-- Writes the characters of the given code points, in ascending order, of which the last one
written is given. -/
def writeCodes (label : List Char) (firstCount : Nat) : Nat → Pen → List Nat → Pen
  | _, p, [] => p
  | last, p, code :: codes =>
    let p := { p with delta := p.delta + (code - last) * (p.count + 1) }
    let p := label.foldl (Pen.step code firstCount) p
    writeCodes label firstCount (code + 1) { p with delta := p.delta + 1 } codes

/-- The encoded form of a label. -/
def encode (label : List Char) : List Char :=
  let basic := label.filter fun c => c.toNat < firstCode
  let codes := ((label.filter fun c => firstCode ≤ c.toNat).map Char.toNat).mergeSort.eraseDups
  let pen := writeCodes label basic.length firstCode ⟨0, basic.length, firstBias, []⟩ codes
  (if basic.isEmpty then [] else basic ++ ['-']) ++ pen.digits

end Polyhierarchy.Url.Punycode

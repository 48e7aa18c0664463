import Polyhierarchy.Text.Digits
import Polyhierarchy.Url.Domain
/-!
# Addresses of eight pieces

An address of eight pieces of sixteen bits is written as hexadecimal numerals with colons between
them. One run of zero pieces may be left out between two colons, and the last two pieces may be
written as four decimal bytes.

## Main definitions

* `Url.Ipv6.parse?` — the address that a text denotes.
* `Url.Ipv6.toChars` — the written form, in which the first longest run of at least two zero pieces
  is left out.
-/

namespace Polyhierarchy.Url

/-- An address of eight pieces. -/
structure Ipv6 where
  /-- The pieces. -/
  pieces : List Nat
  deriving DecidableEq

namespace Ipv6

/-- Cuts a text at every colon. -/
def splitColons : List Char → List (List Char)
  | [] => [[]]
  | c :: cs =>
    match splitColons cs with
    | [] => [[c]]
    | piece :: rest => if c = ':' then [] :: piece :: rest else (c :: piece) :: rest

/-- The piece that up to four hexadecimal digits denote. -/
def piece? (s : List Char) : Option Nat :=
  if s.isEmpty || 4 < s.length then none else Text.numeral? 16 Text.hexValue? s

/-- The byte that decimal digits denote; a zero has no further digits. -/
def byte? (s : List Char) : Option Nat := do
  let n ← Text.natOfDigits? s
  if n < 256 ∧ (s.length = 1 ∨ s.head? ≠ some '0') then some n else none

/-- The two pieces that four decimal bytes stand for. -/
def dotted? (s : List Char) : Option (List Nat) := do
  match ← (splitDots s).mapM byte? with
  | [a, b, c, d] => some [a * 256 + b, c * 256 + d]
  | _ => none

/-- The pieces that lie on one side of a gap; none if the side is empty. Decimal bytes may stand at
the end of the address only. -/
def side? (isLast : Bool) (s : List Char) : Option (List Nat) :=
  if s.isEmpty then some []
  else
    let parts := splitColons s
    match parts.getLast? with
    | none => none
    | some last => do
      let front ← parts.dropLast.mapM piece?
      let back ← if isLast && last.contains '.' then dotted? last else (piece? last).map ([·])
      return front ++ back

/-- The text before and after the first two colons in a row. -/
def splitGap : List Char → Option (List Char × List Char)
  | ':' :: ':' :: rest => some ([], rest)
  | c :: rest => (splitGap rest).map fun (a, b) => (c :: a, b)
  | [] => none

/-- The address that a text denotes. -/
def parse? (s : List Char) : Option Ipv6 := do
  match splitGap s with
  | some (left, right) =>
    let before ← side? false left
    let after ← side? true right
    if before.length + after.length ≤ 7 then
      some ⟨before ++ List.replicate (8 - before.length - after.length) 0 ++ after⟩
    else none
  | none =>
    let pieces ← side? true s
    if pieces.length = 8 then some ⟨pieces⟩ else none

/-! ### Writing -/

/-- The length of the run of zeros that a list starts with. -/
def zeroRun (pieces : List Nat) : Nat := (pieces.takeWhile (· == 0)).length

/-- The place and length of the first longest run of zeros, given the place of the list. -/
def longestGap : Nat → List Nat → Nat × Nat
  | _, [] => (0, 0)
  | i, p :: ps =>
    let here := zeroRun (p :: ps)
    let later := longestGap (i + 1) ps
    if later.2 ≤ here then (i, here) else later

/-- Pieces in base sixteen with colons between them. -/
def colons (pieces : List Nat) : List Char := [':'].intercalate (pieces.map Text.lowerHex)

/-- The written form. -/
def toChars (a : Ipv6) : List Char :=
  let (start, length) := longestGap 0 a.pieces
  if length < 2 then colons a.pieces
  else colons (a.pieces.take start) ++ [':', ':'] ++ colons (a.pieces.drop (start + length))

end Ipv6

end Polyhierarchy.Url

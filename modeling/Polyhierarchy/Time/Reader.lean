import Polyhierarchy.Time.Instant
import Polyhierarchy.Text.WhiteSpace
/-!
# Reading instants

An instant is read from a date, a time of day and an offset from universal time, such as
`1969-07-20T20:17:40Z`. The reader is lenient about white space between the parts, about missing
leading zeros, and about the separators inside the offset.

## Main definitions

* `Instant.parse?` — the instant that a text denotes.

## Design

A reader of a part takes the characters that are left, and gives a value and the rest.
-/

namespace Polyhierarchy.Time

/-- A reader of a part of a text: a value and the characters after it. -/
abbrev Part (α : Type) := List Char → Option (α × List Char)

/-- The text without the white space it starts with. -/
def skipSpace (s : List Char) : List Char := s.dropWhile Text.isWhiteSpace

/-- Reads at least one and at most `most` decimal digits; all that follow, if there is no bound. -/
def digits (most : Option Nat) : Part Nat := fun s =>
  let run := s.takeWhile (fun c => (Text.digitValue? c).isSome)
  let taken := match most with
    | some n => run.take n
    | none => run
  (Text.natOfDigits? taken).map fun n => (n, s.drop taken.length)

/-- Reads a year: four digits at most, or a sign and any number of digits. -/
def year : Part Int := fun s =>
  match s with
  | '-' :: rest => (digits none rest).map fun (n, r) => (-(n : Int), r)
  | '+' :: rest => (digits none rest).map fun (n, r) => ((n : Int), r)
  | _ => (digits (some 4) s).map fun (n, r) => ((n : Int), r)

/-- Skips a character that has to come next. -/
def literal (c : Char) : List Char → Option (List Char)
  | d :: rest => if d = c then some rest else none
  | [] => none

/-- Reads a date: year, month and day with hyphens between them. -/
def date : Part Date := fun s => do
  let (y, s) ← year (skipSpace s)
  let s ← literal '-' (skipSpace s)
  let (m, s) ← digits (some 2) (skipSpace s)
  let s ← literal '-' (skipSpace s)
  let (d, s) ← digits (some 2) (skipSpace s)
  let date : Date := ⟨y, m, d⟩
  if date.isValid then some (date, s) else none

/-- Reads a fraction of a second as nanoseconds; digits after the ninth are dropped, and without a
point the fraction is zero. -/
def fraction : Part Nat := fun s =>
  match s with
  | '.' :: rest =>
    let run := rest.takeWhile fun c => (Text.digitValue? c).isSome
    let kept := run.take 9
    (Text.natOfDigits? kept).map fun n => (n * Nat.pow 10 (9 - kept.length), rest.drop run.length)
  | _ => some (0, s)

/-- Reads a time of day as seconds and nanoseconds. The second 60 is a leap second. -/
def timeOfDay : Part (Nat × Nat) := fun s => do
  let (h, s) ← digits (some 2) (skipSpace s)
  let s ← literal ':' (skipSpace s)
  let (m, s) ← digits (some 2) (skipSpace s)
  let s ← literal ':' (skipSpace s)
  let (sec, s) ← digits (some 2) (skipSpace s)
  let (nanos, s) ← fraction s
  if h ≤ 23 ∧ m ≤ 59 ∧ sec ≤ 60 then
    if sec = 60 then some ((h * 3600 + m * 60 + 59, 1000000000 + nanos), s)
    else some ((h * 3600 + m * 60 + sec, nanos), s)
  else none

/-- Reads two decimal digits. -/
def twoDigits : Part Nat
  | a :: b :: rest => do
    let x ← Text.digitValue? a
    let y ← Text.digitValue? b
    return (10 * x + y, rest)
  | _ => none

/-- The sign that an offset starts with: whether it is negative. -/
def offsetSign : Part Bool
  | '+' :: rest => some (false, rest)
  | '-' :: rest => some (true, rest)
  | '\u2212' :: rest => some (true, rest)
  | _ => none

/-- Reads an offset from universal time, in seconds: `Z`, `UTC`, or a sign, hours and minutes. -/
def offset : Part Int := fun s =>
  if (s.take 3).map Char.toUpper = ['U', 'T', 'C'] then some (0, s.drop 3)
  else match s with
    | 'Z' :: rest => some (0, rest)
    | 'z' :: rest => some (0, rest)
    | _ => do
      let (negative, s) ← offsetSign s
      let (h, s) ← twoDigits s
      let s := s.dropWhile fun c => c == ':' || Text.isWhiteSpace c
      let (m, s) ← twoDigits s
      if h ≤ 23 ∧ m ≤ 59 then
        let seconds : Int := h * 3600 + m * 60
        some (if negative then -seconds else seconds, s)
      else none

/-- The first year that instants may lie in. -/
def firstYear : Int := -262143

/-- The last year that instants may lie in. -/
def lastYear : Int := 262142

/-- Whether the year of a date lies within the bounds. -/
def Date.inBounds (d : Date) : Bool := firstYear ≤ d.year && d.year ≤ lastYear

end Polyhierarchy.Time

namespace Polyhierarchy

/-- The instant that a text denotes. -/
def Instant.parse? (s : String) : Option Instant := do
  let (date, s) ← Time.date s.toList
  let s ← match s with
    | 'T' :: rest => some rest
    | 't' :: rest => some rest
    | ' ' :: rest => some rest
    | _ => none
  let ((seconds, nanos), s) ← Time.timeOfDay s
  let (offset, s) ← Time.offset (Time.skipSpace s)
  let t : Instant := ⟨date.toDay * 86400 + seconds - offset, nanos⟩
  if (Time.skipSpace s).isEmpty && date.inBounds && t.date.inBounds then some t else none

end Polyhierarchy

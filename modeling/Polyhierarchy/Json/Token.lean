import Polyhierarchy.Text.Digits
/-!
# JSON tokens

A JSON text is a sequence of tokens with blanks between them: brackets, separators and scalars.

## Main definitions

* `Json.Token` — brackets, separators and scalars.
* `Json.nextToken` — the token that a text starts with, and the rest of the text.

## Design

A string whose escapes name no character, and a number too large for any floating-point number,
are tokens: they may stand where their value is ignored. `Json.Token.valueless` is such a scalar.
-/

namespace Polyhierarchy.Json

/-- A token of a JSON text. -/
inductive Token
  | openArray
  | closeArray
  | openObject
  | closeObject
  | comma
  | colon
  | null
  | bool (value : Bool)
  | int (value : Int)
  | decimal
  | string (value : String)
  | valueless (quoted : Bool)

/-! ### Strings -/

/-- The number that four hexadecimal digits denote. -/
def hexQuad (s : List Char) : Option Nat :=
  if s.length = 4 then Text.numeral? 16 Text.hexValue? s else none

/-- The character of an escape of one letter. -/
def escapedChar? : Char → Option Char
  | '"' => some '"'
  | '\\' => some '\\'
  | '/' => some '/'
  | 'b' => some '\x08'
  | 'f' => some '\x0c'
  | 'n' => some '\n'
  | 'r' => some '\r'
  | 't' => some '\t'
  | _ => none

/-- One piece of a string. -/
inductive Piece
  | char (c : Char)
  | unit (code : Nat)

/-- Reads the pieces of a string up to the closing quote; `none` if the string does not end or
holds a control character or an unknown escape. -/
def pieces : List Char → Option (List Piece × List Char)
  | [] => none
  | '"' :: rest => some ([], rest)
  | '\\' :: 'u' :: a :: b :: c :: d :: rest => do
    let code ← hexQuad [a, b, c, d]
    let (ps, rest) ← pieces rest
    return (.unit code :: ps, rest)
  | '\\' :: e :: rest => do
    let c ← escapedChar? e
    let (ps, rest) ← pieces rest
    return (.char c :: ps, rest)
  | c :: rest =>
    if c.toNat < 0x20 then none
    else do
      let (ps, rest) ← pieces rest
      return (.char c :: ps, rest)

/-- Whether a 16-bit code is the first half of a pair. -/
def isHighHalf (n : Nat) : Bool := 0xD800 ≤ n && n < 0xDC00

/-- Whether a 16-bit code is the second half of a pair. -/
def isLowHalf (n : Nat) : Bool := 0xDC00 ≤ n && n < 0xE000

/-- The characters of the pieces: two halves that follow each other make one character, and a half
without its partner makes none. -/
def assemble : List Piece → Option (List Char)
  | [] => some []
  | .char c :: rest => (assemble rest).map (c :: ·)
  | .unit n :: rest =>
    if isHighHalf n then
      match rest with
      | .unit m :: rest =>
        if isLowHalf m then
          (assemble rest).map
            (Char.ofNat (0x10000 + (n - 0xD800) * 0x400 + (m - 0xDC00)) :: ·)
        else none
      | _ => none
    else if isLowHalf n then none
    else (assemble rest).map (Char.ofNat n :: ·)

/-! ### Numbers -/

/-- The digits that a text starts with, and the rest. -/
def digitRun (s : List Char) : List Char × List Char :=
  (s.takeWhile Char.isDigit, s.dropWhile Char.isDigit)

/-- The parts of a number, as they are written. -/
structure Numeral where
  /-- Whether there is a minus sign. -/
  negative : Bool
  /-- The digits before the point. -/
  whole : List Char
  /-- The digits after the point, if there is one. -/
  fraction : Option (List Char)
  /-- The exponent, if there is one: whether it is negative, and its digits. -/
  exponent : Option (Bool × List Char)

/-- Reads the fraction of a number. -/
def readFraction (s : List Char) : Option (Option (List Char) × List Char) :=
  match s with
  | '.' :: rest =>
    let (ds, rest) := digitRun rest
    if ds.isEmpty then none else some (some ds, rest)
  | _ => some (none, s)

/-- Reads the exponent of a number. -/
def readExponent (s : List Char) : Option (Option (Bool × List Char) × List Char) :=
  match s with
  | c :: rest =>
    if c = 'e' ∨ c = 'E' then
      let (negative, rest) := match rest with
        | '-' :: r => (true, r)
        | '+' :: r => (false, r)
        | _ => (false, rest)
      let (ds, rest) := digitRun rest
      if ds.isEmpty then none else some (some (negative, ds), rest)
    else some (none, s)
  | [] => some (none, s)

/-- Reads a number; a zero is not followed by further digits. -/
def readNumeral (s : List Char) : Option (Numeral × List Char) := do
  let (negative, s) := match s with
    | '-' :: r => (true, r)
    | _ => (false, s)
  let (whole, s) := digitRun s
  if whole.isEmpty || (whole.length > 1 && whole.head? == some '0') then none
  else
    let (fraction, s) ← readFraction s
    let (exponent, s) ← readExponent s
    return (⟨negative, whole, fraction, exponent⟩, s)

/-- The number that a run of decimal digits denotes. -/
def natOf (ds : List Char) : Nat := (Text.natOfDigits? ds).getD 0

/-- Whether a number is so large that the nearest floating-point number would be infinite: it is
at least halfway from the largest one of 64 bits to the next power of two. -/
def Numeral.isOversized (n : Numeral) : Bool :=
  let fraction := n.fraction.getD []
  let mantissa := natOf (n.whole ++ fraction)
  let exponent : Int := match n.exponent with
    | some (negative, ds) => if negative then -(natOf ds : Int) else natOf ds
    | none => 0
  let scale := exponent - fraction.length
  if mantissa = 0 then false
  else if (n.whole.length + fraction.length : Int) + scale < 300 then false
  else if scale > 400 then true
  else
    let bound := Nat.pow 2 1024 - Nat.pow 2 970
    if 0 ≤ scale then bound ≤ mantissa * Nat.pow 10 scale.toNat
    else bound * Nat.pow 10 (-scale).toNat ≤ mantissa

/-- The token of a number: an integer if it has neither fraction nor exponent and is no negative
zero. -/
def Numeral.token (n : Numeral) : Token :=
  if n.isOversized then .valueless false
  else if n.fraction.isNone && n.exponent.isNone && !(n.negative && natOf n.whole == 0) then
    .int (if n.negative then -(natOf n.whole : Int) else natOf n.whole)
  else .decimal

/-! ### Texts -/

/-- Whether a character may stand between tokens. -/
def isBlank (c : Char) : Bool := c == ' ' || c == '\n' || c == '\t' || c == '\r'

/-- The rest of a text after a word that it has to start with. -/
def afterWord? (word s : List Char) : Option (List Char) :=
  if s.take word.length = word then some (s.drop word.length) else none

/-- The token that a text starts with, and the rest; `none` where no token begins. -/
def nextToken : List Char → Option (Token × List Char)
  | [] => none
  | '[' :: rest => some (.openArray, rest)
  | ']' :: rest => some (.closeArray, rest)
  | '\x7b' :: rest => some (.openObject, rest)
  | '\x7d' :: rest => some (.closeObject, rest)
  | ',' :: rest => some (.comma, rest)
  | ':' :: rest => some (.colon, rest)
  | '"' :: rest => (pieces rest).map fun (ps, rest) =>
    match assemble ps with
    | some cs => (.string (String.ofList cs), rest)
    | none => (.valueless true, rest)
  | 'n' :: rest => (afterWord? "ull".toList rest).map fun r => (.null, r)
  | 't' :: rest => (afterWord? "rue".toList rest).map fun r => (.bool true, r)
  | 'f' :: rest => (afterWord? "alse".toList rest).map fun r => (.bool false, r)
  | s => (readNumeral s).map fun (n, rest) => (n.token, rest)

end Polyhierarchy.Json

/-!
# Digits

Numbers written and read in base ten and base sixteen.

## Main definitions

* `Text.lowerHex` — the shortest hexadecimal numeral, with small letters.
* `Text.upperHexPair` — a byte as two hexadecimal digits, with capital letters.
* `Text.hexValue?` — the value of a hexadecimal digit, in any letter case.
* `Text.codeOf` — the number of a hexadecimal numeral.
* `Text.decimal`, `Text.decimalPadded` — decimal numerals.
* `Text.natOfDigits?` — the number that a non-empty run of decimal digits denotes.
* `Text.natBelow?` — the number that a decimal numeral denotes, if it is below a bound.
-/

namespace Polyhierarchy.Text

/-- The digit of a number below sixteen, with small letters. -/
def lowerHexDigit (n : Nat) : Char :=
  if n < 10 then Char.ofNat ('0'.toNat + n) else Char.ofNat ('a'.toNat + (n - 10))

/-- The digit of a number below sixteen, with capital letters. -/
def upperHexDigit (n : Nat) : Char :=
  if n < 10 then Char.ofNat ('0'.toNat + n) else Char.ofNat ('A'.toNat + (n - 10))

/-- The hexadecimal numeral of a number, as many digits as are asked for. -/
def hexDigits (width : Nat) (n : Nat) : List Char :=
  (List.range width).reverse.map fun i => lowerHexDigit (n / Nat.pow 16 i % 16)

/-- The number of hexadecimal digits of a number, at least one. -/
def hexWidth (n : Nat) : Nat := if n < 16 then 1 else hexWidth (n / 16) + 1
termination_by n

/-- The shortest hexadecimal numeral of a number, with small letters. -/
def lowerHex (n : Nat) : List Char := hexDigits (hexWidth n) n

/-- A byte as two hexadecimal digits, with capital letters. -/
def upperHexPair (b : UInt8) : List Char :=
  [upperHexDigit (b.toNat / 16), upperHexDigit (b.toNat % 16)]

/-- The value of a hexadecimal digit, in any letter case. -/
def hexValue? (c : Char) : Option Nat :=
  if '0' ≤ c ∧ c ≤ '9' then some (c.toNat - '0'.toNat)
  else if 'a' ≤ c ∧ c ≤ 'f' then some (c.toNat - 'a'.toNat + 10)
  else if 'A' ≤ c ∧ c ≤ 'F' then some (c.toNat - 'A'.toNat + 10)
  else none

/-- The value of a decimal digit. -/
def digitValue? (c : Char) : Option Nat :=
  if '0' ≤ c ∧ c ≤ '9' then some (c.toNat - '0'.toNat) else none

/-- The value of a run of digits, given a reader of single digits and the base. -/
def numeral? (base : Nat) (digit? : Char → Option Nat) (s : List Char) : Option Nat :=
  s.foldl (fun acc c => do return (← acc) * base + (← digit? c)) (some 0)

/-- The number that a non-empty run of decimal digits denotes. -/
def natOfDigits? (s : List Char) : Option Nat :=
  if s.isEmpty then none else numeral? 10 digitValue? s

/-- The number that a decimal numeral denotes, if it is below a bound. A plus sign and zeros may
stand in front. -/
def natBelow? (bound : Nat) (s : List Char) : Option Nat :=
  let digits := match s with
    | '+' :: rest => rest
    | _ => s
  (natOfDigits? digits).filter (· < bound)

/-- The number that a hexadecimal numeral denotes; zero for any other text. -/
def codeOf (s : List Char) : Nat := (numeral? 16 hexValue? s).getD 0

/-- The decimal numeral of a number. -/
def decimal (n : Nat) : List Char := (Nat.toDigits 10 n)

/-- The decimal numeral of a number with zeros in front up to a width. -/
def decimalPadded (width : Nat) (n : Nat) : List Char :=
  let digits := decimal n
  List.replicate (width - digits.length) '0' ++ digits

end Polyhierarchy.Text

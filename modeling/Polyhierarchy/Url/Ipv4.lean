import Polyhierarchy.Text.Digits
import Polyhierarchy.Url.Domain
/-!
# Addresses of four bytes

A host whose last part is a number is an address of four bytes. Its parts may be written in base
ten, eight or sixteen, and the last one stands for all bytes that are left.

## Main definitions

* `Url.endsInNumber` — whether a host is an address of four bytes, well-formed or not.
* `Url.Ipv4.parse?` — the address.
* `Url.Ipv4.toChars` — its written form, four decimal numbers.
-/

namespace Polyhierarchy.Url

/-- An address of four bytes. -/
structure Ipv4 where
  /-- The number. -/
  bits : BitVec 32
  deriving DecidableEq

namespace Ipv4

/-- The number that a part of an address denotes, of any size: hexadecimal after `0x`, octal after
`0`, else decimal. -/
def part? (s : List Char) : Option Nat :=
  match s with
  | [] => none
  | '0' :: 'x' :: ds => Text.numeral? 16 Text.hexValue? ds
  | '0' :: 'X' :: ds => Text.numeral? 16 Text.hexValue? ds
  | '0' :: d :: ds =>
    Text.numeral? 8 (fun c => (Text.digitValue? c).filter (· < 8)) (d :: ds)
  | ds => Text.numeral? 10 Text.digitValue? ds

/-- The parts of a host, without the empty one after a dot at the end. -/
def partsOf (s : List Char) : List (List Char) :=
  let parts := splitDots s
  if parts.getLast? = some [] then parts.dropLast else parts

/-- The address that a host denotes. -/
def parse? (s : List Char) : Option Ipv4 := do
  let numbers ← (partsOf s).mapM part?
  let leading := numbers.dropLast
  let last ← numbers.getLast?
  if numbers.length ≤ 4 ∧ leading.all (· < 256) ∧ last < Nat.pow 256 (4 - leading.length) then
    let high := leading.zipIdx.foldl (fun high (n, i) => high + n * Nat.pow 256 (3 - i)) 0
    some ⟨BitVec.ofNat 32 (high + last)⟩
  else none

/-- The written form: the four bytes in base ten. -/
def toChars (a : Ipv4) : List Char :=
  joinDots ([3, 2, 1, 0].map fun i => Text.decimal (a.bits.toNat / Nat.pow 256 i % 256))

end Ipv4

/-- Whether the last part of a host, one empty part at the end aside, is a number. -/
def endsInNumber (s : List Char) : Bool :=
  match (Ipv4.partsOf s).getLast? with
  | none => false
  | some last => (!last.isEmpty && last.all Char.isDigit) || (Ipv4.part? last).isSome

end Polyhierarchy.Url

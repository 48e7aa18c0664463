/-!
# XXH64 of short keys

A fast 64-bit hash with good mixing, for keys of fewer than 32 bytes: whole words of eight bytes
are mixed first, then a half word of four, then single bytes, and an avalanche step ends it.

## Main definitions

* `Hash.Xxh64.hash` — the hash of a key of fewer than 32 bytes, for a seed.
-/

namespace Polyhierarchy.Hash.Xxh64

/-- The first of the five odd multipliers. -/
def prime1 : UInt64 := 0x9E3779B185EBCA87

/-- The second multiplier. -/
def prime2 : UInt64 := 0xC2B2AE3D27D4EB4F

/-- The third multiplier. -/
def prime3 : UInt64 := 0x165667B19E3779F9

/-- The fourth multiplier. -/
def prime4 : UInt64 := 0x85EBCA77C2B2AE63

/-- The fifth multiplier. -/
def prime5 : UInt64 := 0x27D4EB2F165667C5

/-- Rotation of a word to the left. -/
def rotateLeft (x : UInt64) (n : UInt64) : UInt64 := (x <<< n) ||| (x >>> (64 - n))

/-- The number that bytes denote, the low byte first. -/
def littleEndian (bytes : List UInt8) : UInt64 :=
  bytes.foldr (fun b acc => (acc <<< 8) ||| b.toUInt64) 0

/-- Mixes the bytes that remain, the longest pieces first. -/
def mix : UInt64 → List UInt8 → UInt64
  | acc, b0 :: b1 :: b2 :: b3 :: b4 :: b5 :: b6 :: b7 :: rest =>
    let lane := rotateLeft (littleEndian [b0, b1, b2, b3, b4, b5, b6, b7] * prime2) 31 * prime1
    mix (rotateLeft (acc ^^^ lane) 27 * prime1 + prime4) rest
  | acc, b0 :: b1 :: b2 :: b3 :: rest =>
    mix (rotateLeft (acc ^^^ (littleEndian [b0, b1, b2, b3] * prime1)) 23 * prime2 + prime3) rest
  | acc, b :: rest => mix (rotateLeft (acc ^^^ (b.toUInt64 * prime5)) 11 * prime1) rest
  | acc, [] => acc

/-- Spreads every bit of the state over the whole word. -/
def avalanche (x : UInt64) : UInt64 :=
  let x := (x ^^^ (x >>> 33)) * prime2
  let x := (x ^^^ (x >>> 29)) * prime3
  x ^^^ (x >>> 32)

/-- The hash of a key of fewer than 32 bytes. -/
def hash (seed : UInt64) (key : List UInt8) : UInt64 :=
  avalanche (mix (seed + prime5 + UInt64.ofNat key.length) key)

end Polyhierarchy.Hash.Xxh64

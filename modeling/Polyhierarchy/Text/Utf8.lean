/-!
# UTF-8

Bytes that may not be UTF-8 are decoded piece by piece: a piece is a character, or the longest run
of bytes that begins like a character but is not continued like one.

## Main definitions

* `Text.utf8Bytes` — the bytes of a text.
* `Text.utf8Pieces` — the characters of bytes, `none` for each piece that is no character.
* `Text.utf8Lossy` — the characters, with U+FFFD for each piece that is none.
* `Text.utf8Strict?` — the characters, if all pieces are.
-/

namespace Polyhierarchy.Text

/-- The bytes of a text in UTF-8. -/
def utf8Bytes (s : List Char) : List UInt8 := s.flatMap String.utf8EncodeChar

/-- Whether a byte continues a character. -/
def isContinuation (b : UInt8) : Bool := 0x80 ≤ b && b ≤ 0xBF

/-- Which bytes may come second after a given first byte. -/
def secondFits (first second : UInt8) : Bool :=
  if first == 0xE0 then 0xA0 ≤ second && second ≤ 0xBF
  else if first == 0xED then 0x80 ≤ second && second ≤ 0x9F
  else if first == 0xF0 then 0x90 ≤ second && second ≤ 0xBF
  else if first == 0xF4 then 0x80 ≤ second && second ≤ 0x8F
  else isContinuation second

/-- The number of bytes of the character that a first byte begins; zero if it begins none. -/
def pieceLength (first : UInt8) : Nat :=
  if first < 0x80 then 1
  else if 0xC2 ≤ first && first ≤ 0xDF then 2
  else if 0xE0 ≤ first && first ≤ 0xEF then 3
  else if 0xF0 ≤ first && first ≤ 0xF4 then 4
  else 0

/-- How many of the bytes after the first one belong to its piece. -/
def continued (first : UInt8) (rest : List UInt8) : Nat :=
  match pieceLength first, rest with
  | 2, b :: _ => if secondFits first b then 1 else 0
  | 3, b :: c :: _ => if secondFits first b then (if isContinuation c then 2 else 1) else 0
  | 3, [b] => if secondFits first b then 1 else 0
  | 4, b :: c :: d :: _ =>
    if secondFits first b then
      (if isContinuation c then (if isContinuation d then 3 else 2) else 1)
    else 0
  | 4, [b, c] => if secondFits first b then (if isContinuation c then 2 else 1) else 0
  | 4, [b] => if secondFits first b then 1 else 0
  | _, _ => 0

/-- The character of a first byte and the bytes that continue it. -/
def charOfBytes (first : UInt8) (more : List UInt8) : Char :=
  let lead := match more.length with
    | 0 => first.toNat
    | 1 => first.toNat % 32
    | 2 => first.toNat % 16
    | _ => first.toNat % 8
  Char.ofNat (more.foldl (fun acc b => acc * 64 + b.toNat % 64) lead)

/-- The pieces of bytes: a character, or `none` for a piece that is no character. -/
def utf8Pieces : List UInt8 → List (Option Char)
  | [] => []
  | first :: rest =>
    let n := continued first rest
    (if pieceLength first = n + 1 then some (charOfBytes first (rest.take n)) else none) ::
      utf8Pieces (rest.drop n)
termination_by bytes => bytes.length
decreasing_by simp only [List.length_drop, List.length_cons]; omega

/-- The characters of bytes, with U+FFFD for each piece that is no character. -/
def utf8Lossy (bytes : List UInt8) : List Char := (utf8Pieces bytes).map fun c => c.getD '\ufffd'

/-- The characters of bytes, if every piece is a character. -/
def utf8Strict? (bytes : List UInt8) : Option (List Char) :=
  (utf8Pieces bytes).foldr (fun c acc => do return (← c) :: (← acc)) (some [])

end Polyhierarchy.Text

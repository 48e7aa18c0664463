/-!
# White space

White space is the Unicode property White_Space. Texts are trimmed of it, and cut into words at it.

## Main definitions

* `Text.isWhiteSpace` — the property White_Space.
* `Text.isAsciiSpace` — the six blanks of ASCII.
* `Text.trim` — a text without the white space at both ends.
* `Text.collapse` — each run of ASCII blanks becomes one space.
* `Text.runs` — the maximal runs of characters that satisfy a test.
* `Text.words` — the maximal runs of characters that are not white space.
-/

namespace Polyhierarchy.Text

/-- The Unicode property White_Space. -/
def isWhiteSpace (c : Char) : Bool :=
  let n := c.toNat
  (0x09 ≤ n && n ≤ 0x0D) || n == 0x20 || n == 0x85 || n == 0xA0 || n == 0x1680 ||
    (0x2000 ≤ n && n ≤ 0x200A) || n == 0x2028 || n == 0x2029 || n == 0x202F || n == 0x205F ||
    n == 0x3000

/-- The blanks of ASCII: the space, and tabulator to carriage return. -/
def isAsciiSpace (c : Char) : Bool := c.toNat == 0x20 || (0x09 ≤ c.toNat && c.toNat ≤ 0x0D)

/-- The text without the characters at its two ends that satisfy a test. -/
def trimBy (p : Char → Bool) (s : List Char) : List Char :=
  ((s.dropWhile p).reverse.dropWhile p).reverse

/-- The text without the white space at its two ends. -/
def trim (s : List Char) : List Char := trimBy isWhiteSpace s

/-- Each run of ASCII blanks becomes one space, given whether a blank came just before. -/
def collapseFrom : Bool → List Char → List Char
  | _, [] => []
  | afterBlank, c :: cs =>
    if isAsciiSpace c then
      if afterBlank then collapseFrom true cs else ' ' :: collapseFrom true cs
    else c :: collapseFrom false cs

/-- Each run of ASCII blanks becomes one space. -/
def collapse (s : List Char) : List Char := collapseFrom false s

/-- The run of kept characters that a text starts with, empty if there is none, and the maximal
runs after it. -/
def runsFrom (keep : Char → Bool) : List Char → List Char × List (List Char)
  | [] => ([], [])
  | c :: cs =>
    let (first, later) := runsFrom keep cs
    if keep c then (c :: first, later)
    else ([], if first.isEmpty then later else first :: later)

/-- The maximal runs of characters that satisfy a test, in order. -/
def runs (keep : Char → Bool) (s : List Char) : List (List Char) :=
  let (first, later) := runsFrom keep s
  if first.isEmpty then later else first :: later

/-- The maximal runs of characters that are not white space, in order. -/
def words (s : List Char) : List (List Char) := runs (fun c => !isWhiteSpace c) s

end Polyhierarchy.Text

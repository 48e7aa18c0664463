import Polyhierarchy.Text.Alphanumeric
import Polyhierarchy.Text.Case
import Polyhierarchy.Text.WhiteSpace
/-!
# Finding text in text

Texts are found in others without regard to letter case, either anywhere or as whole words.

## Main definitions

* `Text.isInfix` — whether a text stands somewhere in another.
* `Text.contains` — the same without regard to letter case.
* `Text.foldedWords` — the words of a text, in lower case.

## Main statements

* `Text.isInfix_iff` — the test agrees with the relation on lists.
-/

namespace Polyhierarchy.Text

/-- Whether a text stands somewhere in another. -/
def isInfix (s : List Char) : List Char → Bool
  | [] => s.isEmpty
  | c :: cs => s.isPrefixOf (c :: cs) || isInfix s cs

theorem isInfix_iff {s t : List Char} : isInfix s t = true ↔ s <:+: t := by
  induction t with
  | nil => simp [isInfix]
  | cons c t ih => simp [isInfix, List.infix_cons_iff, ih]

/-- Whether a text stands somewhere in another, once both are in lower case. -/
def contains (haystack needle : String) : Bool :=
  isInfix (toLower needle.toList) (toLower haystack.toList)

/-- The words of a text, which are the runs of alphanumeric characters, each in lower case. -/
def foldedWords (s : String) : List (List Char) := (runs isAlphanumeric s.toList).map toLower

end Polyhierarchy.Text

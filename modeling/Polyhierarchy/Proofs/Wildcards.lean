import Mathlib.Data.List.Forall2
import Mathlib.Data.List.Infix
import Polyhierarchy.Query.Basic

set_option relaxedAutoImplicit false
set_option autoImplicit false

/-!
# Patterns for tokens

A database looks for a token with a pattern, in which some characters have a meaning: a percent sign
stands for any text, an underscore for any character, and a backslash takes the meaning of the next
character away. The pattern for a token puts a backslash before each of these three and a percent
sign at both ends. So it matches the texts that the token stands in, whatever it is made of.

## Main definitions

* `Pattern.read` — the parts of a pattern, unless it ends where a backslash needs a character.
* `Pattern.fits` — whether a text is what the parts stand for, by trying all ways to divide it.
* `Pattern.matches?` — whether a pattern matches a text.

## Main results

* `Pattern.read_escapeWildcard` — each character of an escaped token stands for itself.
* `Pattern.fits_chars_iff`, `Pattern.fits_anyText_iff` — what a text and a wildcard fit.
* `Query.wildcards_match` — the patterns of a query match the texts that its tokens stand in.
-/

namespace Polyhierarchy

/-! ### The matcher -/

/-- A part of a pattern: a character that stands for itself, any character, or any text. -/
inductive PatternPart
  | char (c : Char)
  | anyChar
  | anyText
  deriving DecidableEq

namespace Pattern

/-- The parts of a pattern. There are none if it ends with a backslash that nothing follows. -/
def read : List Char → Option (List PatternPart)
  | [] => some []
  | ['\\'] => none
  | '\\' :: c :: p => (read p).map (.char c :: ·)
  | '%' :: p => (read p).map (.anyText :: ·)
  | '_' :: p => (read p).map (.anyChar :: ·)
  | c :: p => (read p).map (.char c :: ·)

/-- Whether a text is what some parts stand for, one after the other. For a part that stands for any
text, all ends of the text are tried for the parts that follow. -/
def fits : List PatternPart → List Char → Bool
  | [], s => s.isEmpty
  | .anyText :: p, s => s.tails.any (fits p)
  | .anyChar :: p, _ :: s => fits p s
  | .char c :: p, d :: s => c == d && fits p s
  | _, [] => false

/-- Whether a pattern matches the whole of a text. It is an error if a backslash ends it. -/
def matches? (pattern s : String) : Option Bool := (read pattern.toList).map (fits · s.toList)

/-! ### Escaped tokens -/

/-- Each character of an escaped token stands for itself. -/
lemma read_escapeWildcard (token p : List Char) :
    read (Query.escapeWildcard token ++ p) =
      (read p).map (token.map PatternPart.char ++ ·) := by
  induction token with
  | nil => exact Option.map_id'.symm
  | cons c token ih =>
    have hrest : Query.escapeWildcard (c :: token) ++ p =
        (if c = '\\' ∨ c = '%' ∨ c = '_' then ['\\', c] else [c]) ++
          (Query.escapeWildcard token ++ p) := by
      rw [Query.escapeWildcard, List.flatMap_cons, List.append_assoc]
      rfl
    rw [hrest]
    split
    next => simp [read, ih, Function.comp_def]
    next hplain =>
      simp only [not_or] at hplain
      simp [read, hplain, ih, Function.comp_def]

/-- A text fits characters that stand for themselves if it begins with them, and its rest fits what
comes after them. -/
lemma fits_chars_iff {token : List Char} {p : List PatternPart} {s : List Char} :
    fits (token.map .char ++ p) s = true ↔ ∃ rest, s = token ++ rest ∧ fits p rest = true := by
  induction token generalizing s with
  | nil => simp
  | cons c token ih =>
    cases s with
    | nil => simp [fits]
    | cons d s => simp [fits, ih, eq_comm (a := c), and_assoc]

/-- A text fits a part that stands for any text if one of its ends fits what comes after it. -/
lemma fits_anyText_iff {p : List PatternPart} {s : List Char} :
    fits (.anyText :: p) s = true ↔ ∃ before rest, s = before ++ rest ∧ fits p rest = true := by
  simp only [fits, List.any_eq_true, List.mem_tails]
  constructor
  · rintro ⟨rest, ⟨before, rfl⟩, hfits⟩
    exact ⟨before, rest, rfl, hfits⟩
  · rintro ⟨before, rest, rfl, hfits⟩
    exact ⟨rest, ⟨before, rfl⟩, hfits⟩

/-- A part at the end that stands for any text fits everything. -/
lemma fits_anyText_nil (s : List Char) : fits [.anyText] s = true :=
  fits_anyText_iff.2 ⟨s, [], (List.append_nil s).symm, rfl⟩

/-- The pattern for a token is read without an error. -/
lemma read_wildcard (token : String) :
    read (Query.wildcard token).toList =
      some (.anyText :: (token.toList.map PatternPart.char ++ [.anyText])) := by
  have hend : read ['%'] = some [.anyText] := rfl
  rw [Query.wildcard, String.toList_ofList, List.cons_append, read, read_escapeWildcard, hend]
  rfl

/-- **A pattern matches what its token stands in.** -/
theorem matches?_wildcard (token s : String) :
    matches? (Query.wildcard token) s = some (decide (token.toList <:+: s.toList)) := by
  rw [matches?, read_wildcard, Option.map_some, Option.some_inj, Bool.eq_iff_iff,
    decide_eq_true_iff, fits_anyText_iff]
  constructor
  · rintro ⟨before, rest, hs, hfits⟩
    obtain ⟨after, rfl, -⟩ := fits_chars_iff.1 hfits
    exact ⟨before, after, by rw [hs, List.append_assoc]⟩
  · rintro ⟨before, after, hs⟩
    refine ⟨before, token.toList ++ after, by rw [← hs, List.append_assoc], ?_⟩
    exact fits_chars_iff.2 ⟨after, rfl, fits_anyText_nil after⟩

end Pattern

/-- **What the patterns of a query match.** A query has a pattern for each of its tokens, in order.
None ends with a backslash that needs a character, and each matches exactly the texts in which its
token stands somewhere, character for character. -/
theorem Query.wildcards_match (q : Query) :
    List.Forall₂ (fun token pattern => Pattern.read pattern.toList ≠ none ∧
        ∀ s : String, Pattern.matches? pattern s = some (decide (token.toList <:+: s.toList)))
      q.tokens q.wildcards := by
  rw [wildcards, List.forall₂_map_right_iff, List.forall₂_same]
  intro token _
  refine ⟨?_, Pattern.matches?_wildcard token⟩
  rw [Pattern.read_wildcard]
  exact Option.some_ne_none _

/-- A pattern that ends with a backslash is an error; behind another backslash it is a character. -/
example : Pattern.matches? "50%\\" "50%\\" = none ∧
    Pattern.matches? "50%\\\\" "50 per cent\\" = some true := by
  decide

end Polyhierarchy

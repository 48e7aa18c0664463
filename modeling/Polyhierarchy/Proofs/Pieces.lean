import Mathlib.Data.Bool.AllAny
import Mathlib.Data.List.DropRight
import Polyhierarchy.Text.WhiteSpace

set_option relaxedAutoImplicit false
set_option autoImplicit false

/-!
# Texts in pieces

Names are cut at dots, queries at ampersands, paths at slashes. Each of these cuts is the library's
`List.splitOnP`, and what is put together from pieces is cut into them again. Submitted texts are
cut at both ends.

## Main definitions

* `Text.Bare` — neither end of a text satisfies a test.

## Main results

* `Text.Bare.trimBy_eq` — nothing is cut off a bare text.
* `Text.eq_splitOnP` — whatever cuts a text character by character splits it.
* `Text.mem_of_mem_splitOnP` — the characters of a piece.
* `Text.splitOnP_intercalate` — pieces with separators between them are cut into the pieces.
* `Text.map_length_splitOnP`, `Text.flatten_splitOnP` — how long the pieces are, and what they hold.
* `Text.of_ascii` — a property of characters of ASCII is checked code point by code point.
-/

namespace Polyhierarchy.Text

variable {p : Char → Bool}

/-! ### Both ends -/

/-- Whether neither end of a text satisfies a test. -/
structure Bare (p : Char → Bool) (s : List Char) : Prop where
  /-- The first character, if there is one, does not satisfy the test. -/
  head : ∀ c ∈ s.head?, p c = false
  /-- The last character, if there is one, does not satisfy the test. -/
  last : ∀ c ∈ s.getLast?, p c = false

/-- A text that is cut at both ends is bare. -/
lemma bare_trimBy (p : Char → Bool) (s : List Char) : Bare p (trimBy p s) where
  head c hc := by
    obtain ⟨rest, hrest⟩ : trimBy p s <+: s.dropWhile p := List.rdropWhile_prefix p _
    have hhead := List.head?_dropWhile_not p s
    rw [← hrest, List.head?_append, Option.mem_def.1 hc] at hhead
    exact hhead
  last c hc := by
    obtain ⟨hne, rfl⟩ := List.mem_getLast?_eq_getLast hc
    exact Bool.not_eq_true _ ▸ List.rdropWhile_last_not p (s.dropWhile p) hne

/-- Nothing is cut off a bare text. -/
lemma Bare.trimBy_eq {s : List Char} (h : Bare p s) : trimBy p s = s := by
  have hhead : s.dropWhile p = s := by
    cases s with
    | nil => rfl
    | cons c cs => rw [List.dropWhile_cons_of_neg (by simp [h.head c rfl])]
  rw [trimBy, hhead]
  exact List.rdropWhile_eq_self_iff.2 fun hne => by
    simp [h.last _ (List.getLast?_eq_some_getLast hne)]

lemma bare_of_forall {s : List Char} (h : ∀ c ∈ s, p c = false) : Bare p s :=
  ⟨fun c hc => h c (List.mem_of_mem_head? hc), fun c hc => h c (List.mem_of_mem_getLast? hc)⟩

/-! ### Pieces -/

/-- What can be checked for each code point of ASCII holds of the characters of ASCII. -/
lemma of_ascii {P : Char → Prop} (h : ∀ n < 128, P (Char.ofNat n)) {c : Char} (hc : c.toNat < 128) :
    P c := by
  rw [← Char.ofNat_toNat c]
  exact h c.toNat hc

/-- Whatever cuts a text character by character, at those that satisfy a test, splits it there. -/
lemma eq_splitOnP {cut : List Char → List (List Char)} (hnil : cut [] = [[]])
    (hcons : ∀ c cs piece rest, cut cs = piece :: rest →
      cut (c :: cs) = if p c then [] :: piece :: rest else (c :: piece) :: rest) (s : List Char) :
    cut s = s.splitOnP p := by
  induction s with
  | nil => rw [hnil, List.splitOnP_nil]
  | cons c cs ih =>
    obtain ⟨piece, rest, hpiece⟩ := List.exists_cons_of_ne_nil (List.splitOnP_ne_nil p cs)
    rw [hcons c cs piece rest (ih.trans hpiece), List.splitOnP_cons_eq_if_modifyHead, hpiece]
    rfl

/-- The characters of a piece are characters of the text, and the text is not cut at them. -/
lemma mem_of_mem_splitOnP {s piece : List Char} (h : piece ∈ s.splitOnP p) {c : Char}
    (hc : c ∈ piece) : c ∈ s ∧ p c = false := by
  induction s generalizing piece with
  | nil =>
    rw [List.splitOnP_nil, List.mem_singleton] at h
    rw [h] at hc
    cases hc
  | cons d s ih =>
    obtain ⟨first, rest, hfirst⟩ := List.exists_cons_of_ne_nil (List.splitOnP_ne_nil p s)
    rw [List.splitOnP_cons_eq_if_modifyHead, hfirst] at h
    rw [hfirst] at ih
    have hlater : ∀ {q}, q ∈ first :: rest → c ∈ q → c ∈ d :: s ∧ p c = false := fun hq hcq =>
      (ih hq hcq).imp_left (List.mem_cons_of_mem d)
    split at h
    next hd =>
      rcases List.mem_cons.1 h with rfl | h
      · cases hc
      · exact hlater h hc
    next hd =>
      rcases List.mem_cons.1 h with rfl | h
      · rcases List.mem_cons.1 hc with rfl | hc
        · exact ⟨List.mem_cons_self, by simpa using hd⟩
        · exact hlater List.mem_cons_self hc
      · exact hlater (List.mem_cons_of_mem _ h) hc

/-- Pieces with separators between them are cut into the pieces. -/
lemma splitOnP_intercalate {sep : Char} (hsep : p sep = true) {pieces : List (List Char)}
    (hne : pieces ≠ []) (h : ∀ piece ∈ pieces, ∀ c ∈ piece, p c = false) :
    ([sep].intercalate pieces).splitOnP p = pieces := by
  induction pieces with
  | nil => exact absurd rfl hne
  | cons first rest ih =>
    obtain ⟨hfirst, hrest⟩ := List.forall_mem_cons.1 h
    have hwhole : first.splitOnP p = [first] := List.splitOnP_eq_singleton hfirst
    cases rest with
    | nil => rw [List.intercalate_singleton, hwhole]
    | cons second rest =>
      rw [List.intercalate_cons_cons, List.append_assoc, List.singleton_append,
        List.splitOnP_append_cons _ _ hsep, hwhole, ih (List.cons_ne_nil _ _) hrest]
      rfl

/-- Where a text is cut says how long its pieces are, whatever its characters are. -/
lemma map_length_splitOnP (s : List Char) :
    (s.splitOnP p).map List.length = ((s.map p).splitOnP id).map List.length := by
  have hlonger : ∀ {α : Type} (a : α) (pieces : List (List α)),
      (pieces.modifyHead (a :: ·)).map List.length =
        (pieces.map List.length).modifyHead (· + 1) := by
    rintro α a (_ | ⟨_, _⟩) <;> rfl
  induction s with
  | nil => rfl
  | cons c s ih =>
    rw [List.map_cons, List.splitOnP_cons_eq_if_modifyHead, List.splitOnP_cons_eq_if_modifyHead]
    cases p c with
    | true => simp [ih]
    | false => simp [hlonger, ih]

/-- The pieces hold what is left without the characters that the text is cut at. -/
lemma flatten_splitOnP (s : List Char) : (s.splitOnP p).flatten = s.filter (!p ·) := by
  induction s with
  | nil => rfl
  | cons c s ih =>
    obtain ⟨piece, rest, hpiece⟩ := List.exists_cons_of_ne_nil (List.splitOnP_ne_nil p s)
    rw [hpiece] at ih
    rw [List.splitOnP_cons_eq_if_modifyHead, List.filter_cons, ← ih, hpiece]
    cases p c <;> rfl

/-- The characters of pieces with separators between them. -/
lemma mem_intercalate {sep : Char} {pieces : List (List Char)} {c : Char}
    (h : c ∈ [sep].intercalate pieces) : c = sep ∨ ∃ piece ∈ pieces, c ∈ piece := by
  induction pieces with
  | nil => cases h
  | cons first rest ih =>
    cases rest with
    | nil =>
      rw [List.intercalate_singleton] at h
      exact .inr ⟨first, List.mem_cons_self, h⟩
    | cons second rest =>
      rw [List.intercalate_cons_cons, List.mem_append, List.mem_append, List.mem_singleton] at h
      rcases h with (h | h) | h
      · exact .inr ⟨first, List.mem_cons_self, h⟩
      · exact .inl h
      · exact (ih h).imp_right fun ⟨piece, hpiece, hc⟩ => ⟨piece, List.mem_cons_of_mem _ hpiece, hc⟩

end Polyhierarchy.Text

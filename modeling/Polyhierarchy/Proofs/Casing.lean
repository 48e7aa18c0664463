import Mathlib.Data.List.Infix
import Mathlib.Tactic.Lemma
import Polyhierarchy.Text.Containment

set_option relaxedAutoImplicit false
set_option autoImplicit false

/-!
# Lower case within a text

Each character has its own lower case, whatever stands around it, but for the capital sigma: it
becomes a final sigma if a letter comes before it and none comes after it. So a part of a text is
lowered within the text as it is by itself, provided that each of its capital sigmas ends a word in
the one case exactly if it does in the other. A part without capital sigmas need not care, and
neither need a part that no letter comes just before or just after.

## Main definitions

* `Text.toLowerIn` — the lower case of a part of a text.
* `Text.endsWord` — whether a capital sigma ends a word.
* `Text.KeepsSigmas` — the capital sigmas of a part end words in the text and in the part alike.
* `Text.Shows` — a text holds another one, letter by letter, at a place that keeps its sigmas.

## Main results

* `Text.toLowerFrom_append` — a text is lowered part by part.
* `Text.toLowerIn_eq_toLower_iff` — which parts are lowered as they are by themselves.
* `Text.Shows.isInfix_toLower` — what a text shows, it holds in lower case as well.
-/

namespace Polyhierarchy.Text

variable {before after a b s u v w : List Char}

/-- Whether a capital sigma ends a word, given the characters before it, the nearest first, and
those after it. -/
def endsWord (before after : List Char) : Bool := startsCased before && !startsCased after

/-- The lower case of a part of a text, given the characters before it, the nearest first, and those
after it. -/
def toLowerIn (before : List Char) : List Char → List Char → List Char
  | [], _ => []
  | c :: s, after =>
    (if c = 'Σ' then [if endsWord before (s ++ after) then 'ς' else 'σ'] else lowerChar c) ++
      toLowerIn (c :: before) s after

/-- **A text is lowered part by part.** -/
lemma toLowerFrom_append (before s after : List Char) :
    toLowerFrom before (s ++ after) =
      toLowerIn before s after ++ toLowerFrom (s.reverse ++ before) after := by
  induction s generalizing before with
  | nil => rfl
  | cons c s ih =>
    rw [List.cons_append, toLowerFrom, toLowerIn, ih, List.append_assoc, List.reverse_cons,
      List.append_assoc]
    rfl

lemma toLower_eq_toLowerIn (s : List Char) : toLower s = toLowerIn [] s [] := by
  have happend := toLowerFrom_append [] s []
  rwa [List.append_nil, toLowerFrom, List.append_nil] at happend

/-- A part of a text, as it is lowered within the text. -/
lemma isInfix_toLowerIn (a w b : List Char) :
    toLowerIn a.reverse w b <:+: toLower (a ++ w ++ b) := by
  refine ⟨toLowerIn [] a (w ++ b), toLowerFrom (w.reverse ++ a.reverse) b, ?_⟩
  rw [toLower, List.append_assoc a w b, toLowerFrom_append, toLowerFrom_append, List.append_nil,
    List.append_assoc]

/-! ### Capital sigmas -/

/-- The capital sigmas of a part of a text end words in the text exactly if they do in the part
alone. -/
def KeepsSigmas (before w after : List Char) : Prop :=
  ∀ u v, w = u ++ 'Σ' :: v → endsWord (u.reverse ++ before) (v ++ after) = endsWord u.reverse v

/-- Two ways to lower the rest of a part: with what comes before and after the part, and without.

**Proof sketch.** Induction on the rest. The lower case of a capital sigma is one character either
way, and all other characters have one lower case, so the two agree character by character. -/
lemma toLowerIn_eq_iff (near far s after : List Char) :
    toLowerIn (near ++ far) s after = toLowerIn near s [] ↔
      ∀ u v, s = u ++ 'Σ' :: v →
        endsWord (u.reverse ++ near ++ far) (v ++ after) = endsWord (u.reverse ++ near) v := by
  induction s generalizing near with
  | nil => simp [toLowerIn]
  | cons c s ih =>
    have hrest := ih (c :: near)
    have hsplit : (∀ u v, c :: s = u ++ 'Σ' :: v →
        endsWord (u.reverse ++ near ++ far) (v ++ after) = endsWord (u.reverse ++ near) v) ↔
        (c = 'Σ' → endsWord (near ++ far) (s ++ after) = endsWord near s) ∧
          ∀ u v, s = u ++ 'Σ' :: v → endsWord (u.reverse ++ (c :: near) ++ far) (v ++ after) =
            endsWord (u.reverse ++ (c :: near)) v := by
      constructor
      · intro h
        refine ⟨fun hc => h [] s (by rw [hc]; rfl), fun u v hs => ?_⟩
        have hcons := h (c :: u) v (by rw [hs]; rfl)
        rwa [List.reverse_cons, List.append_assoc u.reverse] at hcons
      · rintro ⟨hfirst, hlater⟩ u v hs
        cases u with
        | nil =>
          obtain ⟨rfl, rfl⟩ := List.cons.inj hs
          exact hfirst rfl
        | cons d u =>
          obtain ⟨rfl, rfl⟩ := List.cons.inj hs
          rw [List.reverse_cons, List.append_assoc u.reverse]
          exact hlater u v rfl
    rw [hsplit, ← hrest, toLowerIn, toLowerIn, List.append_nil]
    by_cases hc : c = 'Σ'
    · rw [if_pos hc, if_pos hc, List.singleton_append, List.singleton_append, List.cons.injEq]
      refine and_congr ?_ Iff.rfl
      have hne : 'ς' ≠ 'σ' := by decide
      cases endsWord (near ++ far) (s ++ after) <;> cases endsWord near s <;>
        simp [hc, hne, hne.symm]
    · rw [if_neg hc, if_neg hc, List.append_cancel_left_eq]
      exact (and_iff_right fun h => absurd h hc).symm

/-- **A part of a text is lowered as it is by itself** exactly if it keeps its capital sigmas. -/
theorem toLowerIn_eq_toLower_iff :
    toLowerIn before w after = toLower w ↔ KeepsSigmas before w after := by
  have h := toLowerIn_eq_iff [] before w after
  simp only [List.append_nil] at h
  rw [toLower_eq_toLowerIn]
  exact h

/-- A part without capital sigmas has none to keep. -/
lemma KeepsSigmas.of_not_mem (h : 'Σ' ∉ w) : KeepsSigmas before w after := by
  rintro u v rfl
  exact absurd (List.mem_append_right u List.mem_cons_self) h

/-- Where no letter comes first, characters make no difference that are added at the end. -/
lemma startsCased_append (h : startsCased b = false) (a : List Char) :
    startsCased (a ++ b) = startsCased a := by
  induction a with
  | nil => exact h
  | cons c a ih => rw [List.cons_append, startsCased, startsCased, ih]

/-- A part keeps its capital sigmas if no letter comes just before or just after it, apart from
characters that are skipped. -/
lemma KeepsSigmas.of_apart (hbefore : startsCased before = false)
    (hafter : startsCased after = false) : KeepsSigmas before w after := by
  intro u v _
  rw [endsWord, endsWord, startsCased_append hbefore, startsCased_append hafter]

/-! ### Places in a text -/

/-- A text holds another one, letter by letter, at a place that keeps its capital sigmas. -/
def Shows (text w : List Char) : Prop :=
  ∃ a b, text = a ++ w ++ b ∧ KeepsSigmas a.reverse w b

/-- **What a text shows, it holds in lower case as well.** -/
theorem Shows.isInfix_toLower {text : List Char} (h : Shows text w) :
    toLower w <:+: toLower text := by
  obtain ⟨a, b, rfl, hkeeps⟩ := h
  rw [← toLowerIn_eq_toLower_iff.2 hkeeps]
  exact isInfix_toLowerIn a w b

/-- A text shows whatever it holds without capital sigmas. -/
lemma Shows.of_not_mem {text : List Char} (h : w <:+: text) (hsigma : 'Σ' ∉ w) : Shows text w := by
  obtain ⟨a, b, rfl⟩ := h
  exact ⟨a, b, rfl, .of_not_mem hsigma⟩

end Polyhierarchy.Text

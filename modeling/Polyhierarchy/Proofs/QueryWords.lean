import Mathlib.Data.List.Basic
import Polyhierarchy.Query.Basic

set_option relaxedAutoImplicit false
set_option autoImplicit false

/-!
# The words of a query

A query is read word by word, and white space is where its words are cut. Each word becomes a
reference or a token by itself, whatever words stand before it.

## Main results

* `Text.words_append_cons` — a text is cut at each white space.
* `Query.tokens_parse`, `Query.mem_references_parse` — what becomes of the words of a query.
-/

namespace Polyhierarchy

namespace Text

variable {keep : Char → Bool}

/-- The runs after a character that is not kept are those of what follows it. -/
lemma runsFrom_append_cons (s : List Char) {c : Char} (hc : keep c = false) (t : List Char) :
    runsFrom keep (s ++ c :: t) = ((runsFrom keep s).1, (runsFrom keep s).2 ++ runs keep t) := by
  induction s with
  | nil => simp [runsFrom, hc, runs]
  | cons d s ih =>
    rw [List.cons_append, runsFrom, ih, runsFrom]
    rcases runsFrom keep s with ⟨first, later⟩
    dsimp only
    cases keep d with
    | true => rfl
    | false => cases first <;> rfl

/-- A character that is not kept parts the runs before it from those after it. -/
lemma runs_append_cons (s : List Char) {c : Char} (hc : keep c = false) (t : List Char) :
    runs keep (s ++ c :: t) = runs keep s ++ runs keep t := by
  rw [runs, runsFrom_append_cons s hc, runs.eq_def keep s]
  rcases runsFrom keep s with ⟨first, later⟩
  cases first <;> rfl

lemma runsFrom_of_all {s : List Char} (h : ∀ c ∈ s, keep c = true) : runsFrom keep s = (s, []) := by
  induction s with
  | nil => rfl
  | cons c s ih =>
    obtain ⟨hc, hs⟩ := List.forall_mem_cons.1 h
    rw [runsFrom, ih hs, hc]
    rfl

/-- A text of characters that are kept is one run, unless it is empty. -/
lemma runs_eq_singleton {s : List Char} (hne : s ≠ []) (h : ∀ c ∈ s, keep c = true) :
    runs keep s = [s] := by
  rw [runs, runsFrom_of_all h]
  exact if_neg (by simpa using hne)

/-- **A text is cut at each white space.** -/
theorem words_append_cons (s : List Char) {c : Char} (hc : isWhiteSpace c = true) (t : List Char) :
    words (s ++ c :: t) = words s ++ words t := runs_append_cons s (by rw [hc]; rfl) t

/-- A text without white space is one word, unless it is empty. -/
lemma words_eq_singleton {s : List Char} (hne : s ≠ []) (h : ∀ c ∈ s, isWhiteSpace c = false) :
    words s = [s] := runs_eq_singleton hne fun c hc => by rw [h c hc]; rfl

end Text

namespace Query

/-- A word that is no reference becomes a token. -/
lemma tokens_addToken (q : Query) (w : String) :
    (addToken q w).tokens =
      q.tokens ++ if (TopicRef.parse? w).isNone then [plainToken w] else [] := by
  rw [addToken]
  split
  next r hr =>
    rw [hr, apply_ite Query.tokens, ite_self]
    exact (List.append_nil _).symm
  next hr =>
    rw [hr]
    rfl

/-- A word that is a reference is among the references from then on. -/
lemma mem_references_addToken (q : Query) (w : String) (r : TopicRef) :
    r ∈ (addToken q w).references ↔ r ∈ q.references ∨ TopicRef.parse? w = some r := by
  rw [addToken]
  split
  next r' hr' =>
    rw [hr', Option.some_inj]
    split
    next hmem =>
      rw [List.contains_iff_mem] at hmem
      exact (or_iff_left_of_imp fun h => h ▸ hmem).symm
    next => rw [List.mem_append, List.mem_singleton, eq_comm (a := r)]
  next hnone =>
    rw [hnone]
    exact (or_iff_left (Option.some_ne_none r).symm).symm

lemma tokens_foldl_addToken (words : List String) (q : Query) :
    (words.foldl addToken q).tokens =
      q.tokens ++ (words.filter fun w => (TopicRef.parse? w).isNone).map plainToken := by
  induction words generalizing q with
  | nil => exact (List.append_nil _).symm
  | cons w words ih =>
    rw [List.foldl_cons, ih, tokens_addToken, List.filter_cons, List.append_assoc]
    split <;> rfl

lemma mem_references_foldl_addToken (words : List String) (q : Query) (r : TopicRef) :
    r ∈ (words.foldl addToken q).references ↔
      r ∈ q.references ∨ ∃ w ∈ words, TopicRef.parse? w = some r := by
  induction words generalizing q with
  | nil => simp
  | cons w words ih =>
    rw [List.foldl_cons, ih, mem_references_addToken, or_assoc, List.exists_mem_cons_iff]

variable {text : String}

/-- **The tokens of a query** are the words that are no references, in order. -/
theorem tokens_parse :
    (parse text).tokens = (((Text.words text.toList).map String.ofList).filter
      fun w => (TopicRef.parse? w).isNone).map plainToken :=
  tokens_foldl_addToken _ ∅

/-- A token comes from a word that is no reference. -/
lemma mem_tokens_parse {x : String} :
    x ∈ (parse text).tokens ↔ ∃ w ∈ Text.words text.toList,
      TopicRef.parse? (String.ofList w) = none ∧ plainToken (String.ofList w) = x := by
  simp only [tokens_parse, List.mem_map, List.mem_filter, Option.isNone_iff_eq_none, and_assoc,
    exists_exists_and_eq_and]

/-- **The references of a query** are the words that are references. -/
theorem mem_references_parse {r : TopicRef} :
    r ∈ (parse text).references ↔
      ∃ w ∈ Text.words text.toList, TopicRef.parse? (String.ofList w) = some r := by
  rw [parse, mem_references_foldl_addToken]
  simp only [List.mem_map, exists_exists_and_eq_and]
  exact or_iff_right List.not_mem_nil

end Query

end Polyhierarchy

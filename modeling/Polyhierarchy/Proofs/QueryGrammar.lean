import Mathlib.Data.List.Forall2
import Polyhierarchy.Proofs.CanonicalForms
import Polyhierarchy.Proofs.QueryWords
import Polyhierarchy.Proofs.References
import Polyhierarchy.Proofs.TitleRecords

set_option relaxedAutoImplicit false
set_option autoImplicit false

/-!
# The grammar of queries

Every text is a query. Its words are the runs of characters between white space, and each of them
becomes one thing: a reference if it has the form of one, the canonical form of a URL if it is the
URL of a web page, and otherwise a token as it stands. References are kept once each, and tokens as
often as they come. As no word is read with another one in view, two texts with white space between
them are the query of the one and then the query of the other.

## Main definitions

* `Text.Runs` — a text is made of some runs of characters, with others between them.
* `TopicRef.HasForm` — a text has the form `in:/ORG/topics/ID`.
* `Query.StandsFor` — the token that a word which is no reference becomes.

## Main results

* `Text.runs_iff` — the runs that are found are the only ones that a text is made of.
* `TopicRef.segment?_eq_some_iff` — what is read as a reference has the form of one.
* `Query.references_parse` — the references of a query, in order.
* `Query.parse_exact` — what becomes of the words of a text, and of two texts after each other.
-/

namespace Polyhierarchy

/-! ### Words -/

namespace Text

/-- A text is made of some runs, in order: of characters that satisfy a test, with at least one
character between them that does not, and maybe such characters at both ends. -/
inductive Runs (keep : Char → Bool) : List Char → List (List Char) → Prop
  | blank {s : List Char} (hs : ∀ c ∈ s, keep c = false) : Runs keep s []
  | run {before w rest : List Char} {ws : List (List Char)}
      (hbefore : ∀ c ∈ before, keep c = false) (hne : w ≠ []) (hw : ∀ c ∈ w, keep c = true)
      (hends : ∀ c ∈ rest.head?, keep c = false) (h : Runs keep rest ws) :
      Runs keep (before ++ (w ++ rest)) (w :: ws)

variable {keep : Char → Bool} {s : List Char} {ws : List (List Char)}

/-- One more character that is not kept, at the beginning. -/
lemma Runs.cons {c : Char} (h : Runs keep s ws) (hc : keep c = false) : Runs keep (c :: s) ws := by
  cases h with
  | blank hs => exact .blank (List.forall_mem_cons.2 ⟨hc, hs⟩)
  | run hbefore hne hw hends h => exact .run (List.forall_mem_cons.2 ⟨hc, hbefore⟩) hne hw hends h

/-- Runs are made of characters that are kept. -/
lemma Runs.of_mem (h : Runs keep s ws) {w : List Char} (hmem : w ∈ ws) :
    w ≠ [] ∧ ∀ c ∈ w, keep c = true := by
  induction h with
  | blank hs => cases hmem
  | run hbefore hne hw hends h ih =>
    rcases List.mem_cons.1 hmem with rfl | hmem
    · exact ⟨hne, hw⟩
    · exact ih hmem

/-- Characters that are not kept make no runs. -/
lemma runs_append_left {before : List Char} (h : ∀ c ∈ before, keep c = false) (s : List Char) :
    runs keep (before ++ s) = runs keep s := by
  induction before with
  | nil => rfl
  | cons c before ih =>
    obtain ⟨hc, hbefore⟩ := List.forall_mem_cons.1 h
    have hcut := runs_append_cons [] hc (before ++ s)
    rw [List.cons_append, ← ih hbefore]
    exact hcut

/-- What begins with a character that is not kept has no run in common with what comes before
it. -/
lemma runs_append_of_head? {t : List Char} (ht : ∀ c ∈ t.head?, keep c = false) (s : List Char) :
    runs keep (s ++ t) = runs keep s ++ runs keep t := by
  cases t with
  | nil =>
    rw [List.append_nil]
    exact (List.append_nil _).symm
  | cons c t =>
    have hc : keep c = false := ht c rfl
    have hskip : runs keep (c :: t) = runs keep t :=
      runs_append_left (List.forall_mem_singleton.2 hc) t
    rw [runs_append_cons s hc, hskip]

/-- The runs that are found make up the text.

**Proof sketch.** Induction on the text, for the run that it begins with and the later ones: a
character that is kept makes the first run longer, and any other one ends it. -/
lemma runs_runsFrom (s : List Char) :
    ∃ rest, s = (runsFrom keep s).1 ++ rest ∧ (∀ c ∈ (runsFrom keep s).1, keep c = true) ∧
      (∀ c ∈ rest.head?, keep c = false) ∧ Runs keep rest (runsFrom keep s).2 := by
  induction s with
  | nil =>
    refine ⟨[], rfl, fun c hc => absurd hc List.not_mem_nil, ?_, .blank fun c hc => ?_⟩
    · rintro c ⟨⟩
    · exact absurd hc List.not_mem_nil
  | cons c s ih =>
    obtain ⟨rest, hs, hfirst, hends, hlater⟩ := ih
    rw [runsFrom]
    generalize runsFrom keep s = found at hs hfirst hlater
    obtain ⟨first, later⟩ := found
    dsimp only at hs hfirst hlater ⊢
    cases hc : keep c with
    | true =>
      exact ⟨rest, congrArg (c :: ·) hs, List.forall_mem_cons.2 ⟨hc, hfirst⟩, hends, hlater⟩
    | false =>
      refine ⟨c :: s, rfl, fun d hd => absurd hd List.not_mem_nil, ?_, ?_⟩
      · rintro d ⟨⟩
        exact hc
      · rw [hs]
        cases first with
        | nil => exact hlater.cons hc
        | cons d first =>
          exact .run (List.forall_mem_singleton.2 hc) (List.cons_ne_nil d first) hfirst hends hlater

/-- **A text is made of the runs that are found in it**, and of no others. -/
theorem runs_iff : Runs keep s ws ↔ ws = runs keep s := by
  constructor
  · intro h
    induction h with
    | blank hs =>
      have hnone := runs_append_left hs []
      rw [List.append_nil] at hnone
      rw [hnone]
      rfl
    | run hbefore hne hw hends h ih =>
      rw [runs_append_left hbefore, runs_append_of_head? hends, runs_eq_singleton hne hw, ih]
      rfl
  · rintro rfl
    obtain ⟨rest, hs, hfirst, hends, hlater⟩ := @runs_runsFrom keep s
    rw [runs]
    generalize runsFrom keep s = found at hs hfirst hlater
    obtain ⟨first, later⟩ := found
    dsimp only at hs hfirst hlater ⊢
    rw [hs]
    cases first with
    | nil => exact hlater
    | cons d first =>
      have hnone : ∀ c ∈ ([] : List Char), keep c = false := fun c hc => absurd hc List.not_mem_nil
      exact .run hnone (List.cons_ne_nil d first) hfirst hends hlater

/-- A word has characters, and none of them is white space. -/
lemma of_mem_words {w : List Char} (h : w ∈ words s) :
    w ≠ [] ∧ ∀ c ∈ w, isWhiteSpace c = false := by
  obtain ⟨hne, hw⟩ := (runs_iff.2 rfl : Runs _ s (words s)).of_mem h
  exact ⟨hne, fun c hc => by simpa using hw c hc⟩

/-- White space parts the words before it from those after it. -/
lemma words_append {a w : List Char} (hne : w ≠ []) (hw : ∀ c ∈ w, isWhiteSpace c = true)
    (b : List Char) : words (a ++ (w ++ b)) = words a ++ words b := by
  obtain ⟨c, w, rfl⟩ := List.exists_cons_of_ne_nil hne
  obtain ⟨hc, hrest⟩ := List.forall_mem_cons.1 hw
  rw [List.cons_append, words_append_cons a hc]
  exact congrArg (words a ++ ·) (runs_append_left (fun d hd => by rw [hrest d hd]; rfl) b)

end Text

/-! ### References -/

namespace TopicRef

/-- A letter of ASCII, a digit, an underscore or a hyphen. -/
def IsNameChar (c : Char) : Prop :=
  'A' ≤ c ∧ c ≤ 'Z' ∨ 'a' ≤ c ∧ c ≤ 'z' ∨ '0' ≤ c ∧ c ≤ '9' ∨ c = '_' ∨ c = '-'

/-- A text has the form of a reference: the name of an organisation, which is not empty, and what
names a topic. -/
def HasForm (token : String) : Prop :=
  ∃ org segment : List Char,
    token.toList = "in:/".toList ++ (org ++ ("/topics/".toList ++ segment)) ∧ org ≠ [] ∧
      (∀ c ∈ org, IsNameChar c) ∧ ∀ c ∈ segment, IsNameChar c

variable {s segment : List Char} {token : String} {r : TopicRef}

lemma isWordChar_iff {c : Char} : isWordChar c = true ↔ IsNameChar c := by
  have hupper : c.isUpper = true ↔ 'A' ≤ c ∧ c ≤ 'Z' := decide_eq_true_iff
  have hlower : c.isLower = true ↔ 'a' ≤ c ∧ c ≤ 'z' :=
    Bool.and_eq_true_iff.trans (and_congr decide_eq_true_iff decide_eq_true_iff)
  have hdigit : c.isDigit = true ↔ '0' ≤ c ∧ c ≤ '9' :=
    Bool.and_eq_true_iff.trans (and_congr decide_eq_true_iff decide_eq_true_iff)
  have halphanum : c.isAlphanum = true ↔
      (c.isUpper = true ∨ c.isLower = true) ∨ c.isDigit = true :=
    Bool.or_eq_true_iff.trans (or_congr Bool.or_eq_true_iff Iff.rfl)
  rw [isWordChar, Bool.or_eq_true, Bool.or_eq_true, halphanum, hupper, hlower, hdigit, beq_iff_eq,
    beq_iff_eq, IsNameChar, or_assoc, or_assoc, or_assoc]

lemma after?_eq_some_iff {start rest : List Char} :
    after? start s = some rest ↔ s = start ++ rest := by
  constructor
  · intro h
    rw [after?] at h
    split at h
    next hstart =>
      obtain ⟨rest', rfl⟩ := List.isPrefixOf_iff_prefix.1 hstart
      rw [List.drop_left] at h
      rw [Option.some.inj h]
    next => cases h
  · rintro rfl
    exact after?_append start rest

/-- **What is read as a reference has the form of one.** The name of the organisation ends where its
last character is, as no slash may stand in it. -/
lemma segment?_eq_some_iff :
    segment? s = some segment ↔
      ∃ org, s = "in:/".toList ++ (org ++ ("/topics/".toList ++ segment)) ∧ org ≠ [] ∧
        (∀ c ∈ org, isWordChar c = true) ∧ ∀ c ∈ segment, isWordChar c = true := by
  constructor
  · intro h
    obtain ⟨rest, hrest, h⟩ := Option.bind_eq_some_iff.1 h
    dsimp only at h
    split at h
    next => cases h
    next hne =>
      obtain ⟨tail, htail, h⟩ := Option.bind_eq_some_iff.1 h
      split at h
      next hall =>
        obtain rfl := Option.some.inj h
        refine ⟨rest.takeWhile isWordChar, ?_, by simpa using hne,
          fun c hc => List.mem_takeWhile_imp hc, List.all_eq_true.1 hall⟩
        rw [after?_eq_some_iff.1 hrest, ← after?_eq_some_iff.1 htail,
          List.takeWhile_append_dropWhile]
      next => cases h
  · rintro ⟨org, rfl, hne, horg, hsegment⟩
    have hword : (org ++ ("/topics/".toList ++ segment)).takeWhile isWordChar = org := by
      rw [List.takeWhile_append_of_pos horg]
      exact List.append_nil _
    have hrest : (org ++ ("/topics/".toList ++ segment)).dropWhile isWordChar =
        "/topics/".toList ++ segment := List.dropWhile_append_of_pos horg
    rw [segment?, after?_append]
    simp only [Option.bind_eq_bind, Option.bind_some, hword, hrest, after?_append,
      List.all_eq_true.2 hsegment, if_true]
    exact if_neg (by simpa using hne)

/-- **A token is a reference exactly if it has the form of one**, and then it is the whole token. -/
theorem parse?_eq_some_iff : parse? token = some r ↔ HasForm token ∧ r = ⟨token⟩ := by
  rw [parse?, Option.map_eq_some_iff]
  simp only [segment?_eq_some_iff, isWordChar_iff]
  constructor
  · rintro ⟨segment, ⟨org, hform⟩, rfl⟩
    exact ⟨⟨org, segment, hform⟩, rfl⟩
  · rintro ⟨⟨org, segment, hform⟩, rfl⟩
    exact ⟨segment, ⟨org, hform⟩, rfl⟩

lemma parse?_isSome_iff : (parse? token).isSome = true ↔ HasForm token := by
  simp only [Option.isSome_iff_exists, parse?_eq_some_iff, exists_and_left, exists_eq, and_true]

instance : DecidablePred HasForm := fun _ => decidable_of_iff _ parse?_isSome_iff

lemma filterMap_parse? (ws : List String) :
    ws.filterMap parse? = (ws.filter fun w => HasForm w).map TopicRef.mk := by
  induction ws with
  | nil => rfl
  | cons w ws ih =>
    by_cases hw : HasForm w
    · rw [List.filterMap_cons_some (parse?_eq_some_iff.2 ⟨hw, rfl⟩),
        List.filter_cons_of_pos (by simpa using hw), List.map_cons, ih]
    · have hnone : parse? w = none :=
        Option.eq_none_iff_forall_ne_some.2 fun r hr => hw (parse?_eq_some_iff.1 hr).1
      rw [List.filterMap_cons_none hnone, List.filter_cons_of_neg (by simpa using hw), ih]

end TopicRef

/-! ### Queries -/

namespace Query

/-- What a word that is no reference stands for: the URL of a web page stands for its canonical
form, and any other word for itself. -/
def StandsFor (w token : String) : Prop :=
  (isUrl w.toList = true →
    ∃ page : CanonicalUrl, CanonicalUrl.parse w = .ok page ∧ token = page.canonical) ∧
  (isUrl w.toList = false → token = w)

/-- A word without white space that is the URL of a web page has a canonical form. -/
lemma standsFor_plainToken {w : String} (hw : ∀ c ∈ w.toList, Text.isWhiteSpace c = false) :
    StandsFor w (plainToken w) := by
  have htrim : Text.trim w.toList = w.toList := (Text.bare_of_forall hw).trimBy_eq
  constructor
  · intro hurl
    have hread : ∃ page, Url.read w.toList = .ok (.web page) := by
      rw [isUrl] at hurl
      split at hurl
      next page hpage => exact ⟨page, hpage⟩
      next => cases hurl
    obtain ⟨page, hpage⟩ := hread
    have hparse := CanonicalUrl.parse_eq_ok_iff.2 ⟨page, htrim.symm ▸ hpage, rfl⟩
    refine ⟨_, hparse, ?_⟩
    rw [plainToken, if_pos hurl, hparse]
  · intro hurl
    rw [plainToken, hurl]
    rfl

/-- The references of a query are those among the words, each where it comes first. -/
lemma references_foldl_addToken (ws : List String) :
    (ws.foldl addToken ∅).references = (ws.filterMap TopicRef.parse?).eraseDups := by
  induction ws using List.reverseRecOn with
  | nil => rfl
  | append_singleton ws w ih =>
    rw [List.foldl_append, List.foldl_cons, List.foldl_nil, List.filterMap_append, addToken]
    cases hw : TopicRef.parse? w with
    | none => rw [List.filterMap_cons_none hw, List.filterMap_nil, List.append_nil, ← ih]
    | some r =>
      rw [List.filterMap_cons_some hw, List.filterMap_nil, eraseDups_concat]
      simp only [ih, List.contains_iff_mem, List.mem_eraseDups]
      split
      · exact ih
      · rfl

/-- **The references of a query**, each where it comes first. -/
theorem references_parse (text : String) :
    (parse text).references =
      (((Text.words text.toList).map String.ofList).filterMap TopicRef.parse?).eraseDups :=
  references_foldl_addToken _

/-- What becomes of the words that are no references. -/
lemma standsFor_tokens_parse (text : String) :
    List.Forall₂ StandsFor
      (((Text.words text.toList).map String.ofList).filter fun w => ¬ TopicRef.HasForm w)
      (parse text).tokens := by
  have hplain : ∀ w ∈ (Text.words text.toList).map String.ofList,
      (TopicRef.parse? w).isNone = decide (¬ TopicRef.HasForm w) := fun w _ => by
    rw [← Option.not_isSome, Bool.eq_iff_iff, Bool.not_eq_true', ← Bool.not_eq_true,
      TopicRef.parse?_isSome_iff, decide_eq_true_iff]
  rw [tokens_parse, List.filter_congr hplain, List.forall₂_map_right_iff, List.forall₂_same]
  intro w hw
  obtain ⟨s, hs, rfl⟩ := List.mem_map.1 (List.mem_filter.1 hw).1
  refine standsFor_plainToken ?_
  rw [String.toList_ofList]
  exact (Text.of_mem_words hs).2

/-- Two texts with white space between them have the words of the first and those of the second. -/
lemma words_append {w : String} (hne : w ≠ "") (hw : ∀ c ∈ w.toList, Text.isWhiteSpace c = true)
    (a b : String) :
    Text.words (a ++ w ++ b).toList = Text.words a.toList ++ Text.words b.toList := by
  rw [String.toList_append, String.toList_append, List.append_assoc]
  exact Text.words_append (fun hnil => hne (String.toList_eq_nil_iff.1 hnil)) hw b.toList

/-- **What a query is.** The words of a text are the runs of characters that it is made of, with
white space between them. A word is a reference exactly if it has the form of one. The references
are the words of this form, each where it comes first, and the tokens are all other words, in order,
each as it is, unless it is the URL of a web page: then the token is its canonical form.

So two texts with white space between them have the tokens of the first and then those of the
second, and the references of the first and then those of the second that are new. -/
theorem parse_exact :
    (∀ text : String,
      (∀ ws, Text.Runs (fun c => !Text.isWhiteSpace c) text.toList ws ↔
        ws = Text.words text.toList) ∧
      let ws := (Text.words text.toList).map String.ofList
      (∀ w ∈ ws, ∀ r, TopicRef.parse? w = some r ↔ TopicRef.HasForm w ∧ r = ⟨w⟩) ∧
      (parse text).references = ((ws.filter fun w => TopicRef.HasForm w).map TopicRef.mk).eraseDups ∧
      List.Forall₂ StandsFor (ws.filter fun w => ¬ TopicRef.HasForm w) (parse text).tokens) ∧
    ∀ a w b : String, w ≠ "" → (∀ c ∈ w.toList, Text.isWhiteSpace c = true) →
      (parse (a ++ w ++ b)).tokens = (parse a).tokens ++ (parse b).tokens ∧
      (parse (a ++ w ++ b)).references =
        (parse a).references ++ (parse b).references.filter (· ∉ (parse a).references) := by
  constructor
  · intro text
    refine ⟨fun ws => Text.runs_iff, fun w _ r => TopicRef.parse?_eq_some_iff, ?_,
      standsFor_tokens_parse text⟩
    rw [references_parse, TopicRef.filterMap_parse?]
  · intro a w b hne hw
    have hwords := words_append hne hw a b
    constructor
    · simp only [tokens_parse, hwords, List.map_append, List.filter_append]
    · have hnew : ∀ (l : List TopicRef) (r : TopicRef),
          (!l.elem r) = decide (r ∉ l.eraseDups) := fun l r => by simp
      simp only [references_parse, hwords, List.map_append, List.filterMap_append,
        List.eraseDups_append, List.removeAll, eraseDups_filter, hnew]

/-- A reference that is repeated in the second of two texts is kept once, and a URL there stands for
its canonical form. -/
theorem parse_exact_books :
    let x := parse ("in:/wiki/topics/1 Diaries" ++ "\t " ++ "HTTP://Books.Example in:/wiki/topics/1")
    x.tokens = ["Diaries", "http://books.example/"] ∧ x.references = [⟨"in:/wiki/topics/1"⟩] := by
  have hfirst : parse "in:/wiki/topics/1 Diaries" = ⟨["Diaries"], [⟨"in:/wiki/topics/1"⟩]⟩ := by
    decide +kernel
  have hsecond : parse "HTTP://Books.Example in:/wiki/topics/1" =
      ⟨["http://books.example/"], [⟨"in:/wiki/topics/1"⟩]⟩ := by decide +kernel
  obtain ⟨htokens, hreferences⟩ := parse_exact.2 "in:/wiki/topics/1 Diaries" "\t "
    "HTTP://Books.Example in:/wiki/topics/1" (by decide) (List.all_iff_forall_prop.1 (by decide))
  intro x
  rw [htokens, hreferences, hfirst, hsecond]
  exact ⟨rfl, by decide⟩

end Query

end Polyhierarchy

import Polyhierarchy.Proofs.QueryGrammar

set_option relaxedAutoImplicit false
set_option autoImplicit false

/-!
# Expressions for full-text search

A database searches for words with an expression of operands in quotes, which are joined by
ampersands. Within an operand a quote that is written twice and a backslash have a meaning. A query
writes no token with one of these, so what it writes is read as its tokens and as nothing else,
whatever else they are made of.

## Main definitions

* `FullText.readQuoted` — reads an operand whose opening quote has been read.
* `FullText.readOperands` — reads operands that are joined by ampersands, and leaves the rest.
* `FullText.quoted`, `FullText.joined` — an operand, and operands, as they are written.

## Main results

* `FullText.readQuoted_append` — a quotable text is read up to its closing quote.
* `FullText.readOperands_joined` — quotable texts are read as they were written.
* `Query.fullText_reads` — the expression of a query is read as its quotable tokens.
-/

namespace Polyhierarchy

namespace FullText

/-! ### The reader -/

/-- The text of an operand whose opening quote has been read, and what comes after its closing
quote. A quote that is written twice is one of the text, and so is what follows a backslash. -/
def readQuoted : List Char → Option (List Char × List Char)
  | [] => none
  | ['\\'] => none
  | '\\' :: c :: s => (readQuoted s).map (Prod.map (c :: ·) id)
  | '\'' :: '\'' :: s => (readQuoted s).map (Prod.map ('\'' :: ·) id)
  | '\'' :: s => some ([], s)
  | c :: s => (readQuoted s).map (Prod.map (c :: ·) id)

/-- An operand and what comes after it, without the blanks around the operand. -/
def readOperand (s : List Char) : Option (List Char × List Char) :=
  match s.dropWhile Text.isAsciiSpace with
  | '\'' :: s => (readQuoted s).map (Prod.map id (List.dropWhile Text.isAsciiSpace))
  | _ => none

variable {s t rest : List Char}

/-- If reading goes on after a character, what it leaves is shorter than the text with this
character. -/
lemma length_lt_of_map {f : List Char → List Char} {n : Nat}
    {found : Option (List Char × List Char)}
    (ih : ∀ t rest, found = some (t, rest) → rest.length < n)
    (h : found.map (Prod.map f id) = some (t, rest)) : rest.length < n + 1 := by
  obtain ⟨⟨t', rest'⟩, hfound, he⟩ := Option.map_eq_some_iff.1 h
  obtain ⟨-, rfl⟩ := Prod.mk.inj he
  exact Nat.lt_succ_of_lt (ih t' rest' hfound)

/-- Reading an operand takes characters off the text. -/
lemma length_lt_of_readQuoted (h : readQuoted s = some (t, rest)) : rest.length < s.length := by
  fun_induction readQuoted s generalizing t rest with
  | case1 => cases h
  | case2 => cases h
  | case3 c s ih => exact Nat.lt_succ_of_lt (length_lt_of_map (fun t rest => ih) h)
  | case4 s ih => exact Nat.lt_succ_of_lt (length_lt_of_map (fun t rest => ih) h)
  | case5 s _ =>
    obtain ⟨-, rfl⟩ := Prod.mk.inj (Option.some.inj h)
    exact Nat.lt_succ_self _
  | case6 c s _ _ _ _ ih => exact length_lt_of_map (fun t rest => ih) h

lemma length_lt_of_readOperand (h : readOperand s = some (t, rest)) : rest.length < s.length := by
  rw [readOperand] at h
  split at h
  next quoted hquoted =>
    obtain ⟨⟨t', rest'⟩, hread, he⟩ := Option.map_eq_some_iff.1 h
    obtain ⟨-, rfl⟩ := Prod.mk.inj he
    have hlength : (s.dropWhile Text.isAsciiSpace).length ≤ s.length :=
      (List.dropWhile_suffix _).length_le
    rw [hquoted, List.length_cons] at hlength
    calc (rest'.dropWhile Text.isAsciiSpace).length
      _ ≤ rest'.length := (List.dropWhile_suffix _).length_le
      _ < quoted.length := length_lt_of_readQuoted hread
      _ < s.length := hlength
  next => cases h

/-- Operands that are joined by ampersands, and what comes after the last one. An operand has to
follow each ampersand. -/
def readOperands (s : List Char) : Option (List (List Char) × List Char) :=
  match _h : readOperand s with
  | none => none
  | some (t, '&' :: rest) => (readOperands rest).map (Prod.map (t :: ·) id)
  | some (t, rest) => some ([t], rest)
termination_by s.length
decreasing_by exact Nat.lt_of_succ_lt (length_lt_of_readOperand _h)

/-- An operand that nothing follows is the last one. -/
lemma readOperands_of_end (h : readOperand s = some (t, [])) : readOperands s = some ([t], []) := by
  rw [readOperands]
  split <;> simp_all

/-- An operand that an ampersand follows is followed by others. -/
lemma readOperands_of_ampersand (h : readOperand s = some (t, '&' :: rest)) :
    readOperands s = (readOperands rest).map (Prod.map (t :: ·) id) := by
  rw [readOperands]
  split <;> simp_all

/-! ### Quotable texts -/

/-- An operand as it is written. -/
def quoted (t : List Char) : List Char := '\'' :: (t ++ ['\''])

/-- Operands as they are written, with ampersands between them. -/
def joined (ts : List (List Char)) : List Char := " & ".toList.intercalate (ts.map quoted)

/-- No blank comes before the first operand. -/
lemma dropWhile_joined (t : List Char) (ts : List (List Char)) :
    (joined (t :: ts)).dropWhile Text.isAsciiSpace = joined (t :: ts) := by
  cases ts <;> rfl

/-- A text that holds neither a quote nor a backslash. -/
def IsQuotable (t : List Char) : Prop := '\'' ∉ t ∧ '\\' ∉ t

/-- **A quotable text is read up to its closing quote**, unless this is written twice. -/
lemma readQuoted_append (ht : IsQuotable t) (hrest : rest.head? ≠ some '\'') :
    readQuoted (t ++ '\'' :: rest) = some (t, rest) := by
  induction t with
  | nil =>
    cases rest with
    | nil => rfl
    | cons d rest =>
      have hd : d ≠ '\'' := fun he => hrest (congrArg some he)
      simp [readQuoted, hd]
  | cons c t ih =>
    simp only [IsQuotable, List.mem_cons, not_or] at ht
    obtain ⟨⟨hquote, ht₁⟩, hbackslash, ht₂⟩ := ht
    simp [readQuoted, Ne.symm hquote, Ne.symm hbackslash, ih ⟨ht₁, ht₂⟩]

/-- A quote that is written twice, or behind a backslash, does not close an operand. -/
example : readQuoted "it''s a\\'b' & ".toList = some ("it's a'b".toList, " & ".toList) := by
  decide

/-- A quotable operand is read with the blanks around it. -/
lemma readOperand_quoted (ht : IsQuotable t) (hrest : rest.head? ≠ some '\'')
    (hs : s.dropWhile Text.isAsciiSpace = quoted t ++ rest) :
    readOperand s = some (t, rest.dropWhile Text.isAsciiSpace) := by
  have hclose : quoted t ++ rest = '\'' :: (t ++ '\'' :: rest) := by simp [quoted]
  rw [readOperand, hs, hclose]
  simp only [readQuoted_append ht hrest]
  rfl

/-- **Quotable texts are read as they were written**, and nothing is left.

**Proof sketch.** Induction on the texts, for any blanks before the first one: after an ampersand
there is a blank. -/
lemma readOperands_joined {ts : List (List Char)} (hts : ∀ t ∈ ts, IsQuotable t) (hne : ts ≠ [])
    (hs : s.dropWhile Text.isAsciiSpace = joined ts) : readOperands s = some (ts, []) := by
  induction ts generalizing s with
  | nil => exact absurd rfl hne
  | cons t ts ih =>
    obtain ⟨ht, hts⟩ := List.forall_mem_cons.1 hts
    cases ts with
    | nil =>
      have hlast : s.dropWhile Text.isAsciiSpace = quoted t ++ [] := by
        rw [hs, joined, List.map_singleton, List.intercalate_singleton, List.append_nil]
      exact readOperands_of_end (readOperand_quoted ht (by simp) hlast)
    | cons t' ts =>
      have hmore : s.dropWhile Text.isAsciiSpace =
          quoted t ++ (' ' :: '&' :: ' ' :: joined (t' :: ts)) := by
        rw [hs, joined, List.map_cons, List.map_cons, List.intercalate_cons_cons, List.append_assoc]
        rfl
      have hnext : (' ' :: joined (t' :: ts)).dropWhile Text.isAsciiSpace = joined (t' :: ts) :=
        (List.dropWhile_cons_of_pos (by decide)).trans (dropWhile_joined t' ts)
      have hread := readOperand_quoted ht (by simp) hmore
      rw [readOperands_of_ampersand hread, ih hts (List.cons_ne_nil t' ts) hnext]
      rfl

end FullText

namespace Query

/-- A token is quotable if it holds neither a quote nor a backslash. -/
lemma isQuotable_iff {token : String} :
    isQuotable token = true ↔ FullText.IsQuotable token.toList := by
  simp only [isQuotable, List.all_eq_true, Bool.and_eq_true, bne_iff_ne, FullText.IsQuotable]
  constructor
  · intro h
    exact ⟨fun hmem => (h _ hmem).1 rfl, fun hmem => (h _ hmem).2 rfl⟩
  · rintro ⟨hquote, hbackslash⟩ c hc
    exact ⟨fun he => hquote (he ▸ hc), fun he => hbackslash (he ▸ hc)⟩

/-- The expression of a query is made of its quotable tokens. -/
lemma toList_fullText? {q : Query} {expression : String} (h : q.fullText? = some expression) :
    q.fullTextTokens ≠ [] ∧
      expression.toList = FullText.joined (q.fullTextTokens.map String.toList) := by
  rw [fullText?] at h
  split at h
  next => cases h
  next hne =>
    refine ⟨fun hnil => hne (List.isEmpty_iff.2 hnil), ?_⟩
    rw [← Option.some.inj h, String.toList_intercalate, FullText.joined, List.map_map, List.map_map]
    congr 2
    funext t
    simp [FullText.quoted]

/-- No token is empty, as no word is, and no canonical form of a URL. -/
lemma ne_empty_of_mem_tokens {text token : String} (h : token ∈ (parse text).tokens) :
    token ≠ "" := by
  obtain ⟨w, hw, -, rfl⟩ := mem_tokens_parse.1 h
  have hspace : ∀ c ∈ (String.ofList w).toList, Text.isWhiteSpace c = false := by
    rw [String.toList_ofList]
    exact (Text.of_mem_words hw).2
  obtain ⟨hurl, hplain⟩ := standsFor_plainToken hspace
  cases hcase : isUrl (String.ofList w).toList with
  | false =>
    rw [hplain hcase]
    exact fun hnil => (Text.of_mem_words hw).1 (String.ofList_eq_empty_iff.1 hnil)
  | true =>
    obtain ⟨page, hpage, htoken⟩ := hurl hcase
    obtain ⟨web, -, rfl⟩ := CanonicalUrl.parse_eq_ok_iff.1 hpage
    rw [htoken]
    intro hnil
    have hchars := String.ofList_eq_empty_iff.1 hnil
    rw [Url.Web.toChars_eq] at hchars
    exact List.cons_ne_nil _ _ (List.append_eq_nil_iff.1 hchars).2

/-- **What the expression of a query is read as.** The quotable tokens of a query are those that
hold neither a quote nor a backslash, and none is empty. If there are none, the query has no
expression. Otherwise its expression is read as one operand for each of them, in order, and nothing
of it is left. -/
theorem fullText_reads (text : String) :
    let q := parse text
    q.fullTextTokens = q.tokens.filter (fun t => '\'' ∉ t.toList ∧ '\\' ∉ t.toList) ∧
    (∀ t ∈ q.fullTextTokens, t ≠ "") ∧
    (q.fullText? = none ↔ q.fullTextTokens = []) ∧
    ∀ expression, q.fullText? = some expression →
      FullText.readOperands expression.toList = some (q.fullTextTokens.map String.toList, []) := by
  intro q
  refine ⟨?_, ?_, ?_, ?_⟩
  · refine List.filter_congr fun t _ => ?_
    rw [Bool.eq_iff_iff, isQuotable_iff, decide_eq_true_iff, FullText.IsQuotable]
  · exact fun t ht => ne_empty_of_mem_tokens (List.mem_filter.1 ht).1
  · rw [fullText?]
    cases q.fullTextTokens <;> simp
  · intro expression hexpression
    obtain ⟨hne, hjoined⟩ := toList_fullText? hexpression
    have hquotable : ∀ t ∈ q.fullTextTokens.map String.toList, FullText.IsQuotable t := by
      intro t ht
      obtain ⟨token, htoken, rfl⟩ := List.mem_map.1 ht
      exact isQuotable_iff.1 (List.mem_filter.1 htoken).2
    refine FullText.readOperands_joined hquotable (fun hnil => hne (List.map_eq_nil_iff.1 hnil)) ?_
    rw [hjoined]
    cases q.fullTextTokens with
    | nil => rfl
    | cons t ts => exact FullText.dropWhile_joined _ _

/-- What has a meaning outside of quotes is text inside of them, and a token with a quote is left
out. -/
theorem fullText_reads_dublin :
    (parse "a&!b O'Brien (Dublin)").fullText? = some "'a&!b' & '(Dublin)'" ∧
      FullText.readOperands "'a&!b' & '(Dublin)'".toList =
        some (["a&!b".toList, "(Dublin)".toList], []) := by
  have hexpression : (parse "a&!b O'Brien (Dublin)").fullText? = some "'a&!b' & '(Dublin)'" := by
    decide +kernel
  have htokens : (parse "a&!b O'Brien (Dublin)").fullTextTokens = ["a&!b", "(Dublin)"] := by
    decide +kernel
  obtain ⟨-, -, -, hread⟩ := fullText_reads "a&!b O'Brien (Dublin)"
  have hoperands := hread _ hexpression
  rw [htokens] at hoperands
  exact ⟨hexpression, hoperands⟩

end Query

end Polyhierarchy

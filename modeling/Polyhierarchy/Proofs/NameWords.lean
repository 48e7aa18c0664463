import Polyhierarchy.Proofs.FullText
import Polyhierarchy.Proofs.Renaming
import Polyhierarchy.Proofs.VerbatimSearch

set_option relaxedAutoImplicit false
set_option autoImplicit false

/-!
# Topics by the words of their names

The name of a topic is cut into words at whatever is not alphanumeric. A query is cut at white space
first, and what this leaves of it is then cut in the same way. White space is not alphanumeric, so
the second cut finds the same words as if there had not been a first one. This is why a topic is
found by any parts of its own name that stand between white space. Those that cannot be put in
quotes, and those without an alphanumeric character, ask for no words.

## Main definitions

* `Text.IsRun` — a run of characters that satisfy a test, which cannot be made longer.
* `Text.HasWords` — a text has all words of another one, but for their letter case.
* `Tables.TopicMatched` — a topic has all words that a query asks for.
* `Tables.matchResults` — the topics that a query finds by their words, without a limit.

## Main results

* `Text.mem_runs_iff` — which runs are found in a text.
* `Text.flatMap_runs` — a text that has been cut before has the runs that it has as a whole.
* `Tables.Coherent.enumerates_matchResults` — what the topics are that a query finds.
* `Memory.Reachable.found_by_words` — what is found by its words, after every history.
-/

namespace Polyhierarchy

/-! ### Runs of characters -/

namespace Text

/-- A run of characters of a text that satisfy a test. The run has a character, and what stands just
before it and just after it does not satisfy the test. -/
def IsRun (keep : Char → Bool) (s w : List Char) : Prop :=
  w ≠ [] ∧ (∀ c ∈ w, keep c = true) ∧ ∃ before after, s = before ++ (w ++ after) ∧
    (∀ c ∈ before.getLast?, keep c = false) ∧ ∀ c ∈ after.head?, keep c = false

variable {keep : Char → Bool} {s t w : List Char}

/-- What ends with a character that is not kept has no run in common with what comes after it. -/
lemma runs_append_of_getLast? (hs : ∀ c ∈ s.getLast?, keep c = false) (t : List Char) :
    runs keep (s ++ t) = runs keep s ++ runs keep t := by
  rcases List.eq_nil_or_concat s with rfl | ⟨s, c, rfl⟩
  · rfl
  · have hc : keep c = false := hs c (by simp)
    have hlast : runs keep (s ++ [c]) = runs keep s := by
      rw [runs_append_cons s hc]
      exact List.append_nil _
    rw [List.concat_eq_append, hlast, List.append_assoc, List.singleton_append,
      runs_append_cons s hc]

/-- A run of a text that begins with a character which is not kept is a run of any text that ends
with this one. -/
lemma IsRun.append_left (h : IsRun keep t w) (ht : ∀ c ∈ t.head?, keep c = false)
    (s : List Char) : IsRun keep (s ++ t) w := by
  obtain ⟨hne, hw, before, after, rfl, hbefore, hafter⟩ := h
  refine ⟨hne, hw, s ++ before, after, (List.append_assoc _ _ _).symm, ?_, hafter⟩
  cases before with
  | nil =>
    -- The run would begin with the character that is not kept.
    obtain ⟨c, w, rfl⟩ := List.exists_cons_of_ne_nil hne
    exact absurd (hw c List.mem_cons_self) (by simp [ht c rfl])
  | cons d before =>
    rw [List.getLast?_append_cons]
    exact hbefore

/-- The runs that a text is made of cannot be made longer. -/
lemma Runs.isRun {ws : List (List Char)} (h : Runs keep s ws) (hmem : w ∈ ws) :
    IsRun keep s w := by
  induction h with
  | blank hs => exact absurd hmem List.not_mem_nil
  | @run before v rest ws hbefore hne hv hends _ ih =>
    rcases List.mem_cons.1 hmem with rfl | hmem
    · exact ⟨hne, hv, before, rest, rfl, fun c hc => hbefore c (List.mem_of_getLast? hc), hends⟩
    · rw [← List.append_assoc]
      exact (ih hmem).append_left hends _

/-- **The runs that are found** are those that cannot be made longer. -/
theorem mem_runs_iff : w ∈ runs keep s ↔ IsRun keep s w := by
  constructor
  · exact (runs_iff.2 rfl : Runs keep s (runs keep s)).isRun
  · rintro ⟨hne, hw, before, after, rfl, hbefore, hafter⟩
    rw [runs_append_of_getLast? hbefore, runs_append_of_head? hafter, runs_eq_singleton hne hw]
    exact List.mem_append_right _ List.mem_cons_self

/-- A text has no runs if no character of it is kept. -/
lemma runs_eq_nil_iff : runs keep s = [] ↔ ∀ c ∈ s, keep c = false := by
  rw [eq_comm, ← runs_iff]
  constructor
  · rintro ⟨hs⟩
    exact hs
  · exact .blank

/-- There is a run where there is a character that is kept. -/
lemma exists_isRun_iff : (∃ w, IsRun keep s w) ↔ ∃ c ∈ s, keep c = true := by
  have hnone : (∃ w, IsRun keep s w) ↔ runs keep s ≠ [] := by
    rw [Ne, List.eq_nil_iff_forall_not_mem]
    simp only [mem_runs_iff, not_forall, not_not]
  rw [hnone, Ne, runs_eq_nil_iff]
  simp only [not_forall, Bool.not_eq_false, exists_prop]

/-- The runs that a text is made of hold all runs of characters by a stricter test. -/
lemma Runs.flatMap_runs {coarse : Char → Bool} {ws : List (List Char)} (hruns : Runs coarse s ws)
    (h : ∀ c, coarse c = false → keep c = false) : ws.flatMap (runs keep) = runs keep s := by
  induction hruns with
  | blank hs => exact (runs_eq_nil_iff.2 fun c hc => h c (hs c hc)).symm
  | run hbefore _ _ hends _ ih =>
    rw [List.flatMap_cons, ih, runs_append_left fun c hc => h c (hbefore c hc),
      runs_append_of_head? fun c hc => h c (hends c hc)]

/-- **A text that has been cut before** has the runs that it has as a whole, if no character is kept
that the text was cut at. -/
theorem flatMap_runs {coarse : Char → Bool} (h : ∀ c, coarse c = false → keep c = false)
    (s : List Char) : (runs coarse s).flatMap (runs keep) = runs keep s :=
  (runs_iff.2 rfl : Runs coarse s (runs coarse s)).flatMap_runs h

/-! ### Alphanumeric words -/

/-- White space is not alphanumeric. -/
lemma isAlphanumeric_of_isWhiteSpace {c : Char} (h : isWhiteSpace c = true) :
    isAlphanumeric c = false := by
  have hall : ∀ n ∈ List.range' 0x09 5 ++ List.range' 0x2000 11 ++
      [0x20, 0x85, 0xA0, 0x1680, 0x2028, 0x2029, 0x202F, 0x205F, 0x3000],
      isAlphanumeric (Char.ofNat n) = false := by decide +kernel
  rw [← Char.ofNat_toNat c]
  refine hall _ ?_
  simp only [isWhiteSpace, Bool.or_eq_true, Bool.and_eq_true, decide_eq_true_eq, beq_iff_eq] at h
  simp only [List.mem_append, List.mem_range'_1, List.mem_cons, List.not_mem_nil, or_false]
  omega

/-- The alphanumeric words of a word that stands between white space are words of the text. -/
lemma IsRun.of_mem_words {v : List Char} (h : IsRun isAlphanumeric v w) (hv : v ∈ words s) :
    IsRun isAlphanumeric s w := by
  have hcut : ∀ c, (!isWhiteSpace c) = false → isAlphanumeric c = false := fun c hc =>
    isAlphanumeric_of_isWhiteSpace (by simpa using hc)
  rw [← mem_runs_iff, ← flatMap_runs hcut s]
  exact List.mem_flatMap.2 ⟨v, hv, mem_runs_iff.2 h⟩

/-- A text has all alphanumeric words of another one, where words count as the same that are so in
lower case. -/
def HasWords (text token : List Char) : Prop :=
  ∀ w, IsRun isAlphanumeric token w → ∃ v, IsRun isAlphanumeric text v ∧ toLower v = toLower w

lemma mem_foldedWords {text : String} {x : List Char} :
    x ∈ foldedWords text ↔ ∃ w, IsRun isAlphanumeric text.toList w ∧ toLower w = x := by
  simp only [foldedWords, List.mem_map, mem_runs_iff]

end Text

/-! ### Topics that have the words of a query -/

namespace Tables

/-- What a topic is that is found by its words: it is stored in the repository, the query asks for a
word, and the name of the topic has the words of each token that can be put in quotes. -/
def TopicMatched (t : Tables) (r : RepositoryId) (q : Query) (row : Topic) : Prop :=
  t.topics.get? row.id = some row ∧ row.repository = r ∧
    (∃ token ∈ q.tokens, FullText.IsQuotable token.toList ∧
      ∃ c ∈ token.toList, Text.isAlphanumeric c = true) ∧
    ∀ token ∈ q.tokens, FullText.IsQuotable token.toList →
      Text.HasWords row.name.toList token.toList

/-- The topics that a query finds by their words, without a limit. -/
def matchResults (t : Tables) (r : RepositoryId) (q : Query) : List Topic :=
  if (wantedWords q).isEmpty then []
  else
    (t.topics.values.filter fun row => row.repository == r &&
      (wantedWords q).all (Text.foldedWords row.name).contains).mergeSort topicOrder

variable {t : Tables} {r : RepositoryId} {q : Query}

lemma matchTopics_eq_take (limit : Nat) :
    t.matchTopics r q limit = (t.matchResults r q).take limit := by
  rw [matchTopics, matchResults]
  split
  · exact List.take_nil.symm
  · rfl

/-- What a query asks for are the words of its quotable tokens, in lower case. -/
lemma mem_wantedWords {x : List Char} :
    x ∈ wantedWords q ↔ ∃ token ∈ q.tokens, FullText.IsQuotable token.toList ∧
      ∃ w, Text.IsRun Text.isAlphanumeric token.toList w ∧ Text.toLower w = x := by
  simp only [wantedWords, Query.fullTextTokens, List.mem_flatMap, List.mem_filter, and_assoc,
    Query.isQuotable_iff, Text.mem_foldedWords]

lemma wantedWords_ne_nil_iff :
    wantedWords q ≠ [] ↔ ∃ token ∈ q.tokens, FullText.IsQuotable token.toList ∧
      ∃ c ∈ token.toList, Text.isAlphanumeric c = true := by
  rw [Ne, List.eq_nil_iff_forall_not_mem]
  simp only [mem_wantedWords, ← Text.exists_isRun_iff, not_forall, not_not]
  constructor
  · rintro ⟨x, token, htoken, hquotable, w, hw, -⟩
    exact ⟨token, htoken, hquotable, w, hw⟩
  · rintro ⟨token, htoken, hquotable, w, hw⟩
    exact ⟨_, token, htoken, hquotable, w, hw, rfl⟩

lemma all_wantedWords_iff {name : String} :
    (wantedWords q).all (Text.foldedWords name).contains = true ↔
      ∀ token ∈ q.tokens, FullText.IsQuotable token.toList →
        Text.HasWords name.toList token.toList := by
  simp only [List.all_eq_true, List.contains_iff_mem, mem_wantedWords, Text.mem_foldedWords,
    Text.HasWords]
  constructor
  · exact fun h token htoken hquotable w hw => h _ ⟨token, htoken, hquotable, w, hw, rfl⟩
  · rintro h x ⟨token, htoken, hquotable, w, hw, rfl⟩
    exact h token htoken hquotable w hw

/-- **The topics found by their words are those that have them.** -/
theorem Coherent.enumerates_matchResults (h : t.Coherent) (r : RepositoryId) (q : Query) :
    Enumerates Topic.Before (t.TopicMatched r q) (t.matchResults r q) := by
  rw [matchResults]
  split
  next hnil =>
    have hnone : wantedWords q = [] := List.isEmpty_iff.1 hnil
    refine ⟨.nil, List.nodup_nil, fun row => iff_of_false List.not_mem_nil ?_⟩
    rintro ⟨-, -, hasks, -⟩
    exact wantedWords_ne_nil_iff.2 hasks hnone
  next hne =>
    have hasks := wantedWords_ne_nil_iff.1 (mt List.isEmpty_iff.2 hne)
    have hmem : ∀ row, row ∈ (t.topics.values.filter fun row => row.repository == r &&
        (wantedWords q).all (Text.foldedWords row.name).contains) ↔ t.TopicMatched r q row := by
      intro row
      rw [List.mem_filter, h.keyed.topics.mem_values_iff, Bool.and_eq_true, beq_iff_eq,
        all_wantedWords_iff, TopicMatched, and_iff_right hasks]
    refine enumerates_mergeSort topicOrder_trans topicOrder_total
      (h.keyed.topics.nodup_values.filter _) (fun a ha b hb hab hle => ?_) hmem
    exact (topicOrder_iff.1 hle).lt_of_ne
      (rank_ne_of_get? ((hmem a).1 ha).1 ((hmem b).1 hb).1 hab)

/-- **A topic has the words of its own tokens.** -/
lemma TopicMatched.of_subset {text : String} {row : Topic} (hrow : t.topics.get? row.id = some row)
    (hr : row.repository = r) (hplain : Query.IsPlain text)
    (hown : Text.words text.toList ⊆ Text.words row.name.toList)
    (hasks : ∃ w ∈ Text.words text.toList, FullText.IsQuotable w ∧
      ∃ c ∈ w, Text.isAlphanumeric c = true) : t.TopicMatched r (Query.parse text) row := by
  rw [Query.parse_of_isPlain hplain]
  refine ⟨hrow, hr, ?_, List.forall_mem_map.2 fun w hw _ v hv => ?_⟩
  · obtain ⟨w, hw, hquotable, hc⟩ := hasks
    rw [← String.toList_ofList (l := w)] at hquotable hc
    exact ⟨String.ofList w, List.mem_map_of_mem hw, hquotable, hc⟩
  · rw [String.toList_ofList] at hv
    exact ⟨v, hv.of_mem_words (hown hw), rfl⟩

end Tables

/-! ### Finding topics by their words -/

/-- **What is found by words** are the first of the topics that have them, up to the limit, whatever
the deadline is and whichever writes are made to fail. -/
theorem Operation.run_matchTopics (r : RepositoryId) (text : String) (limit : Nat) {τ : Type}
    (titles : TitleSource τ) (d : Deadline) (mem : Memory) (s : τ) :
    (matchTopics r text limit).run Memory.store titles d (mem, s) =
      (.ok ((mem.tables.matchResults r (Query.parse text)).take limit), mem, s) := by
  rw [matchTopics]
  split
  next hlimit =>
    rw [hlimit]
    rfl
  next =>
    rw [← Tables.matchTopics_eq_take]
    exact Program.Unhindered.run_session
      ((Program.unhindered_request rfl).bind fun rows => .done (Ending.discard rows)) titles d mem s

namespace Memory

/-- **What is found by its words, after every history.** For each repository and each query there
is one list of topics that are matched, each once, by name and identifier: those of the repository
whose names have all words of the quotable tokens, and none if there is no such word. Whatever the
limit is, what is returned is the beginning of this list.

Take a text that is made of words of the name of a topic, in any order and as often as one likes. If
none of them is a reference or a URL, and one that can be put in quotes has an alphanumeric
character, then the topic is returned, with any limit that allows for all that is stored. -/
theorem Reachable.found_by_words {mem : Memory} (h : mem.Reachable) (r : RepositoryId)
    (text : String) {τ : Type} (titles : TitleSource τ) (s : τ) :
    ∃ all : List Topic,
      (∀ d limit, (Operation.matchTopics r text limit).run store titles d (mem, s) =
        (.ok (all.take limit), mem, s)) ∧
      Enumerates Topic.Before (mem.tables.TopicMatched r (Query.parse text)) all ∧
      ∀ id row, mem.tables.topics.get? id = some row → row.repository = r →
        Query.IsPlain text → Text.words text.toList ⊆ Text.words row.name.toList →
        (∃ w ∈ Text.words text.toList, FullText.IsQuotable w ∧
          ∃ c ∈ w, Text.isAlphanumeric c = true) →
        ∀ limit, mem.tables.topics.size ≤ limit → row ∈ all.take limit := by
  have hall := h.coherent.enumerates_matchResults r (Query.parse text)
  refine ⟨_, fun d limit => Operation.run_matchTopics r text limit titles d mem s, hall, ?_⟩
  intro id row hrow hr hplain hown hasks limit hlimit
  obtain rfl : row.id = id := h.coherent.keyed.topics id row hrow
  rw [List.take_of_length_le ((hall.length_le_size fun t ht => ⟨t.id, ht.1⟩).trans hlimit)]
  exact (hall.mem_iff row).2 (.of_subset hrow hr hplain hown hasks)

/-- A topic whose name has a word with a quote, below the root of a repository. -/
def finnegan : Memory :=
  (Memory.perform ∅ (.createRepository "Books" ⟨⟨1⟩⟩ ⟨⟨1⟩⟩ default)).perform
    (.upsertTopic ⟨⟨1⟩⟩ "Finnegan's Wake: HCE, ALP" none [] ⟨⟨2⟩⟩ default)

/-- The topic is found by three of its words in another order, one of them twice. The word with a
quote does not count. -/
theorem found_by_words_finnegan :
    ∃ found : List Topic,
      (Operation.matchTopics ⟨⟨1⟩⟩ "HCE, Finnegan's HCE, Wake:" (2 ^ 64 - 1)).run store .silent
        .never (finnegan, ()) = (.ok found, finnegan, ()) ∧ ∃ row ∈ found, row.id = ⟨⟨2⟩⟩ := by
  have hreachable : finnegan.Reachable := by
    apply Reachable.perform
    · exact .perform .empty ⟨rfl, rfl⟩
    · show SortedMap.get? _ _ = none
      decide +kernel
  have htopic : (finnegan.tables.topics.get? ⟨⟨2⟩⟩).map (fun t => (t.id, t.repository,
      t.name.toList)) = some (⟨⟨2⟩⟩, ⟨⟨1⟩⟩, "Finnegan's Wake: HCE, ALP".toList) := by decide +kernel
  obtain ⟨row, hrow, hfields⟩ := Option.map_eq_some_iff.1 htopic
  simp only [Prod.mk.injEq] at hfields
  obtain ⟨hid, hr, hname⟩ := hfields
  obtain ⟨all, hrun, -, hown⟩ := hreachable.found_by_words ⟨⟨1⟩⟩ "HCE, Finnegan's HCE, Wake:"
    TitleSource.silent ()
  refine ⟨_, hrun .never (2 ^ 64 - 1), row, hown _ row hrow hr (by decide +kernel) ?_ ?_ _ ?_, hid⟩
  · rw [hname]
    decide +kernel
  · refine ⟨"HCE,".toList, by decide +kernel, ⟨by decide, by decide⟩, 'H', by decide, ?_⟩
    decide +kernel
  · decide +kernel

end Memory

end Polyhierarchy

import Polyhierarchy.Proofs.Filing
import Polyhierarchy.Proofs.Paging
import Polyhierarchy.Proofs.QueryGrammar

set_option relaxedAutoImplicit false
set_option autoImplicit false

/-!
# What references refer to

The last part of a reference is a text of letters, digits, underscores and hyphens. It refers to a
topic exactly if it is the number of an identifier in hexadecimal digits, in one group of 32 or in
five groups with hyphens between them, and the number is not zero: the other forms in which
identifiers are read have characters that no reference has. All other references select the
identifier zero. This is the identifier of no topic, as the identifiers of topics are minted at
random, with a digit that is never zero.

## Main definitions

* `Uuid.Denotes` — a text denotes a number as an identifier.
* `TopicRef.LastSegment` — what stands after the last slash of a text.
* `Uuid.version` — the digit of an identifier that tells how it was made.
* `Mutation.MintsAtRandom` — the identifier that a call mints for a topic is a random one.

## Main results

* `Uuid.ofChars?_eq_some_iff` — which parts of references are read as identifiers.
* `Mutation.stored_or_minted`, `Memory.Calls.stored_or_minted` — a topic that is stored after a
  call, or after many, was there before or has an identifier that was minted.
* `Memory.references_resolve` — which topics references select, and what is found within none.
-/

namespace Polyhierarchy

/-! ### Identifiers -/

namespace Uuid

/-- A text denotes a number as an identifier: it is made of 32 hexadecimal digits, in any letter
case, either in one group or in groups of 8, 4, 4, 4 and 12 with hyphens between them. -/
def Denotes (s : List Char) (n : Nat) : Prop :=
  ∃ groups : List (List Char),
    (groups.map List.length = [32] ∨ groups.map List.length = [8, 4, 4, 4, 12]) ∧
      s = ['-'].intercalate groups ∧ Text.IsHexNumeral groups.flatten n

variable {s : List Char} {u : Uuid} {n : Nat} {groups : List (List Char)}

/-- There are 32 digits, so the number has no more than 128 bits. -/
lemma Denotes.lt (h : Denotes s n) : n < 2 ^ 128 := by
  obtain ⟨groups, hgroups, -, hnumeral⟩ := h
  have hlength : groups.flatten.length = 32 := by
    rw [List.length_flatten]
    rcases hgroups with hgroups | hgroups <;> rw [hgroups] <;> rfl
  have hlt := Text.numeral?_lt (fun _ _ => Text.hexValue?_lt) (Text.numeral?_hex_iff.2 hnumeral)
  rw [hlength] at hlt
  simpa using hlt

lemma ofDigits?_eq_some_iff :
    ofDigits? s = some u ↔ s.length = 32 ∧ Text.IsHexNumeral s u.bits.toNat := by
  rw [ofDigits?, ← Text.numeral?_hex_iff]
  split
  next hlength =>
    simp only [hlength, true_and, Option.map_eq_some_iff]
    constructor
    · rintro ⟨n, hn, rfl⟩
      have hlt := Text.numeral?_lt (fun _ _ => Text.hexValue?_lt) hn
      rw [hlength] at hlt
      rw [hn, BitVec.toNat_ofNat, Nat.mod_eq_of_lt (by simpa using hlt)]
    · intro hn
      refine ⟨_, hn, congrArg mk (BitVec.eq_of_toNat_eq ?_)⟩
      rw [BitVec.toNat_ofNat, Nat.mod_eq_of_lt u.bits.isLt]
  next hlength => simp [hlength]

/-- Digits in groups, with hyphens between these, are as the digits are written. -/
lemma hyphenate_flatten (h : groups.map List.length = [8, 4, 4, 4, 12]) :
    hyphenate groups.flatten = ['-'].intercalate groups := by
  obtain ⟨a, _, rfl, ha, h⟩ := List.map_eq_cons_iff.1 h
  obtain ⟨b, _, rfl, hb, h⟩ := List.map_eq_cons_iff.1 h
  obtain ⟨c, _, rfl, hc, h⟩ := List.map_eq_cons_iff.1 h
  obtain ⟨d, _, rfl, hd, h⟩ := List.map_eq_cons_iff.1 h
  obtain ⟨e, _, rfl, -, h⟩ := List.map_eq_cons_iff.1 h
  obtain rfl := List.map_eq_nil_iff.1 h
  simp [hyphenate, List.intercalate, List.drop_append, List.drop_of_length_le, ha, hb, hc, hd]

lemma length_flatten (h : groups.map List.length = [8, 4, 4, 4, 12]) :
    groups.flatten.length = 32 := by
  rw [List.length_flatten, h]
  rfl

/-- **What is read with hyphens** are digits in groups.

**Proof sketch.** The reader compares where hyphens stand with where they stand in a written form,
and then leaves them out. Where hyphens stand says how long the groups between them are. -/
lemma ofHyphenated?_eq_some_iff :
    ofHyphenated? s = some u ↔ ∃ groups : List (List Char),
      groups.map List.length = [8, 4, 4, 4, 12] ∧ s = ['-'].intercalate groups ∧
        Text.IsHexNumeral groups.flatten u.bits.toNat := by
  rw [ofHyphenated?]
  constructor
  · intro h
    split at h
    next hmask =>
      obtain ⟨-, hnumeral⟩ := ofDigits?_eq_some_iff.1 h
      have hzeros : ((hyphenate (List.replicate 32 '0')).splitOnP (· == '-')).map List.length =
        [8, 4, 4, 4, 12] := by decide +kernel
      refine ⟨s.splitOnP (· == '-'), ?_, (List.intercalate_splitOn '-').symm, ?_⟩
      · rw [Text.map_length_splitOnP, hmask, ← Text.map_length_splitOnP, hzeros]
      · rw [Text.flatten_splitOnP]
        exact hnumeral
    next => cases h
  · rintro ⟨groups, hgroups, rfl, hnumeral⟩
    have hlength := length_flatten hgroups
    rw [← hyphenate_flatten hgroups, if_pos (map_hyphenate hlength hnumeral.ne_hyphen),
      filter_hyphenate hnumeral.ne_hyphen]
    exact ofDigits?_eq_some_iff.2 ⟨hlength, hnumeral⟩

/-- **What is read as an identifier**, of texts that may be part of a reference, are 32 digits in
one group or in five. The other forms have a brace or a colon. -/
theorem ofChars?_eq_some_iff (hs : ∀ c ∈ s, TopicRef.isWordChar c = true) :
    ofChars? s = some u ↔ Denotes s u.bits.toNat := by
  have hbraces : unbraced? s = none := by
    rw [unbraced?.eq_def]
    split
    next c rest => exact absurd (hs _ List.mem_cons_self) (by decide)
    next => rfl
  have hcolon : ∀ start : List Char, ':' ∈ start → after? start s = none := by
    intro start hmem
    rw [after?]
    split
    next hstart =>
      rw [← hstart] at hmem
      exact absurd (hs _ (List.mem_of_mem_take hmem)) (by decide)
    next => rfl
  have hreaders : ofChars? s = some u ↔
      ofDigits? s = some u ∨ ofDigits? s = none ∧ ofHyphenated? s = some u := by
    rw [ofChars?, hbraces, hcolon _ (by decide), hcolon _ (by decide)]
    cases ofDigits? s <;> cases ofHyphenated? s <;> simp
  have hdigits : ofDigits? s = some u ↔ ∃ groups : List (List Char),
      groups.map List.length = [32] ∧ s = ['-'].intercalate groups ∧
        Text.IsHexNumeral groups.flatten u.bits.toNat := by
    rw [ofDigits?_eq_some_iff]
    constructor
    · rintro ⟨hlength, hnumeral⟩
      exact ⟨[s], by simp [hlength], by simp, by simpa using hnumeral⟩
    · rintro ⟨groups, hgroups, rfl, hnumeral⟩
      obtain ⟨a, _, rfl, ha, hnil⟩ := List.map_eq_cons_iff.1 hgroups
      obtain rfl := List.map_eq_nil_iff.1 hnil
      exact ⟨by simpa using ha, by simpa using hnumeral⟩
  -- With its hyphens a text has 36 characters, so it is not read as digits before.
  have hnone : ofHyphenated? s = some u → ofDigits? s = none := by
    rw [ofHyphenated?_eq_some_iff]
    rintro ⟨groups, hgroups, rfl, -⟩
    rw [ofDigits?, ← hyphenate_flatten hgroups, length_hyphenate (length_flatten hgroups)]
    exact if_neg (by decide)
  rw [hreaders, and_iff_right_of_imp hnone, hdigits, ofHyphenated?_eq_some_iff, ← exists_or]
  exact exists_congr fun groups => or_and_right.symm

end Uuid

/-! ### References -/

namespace TopicRef

/-- What stands after the last slash of a text. -/
def LastSegment (token : String) (segment : List Char) : Prop :=
  '/' ∉ segment ∧ ∃ before, token.toList = before ++ '/' :: segment

variable {token : String} {segment : List Char} {r : TopicRef} {n : Nat}

lemma LastSegment.lastPart_eq (h : LastSegment token segment) :
    lastPart token.toList = segment := by
  obtain ⟨hslash, before, htoken⟩ := h
  rw [htoken, lastPart_append before segment fun c hc he => hslash (he ▸ hc)]

/-- The last segment of a reference is what its form says. -/
lemma exists_lastSegment (h : parse? token = some r) :
    ∃ segment, LastSegment token segment ∧ ∀ c ∈ segment, isWordChar c = true := by
  obtain ⟨⟨org, segment, htoken, -, -, hsegment⟩, -⟩ := parse?_eq_some_iff.1 h
  have hword : ∀ c ∈ segment, isWordChar c = true := fun c hc => isWordChar_iff.2 (hsegment c hc)
  refine ⟨segment, ⟨fun hslash => absurd (hword '/' hslash) (by decide), ?_⟩, hword⟩
  exact ⟨"in:/".toList ++ (org ++ "/topics".toList), by rw [htoken]; simp⟩

lemma LastSegment.isWordChar (hsegment : LastSegment token segment) (h : parse? token = some r) :
    ∀ c ∈ segment, isWordChar c = true := by
  obtain ⟨segment', hsegment', hword⟩ := exists_lastSegment h
  obtain rfl : segment' = segment := hsegment'.lastPart_eq.symm.trans hsegment.lastPart_eq
  exact hword

/-- A reference selects the identifier that its last segment is read as, if it is one. -/
lemma LastSegment.topic_eq (hsegment : LastSegment token segment) (h : parse? token = some r) :
    r.topic = (Uuid.ofChars? segment).elim TopicId.none fun u => ⟨u⟩ := by
  obtain ⟨-, rfl⟩ := parse?_eq_some_iff.1 h
  rw [topic, hsegment.lastPart_eq]
  cases Uuid.ofChars? segment <;> rfl

/-- The identifier zero is the one whose number is zero. -/
lemma eq_none_iff {x : TopicId} : x = TopicId.none ↔ x.uuid.bits.toNat = 0 := by
  constructor
  · rintro rfl
    rfl
  · exact fun hzero => rank_injective hzero

/-- **A reference selects what its last segment denotes.** -/
lemma topic_of_denotes (h : parse? token = some r) (hsegment : LastSegment token segment)
    (hn : Uuid.Denotes segment n) : r.topic.uuid.bits.toNat = n := by
  have hbits : (BitVec.ofNat 128 n).toNat = n := by
    rw [BitVec.toNat_ofNat, Nat.mod_eq_of_lt hn.lt]
  have hread : Uuid.ofChars? segment = some ⟨BitVec.ofNat 128 n⟩ :=
    (Uuid.ofChars?_eq_some_iff (hsegment.isWordChar h)).2 (hbits.symm ▸ hn)
  rw [hsegment.topic_eq h, hread]
  exact hbits

/-- **A reference selects a topic** exactly if its last segment denotes a number that is not
zero. -/
lemma topic_ne_none_iff (h : parse? token = some r) (hsegment : LastSegment token segment) :
    r.topic ≠ TopicId.none ↔ ∃ n, n ≠ 0 ∧ Uuid.Denotes segment n := by
  constructor
  · intro hne
    rw [hsegment.topic_eq h] at hne
    cases hread : Uuid.ofChars? segment with
    | none =>
      rw [hread] at hne
      exact absurd rfl hne
    | some u =>
      rw [hread] at hne
      exact ⟨u.bits.toNat, fun hzero => hne (eq_none_iff.2 hzero),
        (Uuid.ofChars?_eq_some_iff (hsegment.isWordChar h)).1 hread⟩
  · rintro ⟨n, hzero, hn⟩ hnone
    rw [← topic_of_denotes h hsegment hn] at hzero
    exact hzero (eq_none_iff.1 hnone)

/-- **Two references select the same topic** exactly if their last segments denote the same
number, and it is not zero. -/
lemma topic_eq_topic_iff {token' : String} {segment' : List Char} {r' : TopicRef}
    (h : parse? token = some r) (hsegment : LastSegment token segment)
    (h' : parse? token' = some r') (hsegment' : LastSegment token' segment') :
    r.topic = r'.topic ∧ r.topic ≠ TopicId.none ↔
      ∃ n, n ≠ 0 ∧ Uuid.Denotes segment n ∧ Uuid.Denotes segment' n := by
  constructor
  · rintro ⟨heq, hne⟩
    obtain ⟨n, hzero, hn⟩ := (topic_ne_none_iff h hsegment).1 hne
    obtain ⟨n', -, hn'⟩ := (topic_ne_none_iff h' hsegment').1 (heq ▸ hne)
    obtain rfl : n' = n := by
      rw [← topic_of_denotes h hsegment hn, heq, topic_of_denotes h' hsegment' hn']
    exact ⟨n', hzero, hn, hn'⟩
  · rintro ⟨n, hzero, hn, hn'⟩
    refine ⟨rank_injective ?_, (topic_ne_none_iff h hsegment).2 ⟨n, hzero, hn⟩⟩
    exact (topic_of_denotes h hsegment hn).trans (topic_of_denotes h' hsegment' hn').symm

end TopicRef

/-! ### Identifiers that are minted -/

/-- What is stored after an insertion is what was inserted, or was stored before. -/
lemma SortedMap.eq_or_exists_of_get?_insert {κ ν : Type} [Ranked κ] {m : SortedMap κ ν} {j k : κ}
    {v w : ν} (h : (m.insert k v).get? j = some w) : k = j ∨ ∃ old, m.get? j = some old := by
  by_cases hj : j = k
  · exact .inl hj.symm
  · rw [get?_insert_ne _ _ hj] at h
    exact .inr ⟨w, h⟩

/-- The digit of an identifier that tells how it was made, the thirteenth of its written form. It is
four if the identifier was made at random. -/
def Uuid.version (u : Uuid) : Nat := u.bits.toNat / 2 ^ 76 % 16

namespace Mutation

/-- The topic that a call mints an identifier for. -/
def mintedTopic? : Mutation → Option TopicId
  | createRepository _ _ root _ => some root
  | upsertTopic _ _ _ _ id _ => some id
  | _ => none

/-- Whether the identifier that a call mints for a topic, if it does, is a random one. -/
def MintsAtRandom (m : Mutation) : Prop := ∀ x ∈ m.mintedTopic?, x.uuid.version = 4

variable {t t' : Tables} {τ : Type} {titles : TitleSource τ} {s s' : τ} {x : TopicId} {row : Topic}

/-- A topic that is renamed was stored. -/
lemma exists_of_saveRenamed {old renamed : Topic} {alerts : List Alert} {v : Updated Topic}
    (hc : (Operation.saveRenamed old renamed alerts).on t = (.ok (.commit v), t'))
    (hold : t.topics.get? renamed.id = some old) (hrow : t'.topics.get? x = some row) :
    ∃ old, t.topics.get? x = some old := by
  obtain ⟨-, -, rfl⟩ := (Operation.saveRenamed_commits hold).1 hc
  rcases SortedMap.eq_or_exists_of_get?_insert hrow with rfl | hstored
  · exact ⟨old, hold⟩
  · exact hstored

/-- **A topic that is stored after a call** was stored before, or the call has minted its
identifier. -/
theorem stored_or_minted (h : t.Coherent) (m : Mutation) (hfresh : m.IsFresh t) {v : m.Result}
    (hc : m.operation.on titles (t, s) = (.ok (.commit v), t', s'))
    (hrow : t'.topics.get? x = some row) :
    m.mintedTopic? = some x ∨ ∃ old, t.topics.get? x = some old := by
  cases m with
  | createRepository name id root now =>
    have hcreate : (Operation.createRepository name id root now).on titles (t, s) =
      (.ok (.commit v), t', s') := hc
    rw [Operation.createRepository_commits h hfresh.1] at hcreate
    obtain ⟨-, rfl, -⟩ := hcreate
    exact (SortedMap.eq_or_exists_of_get?_insert hrow).imp_left (congrArg some)
  | upsertTopic repository name description parentIds id now =>
    obtain ⟨_, _, -, -, -, -, -, -, rfl, -⟩ := (Operation.upsertTopic_commits h).1 hc
    exact (SortedMap.eq_or_exists_of_get?_insert hrow).imp_left (congrArg some)
  | updateParents id parentIds =>
    obtain ⟨_, -, -, -, -, -, rfl, -⟩ := (Operation.updateParents_commits h).1 hc
    exact .inr ⟨row, hrow⟩
  | deleteTopic id =>
    obtain ⟨_, -, -, -, rfl, -⟩ := (Operation.deleteTopic_commits h).1 hc
    exact .inr ⟨row, SortedMap.get?_of_get?_erase hrow⟩
  | mergeTopic source target =>
    obtain ⟨_, parent, -, -, -, hparent, -, -, -, -, -, rfl, -⟩ := Operation.mergeTopic_commits h hc
    rcases SortedMap.eq_or_exists_of_get?_insert hrow with rfl | ⟨old, hold⟩
    · exact .inr ⟨parent, hparent⟩
    · exact .inr ⟨old, SortedMap.get?_of_get?_erase hold⟩
  | updateSynonyms id synonyms =>
    obtain ⟨old, hold, -, hsave⟩ := Operation.updateSynonyms_commits hc
    obtain rfl : old.id = id := h.keyed.topics id old hold
    exact .inr (exists_of_saveRenamed hsave hold hrow)
  | setTimeRange id range =>
    obtain ⟨old, hold, hsave⟩ := Operation.changeTimeRange_commits hc
    obtain rfl : old.id = id := h.keyed.topics id old hold
    exact .inr (exists_of_saveRenamed hsave hold hrow)
  | deleteTimeRange id =>
    obtain ⟨old, hold, hsave⟩ := Operation.changeTimeRange_commits hc
    obtain rfl : old.id = id := h.keyed.topics id old hold
    exact .inr (exists_of_saveRenamed hsave hold hrow)
  | upsertLink repository url title parentIds id now =>
    have hlink : (Operation.upsertLink repository url title parentIds id now).on titles (t, s) =
      (.ok (.commit v), t', s') := hc
    obtain ⟨_, -, hfiled⟩ := Operation.upsertLink_commits hlink
    obtain ⟨_, _, _, -, -, -, -, rfl⟩ := Operation.fileLink_commits h hfiled
    exact .inr ⟨row, hrow⟩
  | updateLinkParents id parentIds =>
    obtain ⟨_, _, -, -, -, -, rfl, -⟩ := (Operation.updateLinkParents_commits h).1 hc
    exact .inr ⟨row, hrow⟩
  | deleteLink id =>
    obtain ⟨_, -, -, rfl, -⟩ := (Operation.deleteLink_commits h).1 hc
    exact .inr ⟨row, hrow⟩

end Mutation

namespace Memory

variable {mem mem' : Memory} {ms : List Mutation} {P : Tables → Prop}

/-- **A topic that is stored after any calls** was stored before, or one of those that returned has
minted its identifier. -/
theorem Calls.stored_or_minted (h : mem.Calls P ms mem') (hmem : mem.Reachable) {x : TopicId}
    {row : Topic} (hrow : mem'.tables.topics.get? x = some row) :
    (∃ m ∈ ms, m.mintedTopic? = some x) ∨ ∃ old, mem.tables.topics.get? x = some old := by
  induction h generalizing row with
  | refl => exact .inr ⟨row, hrow⟩
  | @returned mem' ms τ m titles s d v hcalls hfresh hv _ ih =>
    rw [List.exists_mem_cons_iff, or_assoc]
    rcases m.operation.unchanged_or_committed titles d mem' s with ⟨hsame, -⟩ | ⟨v, -, hon, -⟩
    · exact .inr (ih (hsame ▸ hrow))
    · have ht := (hcalls.leads.reachable hmem).coherent
      exact (m.stored_or_minted ht hfresh hon hrow).imp_right fun ⟨_, hold⟩ => ih hold
  | @failed mem' ms τ m titles s d e hcalls hfresh he _ ih =>
    rcases m.operation.unchanged_or_committed titles d mem' s with ⟨hsame, -⟩ | ⟨v, hv, -⟩
    · exact ih (hsame ▸ hrow)
    · rw [he] at hv
      cases hv
  | limitWrites n _ ih => exact ih hrow

/-- Identifiers that are minted at random leave the identifier zero to no topic. -/
lemma Calls.get?_none (h : (∅ : Memory).Calls P ms mem) (hrandom : ∀ m ∈ ms, m.MintsAtRandom) :
    mem.tables.topics.get? TopicId.none = none := by
  cases hrow : mem.tables.topics.get? TopicId.none with
  | none => rfl
  | some row =>
    rcases h.stored_or_minted .empty hrow with ⟨m, hm, hminted⟩ | ⟨old, hold⟩
    · exact absurd (hrandom m hm _ hminted) (by decide)
    · cases hold

/-- **What references refer to.** A reference in the name of any organisation, followed by an
identifier as it is written, selects the topic with this identifier. Whatever is read as a reference
selects a topic exactly if its last segment denotes a number that is not zero, and then the topic
with this number; and two references select the same topic exactly if their last segments denote the
same one.

A reference that selects none leaves nothing to be found, after any calls for which identifiers of
topics were minted at random: a search below any topic has no results, and neither has a page. -/
theorem references_resolve :
    (∀ (org : String) (id : TopicId), org ≠ "" → (∀ c ∈ org.toList, TopicRef.IsNameChar c) →
      ∃ r, TopicRef.parse? ("in:/" ++ org ++ "/topics/" ++ toString id) = some r ∧
        r.topic = id) ∧
    (∀ token r, TopicRef.parse? token = some r →
      ∃ segment, TopicRef.LastSegment token segment ∧
        (r.topic ≠ TopicId.none ↔ ∃ n, n ≠ 0 ∧ Uuid.Denotes segment n) ∧
        ∀ n, Uuid.Denotes segment n → r.topic.uuid.bits.toNat = n) ∧
    (∀ token token' r r' segment segment',
      TopicRef.parse? token = some r → TopicRef.LastSegment token segment →
      TopicRef.parse? token' = some r' → TopicRef.LastSegment token' segment' →
        (r.topic = r'.topic ∧ r.topic ≠ TopicId.none ↔
          ∃ n, n ≠ 0 ∧ Uuid.Denotes segment n ∧ Uuid.Denotes segment' n)) ∧
    ∀ (ms : List Mutation) (mem : Memory), (∅ : Memory).Calls (fun _ => True) ms mem →
      (∀ m ∈ ms, m.MintsAtRandom) →
      ∀ text, (∃ r ∈ (Query.parse text).references, r.topic = TopicId.none) →
        (∀ root limit, mem.tables.searchTopics ⟨root, Query.parse text, limit⟩ = [] ∧
          mem.tables.searchLinks ⟨root, Query.parse text, limit⟩ = []) ∧
        ∀ root row, mem.tables.topics.get? root = some row →
          ∀ {τ : Type} (titles : TitleSource τ) (s : τ),
            (∀ m n, (Operation.search root text m n).run store titles .never (mem, s) =
              (.ok ⟨[], []⟩, mem, s)) ∧
            ∀ n, (Operation.searchPage root text n).run store titles .never (mem, s) =
              (.ok ⟨[], []⟩, mem, s) := by
  refine ⟨fun org id hne horg => ?_, fun token r h => ?_, fun token token' r r' segment segment'
    h hsegment h' hsegment' => TopicRef.topic_eq_topic_iff h hsegment h' hsegment', ?_⟩
  · have hword : ∀ c ∈ org.toList, TopicRef.isWordChar c = true := fun c hc =>
      TopicRef.isWordChar_iff.2 (horg c hc)
    exact ⟨_, TopicRef.parse?_written id (fun hnil => hne (String.toList_eq_nil_iff.1 hnil)) hword,
      TopicRef.topic_written id org⟩
  · obtain ⟨segment, hsegment, -⟩ := TopicRef.exists_lastSegment h
    exact ⟨segment, hsegment, TopicRef.topic_ne_none_iff h hsegment,
      fun n => TopicRef.topic_of_denotes h hsegment⟩
  · rintro ms mem h hrandom text ⟨r, hr, hnone⟩
    have hc := (h.leads.reachable .empty).coherent
    have hresults : ∀ root, mem.tables.topicResults root (Query.parse text) = [] ∧
        mem.tables.linkResults root (Query.parse text) = [] := fun root =>
      hc.results_eq_nil hr (hnone ▸ h.get?_none hrandom)
    constructor
    · intro root limit
      obtain ⟨htopics, hlinks⟩ := hresults root
      rw [Tables.searchTopics_eq, Tables.searchLinks_eq, htopics, hlinks]
      simp
    · intro root row hroot τ titles s
      obtain ⟨htopics, hlinks⟩ := hresults root
      constructor
      · intro m n
        rw [Operation.run_search hroot, htopics, hlinks, List.take_nil, List.take_nil]
      · intro n
        rw [Operation.run_searchPage hroot, Tables.results, htopics, hlinks]
        simp [SearchResults.firstPage, SearchResults.upTo]

/-- The call that creates a repository whose root has a random identifier. -/
def founding : Mutation :=
  .createRepository "Books" ⟨⟨1⟩⟩ ⟨⟨0x46fbd82a63d6475fbeea973eac490e77⟩⟩ default

/-- The root of a repository is selected by the reference that is written for it, and by the plain
digits in capital letters in the name of another organisation. It is not found by its name if there
is a reference to nothing as well. -/
theorem references_resolve_founding :
    let id : TopicId := ⟨⟨0x46fbd82a63d6475fbeea973eac490e77⟩⟩
    let grouped := "46fbd82a-63d6-475f-beea-973eac490e77"
    let plain := "46FBD82A63D6475FBEEA973EAC490E77"
    let mem := Memory.perform ∅ founding
    (∃ r, TopicRef.parse? ("in:/wiki/topics/" ++ grouped) = some r ∧ r.topic = id) ∧
    TopicRef.topic ⟨"in:/films/topics/" ++ plain⟩ =
      TopicRef.topic ⟨"in:/wiki/topics/" ++ grouped⟩ ∧
    (Operation.search id "Everything in:/wiki/topics/not-a-uuid" 5 5).run store .silent .never
      (mem, ()) = (.ok ⟨[], []⟩, mem, ()) := by
  intro id grouped plain mem
  obtain ⟨hwritten, -, hsame, hnothing⟩ := references_resolve
  refine ⟨?_, ?_, ?_⟩
  · have htext : "in:/" ++ "wiki" ++ "/topics/" ++ toString id = "in:/wiki/topics/" ++ grouped := by
      decide +kernel
    rw [← htext]
    exact hwritten "wiki" id (by decide) fun c hc => TopicRef.isWordChar_iff.1
      (List.all_eq_true.1 (by decide : "wiki".toList.all TopicRef.isWordChar = true) c hc)
  · have hdenotes : Uuid.Denotes plain.toList id.uuid.bits.toNat :=
      ⟨[plain.toList], .inl (by decide), by decide, Text.numeral?_hex_iff.1 (by decide +kernel)⟩
    have hdenotes' : Uuid.Denotes grouped.toList id.uuid.bits.toNat :=
      ⟨["46fbd82a".toList, "63d6".toList, "475f".toList, "beea".toList, "973eac490e77".toList],
        .inr (by decide), by decide, Text.numeral?_hex_iff.1 (by decide +kernel)⟩
    have hsegment : TopicRef.LastSegment ("in:/films/topics/" ++ plain) plain.toList :=
      ⟨by decide, "in:/films/topics".toList, by decide⟩
    have hsegment' : TopicRef.LastSegment ("in:/wiki/topics/" ++ grouped) grouped.toList :=
      ⟨by decide, "in:/wiki/topics".toList, by decide⟩
    have hboth := hsame _ _ ⟨"in:/films/topics/" ++ plain⟩ ⟨"in:/wiki/topics/" ++ grouped⟩ _ _
      (by decide +kernel) hsegment (by decide +kernel) hsegment'
    exact (hboth.2 ⟨_, by decide, hdenotes, hdenotes'⟩).1
  · have hcalls : (∅ : Memory).Calls (fun _ => True) [founding] mem :=
      .perform .refl ⟨rfl, rfl⟩ (by decide +kernel) trivial
    have hrandom : ∀ m ∈ [founding], m.MintsAtRandom := by
      rintro m hm x hx
      obtain rfl := List.mem_singleton.1 hm
      obtain rfl := Option.some.inj hx
      decide +kernel
    obtain ⟨root, hroot⟩ : ∃ root, mem.tables.topics.get? id = some root :=
      Option.isSome_iff_exists.1 (by decide +kernel)
    exact ((hnothing [founding] mem hcalls hrandom _ (by decide +kernel)).2 id root hroot
      TitleSource.silent ()).1 5 5

end Memory

end Polyhierarchy

import Polyhierarchy.Proofs.Numerals
import Polyhierarchy.Query.Reference
import Polyhierarchy.Text.WhiteSpace

set_option relaxedAutoImplicit false
set_option autoImplicit false

/-!
# References select the topics that they were written for

An identifier is read as it was written. So a reference that ends in the written form of the
identifier of a topic selects this topic, whatever organisation it names.

## Main definitions

* `TopicRef.written` — the reference to a topic, in the name of an organisation.

## Main results

* `Uuid.ofChars?_toChars` — an identifier is read as it was written.
* `TopicRef.parse?_written`, `TopicRef.topic_written` — a reference is read as one, and selects its
  topic.
-/

namespace Polyhierarchy

/-! ### Identifiers -/

namespace Uuid

variable {ds : List Char}

/-- Hyphens stand at the same places among all digits. -/
lemma map_hyphenate (hlength : ds.length = 32) (hhyphen : ∀ c ∈ ds, c ≠ '-') :
    (hyphenate ds).map (· == '-') = (hyphenate (List.replicate 32 '0')).map (· == '-') := by
  have hds : ds.map (· == '-') = (List.replicate 32 '0').map (· == '-') := by
    rw [List.map_replicate, List.eq_replicate_iff, List.length_map]
    refine ⟨hlength, List.forall_mem_map.2 fun c hc => ?_⟩
    simpa using hhyphen c hc
  have hshape : ∀ l : List Char, (hyphenate l).map (· == '-') =
      (l.map (· == '-')).take 8 ++ true :: ((l.map (· == '-')).drop 8).take 4 ++
        true :: ((l.map (· == '-')).drop 12).take 4 ++
        true :: ((l.map (· == '-')).drop 16).take 4 ++ true :: (l.map (· == '-')).drop 20 := by
    intro l
    simp only [hyphenate, List.map_append, List.map_cons, List.map_take, List.map_drop,
      beq_self_eq_true]
  rw [hshape, hshape, hds]

/-- Without the hyphens the digits are left. -/
lemma filter_hyphenate (hhyphen : ∀ c ∈ ds, c ≠ '-') : (hyphenate ds).filter (· != '-') = ds := by
  have hkeep : ∀ l : List Char, l ⊆ ds → l.filter (· != '-') = l := fun l hl =>
    List.filter_eq_self.2 fun c hc => by simpa using hhyphen c (hl hc)
  have htake : ∀ k n, ((ds.drop k).take n).filter (· != '-') = (ds.drop k).take n := fun k n =>
    hkeep _ fun _ hc => List.mem_of_mem_drop (List.mem_of_mem_take hc)
  have hgroups : ∀ k, (ds.drop k).take 4 ++ ds.drop (k + 4) = ds.drop k := fun k => by
    rw [← List.drop_drop, List.take_append_drop]
  have hhyphen' : ('-' != '-') = false := by decide
  simp only [hyphenate, List.filter_append, List.filter_cons, hhyphen', Bool.false_eq_true,
    if_false, htake, hkeep _ (List.take_subset ..), hkeep _ (List.drop_subset ..),
    List.append_assoc, hgroups, List.take_append_drop]

lemma length_hyphenate (hlength : ds.length = 32) : (hyphenate ds).length = 36 := by
  simp only [hyphenate, List.length_append, List.length_cons, List.length_take, List.length_drop,
    hlength]
  decide

/-- The written form is made of digits and hyphens. -/
lemma mem_toChars {u : Uuid} {c : Char} (h : c ∈ u.toChars) : Text.IsHexSmall c ∨ c = '-' := by
  have hmem : c ∈ Text.hexDigits 32 u.bits.toNat ∨ c = '-' := by
    simp only [toChars, hyphenate, List.mem_append, List.mem_cons] at h
    rcases h with (((h | h | h) | h | h) | h | h) | h | h
    all_goals first
      | exact .inr h
      | exact .inl (List.mem_of_mem_drop (List.mem_of_mem_take h))
      | exact .inl (List.mem_of_mem_take h)
      | exact .inl (List.mem_of_mem_drop h)
  exact hmem.imp_left Text.isHexSmall_of_mem_hexDigits

/-- **An identifier is read as it was written.** -/
theorem ofChars?_toChars (u : Uuid) : ofChars? u.toChars = some u := by
  have hlength : (Text.hexDigits 32 u.bits.toNat).length = 32 := Text.length_hexDigits ..
  have hhyphen : ∀ c ∈ Text.hexDigits 32 u.bits.toNat, c ≠ '-' := fun c hc =>
    (Text.isHexSmall_of_mem_hexDigits hc).of_forall (P := (· ≠ '-')) (by decide)
  have hdigits : ofDigits? (Text.hexDigits 32 u.bits.toNat) = some u := by
    rw [ofDigits?, if_pos hlength, Text.numeral?_hexDigits]
    refine congrArg (some ∘ mk) (BitVec.eq_of_toNat_eq ?_)
    rw [BitVec.toNat_ofNat]
    exact (Nat.mod_mod ..).trans (Nat.mod_eq_of_lt u.bits.isLt)
  have hplain : ofDigits? u.toChars = none := by
    rw [ofDigits?, toChars, length_hyphenate hlength]
    exact if_neg (by decide)
  have hhyphenated : ofHyphenated? u.toChars = some u := by
    rw [ofHyphenated?, toChars, if_pos (map_hyphenate hlength hhyphen), filter_hyphenate hhyphen,
      hdigits]
  rw [ofChars?, hplain, hhyphenated]
  rfl

end Uuid

/-! ### References -/

namespace TopicRef

/-- The reference to a topic, in the name of an organisation. -/
def written (org : String) (id : TopicId) : String := "in:/" ++ org ++ "/topics/" ++ toString id

lemma toList_written (org : String) (id : TopicId) :
    (written org id).toList =
      "in:/".toList ++ (org.toList ++ ("/topics/".toList ++ id.uuid.toChars)) := by
  have hid : (toString id).toList = id.uuid.toChars := String.toList_ofList
  simp only [written, String.toList_append, List.append_assoc, hid]

lemma after?_append (start s : List Char) : after? start (start ++ s) = some s := by
  rw [after?, if_pos (List.isPrefixOf_iff_prefix.2 (List.prefix_append ..)), List.drop_left]

lemma isWordChar_of_mem_toChars {u : Uuid} {c : Char} (h : c ∈ u.toChars) :
    isWordChar c = true ∧ c ≠ '/' ∧ Text.isWhiteSpace c = false := by
  rcases Uuid.mem_toChars h with h | rfl
  · exact h.of_forall
      (P := fun c => isWordChar c = true ∧ c ≠ '/' ∧ Text.isWhiteSpace c = false) (by decide)
  · decide

variable {org : String} (id : TopicId)

/-- **A written reference** is read as one, in the name of any organisation. -/
theorem parse?_written (hne : org.toList ≠ []) (horg : ∀ c ∈ org.toList, isWordChar c = true) :
    parse? (written org id) = some ⟨written org id⟩ := by
  have hword : ∀ s : List Char,
      (org.toList ++ ("/topics/".toList ++ s)).takeWhile isWordChar = org.toList := fun s => by
    rw [List.takeWhile_append_of_pos horg]
    exact List.append_nil _
  have hrest : ∀ s : List Char,
      (org.toList ++ ("/topics/".toList ++ s)).dropWhile isWordChar = "/topics/".toList ++ s :=
    fun s => List.dropWhile_append_of_pos horg
  have hid : id.uuid.toChars.all isWordChar = true :=
    List.all_eq_true.2 fun c hc => (isWordChar_of_mem_toChars hc).1
  have hsegment : segment? (written org id).toList = some id.uuid.toChars := by
    rw [segment?, toList_written, after?_append]
    simp only [Option.bind_eq_bind, Option.bind_some, hword, hrest, after?_append, hid, if_true]
    exact if_neg (by simpa using hne)
  rw [parse?, hsegment]
  rfl

/-- What stands after the last slash, where there is one. -/
lemma lastPart_append (s t : List Char) (ht : ∀ c ∈ t, c ≠ '/') :
    lastPart (s ++ '/' :: t) = t := by
  rw [lastPart, List.reverse_append, List.reverse_cons, List.append_assoc,
    List.takeWhile_append_of_pos (fun c hc => by simpa using ht c (List.mem_reverse.1 hc))]
  exact (congrArg List.reverse (List.append_nil _)).trans (List.reverse_reverse t)

/-- **A written reference selects its topic**, in the name of any organisation. -/
theorem topic_written (org : String) : topic ⟨written org id⟩ = id := by
  have hlast : lastPart (written org id).toList = id.uuid.toChars := by
    have hsplit : (written org id).toList =
        ("in:/".toList ++ (org.toList ++ "/topics".toList)) ++ '/' :: id.uuid.toChars := by
      rw [toList_written]
      simp
    rw [hsplit, lastPart_append _ _ fun c hc => (isWordChar_of_mem_toChars hc).2.1]
  simp only [topic, hlast, Uuid.ofChars?_toChars]

/-- A written reference has no white space, unless the name of the organisation has. -/
lemma isWhiteSpace_of_mem_written (horg : ∀ c ∈ org.toList, Text.isWhiteSpace c = false)
    {c : Char} (h : c ∈ (written org id).toList) : Text.isWhiteSpace c = false := by
  have hfixed : ∀ {s : List Char}, (s.all fun c => !Text.isWhiteSpace c) = true → c ∈ s →
      Text.isWhiteSpace c = false := fun hs hc => by simpa using List.all_eq_true.1 hs c hc
  rw [toList_written, List.mem_append, List.mem_append, List.mem_append] at h
  rcases h with h | h | h | h
  · exact hfixed (by decide) h
  · exact horg c h
  · exact hfixed (by decide) h
  · exact (isWordChar_of_mem_toChars h).2.2

end TopicRef

end Polyhierarchy

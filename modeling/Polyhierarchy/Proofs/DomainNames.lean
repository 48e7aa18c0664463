import Polyhierarchy.Proofs.Pieces
import Polyhierarchy.Url.Domain

set_option relaxedAutoImplicit false
set_option autoImplicit false

/-!
# Domain names in ASCII

The form in ASCII of a domain name is made of few characters, whatever the name was. What takes part
in encoding a label are digits and a hyphen, and the rest was checked before. A name that needs
neither lowering nor decoding is its own form in ASCII.

## Main definitions

* `Url.IsNameChar` — the characters that the form in ASCII of a domain name is made of.

## Main results

* `Url.Punycode.mem_encode` — the characters of an encoded label.
* `Url.isNameChar_of_mem_domainToAscii?` — the characters of the form in ASCII of a domain name.
* `Url.domainToAscii?_eq_self` — which names are their own form in ASCII for sure.
-/

namespace Polyhierarchy.Url

/-- Whether a character may stand in the form in ASCII of a domain name. -/
def IsNameChar (c : Char) : Prop := Text.isAscii c = true ∧ isForbiddenInDomain c = false

instance : DecidablePred IsNameChar := fun _ => inferInstanceAs (Decidable (_ ∧ _))

/-- What every step over a list gives is given for one of its members. -/
lemma exists_of_mem_mapM {α β : Type} {f : α → Option β} {l : List α} {l' : List β}
    (h : l.mapM f = some l') {b : β} (hb : b ∈ l') : ∃ a ∈ l, f a = some b := by
  induction l generalizing l' with
  | nil =>
    rw [List.mapM_nil] at h
    cases h
    cases hb
  | cons a l ih =>
    rw [List.mapM_cons] at h
    obtain ⟨b', hb', h⟩ := Option.bind_eq_some_iff.1 h
    obtain ⟨bs, hbs, h⟩ := Option.bind_eq_some_iff.1 h
    cases h
    rcases List.mem_cons.1 hb with rfl | hb
    · exact ⟨a, List.mem_cons_self, hb'⟩
    · obtain ⟨a', ha', h⟩ := ih hbs hb
      exact ⟨a', List.mem_cons_of_mem a ha', h⟩

/-- Steps over a list that all give something give a list. -/
lemma mapM_eq_some_map {α β : Type} {f : α → Option β} {g : α → β} {l : List α}
    (h : ∀ a ∈ l, f a = some (g a)) : l.mapM f = some (l.map g) := by
  induction l with
  | nil => rfl
  | cons a l ih =>
    obtain ⟨ha, hl⟩ := List.forall_mem_cons.1 h
    rw [List.mapM_cons, ha, ih hl]
    rfl

/-! ### Encoded labels -/

namespace Punycode

lemma threshold_le (place bias : Nat) : threshold place bias ≤ greatestThreshold := by
  rw [threshold]
  split
  · decide
  · split
    · exact Nat.le_refl _
    · omega

/-- Whether a character is one of the digits. -/
def IsDigit (c : Char) : Prop := ∃ d < base, digit d = c

lemma IsDigit.isNameChar {c : Char} (h : IsDigit c) : IsNameChar c := by
  obtain ⟨d, hd, rfl⟩ := h
  exact (by decide : ∀ d < base, IsNameChar (digit d)) d hd

lemma isDigit_of_mem_writeNumber {steps q place bias : Nat} {c : Char}
    (h : c ∈ writeNumber steps q place bias) : IsDigit c := by
  induction steps generalizing q place with
  | zero => cases h
  | succ steps ih =>
    have ht : threshold place bias ≤ 26 := threshold_le place bias
    rw [writeNumber] at h
    split at h
    next hq =>
      exact ⟨q, Nat.lt_of_lt_of_le hq (Nat.le_trans ht (by decide)), (List.mem_singleton.1 h).symm⟩
    next hq =>
      rcases List.mem_cons.1 h with rfl | h
      · have hpos : 0 < 36 - threshold place bias := by omega
        have hmod := Nat.mod_lt (q - threshold place bias) hpos
        exact ⟨_, by simp only [base]; omega, rfl⟩
      · exact ih h

/-- Whatever a pen has written are digits. -/
def Pen.Sound (p : Pen) : Prop := ∀ c ∈ p.digits, IsDigit c

lemma Pen.Sound.delta {p : Pen} (h : p.Sound) (n : Nat) : ({ p with delta := n } : Pen).Sound := h

lemma Pen.Sound.step {p : Pen} (h : p.Sound) (code firstCount : Nat) (c : Char) :
    (p.step code firstCount c).Sound := by
  rw [Pen.step]
  split
  · exact h
  · split
    · intro d hd
      rcases List.mem_append.1 hd with hd | hd
      · exact h d hd
      · exact isDigit_of_mem_writeNumber hd
    · exact h

lemma Pen.Sound.foldl_step {p : Pen} (h : p.Sound) (code firstCount : Nat) (label : List Char) :
    (label.foldl (Pen.step code firstCount) p).Sound := by
  induction label generalizing p with
  | nil => exact h
  | cons c label ih => exact ih (h.step code firstCount c)

lemma Pen.Sound.writeCodes {p : Pen} (h : p.Sound) (label : List Char) (firstCount last : Nat)
    (codes : List Nat) : (writeCodes label firstCount last p codes).Sound := by
  induction codes generalizing p last with
  | nil => exact h
  | cons code codes ih =>
    exact ih (((h.delta _).foldl_step code firstCount label).delta _) (code + 1)

/-- A label is encoded by those of its characters that are in ASCII, a hyphen, and digits. -/
lemma mem_encode {label : List Char} {c : Char} (h : c ∈ encode label) :
    c ∈ label ∧ Text.isAscii c = true ∨ c = '-' ∨ IsDigit c := by
  rcases List.mem_append.1 h with h | h
  · split at h
    · cases h
    · rcases List.mem_append.1 h with h | h
      · exact .inl (List.mem_filter.1 h)
      · exact .inr (.inl (List.mem_singleton.1 h))
  · refine .inr (.inr (Pen.Sound.writeCodes (p := ⟨0, _, firstBias, []⟩) ?_ _ _ _ _ c h))
    exact fun c hc => nomatch hc

end Punycode

/-! ### Domain names -/

lemma splitDots_eq (s : List Char) : splitDots s = s.splitOn '.' := by
  refine Text.eq_splitOnP rfl (fun c cs piece rest h => ?_) s
  rw [splitDots, h]
  simp only [beq_iff_eq]

/-- An encoded label that is kept is written as it is. -/
lemma ascii_of_decodeLabel? {s : List Char} {l : Label} (h : decodeLabel? s = some l) :
    l.ascii = s := by
  rw [decodeLabel?] at h
  split at h
  · cases h
  · obtain ⟨chars, -, h⟩ := Option.bind_eq_some_iff.1 h
    simp only at h
    split at h
    · exact (congrArg Label.ascii (Option.some.inj h)).symm
    · cases h

/-- The form in ASCII of a label. -/
lemma isNameChar_of_mem_readLabel? {s : List Char} (hs : ∀ c ∈ s, isForbiddenInDomain c = false)
    {l : Label} (h : readLabel? s = some l) {c : Char} (hc : c ∈ l.ascii) : IsNameChar c := by
  have hkept : s.all Text.isAscii = true → l.ascii = s → IsNameChar c := fun hascii heq =>
    ⟨List.all_eq_true.1 hascii c (heq ▸ hc), hs c (heq ▸ hc)⟩
  rw [readLabel?] at h
  split at h
  · split at h
    next hascii => exact hkept hascii (ascii_of_decodeLabel? h)
    next => cases h
  · split at h
    next hascii => exact hkept hascii (congrArg Label.ascii (Option.some.inj h)).symm
    next =>
      split at h
      · cases h
      · rw [← congrArg Label.ascii (Option.some.inj h)] at hc
        rcases List.mem_append.1 hc with hc | hc
        · exact List.all_iff_forall_prop.1 (by decide) c hc
        · rcases Punycode.mem_encode hc with ⟨hmem, hascii⟩ | rfl | hdigit
          · exact ⟨hascii, hs c hmem⟩
          · decide
          · exact hdigit.isNameChar

/-- **The form in ASCII of a domain name** holds none of the characters that are forbidden. -/
theorem isNameChar_of_mem_domainToAscii? {s name : List Char} (h : domainToAscii? s = some name)
    {c : Char} (hc : c ∈ name) : IsNameChar c := by
  obtain ⟨chars, hchars, h⟩ := Option.bind_eq_some_iff.1 h
  obtain ⟨labels, hlabels, h⟩ := Option.bind_eq_some_iff.1 h
  have hallowed : ∀ c ∈ chars, isForbiddenInDomain c = false := by
    obtain ⟨mapped, -, hmapped⟩ := Option.bind_eq_some_iff.1 hchars
    simp only at hmapped
    split at hmapped
    · cases hmapped
    next hany =>
      rw [← Option.some.inj hmapped]
      simpa using hany
  simp only at h
  split at h
  · rw [← Option.some.inj h] at hc
    rcases Text.mem_intercalate hc with rfl | ⟨piece, hpiece, hc⟩
    · decide
    · obtain ⟨l, hl, rfl⟩ := List.mem_map.1 hpiece
      obtain ⟨label, hlabel, hl⟩ := exists_of_mem_mapM hlabels hl
      rw [splitDots_eq] at hlabel
      exact isNameChar_of_mem_readLabel?
        (fun c hc => hallowed c (Text.mem_of_mem_splitOnP hlabel hc).1) hl hc
  · cases h

/-! ### Plain names -/

/-- **A name of small characters without encoded labels** is its own form in ASCII. -/
theorem domainToAscii?_eq_self {s : List Char} (hchars : ∀ c ∈ s, IsNameChar c ∧ c.toLower = c)
    (hlabels : ∀ label ∈ s.splitOn '.', encodedStart.isPrefixOf label = false) :
    domainToAscii? s = some s := by
  have hascii : s.all Text.isAscii = true := List.all_eq_true.2 fun c hc => (hchars c hc).1.1
  have hmap : mapDomain? s = some s := by
    have hmapped : s.mapM mapChar = some (s.map fun c => [c]) := mapM_eq_some_map fun c hc => by
      have hc' : c.toNat < 0x80 := by simpa [Text.isAscii] using (hchars c hc).1.1
      rw [mapChar, if_pos hc', (hchars c hc).2]
    have hflat : (s.map fun c => [c]).flatten = s := by
      rw [← List.flatMap_def]
      exact List.flatMap_singleton' s
    have hallowed : ¬s.any isForbiddenInDomain = true := by
      rw [List.any_eq_true]
      rintro ⟨c, hc, hforbidden⟩
      rw [(hchars c hc).1.2] at hforbidden
      cases hforbidden
    rw [mapDomain?, hmapped]
    show (if (Text.composed (s.map fun c => [c]).flatten).any isForbiddenInDomain = true then none
      else some (Text.composed (s.map fun c => [c]).flatten)) = _
    rw [hflat, Text.composed, if_pos hascii, if_neg hallowed]
  have hplain : ∀ label ∈ s.splitOn '.', label.all Text.isAscii = true := fun label hlabel =>
    List.all_eq_true.2 fun c hc => (hchars c (Text.mem_of_mem_splitOnP hlabel hc).1).1.1
  have hread : (splitDots s).mapM readLabel? =
      some ((s.splitOn '.').map fun label => ⟨label, label⟩) := by
    rw [splitDots_eq]
    refine mapM_eq_some_map fun label hlabel => ?_
    rw [readLabel?, hlabels label hlabel, hplain label hlabel]
    rfl
  have hsound : ((s.splitOn '.').map fun label => (⟨label, label⟩ : Label)).all Label.isSound := by
    refine List.all_eq_true.2 (List.forall_mem_map.2 fun label hlabel => ?_)
    rw [Label.isSound, hplain label hlabel]
    rfl
  have honeWay : ((s.splitOn '.').map fun label => (⟨label, label⟩ : Label)).any (fun l =>
      !l.chars.all Text.isAscii && (l.chars.map Text.direction).any isRightward) = false := by
    rw [List.any_eq_false]
    refine List.forall_mem_map.2 fun label hlabel => ?_
    rw [hplain label hlabel]
    exact Bool.false_ne_true
  refine Option.bind_eq_some_iff.2 ⟨s, hmap, Option.bind_eq_some_iff.2 ⟨_, hread, ?_⟩⟩
  simp only [hsound, honeWay]
  refine (if_pos rfl).trans (congrArg some ?_)
  rw [joinDots, List.map_map]
  exact (congrArg _ (List.map_id (s.splitOn '.'))).trans (List.intercalate_splitOn '.')

end Polyhierarchy.Url

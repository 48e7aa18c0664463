import Polyhierarchy.Proofs.Addresses
import Polyhierarchy.Proofs.FormPairs
import Polyhierarchy.Url.Reader

set_option relaxedAutoImplicit false
set_option autoImplicit false

/-!
# Written hosts

A host stands in the middle of a URL: user information may come before it, a port and a path after
it. Whatever text a host is read from, the host is written with visible characters of ASCII of which
none ends the host too early, so what stands around a written host is told from it. And a host is
read as it was written, unless it is a domain name that is not its own form in ASCII.

## Main definitions

* `Url.IsVisible` — the visible characters of ASCII.
* `Url.IsHostChar` — the characters that a host is written with.
* `Url.Host.Sound` — what holds of every host that is read.
* `Url.Host.Delimited` — the written form of a host is told from what stands around it.

## Main results

* `Url.sound_of_readHost` — every host that is read is sound.
* `Url.Host.Sound.delimited` — a sound host is delimited.
* `Url.Host.Sound.readHost_toChars` — a sound host is read as it was written, if it is no domain
  name, or one that is its own form in ASCII.
-/

namespace Polyhierarchy.Url

/-! ### Characters of hosts -/

/-- Whether a character is a visible one of ASCII. -/
def IsVisible (c : Char) : Prop := 0x20 < c.toNat ∧ c.toNat < 0x7F

instance : DecidablePred IsVisible := fun _ => inferInstanceAs (Decidable (_ ∧ _))

/-- Whether a character may stand in a written host: it is visible, and with it neither the host nor
what comes before the host ends. -/
def IsHostChar (c : Char) : Prop := IsVisible c ∧ endsAuthority true c = false ∧ c ≠ '@'

instance : DecidablePred IsHostChar := fun _ => inferInstanceAs (Decidable (_ ∧ _))

/-- A domain name has no brackets, no colons and no percent signs. -/
lemma IsNameChar.isHostChar {c : Char} (h : IsNameChar c) :
    IsHostChar c ∧ c ≠ '[' ∧ c ≠ ']' ∧ c ≠ ':' ∧ c ≠ '%' :=
  Text.of_ascii
    (P := fun c => IsNameChar c → IsHostChar c ∧ c ≠ '[' ∧ c ≠ ']' ∧ c ≠ ':' ∧ c ≠ '%')
    (by decide) (by simpa [Text.isAscii] using h.1) h

lemma Ipv6.isHostChar_of_mem_toChars {a : Ipv6} {c : Char} (h : c ∈ a.toChars) :
    IsHostChar c ∧ c ≠ '[' ∧ c ≠ ']' := by
  rcases Ipv6.mem_toChars h with rfl | h
  · decide
  · exact h.of_forall (P := fun c => IsHostChar c ∧ c ≠ '[' ∧ c ≠ ']') (by decide)

/-! ### What is read -/

/-- What holds of every host that is read: a name is not empty, is made of the characters of names,
and does not look like an address; an address is well-formed. -/
def Host.Sound : Host → Prop
  | .domain name => name ≠ [] ∧ (∀ c ∈ name, IsNameChar c) ∧ endsInNumber name = false
  | .ipv4 _ => True
  | .ipv6 a => a.WellFormed

/-- **Every host that is read is sound.** -/
theorem sound_of_readHost {s : List Char} {h : Host} (hread : readHost s = .ok h) : h.Sound := by
  rw [readHost] at hread
  split at hread
  · rw [bracketed] at hread
    split at hread
    · split at hread
      next a ha =>
        rw [← Except.ok.inj hread]
        exact Ipv6.wellFormed_of_parse? ha
      next => cases hread
    · cases hread
  · split at hread
    next => cases hread
    next => cases hread
    next name hne hname =>
      obtain ⟨chars, -, hname⟩ := Option.bind_eq_some_iff.1 hname
      split at hread
      · split at hread
        next a _ =>
          rw [← Except.ok.inj hread]
          trivial
        next => cases hread
      next hnumber =>
        rw [← Except.ok.inj hread]
        exact ⟨fun h => hne (h ▸ rfl), fun c => isNameChar_of_mem_domainToAscii? hname,
          Bool.eq_false_iff.2 hnumber⟩

/-! ### What is told from a host -/

/-- A text without brackets, and without colons outside brackets, is part of the host. -/
lemma splitPort_append (inBrackets : Bool) {s : List Char}
    (h : ∀ c ∈ s, c ≠ '[' ∧ c ≠ ']' ∧ (inBrackets = false → c ≠ ':')) (rest : List Char) :
    splitPort inBrackets (s ++ rest) =
      (s ++ (splitPort inBrackets rest).1, (splitPort inBrackets rest).2) := by
  induction s with
  | nil => rfl
  | cons c s ih =>
    obtain ⟨⟨hopen, hclose, hcolon⟩, hs⟩ := List.forall_mem_cons.1 h
    rw [List.cons_append, splitPort, if_neg fun hc => hcolon hc.2 hc.1, if_neg hopen,
      if_neg hclose]
    simp only
    rw [ih hs]
    rfl

/-- The written form of a host is told from what stands around it. -/
structure Host.Delimited (h : Host) : Prop where
  /-- There is a written form. -/
  ne_nil : h.toChars ≠ []
  /-- The host does not end before the written form, nor does what comes before it end in it. -/
  isHostChar : ∀ c ∈ h.toChars, IsHostChar c
  /-- The port is told from the host. -/
  splitPort_append : ∀ rest, splitPort false (h.toChars ++ rest) =
    (h.toChars ++ (splitPort false rest).1, (splitPort false rest).2)

lemma Host.delimited_of_isNameChar {h : Host} (hne : h.toChars ≠ [])
    (hchars : ∀ c ∈ h.toChars, IsNameChar c) : h.Delimited where
  ne_nil := hne
  isHostChar c hc := (hchars c hc).isHostChar.1
  splitPort_append := Url.splitPort_append false fun c hc =>
    have ⟨_, hopen, hclose, hcolon, _⟩ := (hchars c hc).isHostChar
    ⟨hopen, hclose, fun _ => hcolon⟩

lemma Host.delimited_ipv6 (a : Ipv6) : (Host.ipv6 a).Delimited where
  ne_nil := List.cons_ne_nil _ _
  isHostChar c hc := by
    rcases List.mem_append.1 hc with hc | hc
    · rcases List.mem_cons.1 hc with rfl | hc
      · decide
      · exact (Ipv6.isHostChar_of_mem_toChars hc).1
    · rw [List.mem_singleton.1 hc]
      decide
  splitPort_append rest := by
    have hinside := Url.splitPort_append true (s := a.toChars)
      (fun c hc => have ⟨_, hopen, hclose⟩ := Ipv6.isHostChar_of_mem_toChars hc
        ⟨hopen, hclose, fun h => nomatch h⟩) (']' :: rest)
    show splitPort false ('[' :: a.toChars ++ [']'] ++ rest) = _
    rw [List.append_assoc, List.cons_append, splitPort, if_neg (by decide), if_pos rfl]
    simp only
    rw [List.singleton_append, hinside, splitPort, if_neg (by decide)]
    simp [Host.toChars]

/-- **A sound host is delimited.** -/
theorem Host.Sound.delimited {h : Host} (hsound : h.Sound) : h.Delimited := by
  cases h with
  | domain name => exact Host.delimited_of_isNameChar hsound.1 hsound.2.1
  | ipv4 a =>
    exact Host.delimited_of_isNameChar a.toChars_ne_nil
      fun c hc => (Ipv4.isNameChar_of_mem_toChars hc).1
  | ipv6 a => exact Host.delimited_ipv6 a

/-! ### Hosts are read as they were written -/

/-- A text in the form of a domain name is the form that it is brought to, if that is itself. -/
lemma decoded_of_isNameChar {name : List Char} (hchars : ∀ c ∈ name, IsNameChar c) :
    Text.utf8Strict? (percentDecode name) = some name := by
  have hbytes : percentDecode name = Text.utf8Bytes name := by
    refine (congrArg decodeBytes (List.append_nil _).symm).trans
      ((decodeBytes_append (fun b hb => ?_) []).trans (List.append_nil _))
    obtain ⟨c, hc, hb⟩ := List.mem_flatMap.1 hb
    have hascii : c.toNat < 128 := by simpa [Text.isAscii] using (hchars c hc).1
    rw [Text.utf8EncodeChar_of_ascii hascii, List.mem_singleton] at hb
    rw [hb]
    exact Text.of_ascii (P := fun c => c ≠ '%' → UInt8.ofNat c.toNat ≠ 0x25) (by decide) hascii
      (hchars c hc).isHostChar.2.2.2.2
  rw [hbytes, Text.utf8Strict?_utf8Bytes]

/-- **A sound host is read as it was written**, if it is no domain name, or one that is its own form
in ASCII. -/
theorem Host.Sound.readHost_toChars {h : Host} (hsound : h.Sound)
    (hname : ∀ name, h = .domain name → domainToAscii? name = some name) :
    readHost h.toChars = .ok h := by
  have hbracket : ∀ {name : List Char}, (∀ c ∈ name, IsNameChar c) → ¬name.head? = some '[' :=
    fun hchars hhead => (hchars _ (List.mem_of_mem_head? hhead)).isHostChar.2.1 rfl
  cases h with
  | domain name =>
    obtain ⟨hne, hchars, hnumber⟩ := hsound
    obtain ⟨c, cs, rfl⟩ := List.exists_cons_of_ne_nil hne
    rw [Host.toChars, readHost, if_neg (hbracket hchars), decoded_of_isNameChar hchars,
      Option.bind_some, hname _ rfl]
    simp only [hnumber]
    rfl
  | ipv4 a =>
    have hchars : ∀ c ∈ a.toChars, IsNameChar c := fun c hc => (Ipv4.isNameChar_of_mem_toChars hc).1
    have hascii := a.domainToAscii?_toChars
    have hnumber := a.endsInNumber_toChars
    have hparse := a.parse?_toChars
    have hne := a.toChars_ne_nil
    rw [Host.toChars, readHost, if_neg (hbracket hchars), decoded_of_isNameChar hchars,
      Option.bind_some, hascii]
    obtain ⟨c, cs, hcons⟩ := List.exists_cons_of_ne_nil hne
    rw [hcons] at hnumber hparse ⊢
    simp only [hnumber, hparse]
    rfl
  | ipv6 a =>
    have hhead : ('[' :: a.toChars ++ [']']).head? = some '[' := rfl
    have hlast : ('[' :: a.toChars ++ [']']).getLast? = some ']' := List.getLast?_concat
    have hinside : (('[' :: a.toChars ++ [']']).drop 1).dropLast = a.toChars :=
      List.dropLast_concat
    rw [Host.toChars, readHost, if_pos hhead, bracketed, hlast]
    simp only
    rw [hinside, Ipv6.parse?_toChars hsound]

end Polyhierarchy.Url

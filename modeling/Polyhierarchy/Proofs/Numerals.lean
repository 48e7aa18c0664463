import Mathlib.Data.List.Forall2
import Mathlib.Data.Nat.Digits.Defs
import Polyhierarchy.Text.Digits

set_option relaxedAutoImplicit false
set_option autoImplicit false

/-!
# Numerals are read as they were written

A number that is written in base ten or in base sixteen is read as the same number. What is read is
the number that the digits make up by their places, and is bounded by the length of the numeral.

## Main definitions

* `Text.IsHexSmall` — a hexadecimal digit with a small letter.
* `Text.IsHexDigit` — a hexadecimal digit, in any letter case, and its value.
* `Text.IsHexNumeral` — the number that hexadecimal digits make up by their places.

## Main results

* `Text.numeral?_hexDigits` — a hexadecimal numeral of a fixed width is the number up to that width.
* `Text.numeral?_lowerHex` — the shortest hexadecimal numeral is the number.
* `Text.numeral?_lt` — a numeral is bounded by its length.
* `Text.numeral?_eq_some_iff`, `Text.numeral?_hex_iff` — which texts are numerals, and of what.
* `Text.natOfDigits?_decimal` — a decimal numeral is the number.
-/

namespace Polyhierarchy.Text

/-! ### Base sixteen -/

/-- Whether a character is a hexadecimal digit with a small letter. -/
def IsHexSmall (c : Char) : Prop := ∃ d < 16, lowerHexDigit d = c

lemma hexValue?_lowerHexDigit : ∀ d < 16, hexValue? (lowerHexDigit d) = some d := by decide

/-- What holds of the sixteen digits holds of every hexadecimal digit with a small letter. -/
lemma IsHexSmall.of_forall {c : Char} (h : IsHexSmall c) {P : Char → Prop}
    (hP : ∀ d < 16, P (lowerHexDigit d)) : P c := by
  obtain ⟨d, hd, rfl⟩ := h
  exact hP d hd

lemma hexDigits_succ (width n : Nat) :
    hexDigits (width + 1) n = lowerHexDigit (n / 16 ^ width % 16) :: hexDigits width n := by
  rw [hexDigits, List.range_succ, List.reverse_append, List.map_append]
  rfl

lemma length_hexDigits (width n : Nat) : (hexDigits width n).length = width := by
  rw [hexDigits, List.length_map, List.length_reverse, List.length_range]

lemma isHexSmall_of_mem_hexDigits {width n : Nat} {c : Char} (h : c ∈ hexDigits width n) :
    IsHexSmall c := by
  obtain ⟨i, -, rfl⟩ := List.mem_map.1 h
  exact ⟨_, Nat.mod_lt _ (by decide), rfl⟩

/-- Digits are read after those that stand before them. -/
lemma foldl_hexDigits (width n acc : Nat) :
    (hexDigits width n).foldl (fun acc c => do return (← acc) * 16 + (← hexValue? c)) (some acc) =
      some (acc * 16 ^ width + n % 16 ^ width) := by
  induction width generalizing acc with
  | zero => simp [hexDigits, Nat.mod_one]
  | succ width ih =>
    have hdigit : hexValue? (lowerHexDigit (n / 16 ^ width % 16)) = some (n / 16 ^ width % 16) :=
      hexValue?_lowerHexDigit _ (Nat.mod_lt _ (by decide))
    rw [hexDigits_succ, List.foldl_cons, hdigit]
    refine (ih _).trans (congrArg some ?_)
    rw [Nat.mod_pow_succ]
    ring

/-- **A numeral of a fixed width** is the number, less what does not fit. -/
theorem numeral?_hexDigits (width n : Nat) :
    numeral? 16 hexValue? (hexDigits width n) = some (n % 16 ^ width) := by
  rw [numeral?, foldl_hexDigits, Nat.zero_mul, Nat.zero_add]

/-- The width of a number is enough for it, and more than what a digit less is enough for. -/
lemma hexWidth_spec (n : Nat) : 0 < hexWidth n ∧ n < 16 ^ hexWidth n ∧
    ∀ k, 0 < k → n < 16 ^ k → hexWidth n ≤ k := by
  induction n using Nat.strongRecOn with
  | _ n ih =>
    rw [hexWidth]
    split
    next hn => exact ⟨by decide, by simpa using hn, fun k hk _ => hk⟩
    next hn =>
      obtain ⟨-, hlt, hleast⟩ := ih (n / 16) (by omega)
      refine ⟨Nat.succ_pos _, ?_, fun k hk hnk => ?_⟩
      · rw [Nat.pow_succ]
        omega
      · obtain ⟨k, rfl⟩ := Nat.exists_eq_succ_of_ne_zero hk.ne'
        rw [Nat.pow_succ] at hnk
        refine Nat.succ_le_succ (hleast k (Nat.pos_of_ne_zero ?_) (by omega))
        rintro rfl
        omega

/-- **The shortest numeral** is the number. -/
theorem numeral?_lowerHex (n : Nat) : numeral? 16 hexValue? (lowerHex n) = some n := by
  rw [lowerHex, numeral?_hexDigits, Nat.mod_eq_of_lt (hexWidth_spec n).2.1]

/-! ### Bounds -/

/-- A hexadecimal digit denotes less than sixteen. -/
lemma hexValue?_lt {c : Char} {d : Nat} (h : hexValue? c = some d) : d < 16 := by
  have hle : ∀ {lo hi : Char}, lo ≤ c ∧ c ≤ hi → c.toNat ≤ hi.toNat := fun hc =>
    UInt32.le_iff_toNat_le.1 hc.2
  rw [hexValue?] at h
  split_ifs at h with hdigit hsmall hcapital
  · have hhigh : c.toNat ≤ 57 := hle hdigit
    have hd : c.toNat - 48 = d := Option.some.inj h
    omega
  · have hhigh : c.toNat ≤ 102 := hle hsmall
    have hd : c.toNat - 97 + 10 = d := Option.some.inj h
    omega
  · have hhigh : c.toNat ≤ 70 := hle hcapital
    have hd : c.toNat - 65 + 10 = d := Option.some.inj h
    omega

variable {base : Nat} {digit? : Char → Option Nat} {s : List Char} {n : Nat}

/-- After a character that is no digit, nothing is read. -/
lemma foldl_digits_none (s : List Char) :
    s.foldl (fun acc c => do return (← acc) * base + (← digit? c)) none = none := by
  induction s with
  | nil => rfl
  | cons c s ih => exact ih

/-- **A numeral is bounded by its length.** -/
theorem numeral?_lt (hdigit : ∀ c d, digit? c = some d → d < base)
    (h : numeral? base digit? s = some n) : n < base ^ s.length := by
  have hfold : ∀ (s : List Char) (acc : Nat),
      s.foldl (fun acc c => do return (← acc) * base + (← digit? c)) (some acc) = some n →
        n < (acc + 1) * base ^ s.length := fun s => by
    induction s with
    | nil =>
      intro acc h
      cases h
      simp
    | cons c s ih =>
      intro acc h
      rw [List.foldl_cons] at h
      cases hd : digit? c with
      | none =>
        rw [hd] at h
        exact nomatch (foldl_digits_none s).symm.trans h
      | some d =>
        rw [hd] at h
        have hlt := hdigit c d hd
        refine Nat.lt_of_lt_of_le (ih _ h) ?_
        rw [List.length_cons, Nat.pow_succ', ← Nat.mul_assoc]
        refine Nat.mul_le_mul_right _ ?_
        rw [Nat.succ_mul]
        omega
  simpa using hfold s 0 h

/-! ### What numerals denote -/

/-- Digits are read one after the other, and what was read before counts for more each time. -/
lemma foldl_digits_eq_some_iff (acc : Nat) :
    s.foldl (fun acc c => do return (← acc) * base + (← digit? c)) (some acc) = some n ↔
      ∃ ds, List.Forall₂ (fun c d => digit? c = some d) s ds ∧
        ds.foldl (fun acc d => acc * base + d) acc = n := by
  induction s generalizing acc with
  | nil => simp
  | cons c s ih =>
    rw [List.foldl_cons]
    simp only [List.forall₂_cons_left_iff]
    cases hd : digit? c with
    | none =>
      refine iff_of_false (fun h => nomatch (foldl_digits_none s).symm.trans h) ?_
      rintro ⟨_, ⟨_, _, ⟨⟩, -⟩, -⟩
    | some d =>
      refine (ih (acc * base + d)).trans ⟨?_, ?_⟩
      · rintro ⟨ds, hds, hn⟩
        exact ⟨d :: ds, ⟨d, ds, rfl, hds, rfl⟩, hn⟩
      · rintro ⟨_, ⟨_, ds, ⟨⟩, hds, rfl⟩, hn⟩
        exact ⟨ds, hds, hn⟩

/-- **A numeral denotes the number that its digits make up**, the last one in the lowest place. -/
theorem numeral?_eq_some_iff :
    numeral? base digit? s = some n ↔
      ∃ ds, List.Forall₂ (fun c d => digit? c = some d) s ds ∧
        Nat.ofDigits base ds.reverse = n := by
  have hplaces : ∀ ds : List Nat,
      Nat.ofDigits base ds.reverse = ds.foldl (fun acc d => acc * base + d) 0 := fun ds => by
    rw [Nat.ofDigits_eq_foldr, List.foldr_reverse]
    simp only [Nat.cast_id, Nat.add_comm, Nat.mul_comm]
  simp only [numeral?, foldl_digits_eq_some_iff, hplaces]

/-- A character is a hexadecimal digit, with a small or a capital letter, and has a value. -/
def IsHexDigit (c : Char) (d : Nat) : Prop := d < 16 ∧ (c = lowerHexDigit d ∨ c = upperHexDigit d)

/-- A text is made of hexadecimal digits, in any letter case, and these make up a number, the last
one in the lowest place. -/
def IsHexNumeral (s : List Char) (n : Nat) : Prop :=
  ∃ ds, List.Forall₂ IsHexDigit s ds ∧ Nat.ofDigits 16 ds.reverse = n

lemma hexValue?_eq_some_iff {c : Char} {d : Nat} : hexValue? c = some d ↔ IsHexDigit c d := by
  constructor
  · intro h
    have hbounds : ∀ {lo hi : Char}, lo ≤ c ∧ c ≤ hi → lo.toNat ≤ c.toNat ∧ c.toNat ≤ hi.toNat :=
      fun hc => ⟨UInt32.le_iff_toNat_le.1 hc.1, UInt32.le_iff_toNat_le.1 hc.2⟩
    have hchar : ∀ k, k = c.toNat → Char.ofNat k = c := fun k hk => hk ▸ Char.ofNat_toNat c
    refine ⟨hexValue?_lt h, ?_⟩
    rw [hexValue?] at h
    split_ifs at h with hdigit hsmall hcapital
    · obtain ⟨hlow, hhigh⟩ : 48 ≤ c.toNat ∧ c.toNat ≤ 57 := hbounds hdigit
      obtain rfl : c.toNat - 48 = d := Option.some.inj h
      rw [lowerHexDigit, if_pos (by omega)]
      exact .inl (hchar _ (show 48 + _ = _ by omega)).symm
    · obtain ⟨hlow, hhigh⟩ : 97 ≤ c.toNat ∧ c.toNat ≤ 102 := hbounds hsmall
      obtain rfl : c.toNat - 97 + 10 = d := Option.some.inj h
      rw [lowerHexDigit, if_neg (by omega)]
      exact .inl (hchar _ (show 97 + _ = _ by omega)).symm
    · obtain ⟨hlow, hhigh⟩ : 65 ≤ c.toNat ∧ c.toNat ≤ 70 := hbounds hcapital
      obtain rfl : c.toNat - 65 + 10 = d := Option.some.inj h
      rw [upperHexDigit, if_neg (by omega)]
      exact .inr (hchar _ (show 65 + _ = _ by omega)).symm
  · have hcapital : ∀ d < 16, hexValue? (upperHexDigit d) = some d := by decide
    rintro ⟨hd, rfl | rfl⟩
    · exact hexValue?_lowerHexDigit d hd
    · exact hcapital d hd

/-- **What is read in base sixteen** is a numeral of the number. -/
theorem numeral?_hex_iff : numeral? 16 hexValue? s = some n ↔ IsHexNumeral s n := by
  simp only [numeral?_eq_some_iff, hexValue?_eq_some_iff, IsHexNumeral]

/-- No hexadecimal digit is a hyphen. -/
lemma IsHexNumeral.ne_hyphen (h : IsHexNumeral s n) : ∀ c ∈ s, c ≠ '-' := by
  have hdigits : ∀ d < 16, lowerHexDigit d ≠ '-' ∧ upperHexDigit d ≠ '-' := by decide
  obtain ⟨ds, hds, -⟩ := h
  induction hds with
  | nil => exact fun c hc => absurd hc List.not_mem_nil
  | cons hcd _ ih =>
    refine List.forall_mem_cons.2 ⟨?_, ih⟩
    obtain ⟨hd, rfl | rfl⟩ := hcd
    · exact (hdigits _ hd).1
    · exact (hdigits _ hd).2

/-! ### Base ten -/

lemma digitValue?_of_isDigit {c : Char} (h : c.isDigit = true) :
    digitValue? c = some (c.toNat - '0'.toNat) := by
  simp only [Char.isDigit, Bool.and_eq_true, decide_eq_true_eq] at h
  exact if_pos h

/-- Digits are read one after the other. -/
lemma foldl_digitValue? {s : List Char} (h : ∀ c ∈ s, c.isDigit = true) (acc : Nat) :
    s.foldl (fun acc c => do return (← acc) * 10 + (← digitValue? c)) (some acc) =
      some (Nat.ofDigitChars 10 s acc) := by
  induction s generalizing acc with
  | nil => rfl
  | cons c s ih =>
    obtain ⟨hc, hs⟩ := List.forall_mem_cons.1 h
    rw [List.foldl_cons, digitValue?_of_isDigit hc]
    refine (ih hs _).trans (congrArg some ?_)
    rw [Nat.ofDigitChars_eq_foldl, Nat.ofDigitChars_eq_foldl, List.foldl_cons, Nat.mul_comm]

lemma isDigit_of_mem_decimal {n : Nat} {c : Char} (h : c ∈ decimal n) : c.isDigit = true :=
  Nat.isDigit_of_mem_toDigits (by decide) (by decide) h

lemma decimal_ne_nil (n : Nat) : decimal n ≠ [] := Nat.toDigits_ne_nil

/-- A decimal numeral is read digit by digit as the number. -/
lemma numeral?_decimal (n : Nat) : numeral? 10 digitValue? (decimal n) = some n := by
  rw [numeral?, foldl_digitValue? (fun _ => isDigit_of_mem_decimal), decimal,
    Nat.ofDigitChars_toDigits (by decide) (by decide)]

/-- **A decimal numeral** is the number. -/
theorem natOfDigits?_decimal (n : Nat) : natOfDigits? (decimal n) = some n := by
  rw [natOfDigits?, if_neg (by simp [decimal_ne_nil]), numeral?_decimal]

end Polyhierarchy.Text

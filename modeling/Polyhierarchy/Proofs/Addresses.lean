import Polyhierarchy.Proofs.DomainNames
import Polyhierarchy.Proofs.Numerals
import Polyhierarchy.Url.Ipv4
import Polyhierarchy.Url.Ipv6

set_option relaxedAutoImplicit false
set_option autoImplicit false

/-!
# Addresses are read as they were written

An address of four bytes is written as four decimal numbers. An address of eight pieces is written
without its first longest run of zeros, and the run is told from the number of the pieces that are
left. So both are read again, wherever they were read from.

## Main definitions

* `Url.Ipv4.byte` — the bytes of an address.
* `Url.Ipv6.WellFormed` — an address has eight pieces of sixteen bits.

## Main results

* `Url.Ipv4.parse?_toChars` — an address of four bytes is read as it was written.
* `Url.Ipv6.wellFormed_of_parse?` — every address of eight pieces that is read is well-formed.
* `Url.Ipv6.parse?_toChars` — an address of eight pieces is read as it was written.
-/

namespace Polyhierarchy.Url

/-! ### Four bytes -/

/-- Digits may stand in domain names, and stay as they are. -/
lemma isNameChar_of_isDigit {c : Char} (h : c.isDigit = true) : IsNameChar c ∧ c.toLower = c := by
  have hascii : c.toNat < 128 := by
    simp only [Char.isDigit, Bool.and_eq_true, decide_eq_true_eq] at h
    exact Nat.lt_of_le_of_lt (UInt32.le_iff_toNat_le.1 h.2) (by decide)
  exact Text.of_ascii (P := fun c => c.isDigit = true → IsNameChar c ∧ c.toLower = c) (by decide)
    hascii h

namespace Ipv4

/-- The byte at a place, counted from the last one. -/
def byte (a : Ipv4) (i : Nat) : Nat := a.bits.toNat / Nat.pow 256 i % 256

lemma byte_lt (a : Ipv4) (i : Nat) : a.byte i < 256 := Nat.mod_lt _ (by decide)

/-- An address is the number of its bytes. -/
lemma toNat_bits (a : Ipv4) :
    a.byte 3 * 16777216 + a.byte 2 * 65536 + a.byte 1 * 256 + a.byte 0 = a.bits.toNat := by
  have hbits : a.bits.toNat < 4294967296 := a.bits.isLt
  show a.bits.toNat / 16777216 % 256 * 16777216 + a.bits.toNat / 65536 % 256 * 65536 +
    a.bits.toNat / 256 % 256 * 256 + a.bits.toNat / 1 % 256 = a.bits.toNat
  omega

lemma toChars_eq (a : Ipv4) :
    a.toChars = joinDots ([3, 2, 1, 0].map fun i => Text.decimal (a.byte i)) := rfl

lemma toChars_ne_nil (a : Ipv4) : a.toChars ≠ [] := by
  rw [toChars_eq, joinDots, List.map_cons, List.map_cons, List.intercalate_cons_cons]
  simp

/-- A byte is read as it was written. -/
lemma part?_decimal : ∀ n < 256, part? (Text.decimal n) = some n := by decide +kernel

/-- The parts of a written address. -/
lemma splitOn_toChars (a : Ipv4) :
    a.toChars.splitOn '.' = [3, 2, 1, 0].map fun i => Text.decimal (a.byte i) := by
  refine List.splitOn_intercalate '.' (List.forall_mem_map.2 fun i _ h => ?_) (by simp)
  exact absurd (Text.isDigit_of_mem_decimal h) (by decide)

lemma partsOf_toChars (a : Ipv4) :
    partsOf a.toChars = [3, 2, 1, 0].map fun i => Text.decimal (a.byte i) := by
  rw [partsOf, splitDots_eq, splitOn_toChars]
  exact if_neg (by simp [Text.decimal_ne_nil])

lemma isNameChar_of_mem_toChars {a : Ipv4} {c : Char} (h : c ∈ a.toChars) :
    IsNameChar c ∧ c.toLower = c := by
  rcases Text.mem_intercalate h with rfl | ⟨piece, hpiece, hc⟩
  · decide
  · obtain ⟨i, -, rfl⟩ := List.mem_map.1 hpiece
    exact isNameChar_of_isDigit (Text.isDigit_of_mem_decimal hc)

/-- A written address is left as it is where domain names are brought to their form in ASCII. -/
lemma domainToAscii?_toChars (a : Ipv4) : domainToAscii? a.toChars = some a.toChars := by
  refine domainToAscii?_eq_self (fun c => isNameChar_of_mem_toChars) fun label hlabel => ?_
  rw [splitOn_toChars] at hlabel
  obtain ⟨i, -, rfl⟩ := List.mem_map.1 hlabel
  refine Bool.eq_false_iff.2 fun hstart => ?_
  obtain ⟨rest, hrest⟩ := List.isPrefixOf_iff_prefix.1 hstart
  have hx : 'x' ∈ Text.decimal (a.byte i) := by
    rw [← hrest]
    exact List.mem_cons_self
  exact absurd (Text.isDigit_of_mem_decimal hx) (by decide)

/-- A written address is known for one by its last part. -/
lemma endsInNumber_toChars (a : Ipv4) : endsInNumber a.toChars = true := by
  have hdigits : ∀ n, (!(Text.decimal n).isEmpty && (Text.decimal n).all Char.isDigit) = true := by
    intro n
    rw [List.all_eq_true.2 fun c => Text.isDigit_of_mem_decimal]
    simp [Text.decimal_ne_nil]
  rw [endsInNumber, partsOf_toChars]
  exact Bool.or_eq_true_iff.2 (.inl (hdigits _))

/-- **An address of four bytes** is read as it was written. -/
theorem parse?_toChars (a : Ipv4) : parse? a.toChars = some a := by
  have hnumbers : (partsOf a.toChars).mapM part? = some ([3, 2, 1, 0].map a.byte) := by
    rw [partsOf_toChars, List.mapM_map]
    exact mapM_eq_some_map fun i _ => part?_decimal _ (a.byte_lt i)
  have hleading : ([3, 2, 1].map a.byte).all (· < 256) = true :=
    List.all_eq_true.2 (List.forall_mem_map.2 fun i _ => decide_eq_true (a.byte_lt i))
  have hsum : 0 + a.byte 3 * 16777216 + a.byte 2 * 65536 + a.byte 1 * 256 + a.byte 0 =
      a.bits.toNat := by rw [Nat.zero_add, a.toNat_bits]
  rw [parse?, hnumbers]
  refine (if_pos ⟨Nat.le_refl 4, hleading, a.byte_lt 0⟩).trans (congrArg some ?_)
  refine congrArg mk ((congrArg (BitVec.ofNat 32) hsum).trans ?_)
  exact (BitVec.ofNat_toNat _ _).trans (BitVec.setWidth_eq a.bits)

end Ipv4

/-! ### Eight pieces -/

namespace Ipv6

/-- An address has eight pieces of sixteen bits. -/
structure WellFormed (a : Ipv6) : Prop where
  /-- There are eight pieces. -/
  length_pieces : a.pieces.length = 8
  /-- A piece has sixteen bits. -/
  lt_of_mem : ∀ p ∈ a.pieces, p < 65536

/-! #### What is read -/

lemma piece?_lt {s : List Char} {p : Nat} (h : piece? s = some p) : p < 65536 := by
  rw [piece?] at h
  split at h
  · cases h
  next hlength =>
    simp only [Bool.or_eq_true, decide_eq_true_eq, not_or] at hlength
    have hle : 16 ^ s.length ≤ 16 ^ 4 := Nat.pow_le_pow_right (by decide) (by omega)
    exact Nat.lt_of_lt_of_le (Text.numeral?_lt (fun _ _ => Text.hexValue?_lt) h) hle

lemma dotted?_lt {s : List Char} {l : List Nat} (h : dotted? s = some l) : ∀ p ∈ l, p < 65536 := by
  obtain ⟨bytes, hbytes, h⟩ := Option.bind_eq_some_iff.1 h
  have hlt : ∀ b ∈ bytes, b < 256 := fun b hb => by
    obtain ⟨part, -, hpart⟩ := exists_of_mem_mapM hbytes hb
    obtain ⟨n, -, hn⟩ := Option.bind_eq_some_iff.1 hpart
    split at hn
    next hbyte => exact Option.some.inj hn ▸ hbyte.1
    next => cases hn
  split at h
  next a b c d =>
    simp only [List.forall_mem_cons] at hlt
    rw [← Option.some.inj h]
    simp only [List.forall_mem_cons]
    exact ⟨by omega, by omega, fun _ hp => nomatch hp⟩
  next => cases h

lemma side?_lt {isLast : Bool} {s : List Char} {l : List Nat} (h : side? isLast s = some l) :
    ∀ p ∈ l, p < 65536 := by
  rw [side?] at h
  split at h
  · cases h
    exact fun _ hp => nomatch hp
  · simp only at h
    split at h
    · cases h
    · obtain ⟨front, hfront, h⟩ := Option.bind_eq_some_iff.1 h
      have hback : ∃ back, (∀ p ∈ back, p < 65536) ∧ l = front ++ back := by
        split at h
        · obtain ⟨back, hback, h⟩ := Option.bind_eq_some_iff.1 h
          exact ⟨back, dotted?_lt hback, (Option.some.inj h).symm⟩
        · obtain ⟨back, hback, h⟩ := Option.bind_eq_some_iff.1 h
          obtain ⟨p, hp, rfl⟩ := Option.map_eq_some_iff.1 hback
          exact ⟨[p], List.forall_mem_singleton.2 (piece?_lt hp), (Option.some.inj h).symm⟩
      obtain ⟨back, hback, rfl⟩ := hback
      intro p hp
      rcases List.mem_append.1 hp with hp | hp
      · obtain ⟨part, -, hpart⟩ := exists_of_mem_mapM hfront hp
        exact piece?_lt hpart
      · exact hback p hp

/-- Every address that is read is well-formed. -/
lemma wellFormed_of_parse? {s : List Char} {a : Ipv6} (h : parse? s = some a) : a.WellFormed := by
  rw [parse?] at h
  split at h
  · obtain ⟨before, hbefore, h⟩ := Option.bind_eq_some_iff.1 h
    obtain ⟨after, hafter, h⟩ := Option.bind_eq_some_iff.1 h
    split at h
    next hlength =>
      cases h
      refine ⟨?_, fun p hp => ?_⟩
      · simp only [List.length_append, List.length_replicate]
        omega
      · rcases List.mem_append.1 hp with hp | hp
        · rcases List.mem_append.1 hp with hp | hp
          · exact side?_lt hbefore p hp
          · rw [List.eq_of_mem_replicate hp]
            decide
        · exact side?_lt hafter p hp
    next => cases h
  · obtain ⟨pieces, hpieces, h⟩ := Option.bind_eq_some_iff.1 h
    split at h
    next hlength =>
      cases h
      exact ⟨hlength, side?_lt hpieces⟩
    next => cases h

/-! #### What is written -/

/-- A piece is read as it was written. -/
lemma piece?_lowerHex {p : Nat} (h : p < 65536) : piece? (Text.lowerHex p) = some p := by
  obtain ⟨hpos, -, hleast⟩ := Text.hexWidth_spec p
  have hlength : (Text.lowerHex p).length = Text.hexWidth p := Text.length_hexDigits _ _
  have hfour : Text.hexWidth p ≤ 4 := hleast 4 (by decide) (by omega)
  have hshort : ¬((Text.lowerHex p).isEmpty || decide (4 < (Text.lowerHex p).length)) = true := by
    rw [Bool.or_eq_true, List.isEmpty_iff, decide_eq_true_eq, ← List.length_eq_zero_iff]
    omega
  rw [piece?, if_neg hshort, Text.numeral?_lowerHex]

lemma mapM_piece?_lowerHex {pieces : List Nat} (h : ∀ p ∈ pieces, p < 65536) :
    (pieces.map Text.lowerHex).mapM piece? = some pieces := by
  rw [List.mapM_map]
  exact (mapM_eq_some_map fun p hp => piece?_lowerHex (h p hp)).trans
    (congrArg some (List.map_id _))

/-- A hexadecimal digit is neither a colon nor a dot. -/
lemma ne_of_mem_lowerHex {p : Nat} {c : Char} (h : c ∈ Text.lowerHex p) : c ≠ ':' ∧ c ≠ '.' :=
  (Text.isHexSmall_of_mem_hexDigits h).of_forall (P := fun c => c ≠ ':' ∧ c ≠ '.') (by decide)

lemma lowerHex_ne_nil (p : Nat) : Text.lowerHex p ≠ [] := by
  rw [← List.length_pos_iff, Text.lowerHex, Text.length_hexDigits]
  exact (Text.hexWidth_spec p).1

lemma colons_cons_cons (p q : Nat) (pieces : List Nat) :
    colons (p :: q :: pieces) = Text.lowerHex p ++ ':' :: colons (q :: pieces) := by
  rw [colons, List.map_cons, List.map_cons, List.intercalate_cons_cons, List.append_assoc]
  rfl

/-- Written pieces do not begin with a colon. -/
lemma exists_colons_eq_cons (p : Nat) (pieces : List Nat) :
    ∃ c rest, colons (p :: pieces) = c :: rest ∧ c ≠ ':' := by
  obtain ⟨c, digits, hdigits⟩ := List.exists_cons_of_ne_nil (lowerHex_ne_nil p)
  have hc : c ≠ ':' := (ne_of_mem_lowerHex (hdigits ▸ List.mem_cons_self)).1
  cases pieces with
  | nil => exact ⟨c, digits, by rw [← hdigits]; exact List.intercalate_singleton, hc⟩
  | cons q pieces => exact ⟨c, _, by rw [colons_cons_cons, hdigits]; rfl, hc⟩

lemma splitColons_eq (s : List Char) : splitColons s = s.splitOn ':' := by
  refine Text.eq_splitOnP rfl (fun c cs piece rest h => ?_) s
  rw [splitColons, h]
  simp only [beq_iff_eq]

/-- Written pieces are one side of an address, wherever they stand in it. -/
lemma side?_colons (isLast : Bool) {pieces : List Nat} (h : ∀ p ∈ pieces, p < 65536) :
    side? isLast (colons pieces) = some pieces := by
  rcases List.eq_nil_or_concat' pieces with rfl | ⟨front, last, rfl⟩
  · rfl
  · obtain ⟨hfront, hlast⟩ := List.forall_mem_append.1 h
    have hparts : splitColons (colons (front ++ [last])) =
        front.map Text.lowerHex ++ [Text.lowerHex last] := by
      rw [splitColons_eq, colons, List.splitOn_intercalate ':' ?_ (by simp), List.map_append,
        List.map_singleton]
      exact List.forall_mem_map.2 fun p _ hc => (ne_of_mem_lowerHex hc).1 rfl
    have hnonempty : ¬(colons (front ++ [last])).isEmpty = true := by
      obtain ⟨p, pieces, hpieces⟩ := List.exists_cons_of_ne_nil (List.concat_ne_nil last front)
      obtain ⟨c, rest, hrest, -⟩ := exists_colons_eq_cons p pieces
      simp [hpieces, hrest]
    have hdot : (Text.lowerHex last).contains '.' = false := by
      rw [List.contains_eq_mem, decide_eq_false_iff_not]
      exact fun hmem => (ne_of_mem_lowerHex hmem).2 rfl
    rw [side?, if_neg hnonempty, hparts]
    simp only [List.getLast?_concat, List.dropLast_concat, hdot, Bool.and_false]
    rw [mapM_piece?_lowerHex hfront, piece?_lowerHex (hlast last List.mem_cons_self)]
    rfl

lemma mem_colons {pieces : List Nat} {c : Char} (h : c ∈ colons pieces) :
    c = ':' ∨ Text.IsHexSmall c := by
  refine (Text.mem_intercalate h).imp_right fun ⟨piece, hpiece, hc⟩ => ?_
  obtain ⟨n, -, rfl⟩ := List.mem_map.1 hpiece
  exact Text.isHexSmall_of_mem_hexDigits hc

lemma mem_toChars {a : Ipv6} {c : Char} (h : c ∈ a.toChars) :
    c = ':' ∨ Text.IsHexSmall c := by
  rw [toChars] at h
  simp only at h
  split at h
  · exact mem_colons h
  · rcases List.mem_append.1 h with h | h
    · rcases List.mem_append.1 h with h | h
      · exact mem_colons h
      · exact .inl (by simpa using h)
    · exact mem_colons h

/-! #### The gap -/

/-- A character that does not begin a gap stands before it. -/
lemma splitGap_cons {c : Char} {s : List Char} (h : c ≠ ':' ∨ ∀ r, s ≠ ':' :: r) :
    splitGap (c :: s) = (splitGap s).map fun (a, b) => (c :: a, b) := by
  rw [splitGap]
  rintro r rfl rfl
  exact h.elim (fun hc => hc rfl) (fun hs => hs r rfl)

lemma splitGap_append {w : List Char} (hw : ∀ c ∈ w, c ≠ ':') (s : List Char) :
    splitGap (w ++ s) = (splitGap s).map fun (a, b) => (w ++ a, b) := by
  induction w with
  | nil => exact Option.map_id'.symm
  | cons c w ih =>
    obtain ⟨hc, hw⟩ := List.forall_mem_cons.1 hw
    rw [List.cons_append, splitGap_cons (.inl hc), ih hw, Option.map_map]
    rfl

/-- There is no gap in written pieces. -/
lemma splitGap_colons_append (pieces : List Nat) (s : List Char) :
    splitGap (colons pieces ++ s) = (splitGap s).map fun (a, b) => (colons pieces ++ a, b) := by
  induction pieces with
  | nil => exact Option.map_id'.symm
  | cons p pieces ih =>
    cases pieces with
    | nil =>
      have hone : colons [p] = Text.lowerHex p := List.intercalate_singleton
      rw [hone, splitGap_append fun c hc => (ne_of_mem_lowerHex hc).1]
    | cons q pieces =>
      obtain ⟨c, rest, hrest, hc⟩ := exists_colons_eq_cons q pieces
      have hcolon : ∀ r, colons (q :: pieces) ++ s ≠ ':' :: r := fun r h => by
        rw [hrest] at h
        exact hc (List.cons.inj h).1
      rw [colons_cons_cons, List.append_assoc,
        splitGap_append fun c hc => (ne_of_mem_lowerHex hc).1, List.cons_append,
        splitGap_cons (.inr hcolon), ih, Option.map_map, Option.map_map]
      refine congrArg (fun f => (splitGap s).map f) (funext fun _ => ?_)
      simp

/-- A run of zeros and what follows it. -/
lemma replicate_zeroRun_append (pieces : List Nat) :
    List.replicate (zeroRun pieces) 0 ++ pieces.drop (zeroRun pieces) = pieces := by
  have hzeros : pieces.takeWhile (· == 0) = List.replicate (zeroRun pieces) 0 :=
    List.eq_replicate_iff.2 ⟨rfl, fun p hp => by simpa using List.mem_takeWhile_imp hp⟩
  rw [← hzeros]
  exact List.prefix_iff_eq_append.1 (List.takeWhile_prefix _)

/-- The longest run of zeros is the run at some place. -/
lemma longestGap_eq {pieces : List Nat} (hne : pieces ≠ []) (i : Nat) :
    ∃ k, longestGap i pieces = (i + k, zeroRun (pieces.drop k)) := by
  induction pieces generalizing i with
  | nil => exact absurd rfl hne
  | cons p pieces ih =>
    rw [longestGap]
    split
    · exact ⟨0, rfl⟩
    next hlater =>
      cases pieces with
      | nil => exact absurd (Nat.zero_le _) hlater
      | cons q pieces =>
        obtain ⟨k, hk⟩ := ih (List.cons_ne_nil q pieces) (i + 1)
        exact ⟨k + 1, by rw [hk, List.drop_succ_cons, Nat.add_assoc, Nat.add_comm 1 k]⟩

/-- **An address of eight pieces** is read as it was written.

**Proof sketch.** If no run of zeros is left out, there is no gap in the written form, and all of it
is one side. Otherwise the first gap is where the run was, and what is read on both sides of it are
the pieces before and after the run. They are eight with the zeros of the run, which the gap stands
for. -/
theorem parse?_toChars {a : Ipv6} (h : a.WellFormed) : parse? a.toChars = some a := by
  have hne : a.pieces ≠ [] := fun hnil => by
    have := h.length_pieces
    rw [hnil] at this
    cases this
  obtain ⟨k, hgap⟩ := longestGap_eq hne 0
  rw [Nat.zero_add] at hgap
  rw [toChars, hgap]
  simp only
  split
  next =>
    have hnone : splitGap (colons a.pieces) = none := by
      rw [← List.append_nil (colons a.pieces), splitGap_colons_append]
      rfl
    rw [parse?, hnone, side?_colons true h.lt_of_mem]
    exact if_pos h.length_pieces
  next hlong =>
    have hzeros := replicate_zeroRun_append (a.pieces.drop k)
    rw [List.drop_drop] at hzeros
    generalize zeroRun (a.pieces.drop k) = run at hzeros hlong
    have hwhole : a.pieces.take k ++ List.replicate run 0 ++ a.pieces.drop (k + run) =
        a.pieces := by
      rw [List.append_assoc, hzeros, List.take_append_drop]
    have hlength : (a.pieces.take k).length + run + (a.pieces.drop (k + run)).length = 8 := by
      have := congrArg List.length hwhole
      rwa [List.length_append, List.length_append, List.length_replicate, h.length_pieces] at this
    have hsplit : splitGap (colons (a.pieces.take k) ++ [':', ':'] ++
        colons (a.pieces.drop (k + run))) =
        some (colons (a.pieces.take k), colons (a.pieces.drop (k + run))) := by
      rw [List.append_assoc, splitGap_colons_append]
      exact congrArg some (congrArg (fun s => (s, _)) (List.append_nil _))
    rw [parse?, hsplit]
    simp only
    rw [side?_colons false fun p hp => h.lt_of_mem p (List.mem_of_mem_take hp),
      side?_colons true fun p hp => h.lt_of_mem p (List.mem_of_mem_drop hp)]
    have hgaplength : 8 - (a.pieces.take k).length - (a.pieces.drop (k + run)).length = run := by
      omega
    refine (if_pos (by omega)).trans (congrArg some (congrArg mk ?_))
    rw [hgaplength, hwhole]

end Ipv6

end Polyhierarchy.Url

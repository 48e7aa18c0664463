import Polyhierarchy.Proofs.Pieces
import Polyhierarchy.Url.Form

set_option relaxedAutoImplicit false
set_option autoImplicit false

/-!
# The pairs of a query are read as they were written

The bytes of a text are decoded to the text. A character that is written as it is, as a plus sign or
as encoded bytes, is read as itself, and neither an ampersand nor an equals sign is among what a key
or a value is written with. So pairs can be written as a query and are read from it again, and what
stands on either side of an ampersand is read by itself.

## Main results

* `Text.utf8Lossy_utf8Bytes` — the bytes of a text are decoded to the text.
* `Url.Form.decode_encode` — a key or a value is read as it was written.
* `Url.Form.read_append_cons` — the pairs of a query are those on both sides of an ampersand.
* `Url.Form.read_write` — pairs are read as they were written.
-/

namespace Polyhierarchy

namespace Text

/-! ### Bytes of a text -/

lemma utf8Bytes_append (s t : List Char) : utf8Bytes (s ++ t) = utf8Bytes s ++ utf8Bytes t :=
  List.flatMap_append

/-- A character of ASCII is one byte. -/
lemma utf8EncodeChar_of_ascii {c : Char} (h : c.toNat < 128) :
    String.utf8EncodeChar c = [UInt8.ofNat c.toNat] := by
  rw [String.utf8EncodeChar]
  exact if_pos (Nat.le_of_lt_succ h)

lemma pieceLength_eq (b : UInt8) :
    pieceLength b = if b.toNat < 0x80 then 1 else if 0xC2 ≤ b.toNat ∧ b.toNat ≤ 0xDF then 2
      else if 0xE0 ≤ b.toNat ∧ b.toNat ≤ 0xEF then 3
      else if 0xF0 ≤ b.toNat ∧ b.toNat ≤ 0xF4 then 4 else 0 := by
  simp only [pieceLength, UInt8.lt_iff_toNat_lt, UInt8.le_iff_toNat_le, Bool.and_eq_true,
    decide_eq_true_eq]
  rfl

lemma isContinuation_iff {b : UInt8} :
    isContinuation b = true ↔ 0x80 ≤ b.toNat ∧ b.toNat ≤ 0xBF := by
  simp only [isContinuation, UInt8.le_iff_toNat_le, Bool.and_eq_true, decide_eq_true_eq]
  rfl

/-- A byte may come second if it continues a character, and is neither too small nor too large for
the four first bytes that ask for more. -/
lemma secondFits_of {first second : UInt8} (h : 0x80 ≤ second.toNat ∧ second.toNat ≤ 0xBF)
    (hE0 : first.toNat = 0xE0 → 0xA0 ≤ second.toNat)
    (hED : first.toNat = 0xED → second.toNat ≤ 0x9F)
    (hF0 : first.toNat = 0xF0 → 0x90 ≤ second.toNat)
    (hF4 : first.toNat = 0xF4 → second.toNat ≤ 0x8F) : secondFits first second = true := by
  have heq : ∀ n : UInt8, first = n ↔ first.toNat = n.toNat := fun n => UInt8.toNat_inj.symm
  have hrange : ∀ lo hi : UInt8, lo.toNat ≤ second.toNat → second.toNat ≤ hi.toNat →
      (decide (lo ≤ second) && decide (second ≤ hi)) = true := fun lo hi hlo hhi => by
    rw [Bool.and_eq_true, decide_eq_true_eq, decide_eq_true_eq]
    exact ⟨hlo, hhi⟩
  simp only [secondFits, beq_iff_eq, heq]
  split
  next hf => exact hrange _ _ (hE0 hf) h.2
  next =>
    split
    next hf => exact hrange _ _ h.1 (hED hf)
    next =>
      split
      next hf => exact hrange _ _ (hF0 hf) h.2
      next =>
        split
        next hf => exact hrange _ _ h.1 (hF4 hf)
        next => exact isContinuation_iff.2 h

/-- A first byte and all the bytes that it asks for are one piece. -/
lemma utf8Pieces_cons_append {first : UInt8} (more rest : List UInt8)
    (hlength : pieceLength first = more.length + 1)
    (hcontinued : continued first (more ++ rest) = more.length) :
    utf8Pieces (first :: (more ++ rest)) = some (charOfBytes first more) :: utf8Pieces rest := by
  rw [utf8Pieces, hcontinued, if_pos hlength, List.take_left, List.drop_left]

section Pieces

variable {b₁ b₂ b₃ b₄ : UInt8} {n : Nat} (rest : List UInt8)

lemma utf8Pieces_one (hn : n < 0x80) (h₁ : b₁.toNat = n) :
    utf8Pieces (b₁ :: rest) = some (Char.ofNat n) :: utf8Pieces rest := by
  have hlength : pieceLength b₁ = 1 := by rw [pieceLength_eq, if_pos (by omega)]
  have hcontinued : continued b₁ rest = 0 := by
    rw [continued.eq_def, hlength]
    rfl
  refine (utf8Pieces_cons_append [] rest hlength hcontinued).trans ?_
  rw [charOfBytes, List.foldl_nil]
  exact congrArg (fun code => some (Char.ofNat code) :: utf8Pieces rest) h₁

lemma utf8Pieces_two (hn : 0x80 ≤ n ∧ n < 0x800) (h₁ : b₁.toNat = n / 64 % 32 + 192)
    (h₂ : b₂.toNat = n % 64 + 128) :
    utf8Pieces (b₁ :: b₂ :: rest) = some (Char.ofNat n) :: utf8Pieces rest := by
  have hlength : pieceLength b₁ = 2 := by
    rw [pieceLength_eq, if_neg (by omega), if_pos (by omega)]
  have hfits : secondFits b₁ b₂ = true := by apply secondFits_of <;> omega
  have hcontinued : continued b₁ (b₂ :: rest) = 1 := by
    rw [continued.eq_def, hlength]
    exact if_pos hfits
  have hcode : b₁.toNat % 32 * 64 + b₂.toNat % 64 = n := by omega
  refine (utf8Pieces_cons_append [b₂] rest hlength hcontinued).trans ?_
  rw [charOfBytes, List.foldl_cons, List.foldl_nil]
  exact congrArg (fun code => some (Char.ofNat code) :: utf8Pieces rest) hcode

lemma utf8Pieces_three (hn : 0x800 ≤ n ∧ n < 0x10000) (hvalid : n < 0xD800 ∨ 0xDFFF < n)
    (h₁ : b₁.toNat = n / 4096 % 16 + 224) (h₂ : b₂.toNat = n / 64 % 64 + 128)
    (h₃ : b₃.toNat = n % 64 + 128) :
    utf8Pieces (b₁ :: b₂ :: b₃ :: rest) = some (Char.ofNat n) :: utf8Pieces rest := by
  have hlength : pieceLength b₁ = 3 := by
    rw [pieceLength_eq, if_neg (by omega), if_neg (by omega), if_pos (by omega)]
  have hfits : secondFits b₁ b₂ = true := by apply secondFits_of <;> omega
  have hcontinues : isContinuation b₃ = true := isContinuation_iff.2 (by omega)
  have hcontinued : continued b₁ (b₂ :: b₃ :: rest) = 2 := by
    rw [continued.eq_def, hlength]
    exact (if_pos hfits).trans (if_pos hcontinues)
  have hcode : (b₁.toNat % 16 * 64 + b₂.toNat % 64) * 64 + b₃.toNat % 64 = n := by omega
  refine (utf8Pieces_cons_append [b₂, b₃] rest hlength hcontinued).trans ?_
  rw [charOfBytes, List.foldl_cons, List.foldl_cons, List.foldl_nil]
  exact congrArg (fun code => some (Char.ofNat code) :: utf8Pieces rest) hcode

lemma utf8Pieces_four (hn : 0x10000 ≤ n ∧ n < 0x110000) (h₁ : b₁.toNat = n / 262144 % 8 + 240)
    (h₂ : b₂.toNat = n / 4096 % 64 + 128) (h₃ : b₃.toNat = n / 64 % 64 + 128)
    (h₄ : b₄.toNat = n % 64 + 128) :
    utf8Pieces (b₁ :: b₂ :: b₃ :: b₄ :: rest) = some (Char.ofNat n) :: utf8Pieces rest := by
  have hlength : pieceLength b₁ = 4 := by
    rw [pieceLength_eq, if_neg (by omega), if_neg (by omega), if_neg (by omega),
      if_pos (by omega)]
  have hfits : secondFits b₁ b₂ = true := by apply secondFits_of <;> omega
  have hcontinues : isContinuation b₃ = true := isContinuation_iff.2 (by omega)
  have hcontinues' : isContinuation b₄ = true := isContinuation_iff.2 (by omega)
  have hcontinued : continued b₁ (b₂ :: b₃ :: b₄ :: rest) = 3 := by
    rw [continued.eq_def, hlength]
    exact (if_pos hfits).trans ((if_pos hcontinues).trans (if_pos hcontinues'))
  have hcode : ((b₁.toNat % 8 * 64 + b₂.toNat % 64) * 64 + b₃.toNat % 64) * 64 + b₄.toNat % 64 =
      n := by omega
  refine (utf8Pieces_cons_append [b₂, b₃, b₄] rest hlength hcontinued).trans ?_
  rw [charOfBytes, List.foldl_cons, List.foldl_cons, List.foldl_cons, List.foldl_nil]
  exact congrArg (fun code => some (Char.ofNat code) :: utf8Pieces rest) hcode

end Pieces

/-- **A character is the first piece of its bytes.**

**Proof sketch.** A character has one to four bytes, according to its code. In each case the bytes
are given by the digits of the code in base 64, so their ranges are arithmetic, and so is the sum
that they are put together to. -/
theorem utf8Pieces_encodeChar_append (c : Char) (rest : List UInt8) :
    utf8Pieces (String.utf8EncodeChar c ++ rest) = some c :: utf8Pieces rest := by
  have hbyte : ∀ n < 256, (UInt8.ofNat n).toNat = n := fun n hn => Nat.mod_eq_of_lt hn
  have hvalid : c.val.toNat < 0xD800 ∨ 0xDFFF < c.val.toNat ∧ c.val.toNat < 0x110000 := c.valid
  have hchar : Char.ofNat c.val.toNat = c := Char.ofNat_toNat c
  rw [String.utf8EncodeChar]
  generalize c.val.toNat = n at hvalid hchar
  rw [← hchar]
  split
  next => exact utf8Pieces_one rest (by omega) (hbyte _ (by omega))
  next =>
    split
    next => exact utf8Pieces_two rest (by omega) (hbyte _ (by omega)) (hbyte _ (by omega))
    next =>
      split
      next =>
        exact utf8Pieces_three rest (by omega) (by omega) (hbyte _ (by omega)) (hbyte _ (by omega))
          (hbyte _ (by omega))
      next =>
        exact utf8Pieces_four rest (by omega) (hbyte _ (by omega)) (hbyte _ (by omega))
          (hbyte _ (by omega)) (hbyte _ (by omega))

/-- **The bytes of a text are decoded to the text.** -/
theorem utf8Pieces_utf8Bytes (s : List Char) : utf8Pieces (utf8Bytes s) = s.map some := by
  induction s with
  | nil => rw [utf8Bytes, List.flatMap_nil, utf8Pieces, List.map_nil]
  | cons c s ih =>
    rw [utf8Bytes, List.flatMap_cons, utf8Pieces_encodeChar_append, List.map_cons]
    exact congrArg _ ih

lemma utf8Lossy_utf8Bytes (s : List Char) : utf8Lossy (utf8Bytes s) = s := by
  rw [utf8Lossy, utf8Pieces_utf8Bytes, List.map_map]
  exact List.map_id s

lemma utf8Strict?_utf8Bytes (s : List Char) : utf8Strict? (utf8Bytes s) = some s := by
  rw [utf8Strict?, utf8Pieces_utf8Bytes]
  induction s with
  | nil => rfl
  | cons c s ih =>
    rw [List.map_cons, List.foldr_cons, ih]
    rfl

end Text

namespace Url

/-! ### Encoded bytes -/

lemma decodeBytes_cons {b : UInt8} (h : b ≠ 0x25) (rest : List UInt8) :
    decodeBytes (b :: rest) = b :: decodeBytes rest := by
  match rest with
  | [] => rfl
  | [_] => rfl
  | _ :: _ :: _ => rw [decodeBytes, if_neg h]

/-- Bytes without percent signs stand for themselves. -/
lemma decodeBytes_append {bytes : List UInt8} (h : ∀ b ∈ bytes, b ≠ 0x25) (rest : List UInt8) :
    decodeBytes (bytes ++ rest) = bytes ++ decodeBytes rest := by
  induction bytes with
  | nil => rfl
  | cons b bytes ih =>
    obtain ⟨hb, hbytes⟩ := List.forall_mem_cons.1 h
    rw [List.cons_append, decodeBytes_cons hb, ih hbytes, List.cons_append]

/-- The byte of a capital digit denotes its value. -/
lemma hexValue?_byte_upperHexDigit : ∀ d < 16, (Text.upperHexDigit d).toNat < 128 ∧
    Text.hexValue? (Char.ofNat (UInt8.ofNat (Text.upperHexDigit d).toNat).toNat) = some d := by
  decide

/-- An encoded byte is decoded. -/
lemma decodeBytes_percentByte (b : UInt8) (rest : List UInt8) :
    decodeBytes (Text.utf8Bytes (percentByte b) ++ rest) = b :: decodeBytes rest := by
  have hb : b.toNat < 256 := b.toNat_lt
  obtain ⟨hhigh, hhigh'⟩ := hexValue?_byte_upperHexDigit (b.toNat / 16) (by omega)
  obtain ⟨hlow, hlow'⟩ := hexValue?_byte_upperHexDigit (b.toNat % 16) (by omega)
  have hbyte : byteOf? (UInt8.ofNat (Text.upperHexDigit (b.toNat / 16)).toNat)
      (UInt8.ofNat (Text.upperHexDigit (b.toNat % 16)).toNat) = some b := by
    rw [byteOf?, hhigh', hlow']
    refine congrArg some ((congrArg UInt8.ofNat ?_).trans UInt8.ofNat_toNat)
    omega
  rw [Text.utf8Bytes, percentByte, Text.upperHexPair, List.flatMap_cons, List.flatMap_cons,
    List.flatMap_cons, Text.utf8EncodeChar_of_ascii hhigh, Text.utf8EncodeChar_of_ascii hlow,
    Text.utf8EncodeChar_of_ascii (by decide)]
  show decodeBytes (0x25 :: UInt8.ofNat _ :: UInt8.ofNat _ :: rest) = _
  rw [decodeBytes, if_pos rfl, hbyte]

/-- Encoded bytes are decoded. -/
lemma decodeBytes_percentBytes (bytes rest : List UInt8) :
    decodeBytes (Text.utf8Bytes (bytes.flatMap percentByte) ++ rest) =
      bytes ++ decodeBytes rest := by
  induction bytes with
  | nil => rfl
  | cons b bytes ih =>
    rw [List.flatMap_cons, Text.utf8Bytes_append, List.append_assoc, decodeBytes_percentByte, ih,
      List.cons_append]

/-- The characters that an encoded byte is written with. -/
lemma mem_percentByte {b : UInt8} {c : Char} (h : c ∈ percentByte b) :
    c = '%' ∨ ∃ d < 16, c = Text.upperHexDigit d := by
  have hb : b.toNat < 256 := b.toNat_lt
  simp only [percentByte, Text.upperHexPair, List.mem_cons, List.not_mem_nil, or_false] at h
  rcases h with h | h | h
  · exact .inl h
  · exact .inr ⟨_, by omega, h⟩
  · exact .inr ⟨_, by omega, h⟩

/-! ### Keys and values -/

namespace Form

/-- A plus sign stands for a blank. -/
def unplus (c : Char) : Char := if c = '+' then ' ' else c

/-- The written form of a character. -/
def encodeChar (c : Char) : List Char :=
  if c = ' ' then ['+']
  else if isPlain c then [c]
  else (String.utf8EncodeChar c).flatMap percentByte

/-- What a character of ASCII has to do with pairs if it is written as it is. -/
lemma isPlain_spec {c : Char} (h : isPlain c = true) :
    c.toNat < 128 ∧ c ≠ '%' ∧ c ≠ '+' ∧ c ≠ '=' ∧ c ≠ '&' := by
  have hascii : c.toNat < 128 := by
    have hranges : (decide (c.val ≥ 'A'.val ∧ c.val ≤ 'Z'.val) ||
      c.val ≥ 'a'.val && c.val ≤ 'z'.val || c.val ≥ '0'.val && c.val ≤ '9'.val ||
      c == '*' || c == '-' || c == '.' || c == '_') = true := h
    simp only [Bool.or_eq_true, Bool.and_eq_true, decide_eq_true_eq, beq_iff_eq] at hranges
    rcases hranges with (((((h | h) | h) | h) | h) | h) | h
    all_goals first
      | exact Nat.lt_of_le_of_lt (UInt32.le_iff_toNat_le.1 h.2) (by decide)
      | exact h ▸ by decide
  exact ⟨hascii, Text.of_ascii (P := fun c => isPlain c = true → c ≠ '%' ∧ c ≠ '+' ∧ c ≠ '=' ∧
    c ≠ '&') (by decide) hascii h⟩

/-- Whether a character is written for a key or a value. -/
def IsWritten (c : Char) : Prop := isPlain c = true ∨ c = '+' ∨ c = '%'

lemma isWritten_of_mem_encodeChar {c d : Char} (h : d ∈ encodeChar c) : IsWritten d := by
  rw [encodeChar] at h
  split at h
  · exact .inr (.inl (List.mem_singleton.1 h))
  · split at h
    next hplain =>
      rw [List.mem_singleton.1 h]
      exact .inl hplain
    next =>
      obtain ⟨b, -, hb⟩ := List.mem_flatMap.1 h
      rcases mem_percentByte hb with rfl | ⟨n, hn, rfl⟩
      · exact .inr (.inr rfl)
      · exact .inl ((by decide : ∀ n < 16, isPlain (Text.upperHexDigit n) = true) n hn)

lemma isWritten_of_mem_encode {s : List Char} {d : Char} (h : d ∈ encode s) : IsWritten d := by
  obtain ⟨c, -, hc⟩ := List.mem_flatMap.1 h
  exact isWritten_of_mem_encodeChar hc

/-- Neither an equals sign nor an ampersand is written for a key or a value. -/
lemma IsWritten.ne {c : Char} (h : IsWritten c) : c ≠ '=' ∧ c ≠ '&' := by
  rcases h with h | rfl | rfl
  · obtain ⟨-, -, -, hne⟩ := isPlain_spec h
    exact hne
  · decide
  · decide

/-- A written character is decoded to the bytes of the character. -/
lemma decodeBytes_encodeChar (c : Char) (rest : List UInt8) :
    decodeBytes (Text.utf8Bytes ((encodeChar c).map unplus) ++ rest) =
      String.utf8EncodeChar c ++ decodeBytes rest := by
  rw [encodeChar]
  split
  next hblank =>
    rw [hblank]
    exact decodeBytes_append (List.all_iff_forall_prop.1 (by decide)) rest
  next =>
    split
    next hplain =>
      obtain ⟨hascii, hpercent, hplus, -⟩ := isPlain_spec hplain
      have hbyte : UInt8.ofNat c.toNat ≠ 0x25 := Text.of_ascii
        (P := fun c => c ≠ '%' → UInt8.ofNat c.toNat ≠ 0x25) (by decide) hascii hpercent
      rw [List.map_singleton, unplus, if_neg hplus, Text.utf8Bytes, List.flatMap_singleton,
        Text.utf8EncodeChar_of_ascii hascii]
      exact decodeBytes_cons hbyte rest
    next =>
      have hunplus : ((String.utf8EncodeChar c).flatMap percentByte).map unplus =
          (String.utf8EncodeChar c).flatMap percentByte := by
        refine (List.map_congr_left fun d hd => if_neg ?_).trans (List.map_id _)
        obtain ⟨b, -, hb⟩ := List.mem_flatMap.1 hd
        rcases mem_percentByte hb with rfl | ⟨n, hn, rfl⟩
        · decide
        · exact (by decide : ∀ n < 16, Text.upperHexDigit n ≠ '+') n hn
      rw [hunplus, decodeBytes_percentBytes]

/-- **A key or a value is read as it was written.** -/
theorem decode_encode (s : List Char) : decode (encode s) = s := by
  have hbytes : decodeBytes (Text.utf8Bytes ((encode s).map unplus)) = Text.utf8Bytes s := by
    induction s with
    | nil => rfl
    | cons c s ih =>
      show decodeBytes (Text.utf8Bytes ((encodeChar c ++ encode s).map unplus)) = _
      rw [List.map_append, Text.utf8Bytes_append, decodeBytes_encodeChar, ih]
      rfl
  exact (congrArg Text.utf8Lossy hbytes).trans (Text.utf8Lossy_utf8Bytes s)

/-! ### Pairs -/

lemma splitPairs_eq (s : List Char) : splitPairs s = s.splitOn '&' := by
  refine Text.eq_splitOnP rfl (fun c cs piece rest h => ?_) s
  rw [splitPairs, h]
  simp only [beq_iff_eq]

/-- **The pairs of a query** are those on both sides of an ampersand. -/
theorem read_append_cons (s t : List Char) : read (s ++ '&' :: t) = read s ++ read t := by
  have hsplit : (s ++ '&' :: t).splitOn '&' = s.splitOn '&' ++ t.splitOn '&' :=
    List.splitOnP_append_cons s t (beq_self_eq_true '&')
  rw [read, splitPairs_eq, hsplit, List.filter_append, List.map_append, read, read, splitPairs_eq,
    splitPairs_eq]

/-- A pair is read as it was written. -/
lemma readPair_writePair (p : Pair) : readPair (writePair p) = p := by
  have hkey : (writePair p).takeWhile (· != '=') = encode p.1 := by
    rw [writePair, List.takeWhile_append_of_pos fun c hc => ?_]
    · exact List.append_nil _
    · simpa using (isWritten_of_mem_encode hc).ne.1
  have hvalue : (writePair p).drop ((encode p.1).length + 1) = encode p.2 := by
    rw [writePair, List.drop_append, List.drop_eq_nil_of_le (Nat.le_succ _)]
    simp
  rw [readPair, hkey, hvalue, decode_encode, decode_encode]

/-- **Pairs are read as they were written.** -/
theorem read_write (pairs : List Pair) : read (write pairs) = pairs := by
  have hsplit : (splitPairs (write pairs)).filter (fun piece => !piece.isEmpty) =
      pairs.map writePair := by
    cases pairs with
    | nil => rfl
    | cons p ps =>
      have hampersand : ∀ piece ∈ (p :: ps).map writePair, '&' ∉ piece := by
        refine List.forall_mem_map.2 fun p _ h => ?_
        rw [writePair, List.mem_append, List.mem_cons] at h
        rcases h with h | h | h
        · exact (isWritten_of_mem_encode h).ne.2 rfl
        · cases h
        · exact (isWritten_of_mem_encode h).ne.2 rfl
      rw [splitPairs_eq, write, List.splitOn_intercalate '&' hampersand (List.cons_ne_nil _ _),
        List.filter_eq_self]
      exact List.forall_mem_map.2 fun p _ => by simp [writePair]
  rw [read, hsplit, List.map_map]
  exact (List.map_congr_left fun p _ => readPair_writePair p).trans (List.map_id _)

end Form

end Url

end Polyhierarchy

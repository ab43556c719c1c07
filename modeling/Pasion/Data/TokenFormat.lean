import Mathlib.Data.Nat.Digits.Lemmas
import Pasion.Data.Tokens

/-! A generated token passes its own check; what its checksum tells apart. -/
namespace Pasion

section Alphabet

/-- A character of one byte, other than the separator of a token. -/
def isTokenChar (c : Char) : Bool := c.val ≤ 127 && c ≠ '_'

theorem num_getD_zero : num.getD 0 '0' = '0' := by decide +kernel

theorem isTokenChar_num {i : ℕ} (hi : i < 62) : isTokenChar (num.getD i '0') := by
  have hall : ∀ i < 62, isTokenChar (num.getD i '0') := by decide +kernel
  exact hall i hi

theorem isTokenChar_charset {i : ℕ} (hi : i < 62) : isTokenChar (charset.getD i 'A') := by
  have hall : ∀ i < 62, isTokenChar (charset.getD i 'A') := by decide +kernel
  exact hall i hi

theorem map_idxOf_num {digits : List ℕ} (h : ∀ d ∈ digits, d < 62) :
    (digits.map (num.getD · '0')).map num.idxOf = digits := by
  have hall : ∀ i < 62, num.idxOf (num.getD i '0') = i := by decide +kernel
  rw [List.map_map]
  calc digits.map (num.idxOf ∘ (num.getD · '0')) = digits.map id :=
        List.map_congr_left fun d hd => hall d (h d hd)
    _ = digits := List.map_id digits

end Alphabet

section Checksum

variable {n x a : ℕ}

theorem base62Digits_eq (hx : x < 62 ^ n) :
    base62Digits n x = (Nat.digits 62 x).map (num.getD · '0') := by
  induction n generalizing x with
  | zero =>
    have hzero : x = 0 := by simpa using hx
    rw [hzero, Nat.digits_zero]
    rfl
  | succ n ih =>
    unfold base62Digits
    split_ifs with hzero
    · rw [hzero, Nat.digits_zero]
      rfl
    · have hdiv : x / 62 < 62 ^ n := by
        rw [Nat.div_lt_iff_lt_mul (by omega)]
        rwa [pow_succ] at hx
      rw [ih hdiv, Nat.digits_def' (n := x) (by omega) (by omega), List.map_cons]

def codeDigits (x : ℕ) : List ℕ :=
  List.replicate (6 - (Nat.digits 62 x).length) 0 ++ Nat.digits 62 x

theorem length_digits_le (hx : x < 2 ^ 32) : (Nat.digits 62 x).length ≤ 6 := by
  rw [Nat.digits_length_le_iff (by omega)]
  omega

theorem base62Encode_eq (hx : x < 2 ^ 32) :
    base62Encode x = .ofList ((codeDigits x).map (num.getD · '0')) := by
  have hdigits := base62Digits_eq (n := 6) (x := x) (by omega)
  unfold base62Encode codeDigits
  dsimp only
  rw [hdigits, List.length_map, List.map_append, List.map_replicate, num_getD_zero]

theorem length_codeDigits (hx : x < 2 ^ 32) : (codeDigits x).length = 6 := by
  have hlen := length_digits_le hx
  unfold codeDigits
  rw [List.length_append, List.length_replicate]
  omega

theorem lt_of_mem_codeDigits {d : ℕ} (h : d ∈ codeDigits x) : d < 62 := by
  obtain h | h := List.mem_append.mp h
  · rw [(List.mem_replicate.mp h).2]
    omega
  · exact Nat.digits_lt_base (by omega) h

theorem ofDigits_codeDigits (x : ℕ) :
    Nat.ofDigits 62 (codeDigits x) = 62 ^ (6 - (Nat.digits 62 x).length) * x := by
  unfold codeDigits
  rw [Nat.ofDigits_append, Nat.ofDigits_replicate_zero, List.length_replicate, Nat.ofDigits_digits,
    Nat.zero_add]

/-- Zeros in front of the digits and low digits that are zero look the same. -/
theorem base62Encode_eq_iff {b : ℕ} (ha : a < 2 ^ 32) (hb : b < 2 ^ 32) :
    base62Encode a = base62Encode b ↔
      62 ^ (6 - (Nat.digits 62 a).length) * a = 62 ^ (6 - (Nat.digits 62 b).length) * b := by
  rw [base62Encode_eq ha, base62Encode_eq hb, ← ofDigits_codeDigits, ← ofDigits_codeDigits,
    String.ofList_inj]
  constructor
  · intro h
    have hcodes := congrArg (List.map num.idxOf) h
    rw [map_idxOf_num fun _ => lt_of_mem_codeDigits,
      map_idxOf_num fun _ => lt_of_mem_codeDigits] at hcodes
    rw [hcodes]
  · intro h
    have hlen : (codeDigits a).length = (codeDigits b).length := by
      rw [length_codeDigits ha, length_codeDigits hb]
    rw [Nat.ofDigits_inj_of_len_eq (by omega) hlen (fun _ => lt_of_mem_codeDigits)
      (fun _ => lt_of_mem_codeDigits) h]

theorem base62Encode_mul {c : ℕ} (hc : c ≠ 0) (hlt : 62 * c < 2 ^ 32) :
    base62Encode (62 * c) = base62Encode c := by
  have hdigits : Nat.digits 62 (62 * c) = 0 :: Nat.digits 62 c :=
    Nat.digits_base_mul (by omega) (by omega)
  have hlen := length_digits_le hlt
  rw [base62Encode_eq_iff hlt (by omega)]
  rw [hdigits, List.length_cons] at hlen ⊢
  have hpow : 6 - (Nat.digits 62 c).length = 6 - ((Nat.digits 62 c).length + 1) + 1 := by omega
  rw [hpow, pow_succ, mul_assoc]

/-- A checksum whose code no other 32-bit number has. -/
def Unambiguous (a : ℕ) : Prop := a = 0 ∨ ¬62 ∣ a ∧ 2 ^ 32 ≤ 62 * a

theorem base62Encode_unique_iff (ha : a < 2 ^ 32) :
    (∀ b < 2 ^ 32, base62Encode a = base62Encode b → a = b) ↔ Unambiguous a := by
  constructor
  · intro hunique
    by_cases hzero : a = 0
    · exact .inl hzero
    · right
      constructor
      · rintro ⟨c, rfl⟩
        have heq := hunique c (by omega) (base62Encode_mul (by omega) ha)
        omega
      · by_contra hlt
        have heq := hunique (62 * a) (by omega) (base62Encode_mul hzero (by omega)).symm
        omega
  · intro hunambiguous b hb hcode
    rw [base62Encode_eq_iff ha hb] at hcode
    have hla := length_digits_le ha
    have hlb := length_digits_le hb
    obtain rfl | ⟨hdvd, hlarge⟩ := hunambiguous
    · have hmul : 62 ^ (6 - (Nat.digits 62 b).length) * b = 0 := by rw [← hcode, mul_zero]
      rcases Nat.mul_eq_zero.mp hmul with hpow | hb
      · exact absurd hpow (pow_ne_zero _ (by omega))
      · exact hb.symm
    · -- The longer of the two numbers is the shorter one times a power of the base.
      rcases Nat.lt_trichotomy (Nat.digits 62 a).length (Nat.digits 62 b).length with hlt | heq | hgt
      · have hsplit : 6 - (Nat.digits 62 a).length = 6 - (Nat.digits 62 b).length +
            ((Nat.digits 62 b).length - (Nat.digits 62 a).length) := by omega
        rw [hsplit, pow_add, mul_assoc, Nat.mul_right_inj (pow_ne_zero _ (by omega))] at hcode
        have hpow : 62 ≤ 62 ^ ((Nat.digits 62 b).length - (Nat.digits 62 a).length) :=
          Nat.le_self_pow (by omega) 62
        have hle := Nat.mul_le_mul_right a hpow
        omega
      · rw [heq] at hcode
        exact Nat.eq_of_mul_eq_mul_left (pow_pos (by omega) _) hcode
      · have hsplit : 6 - (Nat.digits 62 b).length = 6 - (Nat.digits 62 a).length +
            ((Nat.digits 62 a).length - (Nat.digits 62 b).length) := by omega
        rw [hsplit, pow_add, mul_assoc, Nat.mul_right_inj (pow_ne_zero _ (by omega))] at hcode
        have hbase : 62 ∣ 62 ^ ((Nat.digits 62 a).length - (Nat.digits 62 b).length) :=
          dvd_pow_self 62 (by omega)
        exact absurd (hcode ▸ Dvd.dvd.mul_right hbase b) hdvd

theorem crcShift_lt {crc : ℕ} (h : crc < 2 ^ 32) : Encoding.crcShift n crc < 2 ^ 32 := by
  induction n generalizing crc with
  | zero => exact h
  | succ n ih =>
    have hshift : crc >>> 1 < 2 ^ 32 := Nat.lt_of_le_of_lt (Nat.shiftRight_le crc 1) h
    apply ih
    split_ifs
    · exact Nat.xor_lt_two_pow hshift (by decide)
    · exact hshift

theorem crc32_lt (bytes : List UInt8) : Encoding.crc32 bytes < 2 ^ 32 := by
  have hfold : ∀ crc < 2 ^ 32, bytes.foldl Encoding.crcByte crc < 2 ^ 32 := by
    induction bytes with
    | nil => exact fun crc h => h
    | cons b rest ih =>
      intro crc h
      have hbyte : b.toNat < 2 ^ 32 := Nat.lt_trans b.toNat_lt (by decide)
      exact ih _ (crcShift_lt (Nat.xor_lt_two_pow h hbyte))
  exact Nat.xor_lt_two_pow (hfold _ (by decide)) (by decide)

end Checksum

section Format

variable {n : ℕ}

/-- A text of token characters only, of the given length. -/
structure IsPart (n : ℕ) (s : String) : Prop where
  length : s.toList.length = n
  chars : ∀ c ∈ s.toList, isTokenChar c

theorem IsPart.ofList {l : List Char} (hlen : l.length = n)
    (hchars : ∀ c ∈ l, isTokenChar c) : IsPart n (.ofList l) :=
  ⟨by rw [String.toList_ofList, hlen], by rwa [String.toList_ofList]⟩

theorem isPart_typePrefix (t : TokenType) : IsPart 3 t.typePrefix := by
  cases t <;> exact ⟨by decide +kernel, List.all_eq_true.mp (by decide +kernel)⟩

theorem isPart_generateAlphanumeric {bytes : List UInt8} (h : bytes.length = n) :
    IsPart n (generateAlphanumeric bytes) := by
  refine .ofList (by rw [List.length_map, h]) ?_
  intro c hc
  obtain ⟨b, -, rfl⟩ := List.mem_map.mp hc
  exact isTokenChar_charset (Nat.mod_lt _ (by decide))

theorem isPart_base62Encode {x : ℕ} (hx : x < 2 ^ 32) : IsPart 6 (base62Encode x) := by
  rw [base62Encode_eq hx]
  refine .ofList (by rw [List.length_map, length_codeDigits hx]) ?_
  intro c hc
  obtain ⟨d, hd, rfl⟩ := List.mem_map.mp hc
  exact isTokenChar_num (lt_of_mem_codeDigits hd)

theorem IsPart.not_mem {s : String} (h : IsPart n s) : '_' ∉ s.toList := by
  intro hmem
  have hchar := h.chars '_' hmem
  simp [isTokenChar] at hchar

/-- Token characters take one byte each. -/
theorem IsPart.utf8ByteSize {s : String} (h : IsPart n s) : s.utf8ByteSize = n := by
  have hbytes : ∀ l : List Char, (∀ c ∈ l, isTokenChar c) →
      (String.ofList l).utf8ByteSize = l.length := by
    intro l hl
    induction l with
    | nil => rfl
    | cons c rest ih =>
      have hc : c.utf8Size = 1 := by
        have hchar := hl c List.mem_cons_self
        simp only [isTokenChar, Bool.and_eq_true, decide_eq_true_eq] at hchar
        exact Char.utf8Size_eq_one_iff.mpr hchar.1
      rw [String.ofList_cons, String.utf8ByteSize_append, String.utf8ByteSize_singleton, hc,
        ih fun c hc => hl c (List.mem_cons_of_mem _ hc), List.length_cons]
      omega
  rw [← h.length, ← hbytes s.toList h.chars, String.ofList_toList]

/-- Texts without the separator come back from a split. -/
theorem split_parts {a b c : String} (ha : '_' ∉ a.toList) (hb : '_' ∉ b.toList)
    (hc : '_' ∉ c.toList) : Str.split (a ++ "_" ++ b ++ "_" ++ c) '_' = [a, b, c] := by
  have hlist : (a ++ "_" ++ b ++ "_" ++ c).toList =
      a.toList ++ '_' :: (b.toList ++ '_' :: c.toList) := by
    simp [String.toList_append]
  unfold Str.split
  rw [hlist, List.splitOn_append_cons_self, List.splitOn_append_cons_self,
    List.splitOn_eq_singleton ha, List.splitOn_eq_singleton hb, List.splitOn_eq_singleton hc]
  simp

/-- Base64 digits come in fours, but for two or three at the end. -/
theorem groups_eq_none {l : List ℕ} (h : l.length % 4 = 1) : Encoding.groups l = none := by
  induction l using Encoding.groups.induct with
  | case1 => simp at h
  | case2 a => rfl
  | case3 a b => simp at h
  | case4 a b c => simp at h
  | case5 a b c d rest ih =>
    have hrest : rest.length % 4 = 1 := by
      simp only [List.length_cons] at h
      omega
    unfold Encoding.groups
    rw [ih hrest]
    rfl

theorem length_of_mapM_sextet {l : List Char} {digits : List ℕ}
    (h : l.mapM Encoding.sextet = some digits) : digits.length = l.length := by
  induction l generalizing digits with
  | nil =>
    cases h
    rfl
  | cons c rest ih =>
    rw [List.mapM_cons] at h
    obtain ⟨d, -, h⟩ := Option.bind_eq_some_iff.mp h
    obtain ⟨ds, hds, h⟩ := Option.bind_eq_some_iff.mp h
    cases h
    rw [List.length_cons, List.length_cons, ih hds]

theorem not_isLikelyPalpoMacaroon {token : String} (h : token.toList.length % 4 = 1) :
    isLikelyPalpoMacaroon token = false := by
  have hdecode : Encoding.base64UrlUnpadded token = none := by
    unfold Encoding.base64UrlUnpadded
    cases hdigits : token.toList.mapM Encoding.sextet with
    | none => rfl
    | some digits =>
      have hlen : digits.length = token.toList.length := length_of_mapM_sextet hdigits
      exact groups_eq_none (hlen ▸ h)
  unfold isLikelyPalpoMacaroon
  rw [hdecode]

theorem matchPrefix_typePrefix (t : TokenType) : TokenType.matchPrefix t.typePrefix = some t := by
  cases t <;> decide

/-- A token of any type and any random bytes is accepted, as a token of that type. -/
theorem check_generate (t : TokenType) (bytes : List UInt8) (hbytes : bytes.length = 30) :
    TokenType.check (t.generate bytes) = .ok t := by
  have hstart := isPart_typePrefix t
  have hrandom := isPart_generateAlphanumeric hbytes
  have hcrc : IsPart 6 (TokenType.crcOf (t.typePrefix ++ "_" ++ generateAlphanumeric bytes)) :=
    isPart_base62Encode (crc32_lt _)
  have hsplit := split_parts hstart.not_mem hrandom.not_mem hcrc.not_mem
  have hlen : (t.generate bytes).toList.length = 41 := by
    simp [TokenType.generate, String.toList_append, hstart.length, hrandom.length, hcrc.length]
  have hlegacy : (Str.startsWith (t.generate bytes) "pst_" ||
      Str.startsWith (t.generate bytes) "syr_" ||
      isLikelyPalpoMacaroon (t.generate bytes)) = false := by
    rw [not_isLikelyPalpoMacaroon (by rw [hlen]), Bool.or_false]
    cases t <;> simp [Str.startsWith, TokenType.generate, TokenType.typePrefix,
      String.toList_append, List.isPrefixOf]
  unfold TokenType.check
  rw [hlegacy, if_neg Bool.false_ne_true]
  unfold TokenType.generate
  dsimp only
  rw [hsplit]
  dsimp only
  rw [hstart.utf8ByteSize, hrandom.utf8ByteSize, hcrc.utf8ByteSize, if_neg (by decide),
    matchPrefix_typePrefix]
  dsimp only
  rw [if_neg (not_not.mpr rfl)]

theorem check_generate_zeros : (List.replicate 30 (0 : UInt8)).length = 30 ∧
    TokenType.check (TokenType.generate .accessToken (List.replicate 30 0)) = .ok .accessToken :=
  ⟨by decide, check_generate .accessToken (List.replicate 30 0) (by decide)⟩

theorem crc_of_check {token pre randomPart crc : String} {t : TokenType}
    (h : TokenType.check token = .ok t) (hsplit : Str.split token '_' = [pre, randomPart, crc]) :
    crc = TokenType.crcOf (pre ++ "_" ++ randomPart) := by
  unfold TokenType.check at h
  rw [hsplit] at h
  split_ifs at h with hlegacy
  dsimp only at h
  split_ifs at h with hsizes
  cases hstart : TokenType.matchPrefix pre with
  | none =>
    rw [hstart] at h
    cases h
  | some tokenType =>
    rw [hstart] at h
    dsimp only at h
    split_ifs at h with hcrc
    have hpre : tokenType.typePrefix = pre := by
      unfold TokenType.matchPrefix at hstart
      split_ifs at hstart with h₁ h₂ h₃
      · cases hstart
        exact h₁.symm
      · cases hstart
        exact h₂.symm
      · cases hstart
        exact h₃.symm
    rw [not_not.mp hcrc, hpre]

/-- The code of a checksum stands for it alone exactly for the unambiguous checksums. -/
theorem checksum_unique_iff (a : ℕ) (ha : a < 2 ^ 32) (token : String) :
    ((∀ b < 2 ^ 32, base62Encode a = base62Encode b → a = b) ↔ Unambiguous a) ∧
    ∀ t pre randomPart crc, TokenType.check token = .ok t →
      Str.split token '_' = [pre, randomPart, crc] →
      let checksum := Encoding.crc32 (pre ++ "_" ++ randomPart).toUTF8.toList
      crc = base62Encode checksum ∧
        ((∀ v < 2 ^ 32, crc = base62Encode v → checksum = v) ↔ Unambiguous checksum) := by
  constructor
  · exact base62Encode_unique_iff ha
  · intro t pre randomPart crc hcheck hsplit checksum
    have hcrc : crc = base62Encode checksum := crc_of_check hcheck hsplit
    refine ⟨hcrc, ?_⟩
    rw [hcrc]
    exact base62Encode_unique_iff (crc32_lt _)

theorem largest_checksum_unique : Unambiguous (2 ^ 32 - 1) ∧
    ∀ b < 2 ^ 32, base62Encode (2 ^ 32 - 1) = base62Encode b → 2 ^ 32 - 1 = b := by
  have h : Unambiguous (2 ^ 32 - 1) := .inr ⟨by decide, by decide⟩
  exact ⟨h, (checksum_unique_iff (2 ^ 32 - 1) (by decide) "").1.mpr h⟩

theorem one_and_base_same_code :
    ∃ a b, a < 2 ^ 32 ∧ b < 2 ^ 32 ∧ base62Encode a = base62Encode b ∧ a ≠ b :=
  ⟨1, 62, by decide, by decide, by decide, by decide⟩

end Format

end Pasion

import Mathlib.Data.List.TakeWhile
import Pasion.Text.Str

/-! Pairs of names and values as `application/x-www-form-urlencoded` texts. -/
namespace FormUrlencoded

def isUnreserved (b : UInt8) : Bool :=
  (0x30 ≤ b && b ≤ 0x39) || (0x41 ≤ b && b ≤ 0x5A) || (0x61 ≤ b && b ≤ 0x7A) ||
    b = 0x2A || b = 0x2D || b = 0x2E || b = 0x5F

def hexDigit (n : ℕ) : UInt8 := .ofNat (if n < 10 then 0x30 + n else 0x37 + n)

def hexValue (b : UInt8) : Option ℕ :=
  if 0x30 ≤ b && b ≤ 0x39 then some (b.toNat - 0x30)
  else if 0x41 ≤ b && b ≤ 0x46 then some (b.toNat - 0x37)
  else if 0x61 ≤ b && b ≤ 0x66 then some (b.toNat - 0x57)
  else none

/-- A space is written `+`, and what is not unreserved in hexadecimal. -/
def encodeByte (b : UInt8) : List UInt8 :=
  if isUnreserved b then [b]
  else if b = 0x20 then [0x2B]
  else [0x25, hexDigit (b.toNat / 16), hexDigit (b.toNat % 16)]

def encode (s : String) : List UInt8 := (Str.bytes s).flatMap encodeByte

def encodePair (p : String × String) : List UInt8 := encode p.1 ++ 0x3D :: encode p.2

def ofAscii (bytes : List UInt8) : String := .ofList (bytes.map (fun b => .ofNat b.toNat))

def serialize (pairs : List (String × String)) : String :=
  ofAscii ([0x26].intercalate (pairs.map encodePair))

def plusToSpace (bytes : List UInt8) : List UInt8 :=
  bytes.map (fun b => if b = 0x2B then 0x20 else b)

/-- A percent sign without two digits after it stays. -/
def percentDecode : List UInt8 → List UInt8
  | [] => []
  | [a] => [a]
  | [a, b] => [a, b]
  | a :: b :: c :: rest =>
    if a = 0x25 then
      match hexValue b, hexValue c with
      | some hi, some lo => .ofNat (16 * hi + lo) :: percentDecode rest
      | _, _ => a :: percentDecode (b :: c :: rest)
    else a :: percentDecode (b :: c :: rest)

section Parse

-- what becomes of bytes that are no UTF-8
variable (lossy : List UInt8 → String)

def decodeUtf8 (bytes : List UInt8) : String :=
  match bytes.toByteArray.utf8Decode? with
  | some chars => .ofList chars.toList
  | none => lossy bytes

def decode (bytes : List UInt8) : String := decodeUtf8 lossy (percentDecode (plusToSpace bytes))

def parsePair (bytes : List UInt8) : String × String :=
  (decode lossy (bytes.takeWhile (· ≠ 0x3D)), decode lossy ((bytes.dropWhile (· ≠ 0x3D)).drop 1))

def parse (s : String) : List (String × String) :=
  (((Str.bytes s).splitOn 0x26).filter (fun bytes => !bytes.isEmpty)).map (parsePair lossy)

end Parse

section Components

theorem isUnreserved_hexDigit {n : ℕ} (h : n < 16) : isUnreserved (hexDigit n) := by
  have hall : ∀ i : Fin 16, isUnreserved (hexDigit i) := by decide
  exact hall ⟨n, h⟩

theorem hexValue_hexDigit {n : ℕ} (h : n < 16) : hexValue (hexDigit n) = some n := by
  have hall : ∀ i : Fin 16, hexValue (hexDigit i) = some i.val := by decide
  exact hall ⟨n, h⟩

theorem ne_of_isUnreserved {b c : UInt8} (h : isUnreserved b) (hc : isUnreserved c = false) :
    b ≠ c := by
  rintro rfl
  rw [hc] at h
  cases h

theorem percentDecode_cons_of_ne {b : UInt8} (h : b ≠ 0x25) (rest : List UInt8) :
    percentDecode (b :: rest) = b :: percentDecode rest := by
  match rest with
  | [] => rfl
  | [_] => rfl
  | c :: d :: rest => rw [percentDecode, if_neg h]

theorem plusToSpace_of_isUnreserved {b : UInt8} (h : isUnreserved b) : plusToSpace [b] = [b] := by
  have hne : b ≠ 0x2B := ne_of_isUnreserved h (by decide)
  simp [plusToSpace, hne]

/-- A byte that was written is read first. -/
theorem percentDecode_encodeByte (b : UInt8) (rest : List UInt8) :
    percentDecode (plusToSpace (encodeByte b) ++ rest) = b :: percentDecode rest := by
  unfold encodeByte
  split_ifs with hunreserved hspace
  · have hne : b ≠ 0x25 := ne_of_isUnreserved hunreserved (by decide)
    rw [plusToSpace_of_isUnreserved hunreserved, List.singleton_append,
      percentDecode_cons_of_ne hne]
  · rw [hspace]
    exact percentDecode_cons_of_ne (by decide) rest
  · have hb : b.toNat < 256 := b.toNat_lt
    have hhi : b.toNat / 16 < 16 := by omega
    have hlo : b.toNat % 16 < 16 := by omega
    have hplus : plusToSpace [0x25, hexDigit (b.toNat / 16), hexDigit (b.toNat % 16)] =
        [0x25, hexDigit (b.toNat / 16), hexDigit (b.toNat % 16)] := by
      have hhiNe := ne_of_isUnreserved (isUnreserved_hexDigit hhi)
        (show isUnreserved 0x2B = false by decide)
      have hloNe := ne_of_isUnreserved (isUnreserved_hexDigit hlo)
        (show isUnreserved 0x2B = false by decide)
      simp [plusToSpace, hhiNe, hloNe]
    have hvalue : UInt8.ofNat (16 * (b.toNat / 16) + b.toNat % 16) = b := by
      rw [Nat.div_add_mod, UInt8.ofNat_toNat]
    rw [hplus]
    simp only [List.cons_append, List.nil_append]
    rw [percentDecode, if_pos rfl, hexValue_hexDigit hhi, hexValue_hexDigit hlo]
    dsimp only
    rw [hvalue]

theorem percentDecode_encode (bytes : List UInt8) :
    percentDecode (plusToSpace (bytes.flatMap encodeByte)) = bytes := by
  induction bytes with
  | nil => rfl
  | cons b rest ih =>
    have happend : plusToSpace ((b :: rest).flatMap encodeByte) =
        plusToSpace (encodeByte b) ++ plusToSpace (rest.flatMap encodeByte) := by
      rw [List.flatMap_cons, plusToSpace, List.map_append]
      rfl
    rw [happend, percentDecode_encodeByte, ih]

theorem decodeUtf8_bytes (lossy : List UInt8 → String) (s : String) :
    decodeUtf8 lossy (Str.bytes s) = s := by
  have hdecode : (Str.bytes s).toByteArray.utf8Decode? = some s.toList.toArray :=
    List.utf8Decode?_utf8Encode
  unfold decodeUtf8
  rw [hdecode]
  simp

theorem decode_encode (lossy : List UInt8 → String) (s : String) : decode lossy (encode s) = s := by
  rw [decode, encode, percentDecode_encode, decodeUtf8_bytes]

end Components

section Texts

variable {b : UInt8} {pairs : List (String × String)}

/-- The bytes that occur in what is written, separators aside. -/
def isPlain (b : UInt8) : Bool := isUnreserved b || b = 0x2B || b = 0x25

theorem isPlain_of_mem_encode {s : String} (h : b ∈ encode s) : isPlain b := by
  obtain ⟨a, -, hb⟩ := List.mem_flatMap.mp h
  have ha : a.toNat < 256 := a.toNat_lt
  unfold encodeByte at hb
  split_ifs at hb with hunreserved hspace
  · obtain rfl := List.mem_singleton.mp hb
    simp [isPlain, hunreserved]
  · obtain rfl := List.mem_singleton.mp hb
    decide
  · simp only [List.mem_cons, List.not_mem_nil, or_false] at hb
    obtain rfl | rfl | rfl := hb
    · decide
    · simp [isPlain, isUnreserved_hexDigit (show a.toNat / 16 < 16 by omega)]
    · simp [isPlain, isUnreserved_hexDigit (show a.toNat % 16 < 16 by omega)]

theorem not_mem_encode {s : String} (h : isPlain b = false) : b ∉ encode s := by
  intro hmem
  rw [isPlain_of_mem_encode hmem] at h
  cases h

/-- The bytes of a text of pairs. -/
def isSafe (b : UInt8) : Bool := isPlain b || b = 0x26 || b = 0x3D

theorem isSafe_of_mem_encodePair {p : String × String} (h : b ∈ encodePair p) :
    isSafe b := by
  obtain h | h := List.mem_append.mp h
  · simp [isSafe, isPlain_of_mem_encode h]
  · obtain rfl | h := List.mem_cons.mp h
    · decide
    · simp [isSafe, isPlain_of_mem_encode h]

theorem isSafe_of_mem_intercalate {parts : List (List UInt8)}
    (hparts : ∀ part ∈ parts, ∀ b ∈ part, isSafe b)
    (h : b ∈ [0x26].intercalate parts) : isSafe b := by
  induction parts with
  | nil => cases h
  | cons part rest ih =>
    cases rest with
    | nil =>
      rw [List.intercalate_singleton] at h
      exact hparts part List.mem_cons_self b h
    | cons next rest =>
      rw [List.intercalate_cons_cons, List.append_assoc] at h
      obtain h | h := List.mem_append.mp h
      · exact hparts part List.mem_cons_self b h
      · obtain h | h := List.mem_append.mp h
        · obtain rfl := List.mem_singleton.mp h
          decide
        · exact ih (fun part hpart => hparts part (List.mem_cons_of_mem _ hpart)) h

theorem toNat_lt_of_isSafe (h : isSafe b) : b.toNat < 128 := by
  have hall : ∀ i : Fin 256, isSafe (.ofNat i) → i.val < 128 := by decide +kernel
  have hb := hall ⟨b.toNat, b.toNat_lt⟩
  rw [UInt8.ofNat_toNat] at hb
  exact hb h

theorem bytes_ofAscii {bytes : List UInt8} (h : ∀ b ∈ bytes, b.toNat < 128) :
    Str.bytes (ofAscii bytes) = bytes := by
  have hbyte : ∀ b : UInt8, b.toNat < 128 → String.utf8EncodeChar (.ofNat b.toNat) = [b] := by
    have hall : ∀ i : Fin 128, String.utf8EncodeChar (.ofNat i) = [UInt8.ofNat i] := by decide
    intro b hb
    have hi := hall ⟨b.toNat, hb⟩
    rwa [UInt8.ofNat_toNat] at hi
  unfold Str.bytes ofAscii
  rw [String.toList_ofList, List.flatMap_map]
  induction bytes with
  | nil => rfl
  | cons b rest ih =>
    rw [List.flatMap_cons, hbyte b (h b List.mem_cons_self),
      ih fun c hc => h c (List.mem_cons_of_mem _ hc), List.singleton_append]

theorem isSafe_of_mem_encodePairs
    (h : b ∈ [0x26].intercalate (pairs.map encodePair)) : isSafe b := by
  refine isSafe_of_mem_intercalate ?_ h
  intro part hpart c hc
  obtain ⟨p, -, rfl⟩ := List.mem_map.mp hpart
  exact isSafe_of_mem_encodePair hc

theorem bytes_serialize (pairs : List (String × String)) :
    Str.bytes (serialize pairs) = [0x26].intercalate (pairs.map encodePair) :=
  bytes_ofAscii fun _ hb => toNat_lt_of_isSafe (isSafe_of_mem_encodePairs hb)

theorem isSafe_of_mem_serialize (h : b ∈ Str.bytes (serialize pairs)) : isSafe b := by
  rw [bytes_serialize] at h
  exact isSafe_of_mem_encodePairs h

theorem parsePair_encodePair (lossy : List UInt8 → String) (p : String × String) :
    parsePair lossy (encodePair p) = p := by
  have hpass : ∀ b ∈ encode p.1, decide (b ≠ 0x3D) = true := by
    intro b hb
    exact decide_eq_true fun heq => not_mem_encode (by decide) (heq ▸ hb)
  unfold parsePair encodePair
  rw [List.takeWhile_append_of_pos hpass, List.dropWhile_append_of_pos hpass]
  simp [decode_encode]

/-- Pairs that were written are read as they were, in their order. -/
theorem parse_serialize (lossy : List UInt8 → String) (pairs : List (String × String)) :
    parse lossy (serialize pairs) = pairs := by
  unfold parse
  rw [bytes_serialize]
  cases pairs with
  | nil => rfl
  | cons p rest =>
    have hamp : ∀ part ∈ (p :: rest).map encodePair, (0x26 : UInt8) ∉ part := by
      intro part hpart
      obtain ⟨q, -, rfl⟩ := List.mem_map.mp hpart
      intro hmem
      obtain h | h := List.mem_append.mp hmem
      · exact not_mem_encode (by decide) h
      · obtain h | h := List.mem_cons.mp h
        · exact absurd h (by decide)
        · exact not_mem_encode (by decide) h
    have hkeep : ((p :: rest).map encodePair).filter (fun bytes => !bytes.isEmpty) =
        (p :: rest).map encodePair := by
      refine List.filter_eq_self.mpr fun part hpart => ?_
      obtain ⟨q, -, rfl⟩ := List.mem_map.mp hpart
      simp [encodePair]
    rw [List.splitOn_intercalate 0x26 hamp (by simp), hkeep, List.map_map]
    exact (List.map_congr_left fun q _ => parsePair_encodePair lossy q).trans (List.map_id _)

end Texts

end FormUrlencoded

import Pasion.Jose.Jwk
import Pasion.Text.Base64
import Pasion.Text.Fallible
import Pasion.Text.Slice

/-! Compact JSON Web Tokens: signing, and decoding by byte offsets into one text. -/
namespace Pasion

open Encoding

inductive DecodeError where
  | noDots
  | onlyOneDot
  | tooManyDots

/-- A text with exactly two dots, and the byte offsets of the dots. -/
structure RawJwt where
  inner : String
  (firstDot secondDot : ℕ)
  dots : Str.offsets '.' 0 inner.toList = [firstDot, secondDot]

namespace RawJwt

def tryFrom (value : String) : Except DecodeError RawJwt :=
  match hdots : Str.offsets '.' 0 value.toList with
  | [] => .error .noDots
  | [_] => .error .onlyOneDot
  | [firstDot, secondDot] => .ok ⟨value, firstDot, secondDot, hdots⟩
  | _ :: _ :: _ :: _ => .error .tooManyDots

structure Parts (raw : RawJwt) where
  (header payload signature : String)
  inner_eq : raw.inner = header ++ "." ++ payload ++ "." ++ signature
  firstDot_eq : raw.firstDot = Str.len header
  secondDot_eq : raw.secondDot = Str.len (header ++ "." ++ payload)

theorem nonempty_parts (raw : RawJwt) : Nonempty (Parts raw) := by
  obtain ⟨h, rest, hinner, -, hfirst, hrest⟩ := Str.offsets_eq_cons raw.dots
  obtain ⟨p, s, hpayload, -, hsecond, -⟩ := Str.offsets_eq_cons hrest.symm
  refine ⟨⟨.ofList h, .ofList p, .ofList s, ?_, ?_, ?_⟩⟩
  · apply String.toList_inj.mp
    simp [hinner, hpayload]
  · simp [Str.len, hfirst]
  · simp [Str.len, hsecond, hfirst, Nat.add_assoc]

variable {raw : RawJwt}

theorem sliceTo_firstDot (parts : Parts raw) :
    Str.sliceTo raw.inner raw.firstDot = some parts.header := by
  have hinner : raw.inner = parts.header ++ ("." ++ parts.payload ++ "." ++ parts.signature) := by
    rw [parts.inner_eq]
    simp only [String.append_assoc]
  rw [hinner, parts.firstDot_eq, Str.sliceTo_append]

theorem sliceTo_secondDot (parts : Parts raw) :
    Str.sliceTo raw.inner raw.secondDot = some (parts.header ++ "." ++ parts.payload) := by
  have hinner : raw.inner =
      (parts.header ++ "." ++ parts.payload) ++ ("." ++ parts.signature) := by
    rw [parts.inner_eq]
    simp only [String.append_assoc]
  rw [hinner, parts.secondDot_eq, Str.sliceTo_append]

theorem slice_payload (parts : Parts raw) :
    Str.slice raw.inner (raw.firstDot + 1) raw.secondDot = some parts.payload := by
  have hlen : raw.firstDot + 1 = Str.len (parts.header ++ ".") := by
    rw [parts.firstDot_eq, Str.len_append]
    rfl
  rw [Str.slice, sliceTo_secondDot parts, Option.bind_some, hlen, Str.sliceFrom_append]

theorem sliceFrom_signature (parts : Parts raw) :
    Str.sliceFrom raw.inner (raw.secondDot + 1) = some parts.signature := by
  have hlen : raw.secondDot + 1 = Str.len (parts.header ++ "." ++ parts.payload ++ ".") := by
    rw [parts.secondDot_eq, Str.len_append _ "."]
    rfl
  rw [parts.inner_eq, hlen, Str.sliceFrom_append]

/-- The slices lie at the ends of characters, so that taking them never fails. -/
theorem slices_isSome (raw : RawJwt) : (Str.sliceTo raw.inner raw.firstDot).isSome ∧
      (Str.slice raw.inner (raw.firstDot + 1) raw.secondDot).isSome ∧
      (Str.sliceFrom raw.inner (raw.secondDot + 1)).isSome ∧
      (Str.sliceTo raw.inner raw.secondDot).isSome := by
  obtain ⟨parts⟩ := raw.nonempty_parts
  rw [sliceTo_firstDot parts, slice_payload parts, sliceFrom_signature parts,
    sliceTo_secondDot parts]
  exact ⟨rfl, rfl, rfl, rfl⟩

def header (raw : RawJwt) : String := (Str.sliceTo raw.inner raw.firstDot).get raw.slices_isSome.1

def payload (raw : RawJwt) : String :=
  (Str.slice raw.inner (raw.firstDot + 1) raw.secondDot).get raw.slices_isSome.2.1

def signature (raw : RawJwt) : String :=
  (Str.sliceFrom raw.inner (raw.secondDot + 1)).get raw.slices_isSome.2.2.1

def signedPart (raw : RawJwt) : String :=
  (Str.sliceTo raw.inner raw.secondDot).get raw.slices_isSome.2.2.2

theorem header_eq (parts : Parts raw) : raw.header = parts.header :=
  Option.get_of_eq_some _ (sliceTo_firstDot parts)

theorem payload_eq (parts : Parts raw) : raw.payload = parts.payload :=
  Option.get_of_eq_some _ (slice_payload parts)

theorem signature_eq (parts : Parts raw) : raw.signature = parts.signature :=
  Option.get_of_eq_some _ (sliceFrom_signature parts)

theorem signedPart_eq (parts : Parts raw) :
    raw.signedPart = parts.header ++ "." ++ parts.payload :=
  Option.get_of_eq_some _ (sliceTo_secondDot parts)

theorem join_parts (raw : RawJwt) :
    raw.header ++ "." ++ raw.payload ++ "." ++ raw.signature = raw.inner := by
  obtain ⟨parts⟩ := raw.nonempty_parts
  rw [header_eq parts, payload_eq parts, signature_eq parts, parts.inner_eq]

theorem inner_of_tryFrom {value : String} (h : tryFrom value = .ok raw) : raw.inner = value := by
  unfold tryFrom at h
  split at h
  · cases h
  · cases h
  · cases h
    rfl
  · cases h

/-- A text is accepted exactly as the value that holds it. -/
theorem tryFrom_inner (raw : RawJwt) : tryFrom raw.inner = .ok raw := by
  obtain ⟨inner, firstDot, secondDot, hdots⟩ := raw
  unfold tryFrom
  split
  · next h => rw [hdots] at h; cases h
  · next h => rw [hdots] at h; cases h
  · next h =>
    rw [hdots] at h
    cases h
    rfl
  · next h => rw [hdots] at h; cases h

/-- Three parts without dots, joined by dots. -/
def ofParts (header payload signature : String) (hheader : '.' ∉ header.toList)
    (hpayload : '.' ∉ payload.toList) (hsignature : '.' ∉ signature.toList) : RawJwt where
  inner := header ++ "." ++ payload ++ "." ++ signature
  firstDot := Str.len header
  secondDot := Str.len (header ++ "." ++ payload)
  dots := by
    have hinner : (header ++ "." ++ payload ++ "." ++ signature).toList =
        header.toList ++ '.' :: (payload.toList ++ '.' :: signature.toList) := by
      simp
    rw [hinner, Str.offsets_append_cons hheader, Str.offsets_append_cons hpayload,
      Str.offsets_eq_nil.mpr hsignature]
    simp [Str.len, Nat.add_assoc]

theorem partsOf {header payload signature : String} (hheader : '.' ∉ header.toList)
    (hpayload : '.' ∉ payload.toList) (hsignature : '.' ∉ signature.toList) :
    let raw := ofParts header payload signature hheader hpayload hsignature
    raw.header = header ∧ raw.payload = payload ∧ raw.signature = signature ∧
      raw.signedPart = header ++ "." ++ payload := by
  intro raw
  let parts : Parts raw := ⟨header, payload, signature, rfl, rfl, rfl⟩
  exact ⟨header_eq parts, payload_eq parts, signature_eq parts, signedPart_eq parts⟩

end RawJwt

structure JsonWebSignatureHeader where
  alg : JsonWebSignatureAlg
  jku : Option Url
  jwk : Option PublicJsonWebKey
  kid : Option String
  x5u : Option Url
  x5c : Option (List (List UInt8))
  (x5t x5tS256 : Option (List UInt8))
  (typ cty : Option String)
  crit : Option (List String)
  deriving DecidableEq

namespace JsonWebSignatureHeader

def new (alg : JsonWebSignatureAlg) : JsonWebSignatureHeader :=
  ⟨alg, none, none, none, none, none, none, none, none, none, none⟩

def withKid (header : JsonWebSignatureHeader) (kid : String) : JsonWebSignatureHeader :=
  { header with kid := some kid }

end JsonWebSignatureHeader

/-- Serialisation of a type as JSON, which reading gives back. A JSON text is never empty. -/
structure JsonCodec (T : Type) where
  toVec : T → Option (List UInt8)
  fromReader : List UInt8 → Option T
  fromReader_toVec : ∀ {t bytes}, toVec t = some bytes → fromReader bytes = some t
  toVec_ne_nil : ∀ {t bytes}, toVec t = some bytes → bytes ≠ []

def JsonCodec.single {T : Type} [DecidableEq T] (value : T) (byte : UInt8)
    (rest : List UInt8) : JsonCodec T where
  toVec t := if t = value then some (byte :: rest) else none
  fromReader bytes := if bytes = byte :: rest then some value else none
  fromReader_toVec h := by
    split_ifs at h with ht
    cases h
    rw [if_pos rfl, ht]
  toVec_ne_nil h := by
    split_ifs at h
    cases h
    simp

inductive JwtSignatureError where
  | encodeHeader
  | encodePayload
  | signature

inductive JwtDecodeError where
  | rawDecode (inner : DecodeError)
  | decodeHeader
  | deserializeHeader
  | decodePayload
  | deserializePayload
  | decodeSignature

structure Jwt (T : Type) where
  raw : RawJwt
  header : JsonWebSignatureHeader
  payload : T
  signature : List UInt8

namespace Jwt

variable {T : Type} (headers : JsonCodec JsonWebSignatureHeader) (payloads : JsonCodec T)

/-- Signs the two parts as they stand in the token; `key` is the signer with its randomness. -/
def signWithRng (key : List UInt8 → Option (List UInt8)) (header : JsonWebSignatureHeader)
    (payload : T) : Except JwtSignatureError (Jwt T) := do
  let headerBytes ← (headers.toVec header).elim (.error .encodeHeader) .ok
  let payloadBytes ← (payloads.toVec payload).elim (.error .encodePayload) .ok
  let encodedHdr := base64UrlEncode headerBytes
  let encodedPay := base64UrlEncode payloadBytes
  let rawSig ← (key (Str.bytes (encodedHdr ++ "." ++ encodedPay))).elim (.error .signature) .ok
  .ok ⟨.ofParts encodedHdr encodedPay (base64UrlEncode rawSig)
    (dot_not_mem_base64UrlEncode _) (dot_not_mem_base64UrlEncode _)
    (dot_not_mem_base64UrlEncode _), header, payload, rawSig⟩

/-- The decoder refuses an empty part; all other faults show while the JSON is read from it. -/
def decodePart {A : Type} (codec : JsonCodec A) (part : String) (noDecoder notRead : JwtDecodeError) :
    Except JwtDecodeError A :=
  if part = "" then .error noDecoder
  else ((base64UrlDecode part).bind codec.fromReader).elim (.error notRead) .ok

def parseCompactParts (raw : RawJwt) : Except JwtDecodeError (Jwt T) := do
  let header ← decodePart headers raw.header .decodeHeader .deserializeHeader
  let payload ← decodePart payloads raw.payload .decodePayload .deserializePayload
  let sigBytes ← (base64UrlDecode raw.signature).elim (.error .decodeSignature) .ok
  .ok ⟨raw, header, payload, sigBytes⟩

def tryFrom (input : String) : Except JwtDecodeError (Jwt T) :=
  match RawJwt.tryFrom input with
  | .error e => .error (.rawDecode e)
  | .ok raw => parseCompactParts headers payloads raw

variable {headers payloads}
variable {key : List UInt8 → Option (List UInt8)} {header : JsonWebSignatureHeader}

theorem decodePart_encode {A : Type} {codec : JsonCodec A} {a : A} {bytes : List UInt8}
    {noDecoder notRead : JwtDecodeError} (h : codec.toVec a = some bytes) :
    decodePart codec (base64UrlEncode bytes) noDecoder notRead = .ok a := by
  unfold decodePart
  rw [if_neg (base64UrlEncode_ne_empty (codec.toVec_ne_nil h)), base64UrlDecode_encode,
    Option.bind_some, codec.fromReader_toVec h]
  rfl

theorem signWithRng_ok
    {payload : T} {jwt : Jwt T} (h : signWithRng headers payloads key header payload = .ok jwt) :
    ∃ headerBytes payloadBytes rawSig, headers.toVec header = some headerBytes ∧
      payloads.toVec payload = some payloadBytes ∧
      key (Str.bytes (base64UrlEncode headerBytes ++ "." ++ base64UrlEncode payloadBytes)) =
        some rawSig ∧
      jwt = ⟨.ofParts (base64UrlEncode headerBytes) (base64UrlEncode payloadBytes)
        (base64UrlEncode rawSig) (dot_not_mem_base64UrlEncode _) (dot_not_mem_base64UrlEncode _)
        (dot_not_mem_base64UrlEncode _), header, payload, rawSig⟩ := by
  unfold signWithRng at h
  obtain ⟨headerBytes, hheader, h⟩ := Fallible.bind_eq_ok_iff.mp h
  obtain ⟨payloadBytes, hpayload, h⟩ := Fallible.bind_eq_ok_iff.mp h
  obtain ⟨rawSig, hkey, h⟩ := Fallible.bind_eq_ok_iff.mp h
  rw [Fallible.elim_eq_ok_iff] at hheader hpayload hkey
  cases h
  exact ⟨headerBytes, payloadBytes, rawSig, hheader, hpayload, hkey, rfl⟩

/-- A signed token is read back as it is, and what it shows as signed is what was signed. -/
theorem tryFrom_of_sign
    {payload : T} {jwt : Jwt T} (h : signWithRng headers payloads key header payload = .ok jwt) :
    tryFrom headers payloads jwt.raw.inner = .ok jwt ∧ jwt.header = header ∧ jwt.payload = payload ∧
      (∃ headerBytes payloadBytes, headers.toVec header = some headerBytes ∧
        payloads.toVec payload = some payloadBytes ∧
        jwt.raw.signedPart =
          base64UrlEncode headerBytes ++ "." ++ base64UrlEncode payloadBytes) ∧
      key (Str.bytes jwt.raw.signedPart) = some jwt.signature := by
  obtain ⟨headerBytes, payloadBytes, rawSig, hheader, hpayload, hkey, rfl⟩ := signWithRng_ok h
  have parts := RawJwt.partsOf (dot_not_mem_base64UrlEncode headerBytes)
    (dot_not_mem_base64UrlEncode payloadBytes) (dot_not_mem_base64UrlEncode rawSig)
  obtain ⟨hheaderPart, hpayloadPart, hsignaturePart, hsignedPart⟩ := parts
  refine ⟨?_, rfl, rfl, ⟨headerBytes, payloadBytes, hheader, hpayload, hsignedPart⟩, ?_⟩
  · unfold tryFrom
    rw [RawJwt.tryFrom_inner]
    dsimp only
    unfold parseCompactParts
    rw [hheaderPart, hpayloadPart, hsignaturePart, decodePart_encode hheader,
      decodePart_encode hpayload, base64UrlDecode_encode]
    rfl
  · rw [hsignedPart]
    exact hkey

/-- Signing and decoding agree on the parts, and the parts of an accepted text make it up. -/
theorem sign_then_decode :
    (∀ (T : Type) (headers : JsonCodec JsonWebSignatureHeader) (payloads : JsonCodec T)
      (key : List UInt8 → Option (List UInt8)) (header : JsonWebSignatureHeader) (payload : T)
      (jwt : Jwt T), signWithRng headers payloads key header payload = .ok jwt →
      ∃ decoded headerBytes payloadBytes,
        tryFrom headers payloads jwt.raw.inner = .ok decoded ∧ decoded.header = header ∧
          decoded.payload = payload ∧ decoded.signature = jwt.signature ∧
          headers.toVec header = some headerBytes ∧ payloads.toVec payload = some payloadBytes ∧
          decoded.raw.signedPart =
            base64UrlEncode headerBytes ++ "." ++ base64UrlEncode payloadBytes ∧
          key (Str.bytes decoded.raw.signedPart) = some decoded.signature) ∧
    ∀ (s : String) (raw : RawJwt), RawJwt.tryFrom s = .ok raw →
      raw.header ++ "." ++ raw.payload ++ "." ++ raw.signature = s := by
  constructor
  · intro T headers payloads key header payload jwt h
    obtain ⟨hdecode, hheader, hpayload, ⟨headerBytes, payloadBytes, hbytes⟩, hkey⟩ :=
      tryFrom_of_sign h
    obtain ⟨hheaderBytes, hpayloadBytes, hsignedPart⟩ := hbytes
    exact ⟨jwt, headerBytes, payloadBytes, hdecode, hheader, hpayload, rfl, hheaderBytes,
      hpayloadBytes, hsignedPart, hkey⟩
  · intro s raw h
    rw [raw.join_parts, RawJwt.inner_of_tryFrom h]

theorem short_token_decoded :
    let header := JsonWebSignatureHeader.new .rs256
    let headers := JsonCodec.single header 104 []
    let payloads := JsonCodec.single "claims" 112 []
    let key (message : List UInt8) := some [UInt8.ofNat message.length]
    ∃ jwt decoded headerBytes payloadBytes,
      signWithRng headers payloads key header "claims" = .ok jwt ∧
        jwt.raw.inner = "aA.cA.BQ" ∧
        tryFrom headers payloads jwt.raw.inner = .ok decoded ∧ decoded.header = header ∧
        decoded.payload = "claims" ∧ decoded.signature = jwt.signature ∧
        headers.toVec header = some headerBytes ∧
        payloads.toVec "claims" = some payloadBytes ∧
        decoded.raw.signedPart =
          base64UrlEncode headerBytes ++ "." ++ base64UrlEncode payloadBytes ∧
        key (Str.bytes decoded.raw.signedPart) = some decoded.signature := by
  intro header headers payloads key
  obtain ⟨jwt, hsign, hinner⟩ : ∃ jwt,
      signWithRng headers payloads key header "claims" = .ok jwt ∧ jwt.raw.inner = "aA.cA.BQ" :=
    ⟨_, rfl, by decide +kernel⟩
  obtain ⟨decoded, headerBytes, payloadBytes, hdecoded⟩ :=
    sign_then_decode.1 String headers payloads key header "claims" jwt hsign
  exact ⟨jwt, decoded, headerBytes, payloadBytes, hsign, hinner, hdecoded⟩

end Jwt

end Pasion

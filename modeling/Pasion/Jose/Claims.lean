import Pasion.Jose.Verify
import Pasion.Text.Decimal
import Pasion.Text.Json

/-! Typed access to the claims of a token, and the validators of the registered claims. -/
namespace Pasion

open Relational

abbrev ClaimsMap := Table String Json.Value

inductive ClaimError where
  | missingClaim (claim : String)
  | invalidClaim (claim : String)
  | validationError (claim : String)
  deriving DecidableEq

/-- A claim with its key and the way its values are written as JSON and read. -/
structure Claim (T : Type) where
  key : String
  toValue : T → Json.Value
  fromValue : Json.Value → Option T

namespace Claim

variable {T : Type}

def insert (claim : Claim T) (claims : ClaimsMap) (value : T) : ClaimsMap :=
  Table.insert claims claim.key (claim.toValue value)

def insertOption (claim : Claim T) (claims : ClaimsMap) (value : Option T) : ClaimsMap :=
  value.elim claims (claim.insert claims)

def remove (claim : Claim T) (claims : ClaimsMap) : ClaimsMap :=
  Table.delete claims (fun key _ => key = claim.key)

def decodeAndValidate (claim : Claim T) (raw : Json.Value) (validator : T → Bool) :
    Except ClaimError T :=
  match claim.fromValue raw with
  | none => .error (.invalidClaim claim.key)
  | some decoded => if validator decoded then .ok decoded else .error (.validationError claim.key)

def extractRequiredWithOptions (claim : Claim T) (claims : ClaimsMap) (validator : T → Bool) :
    Except ClaimError (T × ClaimsMap) :=
  match Table.get? claims claim.key with
  | none => .error (.missingClaim claim.key)
  | some raw => (claim.decodeAndValidate raw validator).map (·, claim.remove claims)

def extractRequired (claim : Claim T) (claims : ClaimsMap) : Except ClaimError (T × ClaimsMap) :=
  claim.extractRequiredWithOptions claims (fun _ => true)

def extractOptionalWithOptions (claim : Claim T) (claims : ClaimsMap) (validator : T → Bool) :
    Except ClaimError (Option T × ClaimsMap) :=
  match Table.get? claims claim.key with
  | none => .ok (none, claims)
  | some raw => (claim.decodeAndValidate raw validator).map (some ·, claim.remove claims)

def extractOptional (claim : Claim T) (claims : ClaimsMap) : Except ClaimError (Option T × ClaimsMap) :=
  claim.extractOptionalWithOptions claims (fun _ => true)

def Holds (claim : Claim T) (claims : ClaimsMap) (value : T) : Prop :=
  ∃ raw, Table.get? claims claim.key = some raw ∧ claim.fromValue raw = some value

section Rules

variable {claim : Claim T} {claims : ClaimsMap} {value : T} {validator : T → Bool} {S : Type}
variable {key : String}

theorem get?_insert {v : S} {other : Claim S} : Table.get? (other.insert claims v) key =
      if key = other.key then some (other.toValue v) else Table.get? claims key :=
  Table.get?_insert _ _ _ _

theorem get?_insertOption {v : Option S} {other : Claim S} :
    Table.get? (other.insertOption claims v) key =
      if key = other.key then (v.map other.toValue).or (Table.get? claims key)
      else Table.get? claims key := by
  cases v with
  | none => simp [insertOption]
  | some v => simpa [insertOption] using get?_insert

theorem get?_remove_of_ne (other : Claim S) (hne : key ≠ other.key) :
    Table.get? (other.remove claims) key = Table.get? claims key := by
  rw [remove, Table.get?_delete]
  cases Table.get? claims key with
  | none => rfl
  | some raw => simp [hne]

/-- Only the entry of the claim matters. -/
theorem Holds.congr {claims' : ClaimsMap} (h : claim.Holds claims value)
    (hget : Table.get? claims' claim.key = Table.get? claims claim.key) :
    claim.Holds claims' value := by
  obtain ⟨raw, hraw, hvalue⟩ := h
  exact ⟨raw, hget.trans hraw, hvalue⟩

/-- A value that the claims hold is extracted when the validator agrees. -/
theorem extractRequired_of_holds (validator : T → Bool) (h : claim.Holds claims value)
    (hvalid : validator value) :
    claim.extractRequiredWithOptions claims validator = .ok (value, claim.remove claims) := by
  obtain ⟨raw, hget, hvalue⟩ := h
  unfold extractRequiredWithOptions decodeAndValidate
  simp only [hget, hvalue, hvalid, if_true]
  rfl

theorem extractRequired_ok {found : T × ClaimsMap}
    (h : claim.extractRequiredWithOptions claims validator = .ok found) :
    claim.Holds claims found.1 ∧ validator found.1 ∧ found.2 = claim.remove claims := by
  unfold extractRequiredWithOptions decodeAndValidate at h
  cases hget : Table.get? claims claim.key with
  | none => simp [hget] at h
  | some raw =>
    cases hread : claim.fromValue raw with
    | none =>
      simp only [hget, hread] at h
      cases h
    | some decoded =>
      cases hvalid : validator decoded with
      | false =>
        simp only [hget, hread, hvalid] at h
        cases h
      | true =>
        simp only [hget, hread, hvalid, if_true] at h
        cases h
        exact ⟨⟨raw, hget, hread⟩, hvalid, rfl⟩

/-- An optional claim is extracted when it is absent or valid; the others stay. -/
theorem extractOptional_ok
    (h : Table.get? claims claim.key = none ∨ ∃ value, claim.Holds claims value ∧ validator value) :
    ∃ found rest, claim.extractOptionalWithOptions claims validator = .ok (found, rest) ∧
      ∀ key ≠ claim.key, Table.get? rest key = Table.get? claims key := by
  obtain hnone | ⟨value, ⟨raw, hget, hvalue⟩, hvalid⟩ := h
  · refine ⟨none, claims, ?_, fun _ _ => rfl⟩
    unfold extractOptionalWithOptions
    rw [hnone]
  · refine ⟨some value, claim.remove claims, ?_, fun key hne => get?_remove_of_ne claim hne⟩
    unfold extractOptionalWithOptions decodeAndValidate
    simp only [hget, hvalue, hvalid, if_true]
    rfl

end Rules

def ofString (key : String) : Claim String := ⟨key, .string, Json.Value.asStr⟩

/-- A time in whole seconds, rounded down. -/
def ofTimestamp (key : String) : Claim Time where
  key
  toValue t := .number (Str.ofInt (t / 1000000))
  fromValue
    | .number text => (Str.parseInt text).map (· * 1000000)
    | _ => none

/-- A single value stands for itself, any other number of values for an array. -/
def ofOneOrMany (key : String) : Claim (List String) where
  key
  toValue
    | [one] => .string one
    | many => .array (many.map .string)
  fromValue
    | .string one => some [one]
    | .array many => many.mapM Json.Value.asStr
    | _ => none

def iss : Claim String := ofString "iss"
def sub : Claim String := ofString "sub"
def aud : Claim (List String) := ofOneOrMany "aud"
def nbf : Claim Time := ofTimestamp "nbf"
def exp : Claim Time := ofTimestamp "exp"
def iat : Claim Time := ofTimestamp "iat"
def authTime : Claim Time := ofTimestamp "auth_time"
def nonce : Claim String := ofString "nonce"
def atHash : Claim String := ofString "at_hash"
def cHash : Claim String := ofString "c_hash"

end Claim

structure TimeOptions where
  whenTime : Time
  leeway : Duration

def TimeOptions.new (whenTime : Time) : TimeOptions := ⟨whenTime, 5 * 60 * 1000000⟩

def timeNotAfter (options : TimeOptions) (ts : Time) : Bool :=
  options.whenTime ≤ ts + options.leeway

def timeNotBefore (options : TimeOptions) (ts : Time) : Bool :=
  ts - options.leeway ≤ options.whenTime

inductive TokenHashError where
  | hashMismatch
  | unsupportedAlgorithm
  deriving DecidableEq

inductive ShaFamily where
  | sha256
  | sha384
  | sha512

def shaFamilyFor (alg : JsonWebSignatureAlg) : Except TokenHashError ShaFamily :=
  let name := alg.asStr
  let endsWith (suffix : String) := suffix.toList.isSuffixOf name.toList
  if endsWith "256" || name = "ES256K" then .ok .sha256
  else if endsWith "384" then .ok .sha384
  else if endsWith "512" || alg = .edDsa || alg = .ed25519 then .ok .sha512
  else .error .unsupportedAlgorithm

abbrev Digests := ShaFamily → List UInt8 → List UInt8

def ShaFamily.half : ShaFamily → ℕ
  | sha256 => 16
  | sha384 => 24
  | sha512 => 32

/-- The left half of the digest. -/
def hashToken (digests : Digests) (alg : JsonWebSignatureAlg) (token : String) :
    Except TokenHashError String :=
  (shaFamilyFor alg).map (fun family =>
    Encoding.base64UrlEncode ((digests family (Str.bytes token)).take family.half))

def tokenHash (digests : Digests) (alg : JsonWebSignatureAlg) (token stored : String) : Bool :=
  hashToken digests alg token = .ok stored

end Pasion

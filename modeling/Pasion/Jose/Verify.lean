import Pasion.Jose.Jwt

/-! Verification of signed tokens with a set of public keys or with a shared secret. -/
namespace Pasion

inductive AsymmetricVerifyingKey where
  | rs256 (key : RsaPublicParameters)
  | rs384 (key : RsaPublicParameters)
  | rs512 (key : RsaPublicParameters)
  | ps256 (key : RsaPublicParameters)
  | ps384 (key : RsaPublicParameters)
  | ps512 (key : RsaPublicParameters)
  | es256 (key : EcPublicParameters)
  | es384 (key : EcPublicParameters)
  | es512 (key : EcPublicParameters)
  | es256K (key : EcPublicParameters)
  | edDsa (key : OkpPublicParameters)

inductive SymmetricKey where
  | hs256 (key : List UInt8)
  | hs384 (key : List UInt8)
  | hs512 (key : List UInt8)
  deriving DecidableEq

def SymmetricKey.newForAlg (key : List UInt8) : JsonWebSignatureAlg → Option SymmetricKey
  | .hs256 => some (.hs256 key)
  | .hs384 => some (.hs384 key)
  | .hs512 => some (.hs512 key)
  | _ => none

/-- The cryptographic libraries: which parameters make a key, and what a key verifies. -/
structure SignatureScheme where
  parses : JsonWebKeyPublicParameters → Bool
  verify : AsymmetricVerifyingKey → List UInt8 → List UInt8 → Bool
  verifyMac : SymmetricKey → List UInt8 → List UInt8 → Bool

inductive AsymmetricKeyFromJwkError where
  | rsa
  | ellipticCurve
  | okp
  | keyNotSuitable (alg : JsonWebSignatureAlg)

namespace AsymmetricVerifyingKey

/-- The key type and the curve settle which algorithms a key is made for. -/
def forAlg : JsonWebKeyPublicParameters → JsonWebSignatureAlg → Option AsymmetricVerifyingKey
  | .rsa params, .rs256 => some (.rs256 params)
  | .rsa params, .rs384 => some (.rs384 params)
  | .rsa params, .rs512 => some (.rs512 params)
  | .rsa params, .ps256 => some (.ps256 params)
  | .rsa params, .ps384 => some (.ps384 params)
  | .rsa params, .ps512 => some (.ps512 params)
  | .ec params, .es256 => if params.crv = .p256 then some (.es256 params) else none
  | .ec params, .es384 => if params.crv = .p384 then some (.es384 params) else none
  | .ec params, .es512 => if params.crv = .p521 then some (.es512 params) else none
  | .ec params, .es256K => if params.crv = .secp256K1 then some (.es256K params) else none
  | .okp params, .edDsa => if params.crv = .ed25519 then some (.edDsa params) else none
  | _, _ => none

def invalidParameters : JsonWebKeyPublicParameters → AsymmetricKeyFromJwkError
  | .rsa _ => .rsa
  | .ec _ => .ellipticCurve
  | .okp _ => .okp

def fromJwkAndAlg (scheme : SignatureScheme) (params : JsonWebKeyPublicParameters)
    (alg : JsonWebSignatureAlg) : Except AsymmetricKeyFromJwkError AsymmetricVerifyingKey :=
  match forAlg params alg with
  | none => .error (.keyNotSuitable alg)
  | some key => if scheme.parses params then .ok key else .error (invalidParameters params)

end AsymmetricVerifyingKey

def ConstraintSet.ofHeader (header : JsonWebSignatureHeader) : ConstraintSet :=
  let constraints := ConstraintSet.default.insert (.alg header.alg)
  header.kid.elim constraints (fun kid => constraints.insert (.kid kid))

inductive NoKeyWorked where
  | noKeyWorked
  deriving DecidableEq

namespace Jwt

variable {T : Type}

def verify (scheme : SignatureScheme) (jwt : Jwt T) (key : AsymmetricVerifyingKey) : Bool :=
  scheme.verify key (Str.bytes jwt.raw.signedPart) jwt.signature

def verifyWithSharedSecret (scheme : SignatureScheme) (jwt : Jwt T) (secret : List UInt8) :
    Except NoKeyWorked Unit :=
  match SymmetricKey.newForAlg secret jwt.header.alg with
  | none => .error .noKeyWorked
  | some key =>
    if scheme.verifyMac key (Str.bytes jwt.raw.signedPart) jwt.signature then .ok ()
    else .error .noKeyWorked

/-- A candidate that is no key for the algorithm is passed over. -/
def verifiesUnder (scheme : SignatureScheme) (jwt : Jwt T) (candidate : PublicJsonWebKey) : Bool :=
  match AsymmetricVerifyingKey.fromJwkAndAlg scheme candidate.parameters jwt.header.alg with
  | .error _ => false
  | .ok key => jwt.verify scheme key

/-- The candidate at which the loop over the candidates returns. -/
def verifyingKey? (scheme : SignatureScheme) (jwt : Jwt T) (jwks : PublicJsonWebKeySet) :
    Option PublicJsonWebKey :=
  ((ConstraintSet.ofHeader jwt.header).filter jwks.keys).find? (jwt.verifiesUnder scheme)

def verifyWithJwks (scheme : SignatureScheme) (jwt : Jwt T) (jwks : PublicJsonWebKeySet) :
    Except NoKeyWorked Unit :=
  (jwt.verifyingKey? scheme jwks).elim (.error .noKeyWorked) (fun _ => .ok ())

section Rules

variable {scheme : SignatureScheme} {jwt : Jwt T} {jwks : PublicJsonWebKeySet}

theorem verifyWithJwks_ok_iff : jwt.verifyWithJwks scheme jwks = .ok () ↔
    ∃ key, jwt.verifyingKey? scheme jwks = some key := by
  unfold verifyWithJwks
  cases jwt.verifyingKey? scheme jwks <;> simp

theorem verifyingKey?_some {key : PublicJsonWebKey} (h : jwt.verifyingKey? scheme jwks = some key) :
    key ∈ jwks.keys ∧ (ConstraintSet.ofHeader jwt.header).admits key ∧
      jwt.verifiesUnder scheme key := by
  have hmem := ConstraintSet.mem_filter.mp (List.mem_of_find?_eq_some h)
  exact ⟨hmem.1, hmem.2, List.find?_some h⟩

/-- A key that passes the constraints and verifies the token is enough. -/
theorem verifyWithJwks_of_mem {key : PublicJsonWebKey} (hmem : key ∈ jwks.keys)
    (hadmits : (ConstraintSet.ofHeader jwt.header).admits key)
    (hverifies : jwt.verifiesUnder scheme key) : jwt.verifyWithJwks scheme jwks = .ok () := by
  have hfilter := ConstraintSet.mem_filter.mpr ⟨hmem, hadmits⟩
  have hsome := List.find?_isSome.mpr ⟨key, hfilter, hverifies⟩
  exact verifyWithJwks_ok_iff.mpr (Option.isSome_iff_exists.mp hsome)

end Rules

/-- The metadata is consistent, and the use and the operations it declares include
verification. -/
def Suitable (key : PublicJsonWebKey) : Prop :=
  key.isValid ∧ (∀ use ∈ key.use, use = .sig) ∧ ∀ keyOps ∈ key.keyOps, .verify ∈ keyOps

def candidates (scheme : SignatureScheme) (jwt : Jwt T) (jwks : PublicJsonWebKeySet) :
    List PublicJsonWebKey :=
  jwks.keys.filter (fun key =>
    (ConstraintSet.ofHeader jwt.header).admits key && jwt.verifiesUnder scheme key)

/-- The loop stops at the candidate with the lowest score. -/
theorem verifyingKey?_eq_head? (scheme : SignatureScheme) (jwt : Jwt T)
    (jwks : PublicJsonWebKeySet) :
    jwt.verifyingKey? scheme jwks = (Ranking.byScore (ConstraintSet.ofHeader jwt.header).score
        (jwt.candidates scheme jwks)).head? := by
  unfold verifyingKey? ConstraintSet.filter candidates
  rw [← List.head?_filter, Ranking.filter_byScore, List.filter_filter]
  simp only [Bool.and_comm]

/-- Only suitable keys verify exactly when an unsuitable one is tried after a suitable one. -/
theorem verifyWithJwks_suitable_iff (scheme : SignatureScheme) (jwt : Jwt T)
    (jwks : PublicJsonWebKeySet) :
    (jwt.verifyWithJwks scheme jwks = .ok () →
      ∃ key ∈ jwks.keys, jwt.verifyingKey? scheme jwks = some key ∧ Suitable key) ↔
    ∀ key ∈ jwt.candidates scheme jwks, ¬Suitable key →
      ∃ other ∈ jwt.candidates scheme jwks, Suitable other ∧
        Ranking.Before (ConstraintSet.ofHeader jwt.header).score (jwt.candidates scheme jwks)
          other key := by
  rw [← Ranking.head?_satisfies_iff, ← verifyingKey?_eq_head?]
  constructor
  · intro hsuitable key hkey
    obtain ⟨key', -, hkey', hsuits⟩ := hsuitable (verifyWithJwks_ok_iff.mpr ⟨key, hkey⟩)
    rw [hkey] at hkey'
    rw [Option.some.inj hkey']
    exact hsuits
  · intro hsuitable hok
    obtain ⟨key, hkey⟩ := verifyWithJwks_ok_iff.mp hok
    exact ⟨key, (verifyingKey?_some hkey).1, hkey, hsuitable key hkey⟩

def encryptionKey : PublicJsonWebKey := ⟨.rsa ⟨[3], [1]⟩, some .enc, some [.encrypt], none, none⟩

def lenientScheme : SignatureScheme := ⟨fun _ => true, fun _ _ _ => true, fun _ _ _ => true⟩

def unsignedClaims : Jwt Unit :=
  ⟨.ofParts "a" "b" "c" (by decide) (by decide) (by decide), .new .rs256, (), [0]⟩

theorem encryption_key_verifies :
    unsignedClaims.verifyWithJwks lenientScheme ⟨[encryptionKey]⟩ = .ok () ∧
      ¬∃ key ∈ [encryptionKey],
        unsignedClaims.verifyingKey? lenientScheme ⟨[encryptionKey]⟩ = some key ∧
          Suitable key := by
  refine ⟨by decide +kernel, ?_⟩
  rintro ⟨key, hmem, -, -, huse, -⟩
  rw [List.mem_singleton.mp hmem] at huse
  have hsig := huse .enc rfl
  cases hsig

end Jwt

end Pasion

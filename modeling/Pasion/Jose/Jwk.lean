import Pasion.Data.ClientMetadata
import Pasion.Jose.Ranking

/-! JSON Web Keys, the validation of their metadata, and the choice of keys by constraints. -/
namespace Pasion

inductive JsonWebKeyType where
  | ec
  | rsa
  | oct
  | okp
  | unknown (value : String)
  deriving DecidableEq

inductive JsonWebKeyEcEllipticCurve where
  | p256
  | p384
  | p521
  | secp256K1
  | unknown (value : String)
  deriving DecidableEq

inductive JsonWebKeyOkpEllipticCurve where
  | ed25519
  | ed448
  | x25519
  | x448
  | unknown (value : String)
  deriving DecidableEq

inductive JsonWebKeyUse where
  | sig
  | enc
  | unknown (value : String)
  deriving DecidableEq

inductive JsonWebKeyOperation where
  | sign
  | verify
  | encrypt
  | decrypt
  | wrapKey
  | unwrapKey
  | deriveKey
  | deriveBits
  | unknown (value : String)
  deriving DecidableEq

class ParametersInfo (P : Type) where
  kty : P → JsonWebKeyType
  possibleAlgs : P → List JsonWebSignatureAlg

inductive JsonWebKeyCapability where
  | signature
  | encryption
  deriving DecidableEq

namespace JsonWebKeyCapability

def forAlg : JsonWebSignatureAlg → Option JsonWebKeyCapability
  | .hs256 | .hs384 | .hs512 | .rs256 | .rs384 | .rs512 | .es256 | .es384 | .es512 | .ps256
  | .ps384 | .ps512 | .edDsa | .es256K | .ed25519 | .ed448 => some .signature
  | .none | .unknown _ => none

def forUse : JsonWebKeyUse → Option JsonWebKeyCapability
  | .sig => some .signature
  | .enc => some .encryption
  | .unknown _ => none

def forKeyOp : JsonWebKeyOperation → Option JsonWebKeyCapability
  | .sign | .verify => some .signature
  | .encrypt | .decrypt | .wrapKey | .unwrapKey | .deriveKey | .deriveBits => some .encryption
  | .unknown _ => none

/-- Two capabilities clash when both are known and they differ. -/
def clash (a b : Option JsonWebKeyCapability) : Bool :=
  match a, b with
  | some a, some b => a ≠ b
  | _, _ => false

end JsonWebKeyCapability

inductive JsonWebKeyValidationError where
  | incompatibleAlgorithm (alg : JsonWebSignatureAlg) (kty : JsonWebKeyType)
  | incompatibleUseAndAlgorithm (use : JsonWebKeyUse) (alg : JsonWebSignatureAlg)
  | incompatibleUseAndKeyOperation (use : JsonWebKeyUse) (keyOp : JsonWebKeyOperation)
  | incompatibleAlgorithmAndKeyOperation (alg : JsonWebSignatureAlg) (keyOp : JsonWebKeyOperation)
  | mixedKeyOperations (first second : JsonWebKeyOperation)

structure JsonWebKey (P : Type) where
  parameters : P
  use : Option JsonWebKeyUse
  keyOps : Option (List JsonWebKeyOperation)
  alg : Option JsonWebSignatureAlg
  kid : Option String
  deriving DecidableEq

namespace JsonWebKey

def clonedMap {P O : Type} (key : JsonWebKey P) (mapper : P → O) : JsonWebKey O :=
  ⟨mapper key.parameters, key.use, key.keyOps, key.alg, key.kid⟩

variable {P : Type} [ParametersInfo P]

open JsonWebKeyCapability

def validateUseAndAlg (use : JsonWebKeyUse) (alg : JsonWebSignatureAlg) :
    Except JsonWebKeyValidationError Unit :=
  if clash (forUse use) (forAlg alg) then .error (.incompatibleUseAndAlgorithm use alg) else .ok ()

def validateUseAndKeyOp (use : JsonWebKeyUse) (keyOp : JsonWebKeyOperation) :
    Except JsonWebKeyValidationError Unit :=
  if clash (forUse use) (forKeyOp keyOp) then .error (.incompatibleUseAndKeyOperation use keyOp)
  else .ok ()

def validateAlgAndKeyOp (alg : JsonWebSignatureAlg) (keyOp : JsonWebKeyOperation) :
    Except JsonWebKeyValidationError Unit :=
  if clash (forAlg alg) (forKeyOp keyOp) then
    .error (.incompatibleAlgorithmAndKeyOperation alg keyOp)
  else .ok ()

def validateAlg (key : JsonWebKey P) : Except JsonWebKeyValidationError Unit :=
  match key.alg with
  | none => .ok ()
  | some alg =>
    if alg ∉ ParametersInfo.possibleAlgs key.parameters then
      .error (.incompatibleAlgorithm alg (ParametersInfo.kty key.parameters))
    else key.use.elim (.ok ()) (validateUseAndAlg · alg)

/-- `seen` is the capability met first and the operation it came from. -/
def validateKeyOps (use : Option JsonWebKeyUse) (alg : Option JsonWebSignatureAlg)
    (seen : Option (JsonWebKeyCapability × JsonWebKeyOperation)) :
    List JsonWebKeyOperation → Except JsonWebKeyValidationError Unit
  | [] => .ok ()
  | keyOp :: rest => do
    use.elim (.ok ()) (validateUseAndKeyOp · keyOp)
    alg.elim (.ok ()) (validateAlgAndKeyOp · keyOp)
    match forKeyOp keyOp, seen with
    | none, _ => validateKeyOps use alg seen rest
    | some capability, none => validateKeyOps use alg (some (capability, keyOp)) rest
    | some capability, some (previous, first) =>
      if previous ≠ capability then .error (.mixedKeyOperations first keyOp)
      else validateKeyOps use alg seen rest

def validate (key : JsonWebKey P) : Except JsonWebKeyValidationError Unit := do
  key.validateAlg
  key.keyOps.elim (.ok ()) (validateKeyOps key.use key.alg none)

def isValid (key : JsonWebKey P) : Bool := key.validate.isOk

/-- The algorithm of a key with valid metadata is one that its parameters allow. -/
theorem mem_possibleAlgs_of_isValid {key : JsonWebKey P} {alg : JsonWebSignatureAlg}
    (hvalid : key.isValid) (halg : key.alg = some alg) :
    alg ∈ ParametersInfo.possibleAlgs key.parameters := by
  by_contra hnot
  have hvalidate : key.validate =
      .error (.incompatibleAlgorithm alg (ParametersInfo.kty key.parameters)) := by
    unfold validate validateAlg
    rw [halg]
    simp only [hnot, not_false_eq_true, if_true]
    rfl
  rw [isValid, hvalidate] at hvalid
  cases hvalid

end JsonWebKey

structure RsaPublicParameters where
  (n e : List UInt8)
  deriving DecidableEq

structure EcPublicParameters where
  crv : JsonWebKeyEcEllipticCurve
  (x y : List UInt8)
  deriving DecidableEq

structure OkpPublicParameters where
  crv : JsonWebKeyOkpEllipticCurve
  x : List UInt8
  deriving DecidableEq

inductive JsonWebKeyPublicParameters where
  | rsa (params : RsaPublicParameters)
  | ec (params : EcPublicParameters)
  | okp (params : OkpPublicParameters)
  deriving DecidableEq

def rsaCompatibleAlgs : List JsonWebSignatureAlg := [.rs256, .rs384, .rs512, .ps256, .ps384, .ps512]

def EcPublicParameters.algsForCurve (params : EcPublicParameters) : List JsonWebSignatureAlg :=
  match params.crv with
  | .p256 => [.es256]
  | .p384 => [.es384]
  | .p521 => [.es512]
  | .secp256K1 => [.es256K]
  | .unknown _ => []

instance : ParametersInfo JsonWebKeyPublicParameters where
  kty
    | .rsa _ => .rsa
    | .ec _ => .ec
    | .okp _ => .okp
  possibleAlgs
    | .rsa _ => rsaCompatibleAlgs
    | .ec params => params.algsForCurve
    | .okp _ => [.edDsa]

abbrev PublicJsonWebKey := JsonWebKey JsonWebKeyPublicParameters

inductive Constraint where
  | alg (constraintAlg : JsonWebSignatureAlg)
  | algs (constraintAlgs : List JsonWebSignatureAlg)
  | kid (constraintKid : String)
  | use (constraintUse : JsonWebKeyUse)
  | kty (constraintKty : JsonWebKeyType)
  deriving DecidableEq

inductive ConstraintDecision where
  | positive
  | neutral
  | negative
  deriving DecidableEq

def ConstraintDecision.ofMatch (b : Bool) : ConstraintDecision := if b then .positive else .negative

namespace Constraint

variable {P : Type} [ParametersInfo P]

/-- What a key declares is compared; what it leaves open is settled by its parameters, if at
all. -/
def decide (constraint : Constraint) (key : JsonWebKey P) : ConstraintDecision :=
  match constraint with
  | alg constraintAlg =>
    match key.alg with
    | some declared => .ofMatch (declared = constraintAlg)
    | none =>
      if constraintAlg ∈ ParametersInfo.possibleAlgs key.parameters then .neutral else .negative
  | algs constraintAlgs =>
    match key.alg with
    | some declared => .ofMatch (declared ∈ constraintAlgs)
    | none =>
      if (ParametersInfo.possibleAlgs key.parameters).any (· ∈ constraintAlgs) then .neutral
      else .negative
  | kid constraintKid => key.kid.elim .neutral (fun kid => .ofMatch (kid = constraintKid))
  | use constraintUse => key.use.elim .neutral (fun use => .ofMatch (use = constraintUse))
  | kty constraintKty => .ofMatch (constraintKty = ParametersInfo.kty key.parameters)

variable {key : JsonWebKey P}

theorem alg_ne_negative_iff {a : JsonWebSignatureAlg} : (alg a).decide key ≠ .negative ↔
      a ∈ key.alg.elim (ParametersInfo.possibleAlgs key.parameters) ([·]) := by
  unfold decide
  cases key.alg with
  | none => simp
  | some declared => simp [ConstraintDecision.ofMatch, eq_comm]

theorem use_ne_negative_iff {u : JsonWebKeyUse} :
    (use u).decide key ≠ .negative ↔ ∀ declared ∈ key.use, declared = u := by
  unfold decide
  cases key.use with
  | none => simp
  | some declared => simp [ConstraintDecision.ofMatch]

theorem kid_ne_negative_iff {k : String} :
    (kid k).decide key ≠ .negative ↔ ∀ declared ∈ key.kid, declared = k := by
  unfold decide
  cases key.kid with
  | none => simp
  | some declared => simp [ConstraintDecision.ofMatch]

end Constraint

structure ConstraintSet where
  constraints : List Constraint
  nodup : constraints.Nodup

namespace ConstraintSet

variable {P : Type} [ParametersInfo P]

def default : ConstraintSet := ⟨[], List.nodup_nil⟩

def insert (set : ConstraintSet) (constraint : Constraint) : ConstraintSet :=
  ⟨set.constraints.insert constraint, set.nodup.insert⟩

def new (constraints : List Constraint) : ConstraintSet := constraints.foldl insert default

def admits (set : ConstraintSet) (key : JsonWebKey P) : Bool :=
  set.constraints.all (fun constraint => constraint.decide key ≠ .negative)

theorem admits_iff {set : ConstraintSet} {key : JsonWebKey P} :
    set.admits key ↔ ∀ constraint ∈ set.constraints, constraint.decide key ≠ .negative := by
  simp [admits]

def score (set : ConstraintSet) (key : JsonWebKey P) : ℕ :=
  set.constraints.countP (fun constraint => constraint.decide key = .positive)

/-- The keys that pass, those with the lowest score first. -/
def filter (set : ConstraintSet) (keys : List (JsonWebKey P)) : List (JsonWebKey P) :=
  Ranking.byScore set.score (keys.filter (set.admits ·))

@[simp]
theorem mem_filter {set : ConstraintSet} {keys : List (JsonWebKey P)} {key : JsonWebKey P} :
    key ∈ set.filter keys ↔ key ∈ keys ∧ set.admits key := by
  rw [filter, Ranking.mem_byScore, List.mem_filter]

end ConstraintSet

/-- The order of the variants, and of the texts of unknown ones. -/
def JsonWebSignatureAlg.le (a b : JsonWebSignatureAlg) : Bool :=
  let variant := JsonWebSignatureAlg.all.idxOf
  ((compare (variant a) (variant b)).then (compare a.asStr b.asStr)).isLE

structure JsonWebKeySet (P : Type) where
  keys : List (JsonWebKey P)

abbrev PublicJsonWebKeySet := JsonWebKeySet JsonWebKeyPublicParameters

namespace JsonWebKeySet

variable {P : Type} [ParametersInfo P]

/-- Only keys whose metadata is consistent are looked at. -/
def findKeys (set : JsonWebKeySet P) (constraints : ConstraintSet) : List (JsonWebKey P) :=
  constraints.filter (set.keys.filter JsonWebKey.isValid)

/-- The last one found, which has the best score. -/
def findKey (set : JsonWebKeySet P) (constraints : ConstraintSet) : Option (JsonWebKey P) :=
  (set.findKeys constraints).getLast?

def signingConstraints (alg : JsonWebSignatureAlg) : ConstraintSet := .new [.alg alg, .use .sig]

def signingKeyForAlgorithm (set : JsonWebKeySet P) (alg : JsonWebSignatureAlg) :
    Option (JsonWebKey P) :=
  set.findKey (signingConstraints alg)

def keyAlgs (key : JsonWebKey P) : List JsonWebSignatureAlg :=
  key.alg.elim (ParametersInfo.possibleAlgs key.parameters) ([·])

def availableSigningAlgorithms (set : JsonWebKeySet P) : List JsonWebSignatureAlg :=
  let algs := (set.findKeys (ConstraintSet.default.insert (.use .sig))).flatMap keyAlgs
  (algs.insertionSort (JsonWebSignatureAlg.le · ·)).destutter (· ≠ ·)

end JsonWebKeySet

end Pasion

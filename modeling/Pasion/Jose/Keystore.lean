import Mathlib.Data.List.Destutter
import Pasion.Jose.Jwk

/-! The keystore: the algorithms it offers and the signer it picks for each. -/
namespace Pasion

/-- A private key of one of the supported kinds; its content is the encoded secret. -/
inductive PrivateKey where
  | rsa (secret : List UInt8)
  | ecP256 (secret : List UInt8)
  | ecP384 (secret : List UInt8)
  | ecP521 (secret : List UInt8)
  | ecK256 (secret : List UInt8)
  | okpEd25519 (secret : List UInt8)

inductive AsymmetricSigningKey where
  | rs256 (secret : List UInt8)
  | rs384 (secret : List UInt8)
  | rs512 (secret : List UInt8)
  | ps256 (secret : List UInt8)
  | ps384 (secret : List UInt8)
  | ps512 (secret : List UInt8)
  | es256 (secret : List UInt8)
  | es384 (secret : List UInt8)
  | es512 (secret : List UInt8)
  | es256K (secret : List UInt8)
  | edDsa (secret : List UInt8)
  deriving DecidableEq

namespace PrivateKey

def tryBuildSigner : PrivateKey → JsonWebSignatureAlg → Option AsymmetricSigningKey
  | rsa k, .rs256 => some (.rs256 k)
  | rsa k, .rs384 => some (.rs384 k)
  | rsa k, .rs512 => some (.rs512 k)
  | rsa k, .ps256 => some (.ps256 k)
  | rsa k, .ps384 => some (.ps384 k)
  | rsa k, .ps512 => some (.ps512 k)
  | ecP256 k, .es256 => some (.es256 k)
  | ecP384 k, .es384 => some (.es384 k)
  | ecP521 k, .es512 => some (.es512 k)
  | ecK256 k, .es256K => some (.es256K k)
  | okpEd25519 k, .edDsa => some (.edDsa k)
  | _, _ => none

instance : ParametersInfo PrivateKey where
  kty
    | rsa _ => .rsa
    | ecP256 _ | ecP384 _ | ecP521 _ | ecK256 _ => .ec
    | okpEd25519 _ => .okp
  possibleAlgs
    | rsa _ => rsaCompatibleAlgs
    | ecP256 _ => [.es256]
    | ecP384 _ => [.es384]
    | ecP521 _ => [.es512]
    | ecK256 _ => [.es256K]
    | okpEd25519 _ => [.edDsa]

/-- A signer can be built for the algorithms that the key lists. -/
theorem tryBuildSigner_isSome_iff {key : PrivateKey} {alg : JsonWebSignatureAlg} :
    (key.tryBuildSigner alg).isSome ↔ alg ∈ ParametersInfo.possibleAlgs key := by
  cases key <;> cases alg <;> simp [tryBuildSigner, ParametersInfo.possibleAlgs, rsaCompatibleAlgs]

end PrivateKey

/-- A signer is cached for the key that is chosen for its algorithm. -/
structure Keystore where
  inner : JsonWebKeySet PrivateKey
  signerCache : List ((String × JsonWebSignatureAlg) × AsymmetricSigningKey)
  cached : ∀ entry ∈ signerCache, ∃ key, inner.signingKeyForAlgorithm entry.1.2 = some key ∧
    key.kid = some entry.1.1 ∧ key.parameters.tryBuildSigner entry.1.2 = some entry.2

namespace Keystore

def new (keys : JsonWebKeySet PrivateKey) : Keystore := ⟨keys, [], by simp⟩

def cacheSigner (store : Keystore) (kid : String) (alg : JsonWebSignatureAlg)
    (signer : AsymmetricSigningKey)
    (h : ∃ key, store.inner.signingKeyForAlgorithm alg = some key ∧ key.kid = some kid ∧
      key.parameters.tryBuildSigner alg = some signer) : Keystore :=
  ⟨store.inner, ((kid, alg), signer) :: store.signerCache, by
    intro entry hentry
    obtain rfl | hentry := List.mem_cons.mp hentry
    · exact h
    · exact store.cached entry hentry⟩

/-- The signer and the keystore afterwards, with the signer in its cache. -/
def signerForAlgorithm (store : Keystore) (alg : JsonWebSignatureAlg) :
    Option (String × AsymmetricSigningKey) × Keystore :=
  match hkey : store.inner.signingKeyForAlgorithm alg with
  | none => (none, store)
  | some key =>
    match hkid : key.kid with
    | none => (none, store)
    | some kid =>
      match store.signerCache.find? (fun entry => entry.1 = (kid, alg)) with
      | some entry => (some (kid, entry.2), store)
      | none =>
        match hsigner : key.parameters.tryBuildSigner alg with
        | none => (none, store)
        | some signer =>
          (some (kid, signer), store.cacheSigner kid alg signer ⟨key, hkey, hkid, hsigner⟩)

variable {store : Keystore} {alg : JsonWebSignatureAlg}

/-- The cache makes no difference to the signer. -/
theorem signerForAlgorithm_eq_some_iff {kid : String} {signer : AsymmetricSigningKey} :
    (store.signerForAlgorithm alg).1 = some (kid, signer) ↔
      ∃ key, store.inner.signingKeyForAlgorithm alg = some key ∧ key.kid = some kid ∧
        key.parameters.tryBuildSigner alg = some signer := by
  unfold signerForAlgorithm
  split
  · next hkey => simp [hkey]
  · next key hkey =>
    have hchosen : (∃ chosen, store.inner.signingKeyForAlgorithm alg = some chosen ∧
        chosen.kid = some kid ∧ chosen.parameters.tryBuildSigner alg = some signer) ↔
        key.kid = some kid ∧ key.parameters.tryBuildSigner alg = some signer := by
      simp [hkey]
    rw [hchosen]
    split
    · next hkid => simp [hkid]
    · next kid' hkid =>
      split
      · next entry hentry =>
        have hmem := List.mem_of_find?_eq_some hentry
        have htest : entry.1 = (kid', alg) := by simpa using List.find?_some hentry
        obtain ⟨key', hkey', -, hsigner⟩ := store.cached entry hmem
        rw [htest] at hkey' hsigner
        rw [hkey] at hkey'
        cases hkey'
        simp [hkid, hsigner]
      · split
        · next hsigner => simp [hsigner]
        · next signer' hsigner => simp [hkid, hsigner]

end Keystore

namespace JsonWebKeySet

variable {P : Type} [ParametersInfo P] {set : JsonWebKeySet P} {alg : JsonWebSignatureAlg}
  {key : JsonWebKey P}

theorem admits_use_iff :
    (ConstraintSet.default.insert (.use .sig)).admits key ↔ ∀ use ∈ key.use, use = .sig := by
  rw [ConstraintSet.admits_iff, ← Constraint.use_ne_negative_iff]
  simp [ConstraintSet.insert, ConstraintSet.default]

/-- Signing takes the algorithm that a key declares or else one that its parameters allow. -/
theorem admits_signing_iff :
    (signingConstraints alg).admits key ↔ alg ∈ keyAlgs key ∧ ∀ use ∈ key.use, use = .sig := by
  have hconstraints : (signingConstraints alg).constraints = [.use .sig, .alg alg] := by
    simp [signingConstraints, ConstraintSet.new, ConstraintSet.insert, ConstraintSet.default]
  rw [ConstraintSet.admits_iff, hconstraints, ← Constraint.use_ne_negative_iff, keyAlgs,
    ← Constraint.alg_ne_negative_iff]
  simp [and_comm]

theorem mem_destutter'_ne {α : Type} [DecidableEq α] {a b : α} {l : List α} :
    b ∈ l.destutter' (· ≠ ·) a ↔ b ∈ a :: l := by
  induction l generalizing a with
  | nil => simp
  | cons c rest ih =>
    by_cases hac : a = c
    · rw [List.destutter'_cons_neg _ (by simpa using hac), ih, hac]
      simp
    · rw [List.destutter'_cons_pos _ hac, List.mem_cons, ih]
      simp

theorem mem_destutter_ne {α : Type} [DecidableEq α] {b : α} {l : List α} :
    b ∈ l.destutter (· ≠ ·) ↔ b ∈ l := by
  cases l with
  | nil => simp
  | cons a rest => exact mem_destutter'_ne

theorem mem_availableSigningAlgorithms : alg ∈ set.availableSigningAlgorithms ↔
    ∃ key ∈ set.keys, key.isValid ∧ (signingConstraints alg).admits key := by
  simp only [availableSigningAlgorithms, mem_destutter_ne, List.mem_insertionSort,
    List.mem_flatMap, findKeys, ConstraintSet.mem_filter, List.mem_filter, admits_use_iff,
    admits_signing_iff]
  constructor
  · rintro ⟨key, ⟨⟨hmem, hvalid⟩, huse⟩, halg⟩
    exact ⟨key, hmem, hvalid, halg, huse⟩
  · rintro ⟨key, hmem, hvalid, halg, huse⟩
    exact ⟨key, ⟨⟨hmem, hvalid⟩, huse⟩, halg⟩

/-- The chosen key is a valid one that passes, and none of these has a better score. -/
theorem signingKeyForAlgorithm_eq_some (h : set.signingKeyForAlgorithm alg = some key) :
    key ∈ set.keys ∧ key.isValid ∧ (signingConstraints alg).admits key ∧
      ∀ other ∈ set.keys, other.isValid → (signingConstraints alg).admits other →
        (signingConstraints alg).score other ≤ (signingConstraints alg).score key := by
  have hmem := List.mem_of_getLast? h
  obtain ⟨hkeys, hadmits⟩ := ConstraintSet.mem_filter.mp hmem
  obtain ⟨hkey, hvalid⟩ := List.mem_filter.mp hkeys
  refine ⟨hkey, hvalid, hadmits, ?_⟩
  intro other hother hvalid' hadmits'
  apply Ranking.le_of_getLast? _ h
  exact List.mem_filter.mpr ⟨List.mem_filter.mpr ⟨hother, hvalid'⟩, hadmits'⟩

theorem signingKeyForAlgorithm_isSome_iff : (set.signingKeyForAlgorithm alg).isSome ↔
    ∃ key ∈ set.keys, key.isValid ∧ (signingConstraints alg).admits key := by
  constructor
  · intro h
    obtain ⟨key, hkey⟩ := Option.isSome_iff_exists.mp h
    obtain ⟨hmem, hvalid, hadmits, -⟩ := signingKeyForAlgorithm_eq_some hkey
    exact ⟨key, hmem, hvalid, hadmits⟩
  · rintro ⟨key, hmem, hvalid, hadmits⟩
    have hfound : key ∈ set.findKeys (signingConstraints alg) :=
      ConstraintSet.mem_filter.mpr ⟨List.mem_filter.mpr ⟨hmem, hvalid⟩, hadmits⟩
    unfold signingKeyForAlgorithm findKey
    rw [List.getLast?_isSome]
    exact List.ne_nil_of_mem hfound

/-- The parameters of a valid key that passes allow the algorithm. -/
theorem mem_possibleAlgs_of_admits (hvalid : key.isValid)
    (hadmits : (signingConstraints alg).admits key) :
    alg ∈ ParametersInfo.possibleAlgs key.parameters := by
  have halg := (admits_signing_iff.mp hadmits).1
  unfold keyAlgs at halg
  cases hdeclared : key.alg with
  | none =>
    rw [hdeclared] at halg
    exact halg
  | some declared =>
    rw [hdeclared] at halg
    rw [List.mem_singleton.mp halg]
    exact JsonWebKey.mem_possibleAlgs_of_isValid hvalid hdeclared

end JsonWebKeySet

namespace Keystore

/-- The algorithms on offer have a signer, whose key has the best score that passes. -/
theorem available_iff_signer (store : Keystore) (hkids : ∀ key ∈ store.inner.keys, key.kid.isSome)
    (alg : JsonWebSignatureAlg) :
    (alg ∈ store.inner.availableSigningAlgorithms ↔ (store.signerForAlgorithm alg).1.isSome) ∧
    ∀ kid signer, (store.signerForAlgorithm alg).1 = some (kid, signer) →
      ∃ key ∈ store.inner.keys, key.kid = some kid ∧
        key.parameters.tryBuildSigner alg = some signer ∧ key.isValid ∧
        (JsonWebKeySet.signingConstraints alg).admits key ∧
        ∀ other ∈ store.inner.keys, other.isValid →
          (JsonWebKeySet.signingConstraints alg).admits other →
          (JsonWebKeySet.signingConstraints alg).score other ≤
            (JsonWebKeySet.signingConstraints alg).score key := by
  constructor
  · rw [JsonWebKeySet.mem_availableSigningAlgorithms,
      ← JsonWebKeySet.signingKeyForAlgorithm_isSome_iff]
    constructor
    · intro hsome
      obtain ⟨key, hkey⟩ := Option.isSome_iff_exists.mp hsome
      obtain ⟨hmem, hvalid, hadmits, -⟩ := JsonWebKeySet.signingKeyForAlgorithm_eq_some hkey
      obtain ⟨kid, hkid⟩ := Option.isSome_iff_exists.mp (hkids key hmem)
      have hpossible := JsonWebKeySet.mem_possibleAlgs_of_admits hvalid hadmits
      obtain ⟨signer, hsigner⟩ :=
        Option.isSome_iff_exists.mp (PrivateKey.tryBuildSigner_isSome_iff.mpr hpossible)
      rw [signerForAlgorithm_eq_some_iff.mpr ⟨key, hkey, hkid, hsigner⟩]
      rfl
    · intro hsome
      obtain ⟨⟨kid, signer⟩, hsigner⟩ := Option.isSome_iff_exists.mp hsome
      obtain ⟨key, hkey, -⟩ := signerForAlgorithm_eq_some_iff.mp hsigner
      rw [hkey]
      rfl
  · intro kid signer hsigner
    obtain ⟨key, hkey, hkid, hbuild⟩ := signerForAlgorithm_eq_some_iff.mp hsigner
    obtain ⟨hmem, hvalid, hadmits, hbest⟩ := JsonWebKeySet.signingKeyForAlgorithm_eq_some hkey
    exact ⟨key, hmem, hkid, hbuild, hvalid, hadmits, hbest⟩

def plainKey : JsonWebKey PrivateKey := ⟨.rsa [2], none, none, none, some "plain"⟩

def contradictoryKey : JsonWebKey PrivateKey :=
  ⟨.rsa [1], some .sig, some [.encrypt], some .rs256, some "contradictory"⟩

/-- A key for just this algorithm. -/
def namedKey : JsonWebKey PrivateKey := ⟨.rsa [3], some .sig, none, some .rs256, some "named"⟩

def encryptingKey : JsonWebKey PrivateKey := ⟨.rsa [4], some .enc, none, none, some "encrypting"⟩

theorem named_key_signs :
    let store := new ⟨[plainKey, encryptingKey, namedKey]⟩
    (.rs256 ∈ store.inner.availableSigningAlgorithms ∧
      (store.signerForAlgorithm .rs256).1 = some ("named", .rs256 [3])) ∧
    .rs384 ∈ store.inner.availableSigningAlgorithms ∧
      (store.signerForAlgorithm .rs384).1 = some ("plain", .rs384 [2]) := by
  intro store
  have hkids : ∀ key ∈ store.inner.keys, key.kid.isSome := by decide +kernel
  have hsigner : (store.signerForAlgorithm .rs256).1 = some ("named", .rs256 [3]) := by
    decide +kernel
  have hother : (store.signerForAlgorithm .rs384).1 = some ("plain", .rs384 [2]) := by
    decide +kernel
  refine ⟨⟨(available_iff_signer store hkids .rs256).1.mpr ?_, hsigner⟩,
    (available_iff_signer store hkids .rs384).1.mpr ?_, hother⟩
  · rw [hsigner]
    rfl
  · rw [hother]
    rfl

/-- A key with contradictory metadata passes the constraints better than the key that signs. -/
theorem contradictory_key_passed_over :
    let store := new ⟨[contradictoryKey, plainKey]⟩
    (∀ key ∈ store.inner.keys, key.kid.isSome) ∧
      (store.signerForAlgorithm .rs256).1 = some ("plain", .rs256 [2]) ∧
      ¬∃ key ∈ store.inner.keys, key.kid = some "plain" ∧
        (JsonWebKeySet.signingConstraints .rs256).admits key ∧
        ∀ other ∈ store.inner.keys, (JsonWebKeySet.signingConstraints .rs256).admits other →
          (JsonWebKeySet.signingConstraints .rs256).score other ≤
            (JsonWebKeySet.signingConstraints .rs256).score key := by
  intro store
  refine ⟨by decide +kernel, by decide +kernel, ?_⟩
  rintro ⟨key, hmem, hkid, -, hbest⟩
  have hkey : key = plainKey := by
    obtain rfl | hmem := List.mem_cons.mp hmem
    · simp [contradictoryKey] at hkid
    · exact List.mem_singleton.mp hmem
  have hle := hbest contradictoryKey List.mem_cons_self (by decide +kernel)
  rw [hkey] at hle
  exact absurd hle (by decide +kernel)

end Keystore

end Pasion

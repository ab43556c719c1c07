import Pasion.Data.Tokens
import Pasion.Jose.Claims
import Pasion.Jose.Keystore

/-! ID tokens: how they are issued, and how a client of an issuer verifies them. -/
namespace Pasion

structure KeyPairs where
  rsa : List UInt8 → RsaPublicParameters
  ec : JsonWebKeyEcEllipticCurve → List UInt8 → List UInt8 × List UInt8
  okp : List UInt8 → List UInt8

namespace KeyPairs

variable (pairs : KeyPairs)

def ecParameters (crv : JsonWebKeyEcEllipticCurve) (secret : List UInt8) : EcPublicParameters :=
  ⟨crv, (pairs.ec crv secret).1, (pairs.ec crv secret).2⟩

def publicParameters : PrivateKey → JsonWebKeyPublicParameters
  | .rsa k => .rsa (pairs.rsa k)
  | .ecP256 k => .ec (pairs.ecParameters .p256 k)
  | .ecP384 k => .ec (pairs.ecParameters .p384 k)
  | .ecP521 k => .ec (pairs.ecParameters .p521 k)
  | .ecK256 k => .ec (pairs.ecParameters .secp256K1 k)
  | .okpEd25519 k => .okp ⟨.ed25519, pairs.okp k⟩

def verifyingKey : AsymmetricSigningKey → AsymmetricVerifyingKey
  | .rs256 k => .rs256 (pairs.rsa k)
  | .rs384 k => .rs384 (pairs.rsa k)
  | .rs512 k => .rs512 (pairs.rsa k)
  | .ps256 k => .ps256 (pairs.rsa k)
  | .ps384 k => .ps384 (pairs.rsa k)
  | .ps512 k => .ps512 (pairs.rsa k)
  | .es256 k => .es256 (pairs.ecParameters .p256 k)
  | .es384 k => .es384 (pairs.ecParameters .p384 k)
  | .es512 k => .es512 (pairs.ecParameters .p521 k)
  | .es256K k => .es256K (pairs.ecParameters .secp256K1 k)
  | .edDsa k => .edDsa ⟨.ed25519, pairs.okp k⟩

variable {pairs}

theorem forAlg_publicParameters {key : PrivateKey} {alg : JsonWebSignatureAlg}
    {signer : AsymmetricSigningKey} (h : key.tryBuildSigner alg = some signer) :
    AsymmetricVerifyingKey.forAlg (pairs.publicParameters key) alg =
      some (pairs.verifyingKey signer) := by
  cases key <;> cases alg <;> cases h <;> rfl

theorem possibleAlgs_publicParameters (key : PrivateKey) :
    ParametersInfo.possibleAlgs (pairs.publicParameters key) = ParametersInfo.possibleAlgs key := by
  cases key <;> rfl

end KeyPairs

def Keystore.publicJwks (pairs : KeyPairs) (store : Keystore) : PublicJsonWebKeySet :=
  ⟨store.inner.keys.map (·.clonedMap pairs.publicParameters)⟩

/-- The libraries that signing, verifying and serialising rest on. -/
structure TokenLibraries where
  scheme : SignatureScheme
  pairs : KeyPairs
  sign : AsymmetricSigningKey → List UInt8 → Option (List UInt8)
  digests : Digests
  headers : JsonCodec JsonWebSignatureHeader
  payloads : JsonCodec ClaimsMap

/-- Idealised signatures: public parameters are accepted, and what was signed verifies. -/
structure TokenLibraries.Ideal (x : TokenLibraries) : Prop where
  parses : ∀ key, x.scheme.parses (x.pairs.publicParameters key)
  verifies : ∀ signer message signature, x.sign signer message = some signature →
    x.scheme.verify (x.pairs.verifyingKey signer) message signature

inductive IdTokenSignatureError where
  | invalidSigningKey
  | jwtSignature (e : JwtSignatureError)
  | tokenHash (e : TokenHashError)

def idTokenAlg (client : RegisteredClient) : JsonWebSignatureAlg :=
  client.idTokenSignedResponseAlg.getD .rs256

def oneHour : Duration := 60 * 60 * 1000000

def basicClaims (issuer : String) (now : Time) (client : RegisteredClient)
    (grant : Option AuthorizationGrant) (browserSession : BrowserSession)
    (lastAuthentication : Option Authentication) : ClaimsMap :=
  let claims := Claim.iss.insert .empty issuer
  let claims := Claim.sub.insert claims browserSession.user.sub
  let claims := Claim.aud.insert claims [client.clientId]
  let claims := Claim.iat.insert claims now
  let claims := Claim.exp.insert claims (now + oneHour)
  let claims := Claim.nonce.insertOption claims (grant.bind (·.nonce))
  Claim.authTime.insertOption claims (lastAuthentication.map (·.createdAt))

def hashOption (digests : Digests) (alg : JsonWebSignatureAlg) (token : Option String) :
    Except IdTokenSignatureError (Option String) :=
  match token with
  | none => .ok none
  | some token => ((hashToken digests alg token).map some).mapError .tokenHash

def generateIdToken (x : TokenLibraries) (issuer : String) (now : Time) (keyStore : Keystore)
    (client : RegisteredClient) (grant : Option AuthorizationGrant)
    (browserSession : BrowserSession) (accessToken : Option AccessToken)
    (lastAuthentication : Option Authentication) : Except IdTokenSignatureError String := do
  let claims := basicClaims issuer now client grant browserSession lastAuthentication
  let alg := idTokenAlg client
  let (kid, signer) ← (keyStore.signerForAlgorithm alg).1.elim (.error .invalidSigningKey) .ok
  let atHash ← hashOption x.digests alg (accessToken.map (·.accessToken))
  let claims := Claim.atHash.insertOption claims atHash
  let cHash ← hashOption x.digests alg ((grant.bind (·.code)).map (·.code))
  let claims := Claim.cHash.insertOption claims cHash
  let header := (JsonWebSignatureHeader.new alg).withKid kid
  let idToken ← (Jwt.signWithRng x.headers x.payloads (x.sign signer) header claims).mapError
    .jwtSignature
  .ok idToken.raw.inner

inductive JwtVerificationError where
  | jwtDecode (e : JwtDecodeError)
  | jwtSignature (e : NoKeyWorked)
  | claim (e : ClaimError)
  | wrongSignatureAlg

inductive IdTokenError where
  | jwt (e : JwtVerificationError)
  | claim (e : ClaimError)
  | wrongSubjectIdentifier
  | wrongAuthTime

structure JwtVerificationData where
  issuer : Option String
  jwks : PublicJsonWebKeySet
  clientId : String
  signingAlgorithm : JsonWebSignatureAlg

def verifySignedJwt (x : TokenLibraries) (jwt : String) (data : JwtVerificationData) :
    Except JwtVerificationError (Jwt ClaimsMap) := do
  let jwt ← (Jwt.tryFrom x.headers x.payloads jwt).mapError .jwtDecode
  (jwt.verifyWithJwks x.scheme data.jwks).mapError .jwtSignature
  let claims ← match data.issuer with
    | none => .ok jwt.payload
    | some issuer =>
      ((Claim.iss.extractRequiredWithOptions jwt.payload (· = issuer)).mapError .claim).map (·.2)
  let _ ← (Claim.aud.extractRequiredWithOptions claims (data.clientId ∈ ·)).mapError .claim
  if jwt.header.alg ≠ data.signingAlgorithm then .error .wrongSignatureAlg else .ok jwt

/-- A previous token of the same session must agree on the subject and the time. -/
def checkAuthIdToken (sub : String) (claims : ClaimsMap) (authIdToken : Jwt ClaimsMap) :
    Except IdTokenError Unit := do
  let (authSub, authClaims) ← (Claim.sub.extractRequired authIdToken.payload).mapError .claim
  if sub ≠ authSub then .error .wrongSubjectIdentifier
  let (authTime, _) ← (Claim.authTime.extractOptional claims).mapError .claim
  match authTime with
  | none => .ok ()
  | some authTime => do
    let (prevAuthTime, _) ← (Claim.authTime.extractRequired authClaims).mapError .claim
    if prevAuthTime ≠ authTime then .error .wrongAuthTime

def verifyIdToken (x : TokenLibraries) (idToken : String) (data : JwtVerificationData)
    (authIdToken : Option (Jwt ClaimsMap)) (now : Time) : Except IdTokenError (Jwt ClaimsMap) := do
  let idToken ← (verifySignedJwt x idToken data).mapError .jwt
  let options := TimeOptions.new now
  let (_, claims) ←
    (Claim.exp.extractRequiredWithOptions idToken.payload (timeNotAfter options)).mapError .claim
  let (_, claims) ←
    (Claim.iat.extractRequiredWithOptions claims (timeNotBefore options)).mapError .claim
  let (sub, claims) ← (Claim.sub.extractRequired claims).mapError .claim
  authIdToken.elim (.ok ()) (checkAuthIdToken sub claims)
  .ok idToken

/-- The checks against the access token, the code and the nonce. -/
def checkExchangedClaims (x : TokenLibraries) (alg : JsonWebSignatureAlg) (accessToken : String)
    (code : String) (nonce : Option String) (claims : ClaimsMap) : Except IdTokenError Unit := do
  let (_, claims) ← (Claim.atHash.extractOptionalWithOptions claims
    (tokenHash x.digests alg accessToken)).mapError .claim
  let (_, claims) ← (Claim.cHash.extractOptionalWithOptions claims
    (tokenHash x.digests alg code)).mapError .claim
  match nonce with
  | none => .ok ()
  | some nonce => do
    let _ ← (Claim.nonce.extractRequiredWithOptions claims (· = nonce)).mapError .claim

section Claims

variable (issuer : String) (now : Time) (client : RegisteredClient)
  (grant : Option AuthorizationGrant) (browserSession : BrowserSession)
  (lastAuthentication : Option Authentication) (atHash cHash : Option String)

def idTokenClaims : ClaimsMap := Claim.cHash.insertOption (Claim.atHash.insertOption
    (basicClaims issuer now client grant browserSession lastAuthentication) atHash) cHash

/-- A time is read back as the start of its second. -/
def startOfSecond (t : Time) : Time := t / 1000000 * 1000000

theorem fromValue_ofTimestamp (key : String) (t : Time) :
    (Claim.ofTimestamp key).fromValue ((Claim.ofTimestamp key).toValue t) =
      some (startOfSecond t) := by
  simp [Claim.ofTimestamp, startOfSecond]

theorem holds_idTokenClaims :
    let claims :=
      idTokenClaims issuer now client grant browserSession lastAuthentication atHash cHash
    (Claim.iss.Holds claims issuer ∧ Claim.sub.Holds claims browserSession.user.sub ∧
      Claim.aud.Holds claims [client.clientId] ∧ Claim.iat.Holds claims (startOfSecond now) ∧
      Claim.exp.Holds claims (startOfSecond (now + oneHour))) ∧
    Relational.Table.get? claims "nonce" = (grant.bind (·.nonce)).map .string ∧
      Relational.Table.get? claims "at_hash" = atHash.map .string ∧
      Relational.Table.get? claims "c_hash" = cHash.map .string := by
  intro claims
  refine ⟨⟨⟨.string issuer, ?_, rfl⟩, ⟨.string browserSession.user.sub, ?_, rfl⟩,
    ⟨.string client.clientId, ?_, rfl⟩, ⟨_, ?_, fromValue_ofTimestamp "iat" now⟩,
    ⟨_, ?_, fromValue_ofTimestamp "exp" (now + oneHour)⟩⟩, ?_, ?_, ?_⟩
  all_goals
    simp [claims, idTokenClaims, basicClaims, Claim.get?_insert, Claim.get?_insertOption,
      Claim.iss, Claim.sub, Claim.aud, Claim.iat, Claim.exp, Claim.nonce, Claim.authTime,
      Claim.atHash, Claim.cHash, Claim.ofString, Claim.ofOneOrMany, Claim.ofTimestamp]

end Claims

section Issue

variable {x : TokenLibraries} {issuer : String} {now : Time} {keyStore : Keystore}
  {client : RegisteredClient} {grant : Option AuthorizationGrant} {browserSession : BrowserSession}
  {accessToken : Option AccessToken} {lastAuthentication : Option Authentication} {token : String}
variable {jwt : Jwt ClaimsMap} {digests : Digests} {alg : JsonWebSignatureAlg} {text : String}
  {hash : Option String}

/-- What a token is made of: the signer of the algorithm of the client, and the hashes. -/
structure Issued (x : TokenLibraries) (issuer : String) (now : Time) (keyStore : Keystore)
    (client : RegisteredClient) (grant : Option AuthorizationGrant)
    (browserSession : BrowserSession) (accessToken : Option AccessToken)
    (lastAuthentication : Option Authentication) (jwt : Jwt ClaimsMap) : Prop where
  signed : ∃ key kid signer atHash cHash,
    keyStore.inner.signingKeyForAlgorithm (idTokenAlg client) = some key ∧
    key.kid = some kid ∧ key.parameters.tryBuildSigner (idTokenAlg client) = some signer ∧
    hashOption x.digests (idTokenAlg client) (accessToken.map (·.accessToken)) = .ok atHash ∧
    hashOption x.digests (idTokenAlg client) ((grant.bind (·.code)).map (·.code)) = .ok cHash ∧
    Jwt.signWithRng x.headers x.payloads (x.sign signer)
      ((JsonWebSignatureHeader.new (idTokenAlg client)).withKid kid)
      (idTokenClaims issuer now client grant browserSession lastAuthentication atHash cHash) =
      .ok jwt

theorem issued_of_generateIdToken
    (h : generateIdToken x issuer now keyStore client grant browserSession accessToken
      lastAuthentication = .ok token) :
    ∃ jwt, Issued x issuer now keyStore client grant browserSession accessToken
      lastAuthentication jwt ∧ token = jwt.raw.inner := by
  unfold generateIdToken at h
  obtain ⟨⟨kid, signer⟩, hsigner, h⟩ := Fallible.bind_eq_ok_iff.mp h
  obtain ⟨atHash, hat, h⟩ := Fallible.bind_eq_ok_iff.mp h
  obtain ⟨cHash, hc, h⟩ := Fallible.bind_eq_ok_iff.mp h
  obtain ⟨jwt, hsign, h⟩ := Fallible.bind_eq_ok_iff.mp h
  obtain ⟨key, hkey, hkid, hbuild⟩ :=
    Keystore.signerForAlgorithm_eq_some_iff.mp (Fallible.elim_eq_ok_iff.mp hsigner)
  cases h
  exact ⟨jwt, ⟨key, kid, signer, atHash, cHash, hkey, hkid, hbuild, hat, hc,
    Fallible.mapError_eq_ok_iff.mp hsign⟩, rfl⟩

theorem verifyWithJwks_of_issued (hideal : x.Ideal)
    (h : Issued x issuer now keyStore client grant browserSession accessToken lastAuthentication
      jwt) : jwt.verifyWithJwks x.scheme (keyStore.publicJwks x.pairs) = .ok () := by
  obtain ⟨key, kid, signer, atHash, cHash, hkey, hkid, hbuild, -, -, hsign⟩ := h.signed
  obtain ⟨-, hheader, -, -, hsignature⟩ := Jwt.tryFrom_of_sign hsign
  obtain ⟨hmem, hvalid, hadmits, -⟩ := JsonWebKeySet.signingKeyForAlgorithm_eq_some hkey
  have halg := (JsonWebKeySet.admits_signing_iff.mp hadmits).1
  apply Jwt.verifyWithJwks_of_mem (List.mem_map.mpr ⟨key, hmem, rfl⟩)
  · rw [hheader, ConstraintSet.admits_iff]
    have hconstraints : (ConstraintSet.ofHeader
        ((JsonWebSignatureHeader.new (idTokenAlg client)).withKid kid)).constraints =
        [.kid kid, .alg (idTokenAlg client)] := by
      simp [ConstraintSet.ofHeader, JsonWebSignatureHeader.withKid, JsonWebSignatureHeader.new,
        ConstraintSet.insert, ConstraintSet.default]
    intro constraint hconstraint
    rw [hconstraints, List.mem_cons, List.mem_singleton] at hconstraint
    obtain rfl | rfl := hconstraint
    · rw [Constraint.kid_ne_negative_iff]
      intro declared hdeclared
      exact Option.some.inj (hdeclared.symm.trans hkid)
    · rw [Constraint.alg_ne_negative_iff]
      change idTokenAlg client ∈ key.alg.elim
        (ParametersInfo.possibleAlgs (x.pairs.publicParameters key.parameters)) ([·])
      rw [KeyPairs.possibleAlgs_publicParameters]
      exact halg
  · have hfrom : AsymmetricVerifyingKey.fromJwkAndAlg x.scheme
        (x.pairs.publicParameters key.parameters) (idTokenAlg client) =
        .ok (x.pairs.verifyingKey signer) := by
      unfold AsymmetricVerifyingKey.fromJwkAndAlg
      rw [KeyPairs.forAlg_publicParameters hbuild]
      dsimp only
      rw [if_pos (hideal.parses _)]
    unfold Jwt.verifiesUnder
    rw [hheader]
    erw [hfrom]
    exact hideal.verifies signer _ _ hsignature

theorem tokenHash_of_hashOption (h : hashOption digests alg (some text) = .ok hash) :
    ∃ stored, hash = some stored ∧ tokenHash digests alg text stored := by
  unfold hashOption at h
  dsimp only at h
  cases hhash : hashToken digests alg text with
  | error e => rw [hhash] at h; cases h
  | ok stored =>
    rw [hhash] at h
    cases h
    exact ⟨stored, rfl, by simp [tokenHash, hhash]⟩

theorem verifySignedJwt_of_issued (hideal : x.Ideal)
    (h : Issued x issuer now keyStore client grant browserSession accessToken lastAuthentication
      jwt) :
    verifySignedJwt x jwt.raw.inner
      ⟨some issuer, keyStore.publicJwks x.pairs, client.clientId, idTokenAlg client⟩ = .ok jwt := by
  have hverify := verifyWithJwks_of_issued hideal h
  obtain ⟨key, kid, signer, atHash, cHash, -, -, -, -, -, hsign⟩ := h.signed
  obtain ⟨hdecode, hheader, hpayload, -, -⟩ := Jwt.tryFrom_of_sign hsign
  obtain ⟨⟨hiss, -, haud, -, -⟩, -⟩ := holds_idTokenClaims issuer now client grant
    browserSession lastAuthentication atHash cHash
  rw [← hpayload] at hiss haud
  have hiss' := Claim.extractRequired_of_holds (· = issuer) hiss (by simp)
  have haud' := Claim.extractRequired_of_holds (client.clientId ∈ ·)
    (haud.congr (Claim.get?_remove_of_ne Claim.iss (by decide))) (by simp)
  unfold verifySignedJwt
  rw [hdecode]
  simp only [Except.mapError, bind, Except.bind, hverify, hiss', haud', Except.map, hheader]
  simp [JsonWebSignatureHeader.withKid, JsonWebSignatureHeader.new]

/-- The time checks of a token pass from its issue up to its expiry. -/
theorem verifyIdToken_of_issued (hideal : x.Ideal)
    (h : Issued x issuer now keyStore client grant browserSession accessToken lastAuthentication
      jwt) {whenTime : Time} (hfrom : now ≤ whenTime)
    (hto : whenTime ≤ startOfSecond (now + oneHour)) :
    verifyIdToken x jwt.raw.inner
      ⟨some issuer, keyStore.publicJwks x.pairs, client.clientId, idTokenAlg client⟩ none
      whenTime = .ok jwt := by
  have hsigned := verifySignedJwt_of_issued hideal h
  obtain ⟨key, kid, signer, atHash, cHash, -, -, -, -, -, hsign⟩ := h.signed
  obtain ⟨-, -, hpayload, -, -⟩ := Jwt.tryFrom_of_sign hsign
  obtain ⟨⟨-, hsub, -, hiat, hexp⟩, -⟩ := holds_idTokenClaims issuer now client grant
    browserSession lastAuthentication atHash cHash
  rw [← hpayload] at hsub hiat hexp
  have hnotAfter : timeNotAfter (.new whenTime) (startOfSecond (now + oneHour)) := by
    have hle : ∀ a b : ℤ, a ≤ b → a ≤ b + 5 * 60 * 1000000 := by
      intro a b h
      omega
    exact decide_eq_true (hle _ _ hto)
  have hnotBefore : timeNotBefore (.new whenTime) (startOfSecond now) := by
    have hle : ∀ a b : ℤ, a ≤ b → a / 1000000 * 1000000 - 5 * 60 * 1000000 ≤ b := by
      intro a b h
      omega
    exact decide_eq_true (hle _ _ hfrom)
  have hexp' := Claim.extractRequired_of_holds _ hexp hnotAfter
  have hiat' := Claim.extractRequired_of_holds _
    (hiat.congr (Claim.get?_remove_of_ne Claim.exp (by decide))) hnotBefore
  have hsub' := Claim.extractRequired_of_holds (fun _ => true)
    ((hsub.congr (Claim.get?_remove_of_ne Claim.exp (by decide))).congr
      (Claim.get?_remove_of_ne Claim.iat (by decide))) rfl
  unfold verifyIdToken Claim.extractRequired
  rw [hsigned]
  simp only [Except.mapError, bind, Except.bind, hexp', hiat', hsub']
  rfl

/-- With a token there is a hash claim, which agrees with it. -/
theorem holds_hash {token : Option String} {claims : ClaimsMap} (claim : Claim String)
    (hread : claim.fromValue = Json.Value.asStr)
    (hhash : hashOption digests alg token = .ok hash) (htoken : token = some text)
    (hget : Relational.Table.get? claims claim.key = hash.map .string) :
    ∃ value, claim.Holds claims value ∧ tokenHash digests alg text value := by
  subst htoken
  obtain ⟨stored, rfl, hvalid⟩ := tokenHash_of_hashOption hhash
  exact ⟨stored, ⟨.string stored, hget, by rw [hread]; rfl⟩, hvalid⟩

theorem absent_or_valid {token : Option String} {claims : ClaimsMap} (claim : Claim String)
    (hread : claim.fromValue = Json.Value.asStr)
    (hhash : hashOption digests alg token = .ok hash) (htext : ∀ t ∈ token, t = text)
    (hget : Relational.Table.get? claims claim.key = hash.map .string) :
    Relational.Table.get? claims claim.key = none ∨
      ∃ value, claim.Holds claims value ∧ tokenHash digests alg text value := by
  cases token with
  | none =>
    cases hhash
    exact Or.inl hget
  | some t =>
    exact Or.inr (holds_hash claim hread hhash (by rw [htext t rfl]) hget)

theorem checkExchangedClaims_of_issued
    (h : Issued x issuer now keyStore client grant browserSession accessToken lastAuthentication
      jwt) {code : String} (htext : ∀ token ∈ accessToken, token.accessToken = text)
    (hcode : ∀ issued ∈ grant.bind (·.code), issued.code = code) :
    checkExchangedClaims x (idTokenAlg client) text code (grant.bind (·.nonce)) jwt.payload =
      .ok () := by
  obtain ⟨key, kid, signer, atHash, cHash, -, -, -, hat, hc, hsign⟩ := h.signed
  obtain ⟨-, -, hpayload, -, -⟩ := Jwt.tryFrom_of_sign hsign
  obtain ⟨-, hnonce, hatHash, hcHash⟩ := holds_idTokenClaims issuer now client grant
    browserSession lastAuthentication atHash cHash
  rw [← hpayload] at hnonce hatHash hcHash
  have htexts : ∀ t ∈ accessToken.map (·.accessToken), t = text := by
    intro t ht
    obtain ⟨token, htoken, rfl⟩ := Option.map_eq_some_iff.mp ht
    exact htext token htoken
  have hcodes : ∀ t ∈ (grant.bind (·.code)).map (·.code), t = code := by
    intro t ht
    obtain ⟨issued, hissued, rfl⟩ := Option.map_eq_some_iff.mp ht
    exact hcode issued hissued
  obtain ⟨_, rest, hextract, hrest⟩ := Claim.extractOptional_ok
    (absent_or_valid Claim.atHash rfl hat htexts hatHash)
  have hcHash' := (hrest "c_hash" (by decide)).trans hcHash
  have hnonce' := (hrest "nonce" (by decide)).trans hnonce
  obtain ⟨_, rest', hextract', hothers⟩ := Claim.extractOptional_ok
    (absent_or_valid Claim.cHash rfl hc hcodes hcHash')
  have hnonceLeft := (hothers "nonce" (by decide)).trans hnonce'
  unfold checkExchangedClaims
  simp only [Except.mapError, bind, Except.bind, hextract, hextract']
  cases hgrant : grant.bind (·.nonce) with
  | none => rfl
  | some nonce =>
    rw [hgrant] at hnonceLeft
    have hholds : Claim.nonce.Holds rest' nonce := ⟨.string nonce, hnonceLeft, rfl⟩
    have hextractNonce := Claim.extractRequired_of_holds (· = nonce) hholds (by simp)
    simp only [hextractNonce]
    rfl

theorem holds_hashes_of_issued
    (h : Issued x issuer now keyStore client grant browserSession accessToken lastAuthentication
      jwt) :
    (∀ token ∈ accessToken, ∃ hash, Claim.atHash.Holds jwt.payload hash ∧
      tokenHash x.digests (idTokenAlg client) token.accessToken hash) ∧
    ∀ code ∈ grant.bind (·.code), ∃ hash, Claim.cHash.Holds jwt.payload hash ∧
      tokenHash x.digests (idTokenAlg client) code.code hash := by
  obtain ⟨key, kid, signer, atHash, cHash, -, -, -, hat, hc, hsign⟩ := h.signed
  obtain ⟨-, -, hpayload, -, -⟩ := Jwt.tryFrom_of_sign hsign
  obtain ⟨-, -, hatHash, hcHash⟩ := holds_idTokenClaims issuer now client grant browserSession
    lastAuthentication atHash cHash
  rw [← hpayload] at hatHash hcHash
  constructor
  · intro token htoken
    exact holds_hash Claim.atHash rfl hat (by rw [htoken]; rfl) hatHash
  · intro code hcode
    exact holds_hash Claim.cHash rfl hc (by rw [hcode]; rfl) hcHash

end Issue

/-- A token is accepted from its issue until it expires, and its claims agree with the grant. -/
theorem issued_id_token_accepted (x : TokenLibraries) (hideal : x.Ideal) (issuer : String)
    (now : Time) (keyStore : Keystore) (client : RegisteredClient)
    (grant : Option AuthorizationGrant) (browserSession : BrowserSession)
    (accessToken : Option AccessToken) (lastAuthentication : Option Authentication) (token : String)
    (h : generateIdToken x issuer now keyStore client grant browserSession accessToken
      lastAuthentication = .ok token) :
    ∃ idToken expiry, Claim.exp.Holds idToken.payload expiry ∧ now ≤ expiry ∧
      (∀ whenTime, now ≤ whenTime → whenTime ≤ expiry → verifyIdToken x token
          ⟨some issuer, keyStore.publicJwks x.pairs, client.clientId, idTokenAlg client⟩ none
          whenTime = .ok idToken) ∧
      (∀ text code, (∀ t ∈ accessToken, t.accessToken = text) →
        (∀ c ∈ grant.bind (·.code), c.code = code) →
        checkExchangedClaims x (idTokenAlg client) text code (grant.bind (·.nonce))
          idToken.payload = .ok ()) ∧
      (∀ t ∈ accessToken, ∃ hash, Claim.atHash.Holds idToken.payload hash ∧
        tokenHash x.digests (idTokenAlg client) t.accessToken hash) ∧
      ∀ c ∈ grant.bind (·.code), ∃ hash, Claim.cHash.Holds idToken.payload hash ∧
        tokenHash x.digests (idTokenAlg client) c.code hash := by
  obtain ⟨jwt, hissued, rfl⟩ := issued_of_generateIdToken h
  have hhashes := holds_hashes_of_issued hissued
  have hexp : Claim.exp.Holds jwt.payload (startOfSecond (now + oneHour)) := by
    obtain ⟨key, kid, signer, atHash, cHash, -, -, -, -, -, hsign⟩ := hissued.signed
    obtain ⟨-, -, hpayload, -, -⟩ := Jwt.tryFrom_of_sign hsign
    rw [hpayload]
    exact (holds_idTokenClaims issuer now client grant browserSession lastAuthentication atHash
      cHash).1.2.2.2.2
  have hnow : ∀ t : ℤ, t ≤ (t + 60 * 60 * 1000000) / 1000000 * 1000000 := by
    intro t
    omega
  refine ⟨jwt, startOfSecond (now + oneHour), hexp, hnow now, ?_, ?_, hhashes.1, hhashes.2⟩
  · intro whenTime hfrom hto
    exact verifyIdToken_of_issued hideal hissued hfrom hto
  · intro text code htext hcode
    exact checkExchangedClaims_of_issued hissued htext hcode

section Example

def exampleClient : RegisteredClient :=
  { id := 3, clientId := Ulid.toString 3, grantTypes := [.authorizationCode],
    userinfoSignedResponseAlg := none, metadataDigest := none, encryptedClientSecret := none,
    applicationType := none, redirectUris := [], clientName := none, logoUri := none,
    clientUri := none, policyUri := none, tosUri := none, localizedMetadata := .default,
    jwks := none, idTokenSignedResponseAlg := none, tokenEndpointAuthMethod := none,
    tokenEndpointAuthSigningAlg := none, initiateLoginUri := none }

def exampleSession : BrowserSession :=
  ⟨5, ⟨4, "alice", 0, 0, none, none, false, false, none, none, none⟩, 0, none, none, none, none⟩

def exampleGrant : AuthorizationGrant :=
  ⟨6, .exchanged 7 0 0, some ⟨"code", none⟩, 3, "https://client.example.org/", ⟨.empty⟩, none,
    some "nonce", "query", false, 0, none, none⟩

def exampleAccessToken : AccessToken := ⟨8, .valid, 7, "token", 0, none, none⟩

def exampleDigests : Digests := fun _ bytes => bytes

/-- The hashes are those of the access token and the code. -/
def exampleClaims : ClaimsMap :=
  idTokenClaims "https://example.org/" 0 exampleClient (some exampleGrant) exampleSession
    (some ⟨9, 0, .unknown⟩) (hashToken exampleDigests .rs256 "token").toOption
    (hashToken exampleDigests .rs256 "code").toOption

noncomputable def exampleLibraries : TokenLibraries where
  scheme := ⟨fun _ => true, fun _ _ _ => true, fun _ _ _ => true⟩
  pairs := ⟨fun _ => ⟨[3], [1]⟩, fun _ _ => ([], []), fun _ => []⟩
  sign _ _ := some [0]
  digests := exampleDigests
  headers := .single ((JsonWebSignatureHeader.new .rs256).withKid "named") 104 []
  payloads :=
    have : DecidableEq ClaimsMap := Classical.decEq _
    .single exampleClaims 112 []

def exampleKeys : Keystore := .new ⟨[Keystore.plainKey, Keystore.namedKey]⟩

theorem rs256_id_token_accepted : ∃ token idToken,
    generateIdToken exampleLibraries "https://example.org/" 0 exampleKeys exampleClient
      (some exampleGrant) exampleSession (some exampleAccessToken) (some ⟨9, 0, .unknown⟩) =
        .ok token ∧
    verifyIdToken exampleLibraries token ⟨some "https://example.org/",
      exampleKeys.publicJwks exampleLibraries.pairs, exampleClient.clientId,
      idTokenAlg exampleClient⟩ none 0 = .ok idToken ∧
    checkExchangedClaims exampleLibraries .rs256 "token" "code" (some "nonce") idToken.payload =
      .ok () := by
  have hideal : exampleLibraries.Ideal := ⟨fun _ => rfl, fun _ _ _ _ => rfl⟩
  have hsigner : (exampleKeys.signerForAlgorithm (idTokenAlg exampleClient)).1 =
      some ("named", .rs256 [3]) := by decide +kernel
  have hpayload : exampleLibraries.payloads.toVec exampleClaims = some [112] := if_pos rfl
  have hheader : exampleLibraries.headers.toVec
      ((JsonWebSignatureHeader.new .rs256).withKid "named") = some [104] := by decide +kernel
  obtain ⟨jwt, hjwt⟩ : ∃ jwt, Jwt.signWithRng exampleLibraries.headers exampleLibraries.payloads
      (exampleLibraries.sign (.rs256 [3])) ((JsonWebSignatureHeader.new .rs256).withKid "named")
      exampleClaims = .ok jwt := by
    unfold Jwt.signWithRng
    rw [hheader, hpayload]
    exact ⟨_, rfl⟩
  have htoken : generateIdToken exampleLibraries "https://example.org/" 0 exampleKeys exampleClient
      (some exampleGrant) exampleSession (some exampleAccessToken) (some ⟨9, 0, .unknown⟩) =
        .ok jwt.raw.inner := by
    unfold generateIdToken
    dsimp only
    rw [hsigner]
    change Except.bind (Except.mapError _ (Jwt.signWithRng exampleLibraries.headers
      exampleLibraries.payloads (exampleLibraries.sign (.rs256 [3]))
      ((JsonWebSignatureHeader.new .rs256).withKid "named") exampleClaims)) _ = _
    rw [hjwt]
    rfl
  obtain ⟨idToken, expiry, -, hnow, haccepted, hexchanged, -⟩ :=
    issued_id_token_accepted exampleLibraries hideal "https://example.org/" 0 exampleKeys
      exampleClient (some exampleGrant) exampleSession (some exampleAccessToken)
      (some ⟨9, 0, .unknown⟩) _ htoken
  refine ⟨_, idToken, htoken, haccepted 0 (le_refl _) hnow, hexchanged "token" "code" ?_ ?_⟩
  · rintro t ⟨⟩
    rfl
  · rintro c ⟨⟩
    rfl

end Example

end Pasion

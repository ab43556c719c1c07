import Pasion.Handlers.IdToken
import Pasion.Pg.OAuth2Client

/-! How clients authenticate: the credentials of a request, and their verification. -/
namespace Pasion

open Relational

inductive Credentials where
  | none (clientId : String)
  | clientSecretBasic (clientId clientSecret : String)
  | clientSecretPost (clientId clientSecret : String)
  | clientAssertionJwtBearer (clientId : String) (jwt : Jwt ClaimsMap)
  | bearerToken (token : String)

inductive CredentialsVerificationError where
  | decryptionError
  | invalidClientConfig
  | clientSecretMismatch
  | authenticationMethodMismatch
  | invalidAssertionSignature
  | invalidAssertionClaims (e : ClaimError)
  | invalidAssertionSubject
  | assertionExpirationTooLong
  | assertionAlgorithmMismatch
  | jwksFetchFailed
  deriving DecidableEq

def CredentialsVerificationError.isInternal : CredentialsVerificationError → Bool
  | decryptionError | invalidClientConfig | jwksFetchFailed => true
  | _ => false

/-- The keys that a registered set holds or that a URL serves, and the cipher of the secrets. -/
structure CredentialsEnv where
  scheme : SignatureScheme
  inlineJwks : String → PublicJsonWebKeySet
  getJwks : String → Option PublicJsonWebKeySet
  decryptString : String → Option (List UInt8)
  (tokenEndpoint issuer : String)
  now : Time

/-- Only a URL is requested. -/
def CredentialsEnv.fetchJwks (env : CredentialsEnv) : JwksOrJwksUri → Option PublicJsonWebKeySet
  | .jwks set => some (env.inlineJwks set)
  | .jwksUri uri => env.getJwks uri

namespace Credentials

def clientId : Credentials → Option String
  | none clientId | clientSecretBasic clientId _ | clientSecretPost clientId _
  | clientAssertionJwtBearer clientId _ => some clientId
  | bearerToken _ => .none

def maxClientAssertionLifetime : Duration := 5 * 60 * 1000000

def validateClientAssertionAlg (jwt : Jwt ClaimsMap) (expected : Option JsonWebSignatureAlg) :
    Except CredentialsVerificationError Unit :=
  if expected.any (jwt.header.alg ≠ ·) then .error .assertionAlgorithmMismatch else .ok ()

/-- The audiences are tried in turn, and the error is that of the last one. -/
def validateClientAssertionAudience (claims : ClaimsMap) (tokenEndpoint issuer : String) :
    Except ClaimError Unit :=
  match Claim.aud.extractRequiredWithOptions claims (tokenEndpoint ∈ ·) with
  | .ok _ => .ok ()
  | .error _ => (Claim.aud.extractRequiredWithOptions claims (issuer ∈ ·)).map (fun _ => ())

def validateClientAssertionClaims (env : CredentialsEnv) (jwt : Jwt ClaimsMap)
    (expectedClientId : String) : Except CredentialsVerificationError Unit := do
  let options := TimeOptions.new env.now
  let (_, claims) ← (Claim.iss.extractRequiredWithOptions jwt.payload (· = expectedClientId)).mapError
    .invalidAssertionClaims
  let (subject, claims) ← (Claim.sub.extractRequired claims).mapError .invalidAssertionClaims
  if subject ≠ expectedClientId then .error .invalidAssertionSubject
  (validateClientAssertionAudience claims env.tokenEndpoint env.issuer).mapError
    .invalidAssertionClaims
  let (expiresAt, claims) ← (Claim.exp.extractRequiredWithOptions claims
    (timeNotAfter options)).mapError .invalidAssertionClaims
  if expiresAt - env.now > maxClientAssertionLifetime then .error .assertionExpirationTooLong
  let (_, claims) ← (Claim.nbf.extractOptionalWithOptions claims
    (timeNotBefore options)).mapError .invalidAssertionClaims
  let _ ← (Claim.iat.extractOptionalWithOptions claims
    (timeNotBefore options)).mapError .invalidAssertionClaims

def clientSecret (env : CredentialsEnv) (client : RegisteredClient) :
    Except CredentialsVerificationError (List UInt8) :=
  match client.encryptedClientSecret with
  | .none => .error .invalidClientConfig
  | some encrypted => (env.decryptString encrypted).elim (.error .decryptionError) .ok

def verifyClientSecret (env : CredentialsEnv) (client : RegisteredClient) (secret : String) :
    Except CredentialsVerificationError Unit := do
  let decrypted ← clientSecret env client
  if Str.bytes secret ≠ decrypted then .error .clientSecretMismatch

def verify (env : CredentialsEnv) (credentials : Credentials)
    (method : OAuthClientAuthenticationMethod) (client : RegisteredClient) :
    Except CredentialsVerificationError Unit :=
  match credentials, method with
  | none _, .none => .ok ()
  | clientSecretPost _ secret, .clientSecretPost => verifyClientSecret env client secret
  | clientSecretBasic _ secret, .clientSecretBasic => verifyClientSecret env client secret
  | clientAssertionJwtBearer _ jwt, .privateKeyJwt => do
    validateClientAssertionAlg jwt client.tokenEndpointAuthSigningAlg
    let jwks ← client.jwks.elim (.error .invalidClientConfig) .ok
    let jwks ← (env.fetchJwks jwks).elim (.error .jwksFetchFailed) .ok
    (jwt.verifyWithJwks env.scheme jwks).mapError (fun _ => .invalidAssertionSignature)
    validateClientAssertionClaims env jwt client.clientId
  | clientAssertionJwtBearer _ jwt, .clientSecretJwt => do
    validateClientAssertionAlg jwt client.tokenEndpointAuthSigningAlg
    let decrypted ← clientSecret env client
    (jwt.verifyWithSharedSecret env.scheme decrypted).mapError
      (fun _ => .invalidAssertionSignature)
    validateClientAssertionClaims env jwt client.clientId
  | _, _ => .error .authenticationMethodMismatch

end Credentials

inductive ClientAuthorizationError where
  | invalidHeader
  | badForm
  | clientIdMismatch (credential form : String)
  | unsupportedClientAssertion (clientAssertionType : String)
  | missingCredentials
  | invalidRequest
  | invalidAssertion

/-- The header fields and the form of a request, decoded. -/
structure FormRequest where
  (authorization contentType : Option String)
  form : Table String String

inductive Authorization where
  | basic (username password : String)
  | bearer (token : String)

structure ExtractionLibraries where
  basic : String → Option (String × String)
  bearer : String → Option String
  headers : JsonCodec JsonWebSignatureHeader
  payloads : JsonCodec ClaimsMap

structure ClientAuthorization (F : Type) where
  credentials : Credentials
  form : Option F

namespace ClientAuthorization

variable {F : Type}

def jwtBearerClientAssertion : String := "urn:ietf:params:oauth:client-assertion-type:jwt-bearer"

/-- Whether the header begins with the scheme, in any case. -/
def hasScheme (header scheme : String) : Bool :=
  (header.toList.take scheme.toList.length).map Char.toLower = scheme.toList

def parseAuthorization (lib : ExtractionLibraries) (header : String) :
    Except ClientAuthorizationError Authorization :=
  if hasScheme header "basic " then
    (lib.basic header).elim (.error .invalidHeader) (fun r => .ok (.basic r.1 r.2))
  else if hasScheme header "bearer " then
    (lib.bearer header).elim (.error .invalidHeader) (fun token => .ok (.bearer token))
  else .error .invalidHeader

def checkClientId (clientId : String) (clientIdFromForm : Option String) :
    Except ClientAuthorizationError Unit :=
  match clientIdFromForm with
  | none => .ok ()
  | some fromForm => if clientId ≠ fromForm then .error (.clientIdMismatch clientId fromForm) else .ok ()

def assertionCredentials (lib : ExtractionLibraries) (clientIdFromForm : Option String)
    (assertion : String) : Except ClientAuthorizationError Credentials := do
  let jwt ← (Jwt.tryFrom lib.headers lib.payloads assertion).mapError (fun _ => .invalidAssertion)
  let clientId ← ((Table.get? jwt.payload "sub").bind Json.Value.asStr).elim
    (.error .invalidAssertion) .ok
  checkClientId clientId clientIdFromForm
  .ok (.clientAssertionJwtBearer clientId jwt)

def findCredentials (lib : ExtractionLibraries) (authorization : Option Authorization)
    (clientId clientSecret assertionType assertion : Option String) :
    Except ClientAuthorizationError Credentials :=
  match authorization, clientId, clientSecret, assertionType, assertion with
  | some (.basic username password), clientIdFromForm, none, none, none => do
    checkClientId username clientIdFromForm
    .ok (.clientSecretBasic username password)
  | none, some clientId, some clientSecret, none, none => .ok (.clientSecretPost clientId clientSecret)
  | none, some clientId, none, none, none => .ok (.none clientId)
  | none, clientIdFromForm, none, some assertionType, some assertion =>
    if assertionType = jwtBearerClientAssertion then
      assertionCredentials lib clientIdFromForm assertion
    else if clientIdFromForm.isNone then .error (.unsupportedClientAssertion assertionType)
    else .error .invalidRequest
  | some (.bearer token), none, none, none, none => .ok (.bearerToken token)
  | none, none, none, none, none => .error .missingCredentials
  | _, _, _, _, _ => .error .invalidRequest

def isForm (req : FormRequest) : Bool :=
  Str.startsWith (req.contentType.getD "") "application/x-www-form-urlencoded"

def extractAuthorization (lib : ExtractionLibraries) (req : FormRequest) :
    Except ClientAuthorizationError (Option Authorization) :=
  match req.authorization with
  | none => .ok none
  | some header => (parseAuthorization lib header).map some

/-- `deserialize` reads the other fields of the form. -/
def extractFromRequest (lib : ExtractionLibraries) (deserialize : Table String String → Option F)
    (req : FormRequest) : Except ClientAuthorizationError (ClientAuthorization F) := do
  let authorization ← extractAuthorization lib req
  if isForm req then do
    let form ← (deserialize req.form).elim (.error .badForm) .ok
    let credentials ← findCredentials lib authorization (req.form.get? "client_id")
      (req.form.get? "client_secret") (req.form.get? "client_assertion_type")
      (req.form.get? "client_assertion")
    .ok ⟨credentials, some form⟩
  else do
    let credentials ← findCredentials lib authorization none none none none
    .ok ⟨credentials, none⟩

theorem form_of_extractFromRequest {lib : ExtractionLibraries}
    {deserialize : Table String String → Option F} {req : FormRequest} {auth : ClientAuthorization F}
    (h : extractFromRequest lib deserialize req = .ok auth) :
    if isForm req then ∃ form, deserialize req.form = some form ∧ auth.form = some form
    else auth.form = none := by
  unfold extractFromRequest at h
  obtain ⟨authorization, -, h⟩ := Fallible.bind_eq_ok_iff.mp h
  split_ifs at h ⊢ with hform
  · obtain ⟨form, hdeserialize, h⟩ := Fallible.bind_eq_ok_iff.mp h
    obtain ⟨credentials, -, h⟩ := Fallible.bind_eq_ok_iff.mp h
    cases h
    exact ⟨form, Fallible.elim_eq_ok_iff.mp hdeserialize, rfl⟩
  · obtain ⟨credentials, -, h⟩ := Fallible.bind_eq_ok_iff.mp h
    cases h
    rfl

end ClientAuthorization

namespace OAuth2ClientRepository

variable {ε : Type} [FromRepository ε]

/-- A text that is no identifier finds no client. -/
def findByClientId (parseUlid : String → Option Ulid) (parseUrl : String → Option Url)
    (clientId : String) : Repo ε (Option RegisteredClient) :=
  match parseUlid clientId with
  | none => pure none
  | some id => lookupRegistered parseUrl id

end OAuth2ClientRepository

def Credentials.fetch {ε : Type} [FromRepository ε] (parseUlid : String → Option Ulid)
    (parseUrl : String → Option Url) (credentials : Credentials) :
    Repo ε (Option RegisteredClient) :=
  match credentials.clientId with
  | .none => pure .none
  | some clientId => OAuth2ClientRepository.findByClientId parseUlid parseUrl clientId

namespace Credentials

variable {client : RegisteredClient}

section Rules

variable {env : CredentialsEnv} {client : RegisteredClient} {jwt : Jwt ClaimsMap}
  {clientId : String}

/-- What an assertion must say to be accepted for a client. -/
structure ClaimsMatch (env : CredentialsEnv) (clientId : String) (claims : ClaimsMap) : Prop where
  iss : Claim.iss.Holds claims clientId
  sub : Claim.sub.Holds claims clientId
  aud : ∃ audience, Claim.aud.Holds claims audience ∧
    (env.tokenEndpoint ∈ audience ∨ env.issuer ∈ audience)
  exp : ∃ expiresAt, Claim.exp.Holds claims expiresAt ∧
    env.now - maxClientAssertionLifetime ≤ expiresAt ∧
    expiresAt ≤ env.now + maxClientAssertionLifetime

theorem audience_ok {claims : ClaimsMap} {tokenEndpoint issuer : String}
    (h : validateClientAssertionAudience claims tokenEndpoint issuer = .ok ()) :
    ∃ audience, Claim.aud.Holds claims audience ∧
      (tokenEndpoint ∈ audience ∨ issuer ∈ audience) := by
  unfold validateClientAssertionAudience at h
  split at h
  · next found hfound =>
    obtain ⟨hholds, hmem, -⟩ := Claim.extractRequired_ok hfound
    exact ⟨found.1, hholds, Or.inl (of_decide_eq_true hmem)⟩
  · obtain ⟨found, hfound, -⟩ := Fallible.map_eq_ok_iff.mp h
    obtain ⟨hholds, hmem, -⟩ := Claim.extractRequired_ok hfound
    exact ⟨found.1, hholds, Or.inr (of_decide_eq_true hmem)⟩

theorem claimsMatch_of_validate (h : validateClientAssertionClaims env jwt clientId = .ok ()) :
    ClaimsMatch env clientId jwt.payload := by
  unfold validateClientAssertionClaims at h
  obtain ⟨⟨iss, claims₁⟩, hiss, h⟩ := Fallible.bind_eq_ok_iff.mp h
  obtain ⟨⟨subject, claims₂⟩, hsub, h⟩ := Fallible.bind_eq_ok_iff.mp h
  dsimp only at h
  split_ifs at h with hsubject
  · cases h
  · obtain ⟨_, haud, h⟩ := Fallible.bind_eq_ok_iff.mp h
    obtain ⟨⟨expiresAt, claims₃⟩, hexp, h⟩ := Fallible.bind_eq_ok_iff.mp h
    dsimp only at h
    split_ifs at h with hlifetime
    · cases h
    · rw [Fallible.mapError_eq_ok_iff] at hiss hsub haud hexp
      obtain ⟨hissHolds, hissValid, rfl⟩ := Claim.extractRequired_ok hiss
      obtain ⟨hsubHolds, -, rfl⟩ := Claim.extractRequired_ok hsub
      obtain ⟨hexpHolds, hexpValid, -⟩ := Claim.extractRequired_ok hexp
      obtain ⟨audience, haudHolds, haudience⟩ := audience_ok haud
      -- the claims taken out before do not matter for the later ones
      have hrest : ∀ key, key ≠ "iss" → key ≠ "sub" →
          Table.get? jwt.payload key =
            Table.get? (Claim.sub.remove (Claim.iss.remove jwt.payload)) key := by
        intro key hiss hsub
        rw [Claim.get?_remove_of_ne Claim.sub hsub, Claim.get?_remove_of_ne Claim.iss hiss]
      have hsubject : subject = clientId := not_not.mp hsubject
      have hissValue : iss = clientId := of_decide_eq_true hissValid
      have hwindow : ∀ now expiry lifetime : ℤ, ¬expiry - now > lifetime →
          now ≤ expiry + lifetime → now - lifetime ≤ expiry ∧ expiry ≤ now + lifetime := by
        intro now expiry lifetime hlate hearly
        omega
      refine ⟨hissValue ▸ hissHolds, hsubject ▸ hsubHolds.congr ?_,
        ⟨audience, haudHolds.congr (hrest _ (by decide) (by decide)), haudience⟩,
        ⟨expiresAt, hexpHolds.congr (hrest _ (by decide) (by decide)),
          hwindow _ _ _ hlifetime (of_decide_eq_true hexpValid)⟩⟩
      exact (Claim.get?_remove_of_ne Claim.iss (by decide)).symm

theorem clientSecret_ok {secret : List UInt8} (h : clientSecret env client = .ok secret) :
    ∃ encrypted, client.encryptedClientSecret = some encrypted ∧
      env.decryptString encrypted = some secret := by
  unfold clientSecret at h
  split at h
  · cases h
  · next encrypted hencrypted => exact ⟨encrypted, hencrypted, Fallible.elim_eq_ok_iff.mp h⟩

theorem alg_of_validate {expected : Option JsonWebSignatureAlg}
    (h : validateClientAssertionAlg jwt expected = .ok ()) : ∀ alg ∈ expected,
      jwt.header.alg = alg := by
  rw [validateClientAssertionAlg, Fallible.throw_if_eq_ok_iff] at h
  intro alg halg
  rw [halg] at h
  simpa using h

theorem verifyClientSecret_ok {secret : String} (h : verifyClientSecret env client secret = .ok ()) :
    ∃ encrypted, client.encryptedClientSecret = some encrypted ∧
      env.decryptString encrypted = some (Str.bytes secret) := by
  unfold verifyClientSecret at h
  obtain ⟨decrypted, hdecrypted, h⟩ := Fallible.bind_eq_ok_iff.mp h
  obtain ⟨encrypted, hencrypted, hsecret⟩ := clientSecret_ok hdecrypted
  split_ifs at h with hmatch
  exact ⟨encrypted, hencrypted, by rw [hsecret, not_not.mp hmatch]⟩

end Rules

/-- The signature verifies under a key of the client, for the algorithm in the header. -/
def SignedByKey (env : CredentialsEnv) (client : RegisteredClient) (jwt : Jwt ClaimsMap) : Prop :=
  ∃ registered ∈ client.jwks, ∃ jwks, env.fetchJwks registered = some jwks ∧
    ∃ key ∈ jwks.keys, ∃ verifying,
      AsymmetricVerifyingKey.fromJwkAndAlg env.scheme key.parameters jwt.header.alg =
        .ok verifying ∧
      env.scheme.verify verifying (Str.bytes jwt.raw.signedPart) jwt.signature

/-- The signature verifies under the secret of the client, for the algorithm in the header. -/
def SignedBySecret (env : CredentialsEnv) (client : RegisteredClient) (jwt : Jwt ClaimsMap) :
    Prop :=
  ∃ encrypted ∈ client.encryptedClientSecret, ∃ secret,
    env.decryptString encrypted = some secret ∧
    ∃ key, SymmetricKey.newForAlg secret jwt.header.alg = some key ∧
      env.scheme.verifyMac key (Str.bytes jwt.raw.signedPart) jwt.signature

/-- What the credentials must show for the method of the client. -/
def Proven (env : CredentialsEnv) (client : RegisteredClient)
    (method : OAuthClientAuthenticationMethod) : Credentials → Prop
  | clientAssertionJwtBearer _ jwt =>
    (method = .privateKeyJwt ∧ SignedByKey env client jwt ∨
      method = .clientSecretJwt ∧ SignedBySecret env client jwt) ∧
    (∀ alg ∈ client.tokenEndpointAuthSigningAlg, jwt.header.alg = alg) ∧
    ClaimsMatch env client.clientId jwt.payload
  | clientSecretBasic _ secret => method = .clientSecretBasic ∧
    ∃ encrypted ∈ client.encryptedClientSecret,
      env.decryptString encrypted = some (Str.bytes secret)
  | clientSecretPost _ secret => method = .clientSecretPost ∧
    ∃ encrypted ∈ client.encryptedClientSecret,
      env.decryptString encrypted = some (Str.bytes secret)
  | none _ => method = .none
  | bearerToken _ => False

theorem signedByKey_of_verify {env : CredentialsEnv}
    {jwt : Jwt ClaimsMap} {registered : JwksOrJwksUri} {jwks : PublicJsonWebKeySet}
    (hregistered : client.jwks = some registered) (hfetch : env.fetchJwks registered = some jwks)
    (h : jwt.verifyWithJwks env.scheme jwks = .ok ()) : SignedByKey env client jwt := by
  obtain ⟨key, hkey⟩ := Jwt.verifyWithJwks_ok_iff.mp h
  obtain ⟨hmem, -, hverifies⟩ := Jwt.verifyingKey?_some hkey
  unfold Jwt.verifiesUnder at hverifies
  split at hverifies
  · cases hverifies
  · next verifying hverifying =>
    exact ⟨registered, hregistered, jwks, hfetch, key, hmem, verifying, hverifying, hverifies⟩

theorem signedBySecret_of_verify {env : CredentialsEnv}
    {jwt : Jwt ClaimsMap} {encrypted : String} {secret : List UInt8}
    (hencrypted : client.encryptedClientSecret = some encrypted)
    (hdecrypt : env.decryptString encrypted = some secret)
    (h : jwt.verifyWithSharedSecret env.scheme secret = .ok ()) :
    SignedBySecret env client jwt := by
  unfold Jwt.verifyWithSharedSecret at h
  split at h
  · cases h
  · next key hkey =>
    split_ifs at h with hmac
    exact ⟨encrypted, hencrypted, secret, hdecrypt, key, hkey, hmac⟩

/-- Credentials are accepted only if they prove what the method of the client asks for. -/
theorem verify_ok_proven (env : CredentialsEnv) (credentials : Credentials)
    (method : OAuthClientAuthenticationMethod) (client : RegisteredClient)
    (h : verify env credentials method client = .ok ()) : Proven env client method credentials := by
  unfold verify at h
  split at h
  · rfl
  · exact ⟨rfl, verifyClientSecret_ok h⟩
  · exact ⟨rfl, verifyClientSecret_ok h⟩
  · obtain ⟨_, halg, h⟩ := Fallible.bind_eq_ok_iff.mp h
    obtain ⟨registered, hregistered, h⟩ := Fallible.bind_eq_ok_iff.mp h
    obtain ⟨jwks, hfetch, h⟩ := Fallible.bind_eq_ok_iff.mp h
    obtain ⟨_, hverify, h⟩ := Fallible.bind_eq_ok_iff.mp h
    rw [Fallible.elim_eq_ok_iff] at hregistered hfetch
    rw [Fallible.mapError_eq_ok_iff] at hverify
    exact ⟨Or.inl ⟨rfl, signedByKey_of_verify hregistered hfetch hverify⟩, alg_of_validate halg,
      claimsMatch_of_validate h⟩
  · obtain ⟨_, halg, h⟩ := Fallible.bind_eq_ok_iff.mp h
    obtain ⟨secret, hsecret, h⟩ := Fallible.bind_eq_ok_iff.mp h
    obtain ⟨_, hverify, h⟩ := Fallible.bind_eq_ok_iff.mp h
    rw [Fallible.mapError_eq_ok_iff] at hverify
    obtain ⟨encrypted, hencrypted, hdecrypt⟩ := clientSecret_ok hsecret
    exact ⟨Or.inr ⟨rfl, signedBySecret_of_verify hencrypted hdecrypt hverify⟩,
      alg_of_validate halg, claimsMatch_of_validate h⟩
  · cases h

section Example

def exampleAssertion : Jwt ClaimsMap where
  raw := RawJwt.ofParts "h" "p" "s" (by decide) (by decide) (by decide)
  header := .new .hs256
  payload := Claim.exp.insert (Claim.aud.insert (Claim.sub.insert (Claim.iss.insert .empty
    exampleClient.clientId) exampleClient.clientId) ["https://example.org/"]) (60 * 1000000)
  signature := [7]

def exampleEnv : CredentialsEnv where
  scheme := ⟨fun _ => true, fun _ _ _ => false, fun key _ signature => key = .hs256 signature⟩
  inlineJwks _ := ⟨[]⟩
  getJwks _ := .none
  decryptString _ := some [7]
  tokenEndpoint := "https://example.org/oauth2/token"
  issuer := "https://example.org/"
  now := 0

theorem assertion_with_secret_proven :
    verify exampleEnv (.clientAssertionJwtBearer exampleClient.clientId exampleAssertion)
      .clientSecretJwt { exampleClient with encryptedClientSecret := some "" } = .ok () ∧
    Proven exampleEnv { exampleClient with encryptedClientSecret := some "" } .clientSecretJwt
      (.clientAssertionJwtBearer exampleClient.clientId exampleAssertion) := by
  have hverify : verify exampleEnv
      (.clientAssertionJwtBearer exampleClient.clientId exampleAssertion) .clientSecretJwt
      { exampleClient with encryptedClientSecret := some "" } = .ok () := by
    decide +kernel
  exact ⟨hverify, verify_ok_proven _ _ _ _ hverify⟩

end Example

end Credentials

end Pasion

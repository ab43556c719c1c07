import Pasion.Pg.OAuth2Client

/-! Dynamic client registration. -/
namespace Pasion.ClientRegistration

open Relational Txn Table

inductive RouteError where
  | repository (e : DatabaseError)
  | internal (text : String)
  | invalidJson (text : String)
  | invalidClientMetadata (e : ClientMetadataVerificationError)
  | urlIsPublicSuffix (field : String)
  | invalidMatrixRedirectUri (text : String)
  | policyDenied (violations : List String)

instance : FromRepository RouteError := ⟨.repository⟩

/-- What the handler is given besides the database; a public suffix may be one the list knows. -/
structure Env where
  id : Ulid
  clientSecret : String
  encryptToString : String → Except String String
  toJson : ClientMetadata → String
  sha256Hex : String → String
  parseUrl : String → Option Url
  languageTag : String → Option String
  suffix : List UInt8 → Option (List UInt8 × Bool)
  policy : Except String (VerifiedClientMetadata → Except String (List String))

/-- A JSON body: the texts among its redirect URIs, and what it deserializes to. -/
structure RawBody where
  redirectUris : List String
  metadata : Except String ClientMetadata

structure RouteResponse where
  clientId : String
  clientSecret : Option String
  clientIdIssuedAt : ℕ
  metadata : VerifiedClientMetadata

def hostIsPublicSuffix (env : Env) (url : Url) : Bool :=
  let host := Str.bytes (url.hostStr.getD "")
  match env.suffix host with
  | none => false
  | some (suffix, isKnown) => isKnown && host.length ≤ suffix.length + 1

def localisedUrlHasPublicSuffix (env : Env) (url : Localized Url) : Bool :=
  url.values.any (hostIsPublicSuffix env)

def isLoopback (url : Url) : Bool :=
  url.hostStr = some "localhost" || url.hostStr = some "127.0.0.1" ||
    url.host.any Host.isIpv6Loopback

def httpsClientHost (baseHost : String) (uri : Url) : Bool :=
  uri.scheme = "https" && uri.username = "" && uri.password.isNone &&
    uri.hostStr.any (fun host =>
      host = baseHost || ("." ++ baseHost).toList.isSuffixOf host.toList)

def loopback (uri : Url) : Bool :=
  uri.scheme = "http" && uri.port.isNone && uri.username = "" && uri.password.isNone &&
    isLoopback uri

def privateScheme (reverseDns : String) (uri : Url) : Bool :=
  uri.host.isNone && uri.scheme ≠ "http" && uri.scheme ≠ "https" &&
    (uri.scheme = reverseDns || Str.startsWith uri.scheme (reverseDns ++ "."))

def validateMatrixRedirectUris (m : VerifiedClientMetadata) : Except RouteError Unit :=
  match m.inner.clientUri.map Localized.nonLocalized with
  | none => .error (.invalidMatrixRedirectUri "client_uri is required")
  | some clientUri =>
    if clientUri.scheme ≠ "https" || clientUri.username ≠ "" || clientUri.password.isSome then
      .error (.invalidMatrixRedirectUri "client_uri must be an HTTPS URL without credentials")
    else
      match clientUri.hostStr with
      | none => .error (.invalidMatrixRedirectUri "client_uri must have a host")
      | some baseHost =>
        let reverseDns := Str.join "." (Str.split baseHost '.').reverse
        let native : Bool := m.inner.applicationType = some .native
        match m.redirectUris.find? (fun uri => !httpsClientHost baseHost uri &&
          !(native && (loopback uri || privateScheme reverseDns uri))) with
        | none => .ok ()
        | some uri => .error (.invalidMatrixRedirectUri
            ("redirect_uri is not valid for this client: " ++ uri.serialization))

/-- The two sides of the first occurrence of a text. -/
def splitOnce (sep : List Char) : List Char → Option (List Char × List Char)
  | [] => if sep.isEmpty then some ([], []) else none
  | c :: rest =>
    if sep.isPrefixOf (c :: rest) then some ([], (c :: rest).drop sep.length)
    else (splitOnce sep rest).map (fun sides => (c :: sides.1, sides.2))

/-- A URL forgets an explicit default port, so that the text is looked at. -/
def loopbackRedirectHasExplicitPort (parseUrl : String → Option Url) (uri : String) : Bool :=
  match parseUrl uri, splitOnce "://".toList uri.toList with
  | some parsed, some (scheme, rest) =>
    let authority := rest.takeWhile (fun c => c ≠ '/' && c ≠ '?' && c ≠ '#')
    let hostPort := (authority.reverse.takeWhile (· ≠ '@')).reverse
    parsed.scheme = "http" && isLoopback parsed && scheme.map Char.toLower = "http".toList &&
      match hostPort with
      | '[' :: afterBracket =>
        (splitOnce [']'] afterBracket).any (fun sides => sides.2.head? = some ':')
      | hostPort => hostPort.contains ':'
  | _, _ => false

def refuse (c : Bool) (e : RouteError) : Except RouteError Unit := if c then .error e else .ok ()

def checkPublicSuffixes (env : Env) (m : VerifiedClientMetadata) : Except RouteError Unit := do
  refuse (m.inner.clientUri.any (localisedUrlHasPublicSuffix env)) (.urlIsPublicSuffix "client_uri")
  refuse (m.inner.logoUri.any (localisedUrlHasPublicSuffix env)) (.urlIsPublicSuffix "logo_uri")
  refuse (m.inner.policyUri.any (localisedUrlHasPublicSuffix env)) (.urlIsPublicSuffix "policy_uri")
  refuse (m.inner.tosUri.any (localisedUrlHasPublicSuffix env)) (.urlIsPublicSuffix "tos_uri")
  refuse (m.inner.initiateLoginUri.any (hostIsPublicSuffix env))
    (.urlIsPublicSuffix "initiate_login_uri")
  refuse (m.redirectUris.any (hostIsPublicSuffix env)) (.urlIsPublicSuffix "redirect_uri")

def checkRequest (env : Env) (request : Except String RawBody) :
    Except RouteError VerifiedClientMetadata := do
  let evaluate ← env.policy.mapError .internal
  let rawBody ← request.mapError .invalidJson
  refuse (rawBody.redirectUris.any (loopbackRedirectHasExplicitPort env.parseUrl))
    (.invalidMatrixRedirectUri "native loopback redirect_uri must not specify a port")
  let body ← rawBody.metadata.mapError .invalidJson
  let metadata ← body.sorted.validate.mapError .invalidClientMetadata
  validateMatrixRedirectUris metadata
  checkPublicSuffixes env metadata
  let violations ← (evaluate metadata).mapError .internal
  refuse (!violations.isEmpty) (.policyDenied violations)
  pure metadata

def hasClientSecret (m : VerifiedClientMetadata) : Bool :=
  m.inner.tokenEndpointAuthMethod = some .clientSecretJwt ||
    m.inner.tokenEndpointAuthMethod = some .clientSecretPost ||
    m.inner.tokenEndpointAuthMethod = some .clientSecretBasic

def issueSecret (env : Env) (m : VerifiedClientMetadata) :
    Repo RouteError (Option String × Option String) :=
  if hasClientSecret m then do
    let encrypted ← Txn.ofExcept (env.encryptToString env.clientSecret) .internal
    pure (some env.clientSecret, some encrypted)
  else pure (none, none)

def digest (env : Env) (m : VerifiedClientMetadata) : String := env.sha256Hex (env.toJson m.inner)

def byTag {α : Type} (l : Option (Localized α)) : Table String α :=
  (l.elim [] Localized.tagged).foldl (fun t r => t.insert r.1 r.2) .empty

def collectLocalizedMetadata (m : VerifiedClientMetadata) : LocalizedClientMetadata where
  clientName := byTag m.inner.clientName
  logoUri := byTag m.inner.logoUri
  clientUri := byTag m.inner.clientUri
  policyUri := byTag m.inner.policyUri
  tosUri := byTag m.inner.tosUri

def columns (m : VerifiedClientMetadata) (digestHash encryptedClientSecret : Option String) :
    ClientMetadataColumns where
  metadataDigest := digestHash
  encryptedClientSecret
  applicationType := m.inner.applicationType
  redirectUris := m.redirectUris
  clientName := m.inner.clientName.map Localized.nonLocalized
  logoUri := m.inner.logoUri.map Localized.nonLocalized
  clientUri := m.inner.clientUri.map Localized.nonLocalized
  policyUri := m.inner.policyUri.map Localized.nonLocalized
  tosUri := m.inner.tosUri.map Localized.nonLocalized
  idTokenSignedResponseAlg := m.inner.idTokenSignedResponseAlg
  tokenEndpointAuthMethod := m.inner.tokenEndpointAuthMethod
  tokenEndpointAuthSigningAlg := m.inner.tokenEndpointAuthSigningAlg
  initiateLoginUri := m.inner.initiateLoginUri

def addClient (env : Env) (m : VerifiedClientMetadata)
    (digestHash encryptedClientSecret : Option String) : Repo RouteError RegisteredClient := do
  let client ← OAuth2ClientRepository.add env.id (columns m digestHash encryptedClientSecret)
    m.inner.grantTypesOrDefault m.inner.jwksUri m.inner.jwks m.inner.userinfoSignedResponseAlg
  let localized := collectLocalizedMetadata m
  if localized.isEmpty then pure client
  else do
    OAuth2ClientRepository.replaceLocalizedMetadata client.id localized
    pure { client with localizedMetadata := localized }

/-- A client without a secret is looked for by the digest of its metadata first. -/
def findOrAddClient (env : Env) (m : VerifiedClientMetadata)
    (clientSecret encryptedClientSecret : Option String) : Repo RouteError RegisteredClient :=
  if clientSecret.isNone then do
    let existing ← OAuth2ClientRepository.findByMetadataDigest env.parseUrl (digest env m)
    match existing with
    | some client => pure client
    | none => addClient env m (some (digest env m)) encryptedClientSecret
  else addClient env m none encryptedClientSecret

def handlePost (env : Env) (request : Except String RawBody) : Repo RouteError RouteResponse := do
  let metadata ← Txn.ofExcept (checkRequest env request) id
  let (clientSecret, encryptedClientSecret) ← issueSecret env metadata
  let client ← findOrAddClient env metadata clientSecret encryptedClientSecret
  let metadata ← Txn.ofExcept (client.intoMetadata env.languageTag).validate .invalidClientMetadata
  pure ⟨client.clientId, clientSecret, client.id / 2 ^ 80, metadata⟩

/-- What validation asks of the fields that a client keeps, apart from its grant types. -/
structure Sound (c : RegisteredClient) : Prop where
  redirectUris : ∀ uri ∈ c.redirectUris, uri.fragment = none
  jwks : c.tokenEndpointAuthMethod = some .privateKeyJwt → c.jwks.isSome
  signingAlg : match c.tokenEndpointAuthSigningAlg with
    | some alg => alg ≠ .none
    | none => c.tokenEndpointAuthMethod ≠ some .privateKeyJwt ∧
        c.tokenEndpointAuthMethod ≠ some .clientSecretJwt
  initiateLoginUri : ∀ url, c.initiateLoginUri = some url → url.scheme = "https"

section Revalidation

variable {c : RegisteredClient} {languageTag : String → Option String}

end Revalidation

section Steps

variable {env : Env} {m : VerifiedClientMetadata} {db : Database}
variable {clientSecret : Option String}

end Steps

def plain : Env where
  id := 7
  clientSecret := "secret"
  encryptToString := .ok
  toJson _ := "body"
  sha256Hex := id
  parseUrl _ := none
  languageTag := some
  suffix _ := none
  policy := .ok (fun _ => .ok [])

def siteUrl (path : String) : Url where
  serialization := "https://example.com/" ++ path
  scheme := "https"
  username := ""
  password := none
  host := some (.domain "example.com")
  port := none
  fragment := none

def publicClient (grantTypes : List GrantType) (responseTypes : List ResponseType) :
    ClientMetadata :=
  { ClientMetadata.default with
    redirectUris := some [siteUrl "callback"]
    responseTypes := some responseTypes
    grantTypes := some grantTypes
    tokenEndpointAuthMethod := some .none
    clientUri := some ⟨siteUrl "", []⟩ }

def body (m : ClientMetadata) : Except String RawBody := .ok ⟨["https://example.com/callback"], .ok m⟩

end Pasion.ClientRegistration

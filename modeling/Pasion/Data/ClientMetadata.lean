import Pasion.Data.OAuth2

/-! Client metadata of dynamic registration: its validation, and the way back from a client. -/
namespace Pasion

open Relational

inductive Host where
  | domain (name : String)
  | ipv4 (text : String)
  | ipv6 (address : ℕ) (text : String)
  deriving DecidableEq

namespace Host

def text : Host → String
  | domain name => name
  | ipv4 text => text
  | ipv6 _ text => text

def isIpv6Loopback : Host → Bool
  | ipv6 address _ => address = 1
  | _ => false

end Host

/-- A parsed URL: its text, and the parts of it that the checks read. -/
structure Url where
  (serialization scheme username : String)
  password : Option String
  host : Option Host
  port : Option ℕ
  fragment : Option String
  deriving DecidableEq

instance : Ord Url := ⟨fun a b => compare a.serialization b.serialization⟩

def Url.hostStr (url : Url) : Option String := url.host.map Host.text

deriving instance Ord for GrantType

inductive JsonWebSignatureAlg where
  | hs256 | hs384 | hs512
  | rs256 | rs384 | rs512
  | es256 | es384 | es512
  | ps256 | ps384 | ps512
  | none
  | edDsa
  | es256K
  | ed25519
  | ed448
  | unknown (value : String)
  deriving DecidableEq

namespace JsonWebSignatureAlg

def asStr : JsonWebSignatureAlg → String
  | hs256 => "HS256"
  | hs384 => "HS384"
  | hs512 => "HS512"
  | rs256 => "RS256"
  | rs384 => "RS384"
  | rs512 => "RS512"
  | es256 => "ES256"
  | es384 => "ES384"
  | es512 => "ES512"
  | ps256 => "PS256"
  | ps384 => "PS384"
  | ps512 => "PS512"
  | none => "none"
  | edDsa => "EdDSA"
  | es256K => "ES256K"
  | ed25519 => "Ed25519"
  | ed448 => "Ed448"
  | unknown value => value

def all : List JsonWebSignatureAlg :=
  [hs256, hs384, hs512, rs256, rs384, rs512, es256, es384, es512, ps256, ps384, ps512, none, edDsa,
    es256K, ed25519, ed448]

def fromStr (s : String) : JsonWebSignatureAlg :=
  (all.find? (fun alg => alg.asStr = s)).getD (unknown s)

end JsonWebSignatureAlg

inductive JsonWebEncryptionAlg where
  | rsa15 | rsaOaep | rsaOaep256 | rsaOaep384 | rsaOaep512
  | a128Kw | a192Kw | a256Kw
  | dir
  | ecdhEs | ecdhEsA128Kw | ecdhEsA192Kw | ecdhEsA256Kw
  | a128Gcmkw | a192Gcmkw | a256Gcmkw
  | pbes2Hs256A128Kw | pbes2Hs384A192Kw | pbes2Hs512A256Kw
  | unknown (value : String)
  deriving DecidableEq

inductive JsonWebEncryptionEnc where
  | a128CbcHs256 | a192CbcHs384 | a256CbcHs512
  | a128Gcm | a192Gcm | a256Gcm
  | unknown (value : String)
  deriving DecidableEq

inductive OAuthClientAuthenticationMethod where
  | none
  | clientSecretPost
  | clientSecretBasic
  | clientSecretJwt
  | privateKeyJwt
  | tlsClientAuth
  | selfSignedTlsClientAuth
  | unknown (value : String)
  deriving DecidableEq

inductive ApplicationType where
  | web
  | native
  | unknown (value : String)
  deriving DecidableEq

inductive SubjectType where
  | public_
  | pairwise
  | unknown (value : String)
  deriving DecidableEq

inductive ResponseTypeToken where
  | code
  | idToken
  | token
  | unknown (value : String)
  deriving DecidableEq, Ord

/-- A set of tokens, in order; the empty one is written `none`. -/
structure ResponseType where
  tokens : List ResponseTypeToken
  sorted : tokens.Pairwise (fun a b => compare a b = .lt)
  deriving DecidableEq

namespace ResponseType

instance : Ord ResponseType := ⟨fun a b => compare a.tokens b.tokens⟩

def ofToken (t : ResponseTypeToken) : ResponseType := ⟨[t], List.pairwise_singleton _ _⟩

def hasCode (t : ResponseType) : Bool := .code ∈ t.tokens

def hasIdToken (t : ResponseType) : Bool := .idToken ∈ t.tokens

def hasToken (t : ResponseType) : Bool := .token ∈ t.tokens

end ResponseType

/-- The value without a language tag, and those with one. -/
structure Localized (α : Type) where
  nonLocalized : α
  tagged : List (String × α)
  deriving DecidableEq

namespace Localized

variable {α : Type}

def sorted (l : Localized α) : Localized α :=
  { l with tagged := l.tagged.mergeSort (fun a b => (compare a.1 b.1).isLE) }

def new (nonLocalized : α) (localized : List (String × α)) : Localized α :=
  sorted ⟨nonLocalized, localized⟩

def values (l : Localized α) : List α := l.nonLocalized :: l.tagged.map Prod.snd

end Localized

/-- The key set by value and the address of the key set are kept as texts. -/
structure ClientMetadata where
  redirectUris : Option (List Url)
  responseTypes : Option (List ResponseType)
  grantTypes : Option (List GrantType)
  tokenEndpointAuthMethod : Option OAuthClientAuthenticationMethod
  tokenEndpointAuthSigningAlg : Option JsonWebSignatureAlg
  clientName : Option (Localized String)
  (logoUri clientUri policyUri tosUri : Option (Localized Url))
  contacts : Option (List String)
  (jwksUri jwks softwareId softwareVersion : Option String)
  applicationType : Option ApplicationType
  sectorIdentifierUri : Option Url
  subjectType : Option SubjectType
  idTokenSignedResponseAlg : Option JsonWebSignatureAlg
  idTokenEncryptedResponseAlg : Option JsonWebEncryptionAlg
  idTokenEncryptedResponseEnc : Option JsonWebEncryptionEnc
  userinfoSignedResponseAlg : Option JsonWebSignatureAlg
  userinfoEncryptedResponseAlg : Option JsonWebEncryptionAlg
  userinfoEncryptedResponseEnc : Option JsonWebEncryptionEnc
  requestObjectSigningAlg : Option JsonWebSignatureAlg
  requestObjectEncryptionAlg : Option JsonWebEncryptionAlg
  requestObjectEncryptionEnc : Option JsonWebEncryptionEnc
  defaultMaxAge : Option ℤ
  requireAuthTime : Option Bool
  defaultAcrValues : Option (List String)
  initiateLoginUri : Option Url
  requestUris : Option (List Url)
  (requireSignedRequestObject requirePushedAuthorizationRequests : Option Bool)
  introspectionSignedResponseAlg : Option JsonWebSignatureAlg
  introspectionEncryptedResponseAlg : Option JsonWebEncryptionAlg
  introspectionEncryptedResponseEnc : Option JsonWebEncryptionEnc
  postLogoutRedirectUris : Option (List Url)
  deriving DecidableEq

inductive ClientMetadataVerificationError where
  | missingRedirectUris
  | redirectUriWithFragment (uri : Url)
  | incoherentResponseType (responseType : ResponseType)
  | jwksUriAndJwksMutuallyExclusive
  | urlNonHttpsScheme (field : String) (url : Url)
  | missingJwksForTokenMethod
  | unauthorizedSigningAlgNone (endpoint : String)
  | missingAuthSigningAlg (endpoint : String)
  | idTokenSigningAlgNone
  | missingEncryptionAlg (field : String)
  | multiple (errors : List ClientMetadataVerificationError)

namespace ClientMetadata

open ClientMetadataVerificationError

def default : ClientMetadata :=
  ⟨none, none, none, none, none, none, none, none, none, none, none, none, none, none, none, none,
    none, none, none, none, none, none, none, none, none, none, none, none, none, none, none, none,
    none, none, none, none, none, none⟩

def sort {α : Type} [Ord α] (l : List α) : List α := l.mergeSort (fun a b => (compare a b).isLE)

def sorted (m : ClientMetadata) : ClientMetadata := { m with
    redirectUris := m.redirectUris.map sort
    responseTypes := m.responseTypes.map sort
    grantTypes := m.grantTypes.map sort
    contacts := m.contacts.map sort
    clientName := m.clientName.map Localized.sorted
    logoUri := m.logoUri.map Localized.sorted
    clientUri := m.clientUri.map Localized.sorted
    policyUri := m.policyUri.map Localized.sorted
    tosUri := m.tosUri.map Localized.sorted
    defaultAcrValues := m.defaultAcrValues.map sort
    requestUris := m.requestUris.map sort
    postLogoutRedirectUris := m.postLogoutRedirectUris.map sort }

def grantTypesOrDefault (m : ClientMetadata) : List GrantType :=
  m.grantTypes.getD [.authorizationCode]

def tokenEndpointAuthMethodOrDefault (m : ClientMetadata) : OAuthClientAuthenticationMethod :=
  m.tokenEndpointAuthMethod.getD .clientSecretBasic

def idTokenSignedResponseAlgOrDefault (m : ClientMetadata) : JsonWebSignatureAlg :=
  m.idTokenSignedResponseAlg.getD .rs256

def hasImplicit (m : ClientMetadata) : Bool := .implicit ∈ m.grantTypesOrDefault

def hasAuthorizationCode (m : ClientMetadata) : Bool := .authorizationCode ∈ m.grantTypesOrDefault

/-- Without the field, `code` is looked at if the grant types have any use for one. -/
def checkedResponseTypes (m : ClientMetadata) : List ResponseType :=
  match m.responseTypes with
  | some types => types
  | none => if m.hasAuthorizationCode || m.hasImplicit then [.ofToken .code] else []

def isOk (m : ClientMetadata) (t : ResponseType) : Bool :=
  t.hasCode && (m.hasImplicit && m.hasAuthorizationCode) ||
    !t.hasCode && m.hasImplicit ||
    m.hasAuthorizationCode && !t.hasIdToken && !t.hasToken ||
    !t.hasCode && !t.hasIdToken && !t.hasToken

def raise (c : Bool) (e : ClientMetadataVerificationError) : List ClientMetadataVerificationError :=
  if c then [e] else []

def redirectUriErrors (m : ClientMetadata) : List ClientMetadataVerificationError :=
  match m.redirectUris with
  | some uris => (uris.filter (fun uri => uri.fragment.isSome)).map redirectUriWithFragment
  | none => raise (m.hasAuthorizationCode || m.hasImplicit) missingRedirectUris

def nonHttps (field : String) (url : Option Url) : List ClientMetadataVerificationError :=
  (url.filter (fun url => url.scheme ≠ "https")).toList.map (urlNonHttpsScheme field)

def authSigningAlgErrors (m : ClientMetadata) : List ClientMetadataVerificationError :=
  match m.tokenEndpointAuthSigningAlg with
  | some alg => raise (alg = .none) (unauthorizedSigningAlgNone "token_endpoint")
  | none => raise (m.tokenEndpointAuthMethodOrDefault = .privateKeyJwt ||
      m.tokenEndpointAuthMethodOrDefault = .clientSecretJwt) (missingAuthSigningAlg "token_endpoint")

def collectedErrors (m : ClientMetadata) : List ClientMetadataVerificationError :=
  m.redirectUriErrors ++
  (m.checkedResponseTypes.filter (fun t => !m.isOk t)).map incoherentResponseType ++
  raise (m.jwksUri.isSome && m.jwks.isSome) jwksUriAndJwksMutuallyExclusive ++
  nonHttps "sector_identifier_uri" m.sectorIdentifierUri ++
  raise (m.tokenEndpointAuthMethodOrDefault = .privateKeyJwt && m.jwksUri.isNone && m.jwks.isNone)
    missingJwksForTokenMethod ++
  m.authSigningAlgErrors ++
  raise (m.idTokenSignedResponseAlgOrDefault = .none &&
    m.checkedResponseTypes.any ResponseType.hasIdToken) idTokenSigningAlgNone ++
  raise (m.idTokenEncryptedResponseEnc.isSome && m.idTokenEncryptedResponseAlg.isNone)
    (missingEncryptionAlg "id_token") ++
  raise (m.userinfoEncryptedResponseEnc.isSome && m.userinfoEncryptedResponseAlg.isNone)
    (missingEncryptionAlg "userinfo") ++
  raise (m.requestObjectEncryptionEnc.isSome && m.requestObjectEncryptionAlg.isNone)
    (missingEncryptionAlg "request_object") ++
  nonHttps "initiate_login_uri" m.initiateLoginUri ++
  raise (m.introspectionEncryptedResponseEnc.isSome && m.introspectionEncryptedResponseAlg.isNone)
    (missingEncryptionAlg "introspection")

end ClientMetadata

structure VerifiedClientMetadata where
  inner : ClientMetadata
  verified : inner.collectedErrors = []

def VerifiedClientMetadata.redirectUris (m : VerifiedClientMetadata) : List Url :=
  m.inner.redirectUris.getD []

def ClientMetadata.validate (m : ClientMetadata) :
    Except ClientMetadataVerificationError VerifiedClientMetadata :=
  match h : m.collectedErrors with
  | [] => .ok ⟨m, h⟩
  | [first] => .error first
  | first :: second :: rest => .error (.multiple (first :: second :: rest))

structure LocalizedClientMetadata where
  clientName : Table String String
  (logoUri clientUri policyUri tosUri : Table String Url)

namespace LocalizedClientMetadata

def default : LocalizedClientMetadata := ⟨.empty, .empty, .empty, .empty, .empty⟩

def isEmpty (m : LocalizedClientMetadata) : Bool :=
  m.clientName.rows.isEmpty && m.logoUri.rows.isEmpty && m.clientUri.rows.isEmpty &&
    m.policyUri.rows.isEmpty && m.tosUri.rows.isEmpty

end LocalizedClientMetadata

inductive JwksOrJwksUri where
  | jwks (set : String)
  | jwksUri (uri : String)

/-- A client with all that its registration says about it. -/
structure RegisteredClient extends Client where
  (metadataDigest encryptedClientSecret : Option String)
  applicationType : Option ApplicationType
  redirectUris : List Url
  clientName : Option String
  (logoUri clientUri policyUri tosUri : Option Url)
  localizedMetadata : LocalizedClientMetadata
  jwks : Option JwksOrJwksUri
  idTokenSignedResponseAlg : Option JsonWebSignatureAlg
  tokenEndpointAuthMethod : Option OAuthClientAuthenticationMethod
  tokenEndpointAuthSigningAlg : Option JsonWebSignatureAlg
  initiateLoginUri : Option Url

/-- The first localized value may stand for the default; a tag that does not parse is left out. -/
def buildLocalized {α : Type} (languageTag : String → Option String) (nonLocalized : Option α)
    (byLocale : Table String α) : Option (Localized α) :=
  let pairs := byLocale.rows.filterMap (fun r => (languageTag r.1).map (·, r.2))
  match nonLocalized, pairs with
  | some value, pairs => some (.new value pairs)
  | none, (_, first) :: rest => some (.new first rest)
  | none, [] => none

def RegisteredClient.intoMetadata (c : RegisteredClient) (languageTag : String → Option String) :
    ClientMetadata :=
  { ClientMetadata.default with
    redirectUris := some c.redirectUris
    responseTypes := none
    grantTypes := some c.grantTypes
    applicationType := c.applicationType
    clientName := buildLocalized languageTag c.clientName c.localizedMetadata.clientName
    logoUri := buildLocalized languageTag c.logoUri c.localizedMetadata.logoUri
    clientUri := buildLocalized languageTag c.clientUri c.localizedMetadata.clientUri
    policyUri := buildLocalized languageTag c.policyUri c.localizedMetadata.policyUri
    tosUri := buildLocalized languageTag c.tosUri c.localizedMetadata.tosUri
    jwksUri := match c.jwks with
      | some (.jwksUri uri) => some uri
      | _ => none
    jwks := match c.jwks with
      | some (.jwks set) => some set
      | _ => none
    idTokenSignedResponseAlg := c.idTokenSignedResponseAlg
    userinfoSignedResponseAlg := c.userinfoSignedResponseAlg.map JsonWebSignatureAlg.fromStr
    tokenEndpointAuthMethod := c.tokenEndpointAuthMethod
    tokenEndpointAuthSigningAlg := c.tokenEndpointAuthSigningAlg
    initiateLoginUri := c.initiateLoginUri }

end Pasion

import Pasion.Pg.OAuth2Grant

/-! The repository of clients, with the metadata of their registration. -/
namespace Pasion

open Relational

variable {ε : Type} [FromRepository ε]

inductive LocalizableField where
  | clientName
  | logoUri
  | clientUri
  | policyUri
  | tosUri
  deriving DecidableEq

namespace LocalizableField

def asStr : LocalizableField → String
  | clientName => "client_name"
  | logoUri => "logo_uri"
  | clientUri => "client_uri"
  | policyUri => "policy_uri"
  | tosUri => "tos_uri"

def parse (value : String) : Option LocalizableField :=
  [clientName, logoUri, clientUri, policyUri, tosUri].find? (fun field => field.asStr = value)

end LocalizableField

namespace LocalizedClientMetadata

/-- A text that is no URL is dropped. -/
def set (parseUrl : String → Option Url) (m : LocalizedClientMetadata) (field : LocalizableField)
    (locale value : String) : LocalizedClientMetadata :=
  match field with
  | .clientName => { m with clientName := m.clientName.insert locale value }
  | .logoUri => (parseUrl value).elim m (fun url => { m with logoUri := m.logoUri.insert locale url })
  | .clientUri =>
    (parseUrl value).elim m (fun url => { m with clientUri := m.clientUri.insert locale url })
  | .policyUri =>
    (parseUrl value).elim m (fun url => { m with policyUri := m.policyUri.insert locale url })
  | .tosUri => (parseUrl value).elim m (fun url => { m with tosUri := m.tosUri.insert locale url })

/-- One row for each pair of a field and a locale. -/
def newRows (m : LocalizedClientMetadata) (clientId : Ulid) : List LocalizedMetadataRow :=
  m.clientName.rows.map (fun r => ⟨clientId, r.1, LocalizableField.clientName.asStr, r.2⟩) ++
  m.logoUri.rows.map (fun r => ⟨clientId, r.1, LocalizableField.logoUri.asStr, r.2.serialization⟩) ++
  m.clientUri.rows.map
    (fun r => ⟨clientId, r.1, LocalizableField.clientUri.asStr, r.2.serialization⟩) ++
  m.policyUri.rows.map
    (fun r => ⟨clientId, r.1, LocalizableField.policyUri.asStr, r.2.serialization⟩) ++
  m.tosUri.rows.map (fun r => ⟨clientId, r.1, LocalizableField.tosUri.asStr, r.2.serialization⟩)

end LocalizedClientMetadata

/-- The primary key, as one text. -/
def LocalizedMetadataRow.key (r : LocalizedMetadataRow) : String :=
  Ulid.toString r.clientId ++ "/" ++ r.locale ++ "/" ++ r.field

def JwksOrJwksUri.ofColumns (jwks jwksUri : Option String) : Option (Option JwksOrJwksUri) :=
  match jwks, jwksUri with
  | none, none => some none
  | some jwks, none => some (some (.jwks jwks))
  | none, some jwksUri => some (some (.jwksUri jwksUri))
  | some _, some _ => none

def OAuth2ClientRow.toRegisteredClient (r : OAuth2ClientRow) (id : Ulid) :
    Except DatabaseError RegisteredClient :=
  match r.toClient id, JwksOrJwksUri.ofColumns r.jwks r.jwksUri with
  | .error e, _ => .error e
  | .ok _, none => .error (.inconsistency "oauth2_clients" (some "jwks(_uri)") id)
  | .ok client, some jwks => .ok { client with
      metadataDigest := r.metadata.metadataDigest
      encryptedClientSecret := r.metadata.encryptedClientSecret
      applicationType := r.metadata.applicationType
      redirectUris := r.metadata.redirectUris
      clientName := r.metadata.clientName
      logoUri := r.metadata.logoUri
      clientUri := r.metadata.clientUri
      policyUri := r.metadata.policyUri
      tosUri := r.metadata.tosUri
      localizedMetadata := .default
      jwks
      idTokenSignedResponseAlg := r.metadata.idTokenSignedResponseAlg
      tokenEndpointAuthMethod := r.metadata.tokenEndpointAuthMethod
      tokenEndpointAuthSigningAlg := r.metadata.tokenEndpointAuthSigningAlg
      initiateLoginUri := r.metadata.initiateLoginUri }

theorem OAuth2ClientRow.id_toRegisteredClient {r : OAuth2ClientRow} {id : Ulid}
    {c : RegisteredClient} (h : r.toRegisteredClient id = .ok c) : c.id = id := by
  unfold toRegisteredClient toClient at h
  cases hbad : r.badColumn <;> cases hjwks : JwksOrJwksUri.ofColumns r.jwks r.jwksUri <;>
    simp only [hbad, hjwks, reduceCtorEq, Except.ok.injEq] at h
  subst h
  rfl

namespace OAuth2ClientRepository

/-- A field that is not known is skipped. -/
def localizedOf (parseUrl : String → Option Url) (rows : Table String LocalizedMetadataRow)
    (clientId : Ulid) : LocalizedClientMetadata :=
  (rows.select (fun _ r => r.clientId = clientId)).foldl
    (fun m r => (LocalizableField.parse r.2.field).elim m
      (fun field => m.set parseUrl field r.2.locale r.2.value)) .default

def loadLocalizedForClient (parseUrl : String → Option Url) (clientId : Ulid) :
    Repo ε LocalizedClientMetadata :=
  Txn.query (fun db => localizedOf parseUrl db.oauth2ClientLocalizedMetadata clientId)

def withDigest (db : Database) (digest : String) : Option (Ulid × OAuth2ClientRow) :=
  db.oauth2Clients.find? (fun _ r => r.metadata.metadataDigest = some digest)

def findByMetadataDigest (parseUrl : String → Option Url) (digest : String) :
    Repo ε (Option RegisteredClient) := do
  let res ← Repo.fetch (fun db =>
    (withDigest db digest).mapM (fun r => r.2.toRegisteredClient r.1))
  match res with
  | none => pure none
  | some client => do
    let localized ← loadLocalizedForClient parseUrl client.id
    pure (some { client with localizedMetadata := localized })

def lookupRegistered (parseUrl : String → Option Url) (id : Ulid) :
    Repo ε (Option RegisteredClient) := do
  let res ← Repo.fetch (fun db => (db.oauth2Clients.get? id).mapM (·.toRegisteredClient id))
  match res with
  | none => pure none
  | some client => do
    let localized ← loadLocalizedForClient parseUrl client.id
    pure (some { client with localizedMetadata := localized })

/-- The digest has a unique index. -/
def violation (id : Ulid) (metadataDigest : Option String) (db : Database) : Option DatabaseError :=
  if db.oauth2Clients.contains id || metadataDigest.any (fun digest => (withDigest db digest).isSome)
  then some .uniqueViolation else none

/-- The row of a new client; of the grant types it keeps those that have a column. -/
def newRow (columns : ClientMetadataColumns) (grantTypes : List GrantType)
    (jwksUri jwks : Option String) (userinfoSignedResponseAlg : Option JsonWebSignatureAlg) :
    OAuth2ClientRow where
  grantTypeAuthorizationCode := .authorizationCode ∈ grantTypes
  grantTypeRefreshToken := .refreshToken ∈ grantTypes
  grantTypeClientCredentials := .clientCredentials ∈ grantTypes
  grantTypeDeviceCode := some (.deviceCode ∈ grantTypes)
  userinfoSignedResponseAlg := userinfoSignedResponseAlg.map JsonWebSignatureAlg.asStr
  isStatic := some false
  badColumn := if jwks.isSome && jwksUri.isSome then some "jwks(_uri)" else none
  badKeptColumn := none
  jwks
  jwksUri
  metadata := columns

/-- The client in memory has all the grant types, and no digest. -/
def add (id : Ulid) (columns : ClientMetadataColumns) (grantTypes : List GrantType)
    (jwksUri jwks : Option String) (userinfoSignedResponseAlg : Option JsonWebSignatureAlg) :
    Repo ε RegisteredClient := do
  Repo.insert (violation id columns.metadataDigest)
    (.row .oauth2Clients id :: (columns.metadataDigest.map (.unique .oauth2Clients)).toList)
    (fun db => { db with
      oauth2Clients := db.oauth2Clients.insert id
        (newRow columns grantTypes jwksUri jwks userinfoSignedResponseAlg) })
  let jwks ← Txn.ofOption (JwksOrJwksUri.ofColumns jwks jwksUri) (repository .invalidOperation)
  pure {
    id
    clientId := Ulid.toString id
    grantTypes
    userinfoSignedResponseAlg := userinfoSignedResponseAlg.map JsonWebSignatureAlg.asStr
    metadataDigest := none
    encryptedClientSecret := columns.encryptedClientSecret
    applicationType := columns.applicationType
    redirectUris := columns.redirectUris
    clientName := columns.clientName
    logoUri := columns.logoUri
    clientUri := columns.clientUri
    policyUri := columns.policyUri
    tosUri := columns.tosUri
    localizedMetadata := .default
    jwks
    idTokenSignedResponseAlg := columns.idTokenSignedResponseAlg
    tokenEndpointAuthMethod := columns.tokenEndpointAuthMethod
    tokenEndpointAuthSigningAlg := columns.tokenEndpointAuthSigningAlg
    initiateLoginUri := columns.initiateLoginUri }

def replaceLocalizedMetadata (id : Ulid) (metadata : LocalizedClientMetadata) : Repo ε Unit := do
  Repo.statement Repo.unconstrained
    (fun _ => ⟨fun db => { db with
      oauth2ClientLocalizedMetadata :=
        db.oauth2ClientLocalizedMetadata.delete (fun _ r => r.clientId = id) }, []⟩)
    (fun _ => ())
  if (metadata.newRows id).isEmpty then pure ()
  else
    Repo.insert
      (fun db => if db.oauth2Clients.contains id then none else some .foreignKeyViolation) []
      (fun db => { db with
        oauth2ClientLocalizedMetadata := (metadata.newRows id).foldl (fun t r => t.insert r.key r)
          db.oauth2ClientLocalizedMetadata })

end OAuth2ClientRepository
end Pasion

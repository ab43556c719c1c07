import Pasion.Pg.OAuth2Client

/-! The clients of the configuration in the table of clients. -/
namespace Pasion

open Relational

variable {ε : Type} [FromRepository ε]

structure StaticClient where
  clientName : Option String
  clientAuthMethod : OAuthClientAuthenticationMethod
  (encryptedClientSecret jwks jwksUri : Option String)
  redirectUris : List Url

/-- The client that `upsert_static` answers with is made of its arguments alone. -/
def StaticClient.client (c : StaticClient) (id : Ulid) (jwks : Option JwksOrJwksUri) :
    RegisteredClient where
  id
  clientId := Ulid.toString id
  grantTypes := [.authorizationCode, .refreshToken, .clientCredentials]
  userinfoSignedResponseAlg := none
  metadataDigest := none
  encryptedClientSecret := c.encryptedClientSecret
  applicationType := none
  redirectUris := c.redirectUris
  clientName := c.clientName
  logoUri := none
  clientUri := none
  policyUri := none
  tosUri := none
  localizedMetadata := .default
  jwks
  idTokenSignedResponseAlg := none
  tokenEndpointAuthMethod := none
  tokenEndpointAuthSigningAlg := none
  initiateLoginUri := none

namespace OAuth2ClientRow

def setStatic (r : OAuth2ClientRow) (c : StaticClient) : OAuth2ClientRow := { r with
    grantTypeAuthorizationCode := true
    grantTypeRefreshToken := true
    grantTypeClientCredentials := true
    grantTypeDeviceCode := some true
    isStatic := some true
    badColumn := r.badKeptColumn.or
      (if c.jwks.isSome && c.jwksUri.isSome then some "jwks(_uri)" else none)
    jwks := c.jwks
    jwksUri := c.jwksUri
    metadata := { r.metadata with
      encryptedClientSecret := c.encryptedClientSecret
      redirectUris := c.redirectUris
      tokenEndpointAuthMethod := some c.clientAuthMethod
      clientName := c.clientName } }

def newStatic (c : StaticClient) : OAuth2ClientRow where
  grantTypeAuthorizationCode := true
  grantTypeRefreshToken := true
  grantTypeClientCredentials := true
  grantTypeDeviceCode := some true
  userinfoSignedResponseAlg := none
  isStatic := some true
  badColumn := if c.jwks.isSome && c.jwksUri.isSome then some "jwks(_uri)" else none
  badKeptColumn := none
  jwks := c.jwks
  jwksUri := c.jwksUri
  metadata := { ClientMetadataColumns.empty with
    encryptedClientSecret := c.encryptedClientSecret
    redirectUris := c.redirectUris
    tokenEndpointAuthMethod := some c.clientAuthMethod
    clientName := c.clientName }

def upserted (c : StaticClient) (old : Option OAuth2ClientRow) : OAuth2ClientRow :=
  old.elim (newStatic c) (·.setStatic c)

@[simp]
theorem isStatic_upserted (c : StaticClient) (old : Option OAuth2ClientRow) :
    (upserted c old).isStatic = some true := by
  cases old <;> rfl

end OAuth2ClientRow

namespace OAuth2ClientRepository

variable {db db' : Database}

/-- The keys are checked after the row is written. -/
def upsertStatic (clientId : Ulid) (c : StaticClient) : Repo ε RegisteredClient := do
  Repo.insert Repo.unconstrained [.row .oauth2Clients clientId]
    (fun db => { db with
      oauth2Clients := db.oauth2Clients.insert clientId
        (OAuth2ClientRow.upserted c (db.oauth2Clients.get? clientId)) })
  let jwks ← Txn.ofOption (JwksOrJwksUri.ofColumns c.jwks c.jwksUri) (repository .invalidOperation)
  pure (c.client clientId jwks)

/-- The write stands also when the keys are refused. -/
theorem exec_upsertStatic {clientId : Ulid} {c : StaticClient} :
    (upsertStatic clientId c : Repo ε _).exec db =
      ((JwksOrJwksUri.ofColumns c.jwks c.jwksUri).elim (.rolledBack (repository .invalidOperation))
          (fun keys => .committed (c.client clientId keys)),
        { db with
          oauth2Clients := db.oauth2Clients.insert clientId
            (OAuth2ClientRow.upserted c (db.oauth2Clients.get? clientId)) }) := by
  unfold upsertStatic
  rw [Txn.exec_bind, Repo.exec_insert]
  cases hkeys : JwksOrJwksUri.ofColumns c.jwks c.jwksUri <;> rfl

theorem returns_upsertStatic {clientId : Ulid} {c : StaticClient} {client : RegisteredClient} (h : (upsertStatic clientId c : Repo ε _).Returns db client db') :
    db' = { db with
      oauth2Clients := db.oauth2Clients.insert clientId
        (OAuth2ClientRow.upserted c (db.oauth2Clients.get? clientId)) } := by
  unfold Txn.Returns at h
  rw [exec_upsertStatic] at h
  exact (Prod.ext_iff.mp h).2.symm

/-- One row that does not decode fails the whole list. -/
def allStatic (parseUrl : String → Option Url) : Repo ε (List RegisteredClient) := do
  let clients ← Repo.fetch (fun db =>
    (db.oauth2Clients.select (fun _ r => r.isStatic = some true)).mapM
      (fun r => r.2.toRegisteredClient r.1))
  Txn.query (fun db => clients.map (fun client => { client with
    localizedMetadata := localizedOf parseUrl db.oauth2ClientLocalizedMetadata client.id }))

theorem returns_allStatic {parseUrl : String → Option Url} {clients : List RegisteredClient} (h : (allStatic parseUrl : Repo ε _).Returns db clients db') :
    db' = db ∧ ∀ id, id ∈ clients.map (·.id) ↔
      ∃ r, db.oauth2Clients.get? id = some r ∧ r.isStatic = some true := by
  obtain ⟨decoded, hdecoded, h⟩ := Repo.returns_fetch_bind.mp h
  obtain ⟨rfl, rfl⟩ := Txn.returns_query.mp h
  refine ⟨rfl, fun id => ?_⟩
  have hids : (db.oauth2Clients.select (fun _ r => r.isStatic = some true)).map Prod.fst =
      decoded.map (·.id) := by
    rw [← List.forall₂_eq_eq_eq, List.forall₂_map_left_iff, List.forall₂_map_right_iff]
    refine (Fallible.forall₂_of_mapM_eq_ok hdecoded).imp fun r client hclient => ?_
    exact (OAuth2ClientRow.id_toRegisteredClient hclient).symm
  rw [List.map_map]
  change id ∈ decoded.map (·.id) ↔ _
  rw [← hids, List.mem_map]
  constructor
  · rintro ⟨⟨_, r⟩, hr, rfl⟩
    obtain ⟨hr, hstatic⟩ := Table.mem_select.mp hr
    exact ⟨r, hr, of_decide_eq_true hstatic⟩
  · rintro ⟨r, hr, hstatic⟩
    exact ⟨(id, r), Table.mem_select.mpr ⟨hr, decide_eq_true hstatic⟩, rfl⟩

end OAuth2ClientRepository
end Pasion

import Pasion.Pg.ClientColumns
import Pasion.Pg.StaticClients

/-! The clients in texts, as the statements of the repository read and write them. -/
namespace Pasion

open Relational Txn

structure ClientStore where
  clients : Table Ulid OAuth2ClientColumns
  localized : Table String LocalizedMetadataRow

abbrev ClientRepo (α : Type) := Txn ClientStore LockKey DatabaseError α

namespace OAuth2ClientColumns

/-- The `DO UPDATE` of the upsert; the other columns keep what they have. -/
def setStatic (r : OAuth2ClientColumns) (c : StaticClient) (jwksJson : Option String) :
    OAuth2ClientColumns :=
  { r with
    encryptedClientSecret := c.encryptedClientSecret
    redirectUris := c.redirectUris.map Url.serialization
    grantTypeAuthorizationCode := true
    grantTypeRefreshToken := true
    grantTypeClientCredentials := true
    grantTypeDeviceCode := some true
    tokenEndpointAuthMethod := some (OpenEnum.asStr c.clientAuthMethod)
    jwks := jwksJson
    clientName := c.clientName
    jwksUri := c.jwksUri
    isStatic := some true }

def newStatic (c : StaticClient) (jwksJson : Option String) : OAuth2ClientColumns where
  metadataDigest := none
  encryptedClientSecret := c.encryptedClientSecret
  applicationType := none
  redirectUris := c.redirectUris.map Url.serialization
  grantTypeAuthorizationCode := true
  grantTypeRefreshToken := true
  grantTypeClientCredentials := true
  grantTypeDeviceCode := some true
  clientName := c.clientName
  logoUri := none
  clientUri := none
  policyUri := none
  tosUri := none
  jwksUri := c.jwksUri
  jwks := jwksJson
  idTokenSignedResponseAlg := none
  userinfoSignedResponseAlg := none
  tokenEndpointAuthMethod := some (OpenEnum.asStr c.clientAuthMethod)
  tokenEndpointAuthSigningAlg := none
  initiateLoginUri := none
  isStatic := some true

def upserted (c : StaticClient) (jwksJson : Option String) (old : Option OAuth2ClientColumns) :
    OAuth2ClientColumns :=
  old.elim (newStatic c jwksJson) (·.setStatic c jwksJson)

@[simp]
theorem grantTypes_upserted (c : StaticClient) (jwksJson : Option String)
    (old : Option OAuth2ClientColumns) : (upserted c jwksJson old).grantTypes =
      [.authorizationCode, .refreshToken, .clientCredentials, .deviceCode] := by
  cases old <;> rfl

theorem grantTypes_tryFrom {lib : ColumnText} {r : OAuth2ClientColumns} {id : Ulid}
    {client : RegisteredClient} (h : r.tryFrom lib id = .ok client) :
    client.grantTypes = r.grantTypes := by
  obtain ⟨d, -, rfl⟩ := Fallible.map_eq_ok_iff.mp h
  rfl

end OAuth2ClientColumns

theorem JwksOrJwksUri.ofColumns_eq_none {jwks jwksUri : Option String} :
    ofColumns jwks jwksUri = none ↔ jwks.isSome ∧ jwksUri.isSome := by
  cases jwks <;> cases jwksUri <;> simp [ofColumns]

def ClientStore.added (id : Ulid) (columns : ClientMetadataColumns) (grantTypes : List GrantType)
    (jwks : Option JwksOrJwksUri) (userinfoSignedResponseAlg : Option JsonWebSignatureAlg) :
    RegisteredClient where
  id
  clientId := Ulid.toString id
  grantTypes
  userinfoSignedResponseAlg := userinfoSignedResponseAlg.map JsonWebSignatureAlg.asStr
  metadataDigest := none
  encryptedClientSecret := columns.encryptedClientSecret
  applicationType := columns.applicationType
  redirectUris := columns.redirectUris
  clientName := columns.clientName
  logoUri := columns.logoUri
  clientUri := columns.clientUri
  policyUri := columns.policyUri
  tosUri := columns.tosUri
  localizedMetadata := .default
  jwks
  idTokenSignedResponseAlg := columns.idTokenSignedResponseAlg
  tokenEndpointAuthMethod := columns.tokenEndpointAuthMethod
  tokenEndpointAuthSigningAlg := columns.tokenEndpointAuthSigningAlg
  initiateLoginUri := columns.initiateLoginUri

namespace ClientStore

variable (lib : ColumnText)

def violation (id : Ulid) (metadataDigest : Option String) (s : ClientStore) : Bool :=
  s.clients.contains id ||
    metadataDigest.any (fun digest => s.clients.any (fun _ r => r.metadataDigest = some digest))

def lookup (clientId : Ulid) : ClientRepo (Option RegisteredClient) := do
  let res ← Txn.query (fun s => s.clients.get? clientId)
  match res with
  | none => pure none
  | some r => do
    let client ← Txn.ofExcept (r.tryFrom lib clientId) id
    let localized ← Txn.query (fun s =>
      OAuth2ClientRepository.localizedOf lib.parseUrl s.localized clientId)
    pure (some { client with localizedMetadata := localized })

def add (id : Ulid) (columns : ClientMetadataColumns) (grantTypes : List GrantType)
    (jwksUri jwks : Option String) (userinfoSignedResponseAlg : Option JsonWebSignatureAlg) :
    ClientRepo RegisteredClient := do
  let jwksJson ← Txn.ofOption (jwks.mapM lib.jwksToValue) .invalidOperation
  let inserted ← Txn.execute
    (fun s => if violation id columns.metadataDigest s then .idle
      else ⟨fun s => { s with
        clients := s.clients.insert id (OAuth2ClientColumns.newClient columns grantTypes jwksUri
          jwksJson userinfoSignedResponseAlg) },
        .row .oauth2Clients id :: (columns.metadataDigest.map (.unique .oauth2Clients)).toList⟩)
    (fun s => !violation id columns.metadataDigest s)
  Txn.require inserted .uniqueViolation
  let jwks ← Txn.ofOption (JwksOrJwksUri.ofColumns jwks jwksUri) .invalidOperation
  pure (added id columns grantTypes jwks userinfoSignedResponseAlg)

def upsertStatic (clientId : Ulid) (c : StaticClient) : ClientRepo RegisteredClient := do
  let jwksJson ← Txn.ofOption (c.jwks.mapM lib.jwksToValue) .invalidOperation
  Txn.execute
    (fun _ => ⟨fun s => { s with
      clients := s.clients.insert clientId
        (OAuth2ClientColumns.upserted c jwksJson (s.clients.get? clientId)) },
      [.row .oauth2Clients clientId]⟩)
    (fun _ => ())
  let jwks ← Txn.ofOption (JwksOrJwksUri.ofColumns c.jwks c.jwksUri) .invalidOperation
  pure (c.client clientId jwks)

section Add

variable {lib} {id : Ulid} {columns : ClientMetadataColumns} {grantTypes : List GrantType}
  {jwksUri jwks jwksJson : Option String} {userinfoSignedResponseAlg : Option JsonWebSignatureAlg}
variable {s : ClientStore} {client : RegisteredClient}

def inserting (s : ClientStore) (id : Ulid) (r : OAuth2ClientColumns) : ClientStore :=
  { s with clients := s.clients.insert id r }

theorem exec_add (hjson : jwks.mapM lib.jwksToValue = some jwksJson) :
    (add lib id columns grantTypes jwksUri jwks userinfoSignedResponseAlg).exec s =
      if violation id columns.metadataDigest s then (.rolledBack .uniqueViolation, s)
      else ((JwksOrJwksUri.ofColumns jwks jwksUri).elim (.rolledBack .invalidOperation)
          (fun keys => .committed (added id columns grantTypes keys userinfoSignedResponseAlg)),
        s.inserting id (OAuth2ClientColumns.newClient columns grantTypes jwksUri jwksJson
          userinfoSignedResponseAlg)) := by
  unfold add
  rw [hjson]
  by_cases hv : violation id columns.metadataDigest s
  · rw [if_pos hv]
    simp [exec_bind, Txn.execute, Txn.exec, hv, Txn.ofOption, Txn.require, Effect.idle]
  · rw [if_neg hv]
    cases hkeys : JwksOrJwksUri.ofColumns jwks jwksUri <;>
      simp [exec_bind, Txn.execute, Txn.exec, hv, Txn.ofOption, Txn.require, inserting, pure]

theorem of_returns_add {s' : ClientStore} (hjson : jwks.mapM lib.jwksToValue = some jwksJson)
    (h : (add lib id columns grantTypes jwksUri jwks userinfoSignedResponseAlg).Returns s client s') :
    ∃ keys, JwksOrJwksUri.ofColumns jwks jwksUri = some keys ∧
      client = added id columns grantTypes keys userinfoSignedResponseAlg ∧
      s' = s.inserting id (OAuth2ClientColumns.newClient columns grantTypes jwksUri jwksJson
        userinfoSignedResponseAlg) := by
  unfold Txn.Returns at h
  rw [exec_add hjson] at h
  split_ifs at h with hviolation
  · cases h
  · cases hkeys : JwksOrJwksUri.ofColumns jwks jwksUri with
    | none =>
      rw [hkeys] at h
      cases h
    | some keys =>
      rw [hkeys] at h
      cases h
      exact ⟨keys, rfl, rfl, rfl⟩

theorem returns_lookup {r : OAuth2ClientColumns}
    (hget : s.clients.get? id = some r) (htry : r.tryFrom lib id = .ok client) :
    (lookup lib id).Returns s (some { client with
      localizedMetadata := OAuth2ClientRepository.localizedOf lib.parseUrl s.localized id }) s := by
  refine returns_bind.mpr ⟨some r, s, returns_query.mpr ⟨hget, rfl⟩, ?_⟩
  refine returns_ofExcept_bind.mpr ⟨client, htry, ?_⟩
  exact returns_bind.mpr ⟨_, s, returns_query.mpr ⟨rfl, rfl⟩, returns_pure.mpr ⟨rfl, rfl⟩⟩

end Add

section Upsert

variable {lib} {clientId : Ulid} {c : StaticClient} {s : ClientStore}
variable {jwksJson : Option String}

def upserting (s : ClientStore) (clientId : Ulid) (c : StaticClient) (jwksJson : Option String) :
    ClientStore :=
  { s with
    clients := s.clients.insert clientId
      (OAuth2ClientColumns.upserted c jwksJson (s.clients.get? clientId)) }

theorem get?_upserting : (s.upserting clientId c jwksJson).clients.get? clientId =
      some (OAuth2ClientColumns.upserted c jwksJson (s.clients.get? clientId)) := by
  unfold upserting
  rw [Table.get?_insert, if_pos rfl]

/-- The row is written before the keys are looked at. -/
theorem exec_upsertStatic (hjson : c.jwks.mapM lib.jwksToValue = some jwksJson) :
    (upsertStatic lib clientId c).exec s =
      ((JwksOrJwksUri.ofColumns c.jwks c.jwksUri).elim (.rolledBack .invalidOperation)
        (fun jwks => .committed (c.client clientId jwks)), s.upserting clientId c jwksJson) := by
  unfold upsertStatic
  rw [hjson]
  cases hkeys : JwksOrJwksUri.ofColumns c.jwks c.jwksUri <;> rfl

theorem exec_upsertStatic_of_none (hjson : c.jwks.mapM lib.jwksToValue = none) :
    (upsertStatic lib clientId c).exec s = (.rolledBack .invalidOperation, s) := by
  unfold upsertStatic
  rw [hjson]
  rfl

/-- What is found after an upsert has one grant type more than what was returned. -/
theorem grantTypes_of_lookup {found : RegisteredClient} {s' : ClientStore}
    (h : (lookup lib clientId).Returns (s.upserting clientId c jwksJson) (some found) s') :
    found.grantTypes = [.authorizationCode, .refreshToken, .clientCredentials, .deviceCode] := by
  obtain ⟨res, s₁, hquery, h⟩ := returns_bind.mp h
  obtain ⟨hres, rfl⟩ := returns_query.mp hquery
  rw [get?_upserting] at hres
  subst hres
  obtain ⟨client, hclient, h⟩ := returns_ofExcept_bind.mp h
  obtain ⟨localized, s₂, -, h⟩ := returns_bind.mp h
  obtain ⟨hfound, -⟩ := returns_pure.mp h
  have hgrants := OAuth2ClientColumns.grantTypes_tryFrom hclient
  rw [OAuth2ClientColumns.grantTypes_upserted] at hgrants
  rw [← Option.some.inj hfound]
  exact hgrants

/-- The stored row already has all that the upsert writes. -/
structure HasStatic (r : OAuth2ClientColumns) (c : StaticClient) (jwksJson : Option String) :
    Prop where
  encryptedClientSecret : r.encryptedClientSecret = c.encryptedClientSecret
  redirectUris : r.redirectUris = c.redirectUris.map Url.serialization
  grantTypeAuthorizationCode : r.grantTypeAuthorizationCode
  grantTypeRefreshToken : r.grantTypeRefreshToken
  grantTypeClientCredentials : r.grantTypeClientCredentials
  grantTypeDeviceCode : r.grantTypeDeviceCode = some true
  tokenEndpointAuthMethod : r.tokenEndpointAuthMethod = some (OpenEnum.asStr c.clientAuthMethod)
  jwks : r.jwks = jwksJson
  clientName : r.clientName = c.clientName
  jwksUri : r.jwksUri = c.jwksUri
  isStatic : r.isStatic = some true

theorem setStatic_eq_iff {r : OAuth2ClientColumns} :
    r.setStatic c jwksJson = r ↔ HasStatic r c jwksJson := by
  constructor
  · intro h
    rw [← h]
    exact ⟨rfl, rfl, rfl, rfl, rfl, rfl, rfl, rfl, rfl, rfl, rfl⟩
  · intro h
    cases r
    simp only [OAuth2ClientColumns.setStatic, OAuth2ClientColumns.mk.injEq, true_and]
    exact ⟨h.encryptedClientSecret.symm, h.redirectUris.symm, h.grantTypeAuthorizationCode.symm,
      h.grantTypeRefreshToken.symm, h.grantTypeClientCredentials.symm, h.grantTypeDeviceCode.symm,
      h.clientName.symm, h.jwksUri.symm, h.jwks.symm, h.tokenEndpointAuthMethod.symm,
      h.isStatic.symm⟩

end Upsert

/-- What an upsert returns is what a lookup finds, and an upsert that fails leaves the row. -/
def UpsertAgrees (clientId : Ulid) (c : StaticClient) (s : ClientStore) : Prop :=
  (∀ client s', (upsertStatic lib clientId c).Returns s client s' →
    (lookup lib clientId).Returns s' (some client) s') ∧
  ∀ e s', (upsertStatic lib clientId c).exec s = (.rolledBack e, s') →
    s'.clients.get? clientId = s.clients.get? clientId

section Agreement

variable {lib} {clientId : Ulid} {c : StaticClient} {s : ClientStore} {jwksJson : Option String}

theorem not_upsertAgrees {jwks : Option JwksOrJwksUri}
    (hjson : c.jwks.mapM lib.jwksToValue = some jwksJson)
    (hkeys : JwksOrJwksUri.ofColumns c.jwks c.jwksUri = some jwks) :
    ¬UpsertAgrees lib clientId c s := by
  intro h
  have hreturns : (upsertStatic lib clientId c).Returns s (c.client clientId jwks)
      (s.upserting clientId c jwksJson) := by
    unfold Txn.Returns
    rw [exec_upsertStatic hjson, hkeys]
    rfl
  have hgrants := grantTypes_of_lookup (h.1 _ _ hreturns)
  cases hgrants

theorem upsertAgrees_iff_hasStatic (hjson : c.jwks.mapM lib.jwksToValue = some jwksJson)
    (hkeys : JwksOrJwksUri.ofColumns c.jwks c.jwksUri = none) :
    UpsertAgrees lib clientId c s ↔
      ∃ r, s.clients.get? clientId = some r ∧ HasStatic r c jwksJson := by
  have hexec : (upsertStatic lib clientId c).exec s =
      (.rolledBack .invalidOperation, s.upserting clientId c jwksJson) := by
    rw [exec_upsertStatic hjson, hkeys]
    rfl
  have hagrees : UpsertAgrees lib clientId c s ↔
      (s.upserting clientId c jwksJson).clients.get? clientId = s.clients.get? clientId := by
    unfold UpsertAgrees Txn.Returns
    rw [hexec]
    constructor
    · intro h
      exact h.2 _ _ rfl
    · intro h
      constructor
      · intro client s' hreturns
        cases hreturns
      · intro e s' herror
        cases herror
        exact h
  rw [hagrees, get?_upserting]
  cases hrow : s.clients.get? clientId with
  | none => simp
  | some r =>
    rw [Option.some.injEq]
    change r.setStatic c jwksJson = r ↔ _
    rw [setStatic_eq_iff]
    simp

end Agreement

/-- The two agree only where the upsert fails, and there only if it had nothing to write. -/
theorem upsert_agrees_iff (clientId : Ulid) (c : StaticClient) (s : ClientStore) :
    UpsertAgrees lib clientId c s ↔ c.jwks.mapM lib.jwksToValue = none ∨
      c.jwks.isSome ∧ c.jwksUri.isSome ∧ ∃ jwksJson r, c.jwks.mapM lib.jwksToValue = some jwksJson ∧
        s.clients.get? clientId = some r ∧ HasStatic r c jwksJson := by
  cases hjson : c.jwks.mapM lib.jwksToValue with
  | none =>
    refine iff_of_true ⟨?_, ?_⟩ (.inl rfl)
    · intro client s' h
      rw [Txn.Returns, exec_upsertStatic_of_none hjson] at h
      cases h
    · intro e s' h
      rw [exec_upsertStatic_of_none hjson] at h
      cases h
      rfl
  | some jwksJson =>
    cases hkeys : JwksOrJwksUri.ofColumns c.jwks c.jwksUri with
    | some jwks =>
      refine iff_of_false (not_upsertAgrees hjson hkeys) ?_
      rintro (h | ⟨hjwks, huri, -⟩)
      · cases h
      · rw [JwksOrJwksUri.ofColumns_eq_none.mpr ⟨hjwks, huri⟩] at hkeys
        cases hkeys
    | none =>
      obtain ⟨hjwks, huri⟩ := JwksOrJwksUri.ofColumns_eq_none.mp hkeys
      rw [upsertAgrees_iff_hasStatic hjson hkeys]
      constructor
      · rintro ⟨r, hr, hstatic⟩
        exact .inr ⟨hjwks, huri, jwksJson, r, rfl, hr, hstatic⟩
      · rintro (h | ⟨-, -, json, r, hsame, hr, hstatic⟩)
        · cases h
        · cases hsame
          exact ⟨r, hr, hstatic⟩

def anyText : ColumnText where
  parseUrl text := some ⟨text, "https", "", none, none, none, none⟩
  jwksToValue := some
  jwksFromValue := some

def staticClient (jwks jwksUri : Option String) : StaticClient :=
  ⟨some "app", .none, none, jwks, jwksUri, []⟩

/-- The client is found with more than was returned, or refused after its row was written. -/
theorem upserted_client_differs :
    (∃ client s found, (upsertStatic anyText 7 (staticClient none none)).Returns
        ⟨.empty, .empty⟩ client s ∧
      (lookup anyText 7).Returns s (some found) s ∧
      .deviceCode ∈ found.grantTypes ∧ .deviceCode ∉ client.grantTypes) ∧
    ∃ e s, (upsertStatic anyText 7 (staticClient (some "keys") (some "https://a/"))).exec
        ⟨.empty, .empty⟩ = (.rolledBack e, s) ∧
      s.clients.get? 7 ≠ (ClientStore.mk .empty .empty).clients.get? 7 := by
  constructor
  · let s := ClientStore.upserting ⟨.empty, .empty⟩ 7 (staticClient none none) none
    refine ⟨_, s, _, exec_upsertStatic rfl, rfl, by decide, by decide⟩
  · exact ⟨_, _, exec_upsertStatic rfl, by decide⟩

end ClientStore
end Pasion

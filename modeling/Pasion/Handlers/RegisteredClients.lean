import Pasion.Handlers.ClientRegistration
import Pasion.Pg.ClientRefinement
import Pasion.Pg.LocalizedMetadata

/-! What is found again of a client that was registered. -/
namespace Pasion.ClientRegistration

open Relational Table

/-- The grant types that have a column, in the order in which a row is decoded. -/
def columnGrantTypes : List GrantType :=
  [.authorizationCode, .refreshToken, .clientCredentials, .deviceCode]

/-- What stays of a list is the list exactly if it was taken out of the distinct elements. -/
theorem filter_mem_eq_iff {α : Type} [DecidableEq α] {g l : List α} (hl : l.Nodup) :
    l.filter (· ∈ g) = g ↔ g.Sublist l := by
  constructor
  · intro h
    rw [← h]
    exact List.filter_sublist
  · intro h
    have hsub : g.Sublist (l.filter (· ∈ g)) := by
      have hfilter := h.filter (fun a => decide (a ∈ g))
      rwa [List.filter_eq_self.mpr (by simp)] at hfilter
    have hlength : (l.filter (· ∈ g)).length ≤ g.length := by
      refine (List.subperm_of_subset (hl.filter _) ?_).length_le
      intro a ha
      simpa using (List.mem_filter.mp ha).2
    exact (hsub.eq_of_length_le hlength).symm

theorem grantTypes_newRow (columns : ClientMetadataColumns) (grantTypes : List GrantType)
    (jwksUri jwks : Option String) (userinfoSignedResponseAlg : Option JsonWebSignatureAlg) :
    (OAuth2ClientRepository.newRow columns grantTypes jwksUri jwks
      userinfoSignedResponseAlg).grantTypes = columnGrantTypes.filter (· ∈ grantTypes) := by
  unfold OAuth2ClientRow.grantTypes OAuth2ClientRepository.newRow columnGrantTypes
  simp only [List.filter_cons, List.filter_nil, Option.getD_some, decide_eq_true_eq]
  split_ifs <;> rfl

/-- The two agree in what a client may do and how it is known. -/
def SameRegistration (a b : RegisteredClient) : Prop :=
  a.grantTypes = b.grantTypes ∧ a.redirectUris = b.redirectUris ∧ a.jwks = b.jwks ∧
    a.idTokenSignedResponseAlg = b.idTokenSignedResponseAlg ∧
    a.userinfoSignedResponseAlg = b.userinfoSignedResponseAlg ∧
    a.tokenEndpointAuthSigningAlg = b.tokenEndpointAuthSigningAlg ∧
    a.tokenEndpointAuthMethod = b.tokenEndpointAuthMethod ∧ a.clientName = b.clientName

section Lookup

variable {lib : ColumnText} {columns : ClientMetadataColumns} {grantTypes : List GrantType}
  {jwksUri jwks jwksJson : Option String} {userinfoSignedResponseAlg : Option JsonWebSignatureAlg}
  {id : Ulid}

theorem toRegisteredClient_newRow (id : Ulid) (columns : ClientMetadataColumns)
    (grantTypes : List GrantType) (userinfoSignedResponseAlg : Option JsonWebSignatureAlg)
    {keys : Option JwksOrJwksUri} (hkeys : JwksOrJwksUri.ofColumns jwks jwksUri = some keys) :
    (OAuth2ClientRepository.newRow columns grantTypes jwksUri jwks
      userinfoSignedResponseAlg).toRegisteredClient id =
      .ok { ClientStore.added id columns grantTypes keys userinfoSignedResponseAlg with
        grantTypes := columnGrantTypes.filter (· ∈ grantTypes)
        metadataDigest := columns.metadataDigest } := by
  have hone : (jwks.isSome && jwksUri.isSome) = false := by
    cases hjwks : jwks <;> cases huri : jwksUri <;> simp_all [JwksOrJwksUri.ofColumns]
  rw [← grantTypes_newRow columns grantTypes jwksUri jwks userinfoSignedResponseAlg]
  simp only [OAuth2ClientRow.toRegisteredClient, OAuth2ClientRow.toClient,
    OAuth2ClientRepository.newRow, hone, hkeys]
  rfl

theorem returns_lookup_of_add {s s' : ClientStore} {client : RegisteredClient}
    (hread : OAuth2ClientColumns.Readable lib columns jwksUri jwks)
    (h : (ClientStore.add lib id columns grantTypes jwksUri jwks
      userinfoSignedResponseAlg).Returns s client s') :
    client.grantTypes = grantTypes ∧ ∃ localizedMetadata,
      (ClientStore.lookup lib client.id).Returns s' (some { client with
        grantTypes := columnGrantTypes.filter (· ∈ grantTypes)
        metadataDigest := columns.metadataDigest
        localizedMetadata }) s' := by
  obtain ⟨jwksJson, hjson⟩ := OAuth2ClientColumns.exists_jwksJson hread.toReadableKeys
  obtain ⟨keys, hkeys, rfl, rfl⟩ := ClientStore.of_returns_add hjson h
  have hrow := OAuth2ClientColumns.toRow_newClient grantTypes userinfoSignedResponseAlg hread hjson
  have htry := toRegisteredClient_newRow id columns grantTypes userinfoSignedResponseAlg hkeys
  rw [← hrow, OAuth2ClientColumns.toRegisteredClient_toRow] at htry
  refine ⟨rfl, _, ClientStore.returns_lookup ?_ htry⟩
  unfold ClientStore.inserting
  exact (get?_insert _ _ _ _).trans (if_pos rfl)

end Lookup

/-- A new client is found as returned exactly if its grant types are in column order. -/
theorem added_client_found_again_iff (lib : ColumnText) (m : VerifiedClientMetadata) (id : Ulid)
    (digestHash encryptedClientSecret : Option String) (s s' : ClientStore)
    (client : RegisteredClient)
    (hread : OAuth2ClientColumns.Readable lib (columns m digestHash encryptedClientSecret)
      m.inner.jwksUri m.inner.jwks)
    (h : (ClientStore.add lib id (columns m digestHash encryptedClientSecret)
      m.inner.grantTypesOrDefault m.inner.jwksUri m.inner.jwks
      m.inner.userinfoSignedResponseAlg).Returns s client s') :
    ∃ found, (ClientStore.lookup lib client.id).Returns s' (some found) s' ∧
      (SameRegistration client found ↔ m.inner.grantTypesOrDefault.Sublist columnGrantTypes) := by
  obtain ⟨hgrants, localizedMetadata, hlookup⟩ := returns_lookup_of_add hread h
  refine ⟨_, hlookup, ?_⟩
  have hcolumns : columnGrantTypes.Nodup := by decide
  rw [← filter_mem_eq_iff hcolumns]
  constructor
  · rintro ⟨hsame, -⟩
    exact hsame.symm.trans hgrants
  · intro hsame
    exact ⟨hgrants.trans hsame.symm, rfl, rfl, rfl, rfl, rfl, rfl, rfl⟩

def siteText : ColumnText where
  parseUrl text := [siteUrl "callback", siteUrl ""].find? (fun url => url.serialization = text)
  jwksToValue := some
  jwksFromValue := some

def clientOf (grantType : GrantType) (h : (publicClient [grantType] []).collectedErrors = []) :
    VerifiedClientMetadata :=
  ⟨publicClient [grantType] [], h⟩

theorem readable_clientOf {grantType : GrantType}
    (h : (publicClient [grantType] []).collectedErrors = []) :
    OAuth2ClientColumns.Readable siteText (columns (clientOf grantType h) none none) none none where
  jwksUri := nofun
  jwks := nofun
  redirectUris := by
    intro url hurl
    obtain rfl := List.mem_singleton.mp hurl
    unfold ColumnText.Reads
    decide
  logoUri := nofun
  clientUri := by
    intro url hurl
    cases hurl
    unfold ColumnText.Reads
    decide
  policyUri := nofun
  tosUri := nofun
  initiateLoginUri := nofun
  applicationType := nofun
  idTokenSignedResponseAlg := nofun
  tokenEndpointAuthMethod := by
    intro method hmethod
    cases hmethod
    intro v hv
    cases hv
  tokenEndpointAuthSigningAlg := nofun

def addFirst (m : VerifiedClientMetadata) : Outcome DatabaseError RegisteredClient × ClientStore :=
  (ClientStore.add siteText 7 (columns m none none) m.inner.grantTypesOrDefault m.inner.jwksUri
    m.inner.jwks m.inner.userinfoSignedResponseAlg).exec ⟨.empty, .empty⟩

theorem code_client_found_again :
    ∃ client s' found, addFirst (clientOf .authorizationCode (by decide)) = (.committed client, s') ∧
      (ClientStore.lookup siteText client.id).Returns s' (some found) s' ∧
      SameRegistration client found := by
  let m := clientOf .authorizationCode (by decide)
  have hadd : addFirst m = (.committed _, _) := ClientStore.exec_add rfl
  obtain ⟨found, hlookup, hsame⟩ := added_client_found_again_iff siteText m 7 none none
    ⟨.empty, .empty⟩ _ _ (readable_clientOf (by decide)) hadd
  exact ⟨_, _, found, hadd, hlookup, hsame.mpr (by decide)⟩

/-- The client is returned with the grant type of the request and found without any. -/
theorem password_client_found_without_grant : ∃ m client s' found,
      checkRequest plain (body (publicClient [.password] [])) = .ok m ∧
      addFirst m = (.committed client, s') ∧
      (ClientStore.lookup siteText client.id).Returns s' (some found) s' ∧
      client.grantTypes = [.password] ∧ found.grantTypes = [] := by
  let m := clientOf .password (by decide)
  have hcheck : (checkRequest plain (body (publicClient [.password] []))).toOption.any
      (fun m => m.inner = publicClient [.password] []) := by
    decide +kernel
  have hm : checkRequest plain (body (publicClient [.password] [])) = .ok m := by
    cases hm : checkRequest plain (body (publicClient [.password] [])) with
    | error e =>
      rw [hm] at hcheck
      cases hcheck
    | ok m' =>
      rw [hm] at hcheck
      obtain ⟨inner, verified⟩ := m'
      obtain rfl : inner = _ := of_decide_eq_true hcheck
      rfl
  have hadd : addFirst m = (.committed _, _) := ClientStore.exec_add rfl
  obtain ⟨hgrants, localizedMetadata, hlookup⟩ :=
    returns_lookup_of_add (readable_clientOf (by decide)) hadd
  exact ⟨m, _, _, _, hm, hadd, hlookup, hgrants, rfl⟩

section Localized

variable {α : Type} {languageTag : String → Option String} {l : Option (Localized α)}

variable {parseUrl : String → Option Url} {m : VerifiedClientMetadata}

end Localized

end Pasion.ClientRegistration

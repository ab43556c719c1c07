import Pasion.Data.OpenEnum
import Pasion.Pg.OAuth2Client

/-! The columns of a client as the table has them, in texts, and the repository over them. -/
namespace Pasion

open Relational

/-- What reads and writes the texts: the URL parser, and the JSON form of a key set. -/
structure ColumnText where
  parseUrl : String → Option Url
  (jwksToValue jwksFromValue : String → Option String)

def ColumnText.Reads (lib : ColumnText) (url : Url) : Prop :=
  lib.parseUrl url.serialization = some url

structure OAuth2ClientColumns where
  (metadataDigest encryptedClientSecret applicationType : Option String)
  redirectUris : List String
  (grantTypeAuthorizationCode grantTypeRefreshToken grantTypeClientCredentials : Bool)
  grantTypeDeviceCode : Option Bool
  (clientName logoUri clientUri policyUri tosUri jwksUri jwks : Option String)
  (idTokenSignedResponseAlg userinfoSignedResponseAlg tokenEndpointAuthMethod : Option String)
  (tokenEndpointAuthSigningAlg initiateLoginUri : Option String)
  isStatic : Option Bool
  deriving DecidableEq

namespace OAuth2ClientColumns

/-- A text that must parse; the error is the name of its column. -/
def parsed {α β : Type} (parse : α → Option β) (column : String) (value : α) : Except String β :=
  (parse value).elim (.error column) .ok

@[simp]
theorem parsed_eq_ok {α β : Type} {parse : α → Option β} {column : String} {value : α} {b : β} :
    parsed parse column value = .ok b ↔ parse value = some b :=
  Fallible.elim_eq_ok_iff

theorem mapM_parsed_eq_ok {α β : Type} {parse : α → Option β} {column : String} {value : Option α}
    {b : Option β} (h : value.mapM (parsed parse column) = .ok b) : value.bind parse = b := by
  cases value with
  | none => simpa [pure, Except.pure] using h
  | some v =>
    rw [Option.mapM_some, map_eq_pure_bind] at h
    obtain ⟨b', hb, h⟩ := Fallible.bind_eq_ok_iff.mp h
    cases h
    exact parsed_eq_ok.mp hb

/-- The addresses that the configuration does not write. -/
structure KeptUris where
  (logoUri clientUri policyUri tosUri initiateLoginUri : Option Url)

structure Decoded where
  redirectUris : List Url
  kept : KeptUris
  jwks : Option JwksOrJwksUri

section Decoding

variable (lib : ColumnText) (r : OAuth2ClientColumns)

def keptUris : Except String KeptUris := do
  let logoUri ← r.logoUri.mapM (parsed lib.parseUrl "logo_uri")
  let clientUri ← r.clientUri.mapM (parsed lib.parseUrl "client_uri")
  let policyUri ← r.policyUri.mapM (parsed lib.parseUrl "policy_uri")
  let tosUri ← r.tosUri.mapM (parsed lib.parseUrl "tos_uri")
  let initiateLoginUri ← r.initiateLoginUri.mapM (parsed lib.parseUrl "initiate_login_uri")
  pure ⟨logoUri, clientUri, policyUri, tosUri, initiateLoginUri⟩

def keys : Except String (Option JwksOrJwksUri) :=
  match r.jwks, r.jwksUri with
  | none, none => .ok none
  | some jwks, none => (parsed lib.jwksFromValue "jwks" jwks).map (some <| .jwks ·)
  | none, some jwksUri =>
    (parsed lib.parseUrl "jwks_uri" jwksUri).map (some <| .jwksUri ·.serialization)
  | some _, some _ => .error "jwks(_uri)"

/-- The columns are read in this order, and the first that fails is the one reported. -/
def decode : Except String Decoded := do
  let redirectUris ← parsed (·.mapM lib.parseUrl) "redirect_uris" r.redirectUris
  let kept ← r.keptUris lib
  let jwks ← r.keys lib
  pure ⟨redirectUris, kept, jwks⟩

def grantTypes : List GrantType :=
  (if r.grantTypeAuthorizationCode then [.authorizationCode] else []) ++
  (if r.grantTypeRefreshToken then [.refreshToken] else []) ++
  (if r.grantTypeClientCredentials then [.clientCredentials] else []) ++
  (if r.grantTypeDeviceCode.getD false then [.deviceCode] else [])

def client (id : Ulid) (d : Decoded) : RegisteredClient where
  id
  clientId := Ulid.toString id
  grantTypes := r.grantTypes
  userinfoSignedResponseAlg :=
    (r.userinfoSignedResponseAlg.map JsonWebSignatureAlg.fromStr).map JsonWebSignatureAlg.asStr
  metadataDigest := r.metadataDigest
  encryptedClientSecret := r.encryptedClientSecret
  applicationType := r.applicationType.map OpenEnum.fromStr
  redirectUris := d.redirectUris
  clientName := r.clientName
  logoUri := d.kept.logoUri
  clientUri := d.kept.clientUri
  policyUri := d.kept.policyUri
  tosUri := d.kept.tosUri
  localizedMetadata := .default
  jwks := d.jwks
  idTokenSignedResponseAlg := r.idTokenSignedResponseAlg.map OpenEnum.fromStr
  tokenEndpointAuthMethod := r.tokenEndpointAuthMethod.map OpenEnum.fromStr
  tokenEndpointAuthSigningAlg := r.tokenEndpointAuthSigningAlg.map OpenEnum.fromStr
  initiateLoginUri := d.kept.initiateLoginUri

def tryFrom (id : Ulid) : Except DatabaseError RegisteredClient :=
  ((r.decode lib).mapError (fun column => .inconsistency "oauth2_clients" (some column) id)).map
    (r.client id)

end Decoding

section Abstraction

variable {lib : ColumnText} {r : OAuth2ClientColumns}

def failedColumn {α : Type} : Except String α → Option String
  | .error column => some column
  | .ok _ => none

/-- The row with its texts read. What does not parse is left to `badColumn`. -/
def toRow (lib : ColumnText) (r : OAuth2ClientColumns) : OAuth2ClientRow where
  grantTypeAuthorizationCode := r.grantTypeAuthorizationCode
  grantTypeRefreshToken := r.grantTypeRefreshToken
  grantTypeClientCredentials := r.grantTypeClientCredentials
  grantTypeDeviceCode := r.grantTypeDeviceCode
  userinfoSignedResponseAlg := r.userinfoSignedResponseAlg
  isStatic := r.isStatic
  badColumn := failedColumn (r.decode lib)
  badKeptColumn := failedColumn (r.keptUris lib)
  jwks := r.jwks.map (fun value => (lib.jwksFromValue value).getD value)
  jwksUri := r.jwksUri.map (fun text => ((lib.parseUrl text).map Url.serialization).getD text)
  metadata := {
    metadataDigest := r.metadataDigest
    encryptedClientSecret := r.encryptedClientSecret
    applicationType := r.applicationType.map OpenEnum.fromStr
    redirectUris := (r.redirectUris.mapM lib.parseUrl).getD []
    clientName := r.clientName
    logoUri := r.logoUri.bind lib.parseUrl
    clientUri := r.clientUri.bind lib.parseUrl
    policyUri := r.policyUri.bind lib.parseUrl
    tosUri := r.tosUri.bind lib.parseUrl
    idTokenSignedResponseAlg := r.idTokenSignedResponseAlg.map OpenEnum.fromStr
    tokenEndpointAuthMethod := r.tokenEndpointAuthMethod.map OpenEnum.fromStr
    tokenEndpointAuthSigningAlg := r.tokenEndpointAuthSigningAlg.map OpenEnum.fromStr
    initiateLoginUri := r.initiateLoginUri.bind lib.parseUrl }

theorem keptUris_ok {kept : KeptUris} (h : r.keptUris lib = .ok kept) :
    kept = ⟨r.logoUri.bind lib.parseUrl, r.clientUri.bind lib.parseUrl,
      r.policyUri.bind lib.parseUrl, r.tosUri.bind lib.parseUrl,
      r.initiateLoginUri.bind lib.parseUrl⟩ := by
  obtain ⟨logo, hlogo, h⟩ := Fallible.bind_eq_ok_iff.mp h
  obtain ⟨client, hclient, h⟩ := Fallible.bind_eq_ok_iff.mp h
  obtain ⟨policy, hpolicy, h⟩ := Fallible.bind_eq_ok_iff.mp h
  obtain ⟨tos, htos, h⟩ := Fallible.bind_eq_ok_iff.mp h
  obtain ⟨login, hlogin, h⟩ := Fallible.bind_eq_ok_iff.mp h
  rw [mapM_parsed_eq_ok hlogo, mapM_parsed_eq_ok hclient, mapM_parsed_eq_ok hpolicy,
    mapM_parsed_eq_ok htos, mapM_parsed_eq_ok hlogin]
  exact (Except.ok.inj h).symm

theorem keys_ok {jwks : Option JwksOrJwksUri} (h : r.keys lib = .ok jwks) :
    JwksOrJwksUri.ofColumns (r.toRow lib).jwks (r.toRow lib).jwksUri = some jwks := by
  unfold keys at h
  unfold toRow
  cases hjwks : r.jwks with
  | none =>
    cases huri : r.jwksUri with
    | none =>
      simp only [hjwks, huri, Except.ok.injEq] at h
      rw [← h]
      rfl
    | some uri =>
      simp only [hjwks, huri] at h
      obtain ⟨url, hurl, rfl⟩ := Fallible.map_eq_ok_iff.mp h
      rw [parsed_eq_ok] at hurl
      simp [JwksOrJwksUri.ofColumns, hurl]
  | some value =>
    cases huri : r.jwksUri with
    | none =>
      simp only [hjwks, huri] at h
      obtain ⟨set, hset, rfl⟩ := Fallible.map_eq_ok_iff.mp h
      rw [parsed_eq_ok] at hset
      simp [JwksOrJwksUri.ofColumns, hset]
    | some uri => simp [hjwks, huri] at h

theorem decode_ok {d : Decoded} :
    r.decode lib = .ok d ↔ r.redirectUris.mapM lib.parseUrl = some d.redirectUris ∧
      r.keptUris lib = .ok d.kept ∧ r.keys lib = .ok d.jwks := by
  unfold decode
  simp only [Fallible.bind_eq_ok_iff, parsed_eq_ok, pure, Except.pure, Except.ok.injEq]
  constructor
  · rintro ⟨redirectUris, hredirect, kept, hkept, jwks, hjwks, rfl⟩
    exact ⟨hredirect, hkept, hjwks⟩
  · rintro ⟨hredirect, hkept, hjwks⟩
    exact ⟨_, hredirect, _, hkept, _, hjwks, rfl⟩

/-- Reading the texts first and the row afterwards gives the client, or the same error. -/
theorem toRegisteredClient_toRow (id : Ulid) :
    (r.toRow lib).toRegisteredClient id = r.tryFrom lib id := by
  cases hdecode : r.decode lib with
  | error column =>
    have hbad : (r.toRow lib).badColumn = some column := by
      simp [toRow, hdecode, failedColumn]
    simp [OAuth2ClientRow.toRegisteredClient, OAuth2ClientRow.toClient, hbad, tryFrom, hdecode,
      Except.mapError, Except.map]
  | ok d =>
    obtain ⟨hredirect, hkept, hkeys⟩ := decode_ok.mp hdecode
    have hbad : (r.toRow lib).badColumn = none := by
      simp [toRow, hdecode, failedColumn]
    have halg : (r.userinfoSignedResponseAlg.map JsonWebSignatureAlg.fromStr).map
        JsonWebSignatureAlg.asStr = r.userinfoSignedResponseAlg := by
      cases r.userinfoSignedResponseAlg with
      | none => rfl
      | some alg => exact congrArg some (OpenEnum.asStr_fromStr (α := JsonWebSignatureAlg) alg)
    simp only [OAuth2ClientRow.toRegisteredClient, OAuth2ClientRow.toClient, hbad, keys_ok hkeys,
      tryFrom, hdecode, Except.mapError, Except.map, client, halg, keptUris_ok hkept]
    simp [toRow, hredirect]
    rfl

end Abstraction

def newClient (columns : ClientMetadataColumns) (grantTypes : List GrantType)
    (jwksUri jwks : Option String) (userinfoSignedResponseAlg : Option JsonWebSignatureAlg) :
    OAuth2ClientColumns where
  metadataDigest := columns.metadataDigest
  encryptedClientSecret := columns.encryptedClientSecret
  applicationType := columns.applicationType.map OpenEnum.asStr
  redirectUris := columns.redirectUris.map Url.serialization
  grantTypeAuthorizationCode := .authorizationCode ∈ grantTypes
  grantTypeRefreshToken := .refreshToken ∈ grantTypes
  grantTypeClientCredentials := .clientCredentials ∈ grantTypes
  grantTypeDeviceCode := some (.deviceCode ∈ grantTypes)
  clientName := columns.clientName
  logoUri := columns.logoUri.map Url.serialization
  clientUri := columns.clientUri.map Url.serialization
  policyUri := columns.policyUri.map Url.serialization
  tosUri := columns.tosUri.map Url.serialization
  jwksUri
  jwks
  idTokenSignedResponseAlg := columns.idTokenSignedResponseAlg.map OpenEnum.asStr
  userinfoSignedResponseAlg := userinfoSignedResponseAlg.map JsonWebSignatureAlg.asStr
  tokenEndpointAuthMethod := columns.tokenEndpointAuthMethod.map OpenEnum.asStr
  tokenEndpointAuthSigningAlg := columns.tokenEndpointAuthSigningAlg.map OpenEnum.asStr
  initiateLoginUri := columns.initiateLoginUri.map Url.serialization
  isStatic := some false

structure ReadableKeys (lib : ColumnText) (jwksUri jwks : Option String) : Prop where
  jwksUri : ∀ text ∈ jwksUri, ∃ url, lib.parseUrl text = some url ∧ url.serialization = text
  jwks : ∀ set ∈ jwks, ∃ value, lib.jwksToValue set = some value ∧ lib.jwksFromValue value = some set

/-- The values were read from texts of their own, so that they are read back as they are. -/
structure Readable (lib : ColumnText) (columns : ClientMetadataColumns)
    (jwksUri jwks : Option String) : Prop extends ReadableKeys lib jwksUri jwks where
  redirectUris : ∀ url ∈ columns.redirectUris, lib.Reads url
  logoUri : ∀ url ∈ columns.logoUri, lib.Reads url
  clientUri : ∀ url ∈ columns.clientUri, lib.Reads url
  policyUri : ∀ url ∈ columns.policyUri, lib.Reads url
  tosUri : ∀ url ∈ columns.tosUri, lib.Reads url
  initiateLoginUri : ∀ url ∈ columns.initiateLoginUri, lib.Reads url
  applicationType : ∀ value ∈ columns.applicationType, OpenEnum.Canonical value
  idTokenSignedResponseAlg : ∀ value ∈ columns.idTokenSignedResponseAlg, OpenEnum.Canonical value
  tokenEndpointAuthMethod : ∀ value ∈ columns.tokenEndpointAuthMethod, OpenEnum.Canonical value
  tokenEndpointAuthSigningAlg :
    ∀ value ∈ columns.tokenEndpointAuthSigningAlg, OpenEnum.Canonical value

section RoundTrip

variable {lib : ColumnText} {columns : ClientMetadataColumns} {jwksUri jwks value : Option String}

theorem mapM_parseUrl {urls : List Url} (h : ∀ url ∈ urls, lib.Reads url) :
    (urls.map Url.serialization).mapM lib.parseUrl = some urls := by
  induction urls with
  | nil => rfl
  | cons url rest ih =>
    have hurl := h url List.mem_cons_self
    have hrest := ih (fun u hu => h u (List.mem_cons_of_mem _ hu))
    rw [List.map_cons, List.mapM_cons, hurl, hrest]
    rfl

theorem bind_parseUrl {url : Option Url} (h : ∀ u ∈ url, lib.Reads u) :
    (url.map Url.serialization).bind lib.parseUrl = url := by
  cases url with
  | none => rfl
  | some u => exact h u rfl

theorem mapM_parsed_parseUrl {url : Option Url} (h : ∀ u ∈ url, lib.Reads u) (column : String) :
    (url.map Url.serialization).mapM (parsed lib.parseUrl column) = .ok url := by
  cases url with
  | none => rfl
  | some u =>
    have hu : parsed lib.parseUrl column u.serialization = .ok u := parsed_eq_ok.mpr (h u rfl)
    rw [Option.map_some, Option.mapM_some, hu]
    rfl

theorem map_fromStr {α : Type} [OpenEnum α] {value : Option α}
    (h : ∀ v ∈ value, OpenEnum.Canonical v) :
    (value.map OpenEnum.asStr).map OpenEnum.fromStr = value := by
  cases value with
  | none => rfl
  | some v => exact congrArg some (OpenEnum.fromStr_asStr_iff.mpr (h v rfl))

theorem exists_jwksJson (hread : ReadableKeys lib jwksUri jwks) :
    ∃ jwksJson, jwks.mapM lib.jwksToValue = some jwksJson := by
  cases jwks with
  | none => exact ⟨none, rfl⟩
  | some set =>
    obtain ⟨value, hvalue, -⟩ := hread.jwks set rfl
    exact ⟨some value, by simp [hvalue]⟩

section Keys

variable {r : OAuth2ClientColumns} (hread : ReadableKeys lib jwksUri jwks)
  (hvalue : jwks.mapM lib.jwksToValue = some value) (hjwks : r.jwks = value)
  (hjwksUri : r.jwksUri = jwksUri)

include hread hvalue hjwks hjwksUri

theorem toRow_keys : (r.toRow lib).jwks = jwks ∧ (r.toRow lib).jwksUri = jwksUri := by
  unfold toRow
  dsimp only
  rw [hjwks, hjwksUri]
  constructor
  · cases jwks with
    | none =>
      cases hvalue
      rfl
    | some set =>
      obtain ⟨v, hv, hset⟩ := hread.jwks set rfl
      obtain rfl : some v = value := by simpa [hv] using hvalue
      simp [hset]
  · cases jwksUri with
    | none => rfl
    | some text =>
      obtain ⟨url, hurl, htext⟩ := hread.jwksUri text rfl
      simp [hurl, htext]

/-- Only a row with both forms of the keys fails on them. -/
theorem keys_eq :
    r.keys lib = (JwksOrJwksUri.ofColumns jwks jwksUri).elim (.error "jwks(_uri)") .ok := by
  unfold keys
  rw [hjwks, hjwksUri]
  cases jwks with
  | none =>
    cases hvalue
    cases jwksUri with
    | none => rfl
    | some text =>
      obtain ⟨url, hurl, htext⟩ := hread.jwksUri text rfl
      simp [parsed, hurl, htext, JwksOrJwksUri.ofColumns, Except.map]
  | some set =>
    obtain ⟨v, hv, hset⟩ := hread.jwks set rfl
    obtain rfl : some v = value := by simpa [hv] using hvalue
    cases jwksUri with
    | none => simp [parsed, hset, JwksOrJwksUri.ofColumns, Except.map]
    | some text => rfl

end Keys

theorem failedColumn_ofColumns :
    failedColumn ((JwksOrJwksUri.ofColumns jwks jwksUri).elim (.error "jwks(_uri)") .ok) =
      if jwks.isSome && jwksUri.isSome then some "jwks(_uri)" else none := by
  cases jwks <;> cases jwksUri <;> rfl

theorem failedColumn_decode {r : OAuth2ClientColumns} {urls : List Url}
    (hredirect : r.redirectUris.mapM lib.parseUrl = some urls) :
    failedColumn (r.decode lib) =
      (failedColumn (r.keptUris lib)).or (failedColumn (r.keys lib)) := by
  have hparsed : parsed (·.mapM lib.parseUrl) "redirect_uris" r.redirectUris = .ok urls :=
    parsed_eq_ok.mpr hredirect
  unfold decode
  rw [hparsed]
  cases r.keptUris lib with
  | error column => rfl
  | ok kept => cases r.keys lib <;> rfl

variable (grantTypes : List GrantType) (userinfoSignedResponseAlg : Option JsonWebSignatureAlg)

theorem keptUris_newClient (hread : Readable lib columns jwksUri jwks) (value : Option String) :
    (newClient columns grantTypes jwksUri value userinfoSignedResponseAlg).keptUris lib =
      .ok ⟨columns.logoUri, columns.clientUri, columns.policyUri, columns.tosUri,
        columns.initiateLoginUri⟩ := by
  unfold keptUris newClient
  dsimp only
  rw [mapM_parsed_parseUrl hread.logoUri, mapM_parsed_parseUrl hread.clientUri,
    mapM_parsed_parseUrl hread.policyUri, mapM_parsed_parseUrl hread.tosUri,
    mapM_parsed_parseUrl hread.initiateLoginUri]
  rfl

/-- The texts of a new client are read as the row that was meant. -/
theorem toRow_newClient (hread : Readable lib columns jwksUri jwks)
    (hvalue : jwks.mapM lib.jwksToValue = some value) :
    (newClient columns grantTypes jwksUri value userinfoSignedResponseAlg).toRow lib =
      OAuth2ClientRepository.newRow columns grantTypes jwksUri jwks userinfoSignedResponseAlg := by
  let r := newClient columns grantTypes jwksUri value userinfoSignedResponseAlg
  have hredirect : r.redirectUris.mapM lib.parseUrl = some columns.redirectUris :=
    mapM_parseUrl hread.redirectUris
  have hkept : r.keptUris lib = .ok _ :=
    keptUris_newClient grantTypes userinfoSignedResponseAlg hread value
  have hkeys : (r.toRow lib).jwks = jwks ∧ (r.toRow lib).jwksUri = jwksUri :=
    toRow_keys hread.toReadableKeys hvalue rfl rfl
  have hbad : failedColumn (r.decode lib) =
      if jwks.isSome && jwksUri.isSome then some "jwks(_uri)" else none := by
    rw [failedColumn_decode hredirect, hkept, keys_eq hread.toReadableKeys hvalue rfl rfl,
      failedColumn_ofColumns]
    rfl
  have hmetadata : (r.toRow lib).metadata = columns := by
    obtain ⟨digest, secret, application, redirect, name, logo, uri, policy, tos, idToken, method,
      signing, login⟩ := columns
    simp only [toRow, hredirect, ClientMetadataColumns.mk.injEq]
    exact ⟨rfl, rfl, map_fromStr hread.applicationType, rfl, rfl, bind_parseUrl hread.logoUri,
      bind_parseUrl hread.clientUri, bind_parseUrl hread.policyUri, bind_parseUrl hread.tosUri,
      map_fromStr hread.idTokenSignedResponseAlg, map_fromStr hread.tokenEndpointAuthMethod,
      map_fromStr hread.tokenEndpointAuthSigningAlg, bind_parseUrl hread.initiateLoginUri⟩
  have hkeptBad : failedColumn (r.keptUris lib) = none := by
    rw [hkept]
    rfl
  unfold toRow OAuth2ClientRepository.newRow
  rw [OAuth2ClientRow.mk.injEq]
  exact ⟨rfl, rfl, rfl, rfl, rfl, rfl, hbad, hkeptBad, hkeys.1, hkeys.2, hmetadata⟩

end RoundTrip

end OAuth2ClientColumns
end Pasion

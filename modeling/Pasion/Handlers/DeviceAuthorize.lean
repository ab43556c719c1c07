import Pasion.Handlers.ClientAuthorization

/-! The device authorization endpoint, and whether the grant that it stores can be read back. -/
namespace Pasion.DeviceAuthorize

open Relational Txn

inductive RouteError where
  | repository (e : DatabaseError)
  | clientAuthorization (e : ClientAuthorizationError)
  | clientNotFound
  | clientNotAllowed (clientId : Ulid)
  | invalidClientCredentials (clientId : Ulid) (source : CredentialsVerificationError)
  | clientCredentialsVerification (clientId : Ulid) (source : CredentialsVerificationError)

instance : FromRepository RouteError := ⟨.repository⟩

structure DeviceAuthorizationRequest where
  scope : Option Scope

structure DeviceAuthorizationResponse where
  (deviceCode userCode verificationUri : String)
  verificationUriComplete : Option String
  expiresIn : Duration
  interval : Option Duration

/-- The services of the handler and the values that are drawn for one request. -/
structure Env where
  extraction : ExtractionLibraries
  credentials : CredentialsEnv
  parseUlid : String → Option Ulid
  parseUrl : String → Option Url
  deviceCodeLink : String
  deviceCodeLinkFull : String → String
  id : Ulid
  (deviceCodeSample userCodeSample : String)

structure Request extends FormRequest where
  userAgent : Option String
  ipAddress : Option IpAddr

/-- A scope that is present must be one. -/
def deserialize (form : Table String String) : Option DeviceAuthorizationRequest :=
  match form.get? "scope" with
  | none => some ⟨none⟩
  | some text => (Scope.fromStr text).map (fun scope => ⟨some scope⟩)

def verifyCredentials (env : Env) (credentials : Credentials) (client : RegisteredClient) :
    Repo RouteError Unit := do
  let method ← Txn.ofOption client.tokenEndpointAuthMethod (.clientNotAllowed client.id)
  Txn.ofExcept (credentials.verify env.credentials method client) (fun e =>
    if e.isInternal then .clientCredentialsVerification client.id e
    else .invalidClientCredentials client.id e)

def expiresIn : Duration := 20 * 60 * 1000 * 1000

def params (env : Env) (req : Request) (client : RegisteredClient)
    (form : Option DeviceAuthorizationRequest) : OAuth2DeviceCodeGrantParams where
  client := client.toClient
  scope := (form.bind (·.scope)).getD .empty
  deviceCode := env.deviceCodeSample
  userCode := env.userCodeSample.toUpper
  expiresIn
  userAgent := req.userAgent
  ipAddress := req.ipAddress

def handlePost (env : Env) (req : Request) : Repo RouteError DeviceAuthorizationResponse := do
  let authorization ← Txn.ofExcept
    (ClientAuthorization.extractFromRequest env.extraction deserialize req.toFormRequest)
    .clientAuthorization
  let client ← authorization.credentials.fetch env.parseUlid env.parseUrl
  let client ← Txn.ofOption client .clientNotFound
  verifyCredentials env authorization.credentials client
  Txn.require (.deviceCode ∈ client.grantTypes) (.clientNotAllowed client.id)
  let deviceCode ← OAuth2DeviceCodeGrantRepository.add env.credentials.now env.id
    (params env req client authorization.form)
  pure {
    deviceCode := deviceCode.deviceCode
    userCode := deviceCode.userCode
    verificationUri := env.deviceCodeLink
    verificationUriComplete := some (env.deviceCodeLinkFull deviceCode.userCode)
    expiresIn
    interval := some (5 * 1000 * 1000) }

/-- The scope that the request asks for, as the handler understands it. -/
def requestedScope (req : Request) : Scope :=
  if ClientAuthorization.isForm req.toFormRequest then
    ((deserialize req.form).bind (·.scope)).getD .empty
  else .empty

section Rules

variable {env : Env} {req : Request} {db db' : Database} {res : DeviceAuthorizationResponse}
variable {E : Effect Database LockKey → Prop} {client : RegisteredClient}

theorem issues_fetch (credentials : Credentials) :
    (credentials.fetch env.parseUlid env.parseUrl : Repo RouteError _).Issues E := by
  unfold Credentials.fetch
  cases credentials.clientId with
  | none => exact issues_pure _
  | some clientId =>
    change (OAuth2ClientRepository.findByClientId _ _ _ : Repo RouteError _).Issues E
    unfold OAuth2ClientRepository.findByClientId
    cases env.parseUlid clientId with
    | none => exact issues_pure _
    | some id =>
      refine (Repo.issues_fetch _).bind fun found => ?_
      cases found with
      | none => exact issues_pure _
      | some client => exact (issues_query _).bind fun _ => issues_pure _

theorem issues_verifyCredentials (credentials : Credentials) (client : RegisteredClient) : (verifyCredentials env credentials client).Issues E :=
  (issues_ofOption _ _).bind fun _ => issues_ofExcept _ _

theorem scope_params {auth : ClientAuthorization DeviceAuthorizationRequest}
    (h : ClientAuthorization.extractFromRequest env.extraction deserialize req.toFormRequest =
      .ok auth) : (params env req client auth.form).scope = requestedScope req := by
  have hform := ClientAuthorization.form_of_extractFromRequest h
  unfold requestedScope params
  split_ifs at hform ⊢ with hisForm
  · obtain ⟨form, hdeserialize, hauth⟩ := hform
    rw [hdeserialize, hauth]
  · rw [hform]
    rfl

/-- What a request that is accepted has stored. -/
theorem returns_handlePost (h : (handlePost env req).Returns db res db') :
    ∃ client form, (params env req client form).scope = requestedScope req ∧
      res.deviceCode = env.deviceCodeSample ∧ res.userCode = env.userCodeSample.toUpper ∧
      OAuth2DeviceCodeGrantRepository.violation env.id client.id res.deviceCode res.userCode db =
        none ∧
      db' = db.insertDeviceGrant env.id (OAuth2DeviceCodeGrantRepository.newRow
        env.credentials.now (params env req client form)) := by
  obtain ⟨authorization, hextract, h⟩ := returns_ofExcept_bind.mp h
  obtain ⟨found, db₁, hfetch, h⟩ := returns_bind.mp h
  obtain ⟨client, -, h⟩ := returns_ofOption_bind.mp h
  obtain ⟨_, db₂, hverify, h⟩ := returns_bind.mp h
  obtain ⟨-, h⟩ := returns_require_bind.mp h
  obtain ⟨grant, db₃, hadd, h⟩ := returns_bind.mp h
  obtain ⟨hviolation, rfl, rfl⟩ := OAuth2DeviceCodeGrantRepository.returns_add.mp hadd
  obtain ⟨rfl, rfl⟩ := returns_pure.mp h
  -- what comes before the insert only reads
  have hfetched : id db₁ = id db := (issues_fetch authorization.credentials).returns_eq hfetch
  have hverified : id db₂ = id db₁ :=
    (issues_verifyCredentials authorization.credentials client).returns_eq hverify
  obtain rfl : db₁ = db := hfetched
  obtain rfl : db₂ = db₁ := hverified
  exact ⟨client, authorization.form, scope_params hextract, rfl, rfl, hviolation, rfl⟩

/-- The grant as both lookups return it. -/
def ReadsBack (db : Database) (res : DeviceAuthorizationResponse) (scope : Scope) : Prop :=
  ∃ grant, grant.scope = scope ∧ (OAuth2DeviceCodeGrantRepository.findByDeviceCode res.deviceCode :
      Repo RouteError _).Returns db (some grant) db ∧
    (OAuth2DeviceCodeGrantRepository.findByUserCode res.userCode :
      Repo RouteError _).Returns db (some grant) db

theorem readsBack_insert {form : Option DeviceAuthorizationRequest}
    {scope : Scope} (hdevice : res.deviceCode = env.deviceCodeSample)
    (huser : res.userCode = env.userCodeSample.toUpper)
    (hviolation : OAuth2DeviceCodeGrantRepository.violation env.id client.id res.deviceCode
      res.userCode db = none) :
    ReadsBack (db.insertDeviceGrant env.id (OAuth2DeviceCodeGrantRepository.newRow
        env.credentials.now (params env req client form))) res scope ↔
      Scope.fromStr (params env req client form).scope.toString = some scope := by
  obtain ⟨hnoUser, hnoDevice⟩ := OAuth2DeviceCodeGrantRepository.violation_eq_none hviolation
  set row := OAuth2DeviceCodeGrantRepository.newRow env.credentials.now
    (params env req client form) with hrow
  have hfindDevice : (db.insertDeviceGrant env.id row).oauth2DeviceCodeGrant.find?
      (fun _ r => r.deviceCode = res.deviceCode) = some (env.id, row) :=
    Table.find?_insert_of_none (by simp [hrow, hdevice, OAuth2DeviceCodeGrantRepository.newRow,
      params]) hnoDevice
  have hfindUser : (db.insertDeviceGrant env.id row).oauth2DeviceCodeGrant.find?
      (fun _ r => r.userCode = res.userCode) = some (env.id, row) :=
    Table.find?_insert_of_none (by simp [hrow, huser, OAuth2DeviceCodeGrantRepository.newRow,
      params]) hnoUser
  have hdecodes : ∀ grant, (some (env.id, row)).mapM
      (fun r => r.2.toDeviceCodeGrant r.1) = .ok (some grant) ↔
        row.toDeviceCodeGrant env.id = .ok grant := by
    intro grant
    rw [mapM_eq_ok_some]
    exact toOption_eq_some
  unfold ReadsBack OAuth2DeviceCodeGrantRepository.findByDeviceCode
    OAuth2DeviceCodeGrantRepository.findByUserCode
  simp only [Repo.returns_fetch, hfindDevice, hfindUser, hdecodes, and_true, and_self]
  constructor
  · rintro ⟨grant, rfl, hgrant⟩
    obtain ⟨scope, hscope, rfl⟩ := OAuth2DeviceCodeGrantRepository.toDeviceCodeGrant_newRow.mp hgrant
    exact hscope
  · intro hscope
    exact ⟨_, rfl, OAuth2DeviceCodeGrantRepository.toDeviceCodeGrant_newRow.mpr
      ⟨scope, hscope, rfl⟩⟩

theorem requestedScope_ne_empty_iff (h : (handlePost env req).Returns db res db') :
    requestedScope req ≠ .empty ↔
      ClientAuthorization.isForm req.toFormRequest ∧ (req.form.get? "scope").isSome := by
  obtain ⟨authorization, hextract, -⟩ := returns_ofExcept_bind.mp h
  have hform := ClientAuthorization.form_of_extractFromRequest hextract
  unfold requestedScope
  split_ifs at hform ⊢ with hisForm
  · obtain ⟨form, hdeserialize, -⟩ := hform
    rw [hdeserialize]
    unfold deserialize at hdeserialize
    split at hdeserialize
    · next hnone =>
      cases hdeserialize
      simp [hnone]
    · next text htext =>
      obtain ⟨scope, hscope, rfl⟩ := Option.map_eq_some_iff.mp hdeserialize
      simp [htext, hisForm, Scope.ne_empty_of_fromStr hscope]
  · simp [hisForm]

end Rules

/-- An accepted request can be read back exactly when it names a scope. -/
theorem readsBack_iff_scope_given (env : Env) (req : Request) (db db' : Database)
    (res : DeviceAuthorizationResponse) (h : (handlePost env req).Returns db res db') :
    ReadsBack db' res (requestedScope req) ↔
      ClientAuthorization.isForm req.toFormRequest ∧ (req.form.get? "scope").isSome := by
  obtain ⟨client, form, hscope, hdevice, huser, hviolation, rfl⟩ := returns_handlePost h
  rw [readsBack_insert hdevice huser hviolation, hscope, Scope.fromStr_toString_eq_some,
    requestedScope_ne_empty_iff h]

section Example

def exampleEnv : Env where
  extraction := ⟨fun _ => none, fun _ => none, ⟨fun _ => none, fun _ => none, nofun, nofun⟩,
    ⟨fun _ => none, fun _ => none, nofun, nofun⟩⟩
  credentials := Credentials.exampleEnv
  parseUlid _ := some 3
  parseUrl _ := none
  deviceCodeLink := "https://example.org/link"
  deviceCodeLinkFull code := "https://example.org/link?code=" ++ code
  id := 9
  deviceCodeSample := "d"
  userCodeSample := "u"

def publicClient : Database := { Database.empty with
  oauth2Clients := Table.empty.insert 3 (OAuth2ClientRepository.newRow
    { ClientMetadataColumns.empty with tokenEndpointAuthMethod := some .none } [.deviceCode] none
    none none) }

def request (form : Table String String) : Request :=
  ⟨⟨none, some "application/x-www-form-urlencoded", form⟩, none, none⟩

def withScope : Request := request ((Table.empty.insert "client_id" "c").insert "scope" "openid")

def withoutScope : Request := request (Table.empty.insert "client_id" "c")

theorem openid_reads_back : ∃ res db',
    (handlePost exampleEnv withScope).Returns publicClient res db' ∧
      ReadsBack db' res (requestedScope withScope) := by
  obtain ⟨res, hreturns, -⟩ := exists_returns (handlePost exampleEnv withScope) publicClient
    (fun _ => true) (by decide +kernel)
  exact ⟨res, _, hreturns, (readsBack_iff_scope_given _ _ _ _ _ hreturns).mpr (by decide +kernel)⟩

/-- Without a scope the request is accepted, and neither lookup reads the grant. -/
theorem missing_scope_unreadable : ∃ res db',
    (handlePost exampleEnv withoutScope).Returns publicClient res db' ∧
      (∀ grant db'', ¬(OAuth2DeviceCodeGrantRepository.findByDeviceCode res.deviceCode :
        Repo RouteError _).Returns db' grant db'') ∧
      ∀ grant db'', ¬(OAuth2DeviceCodeGrantRepository.findByUserCode res.userCode :
        Repo RouteError _).Returns db' grant db'' := by
  obtain ⟨res, hreturns, hcodes⟩ := exists_returns (handlePost exampleEnv withoutScope)
    publicClient (fun res => res.deviceCode = "d" && res.userCode = "U") (by decide +kernel)
  simp only [Bool.and_eq_true, decide_eq_true_eq] at hcodes
  have hdevice : ¬(OAuth2DeviceCodeGrantRepository.findByDeviceCode "d" :
      Repo RouteError _).Succeeds ((handlePost exampleEnv withoutScope).exec publicClient).2 := by
    rw [succeeds_iff_any]
    decide +kernel
  have huser : ¬(OAuth2DeviceCodeGrantRepository.findByUserCode "U" :
      Repo RouteError _).Succeeds ((handlePost exampleEnv withoutScope).exec publicClient).2 := by
    rw [succeeds_iff_any]
    decide +kernel
  rw [← hcodes.1] at hdevice
  rw [← hcodes.2] at huser
  exact ⟨res, _, hreturns, fun grant db'' h => hdevice ⟨grant, db'', h⟩,
    fun grant db'' h => huser ⟨grant, db'', h⟩⟩

end Example

end Pasion.DeviceAuthorize

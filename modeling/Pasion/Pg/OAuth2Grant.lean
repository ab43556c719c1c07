import Pasion.Pg.OAuth2Session

/-! Repositories of clients, authorization grants and device code grants. -/
namespace Pasion

open Relational Txn

variable {ε : Type} [FromRepository ε]

def OAuth2ClientRow.grantTypes (r : OAuth2ClientRow) : List GrantType :=
  (if r.grantTypeAuthorizationCode then [.authorizationCode] else []) ++
  (if r.grantTypeRefreshToken then [.refreshToken] else []) ++
  (if r.grantTypeClientCredentials then [.clientCredentials] else []) ++
  (if r.grantTypeDeviceCode.getD false then [.deviceCode] else [])

def OAuth2ClientRow.toClient (r : OAuth2ClientRow) (id : Ulid) : Except DatabaseError Client :=
  match r.badColumn with
  | some column => .error (.inconsistency "oauth2_clients" (some column) id)
  | none => .ok ⟨id, Ulid.toString id, r.grantTypes, r.userinfoSignedResponseAlg⟩

def Database.client? (db : Database) (id : Ulid) : Option Client :=
  (db.oauth2Clients.get? id).bind (fun r => (r.toClient id).toOption)

def OAuth2ClientRepository.lookup (id : Ulid) : Repo ε (Option Client) :=
  Repo.fetch (fun db => (db.oauth2Clients.get? id).mapM (·.toClient id))

@[simp]
theorem OAuth2ClientRepository.returns_lookup {id : Ulid} {client : Client} {db db' : Database} :
    (lookup id : Repo ε _).Returns db (some client) db' ↔ db.client? id = some client ∧ db = db' := by
  rw [lookup, Repo.returns_fetch, mapM_eq_ok_some]
  rfl

namespace AuthorizationGrantRow

variable {r : AuthorizationGrantRow}

def inconsistency {α : Type} (column : String) (id : Ulid) : Except DatabaseError α :=
  .error (.inconsistency "oauth2_authorization_grants" (some column) id)

def stage? (r : AuthorizationGrantRow) : Option AuthorizationGrantStage :=
  match r.fulfilledAt, r.exchangedAt, r.cancelledAt, r.oauth2SessionId with
  | none, none, none, none => some .pending
  | some fulfilledAt, none, none, some sessionId => some (.fulfilled sessionId fulfilledAt)
  | some fulfilledAt, some exchangedAt, none, some sessionId =>
    some (.exchanged sessionId fulfilledAt exchangedAt)
  | none, none, some cancelledAt, none => some (.cancelled cancelledAt)
  | _, _, _, _ => none

def pkce? (r : AuthorizationGrantRow) : Option (Option Pkce) :=
  match r.codeChallenge, r.codeChallengeMethod with
  | some challenge, some challengeMethod =>
    if challengeMethod = "plain" then some (some ⟨.plain, challenge⟩)
    else if challengeMethod = "S256" then some (some ⟨.s256, challenge⟩)
    else none
  | none, none => some none
  | _, _ => none

def code? (r : AuthorizationGrantRow) (pkce : Option Pkce) : Option (Option AuthorizationCode) :=
  match r.responseTypeCode, r.authorizationCode, pkce with
  | false, none, none => some none
  | true, some code, pkce => some (some ⟨code, pkce⟩)
  | _, _, _ => none

/-- The columns are decoded in this order, and the first that fails is the one reported. -/
def toAuthorizationGrant (r : AuthorizationGrantRow) (id : Ulid) :
    Except DatabaseError AuthorizationGrant :=
  match Scope.fromStr r.scope, r.stage?, r.pkce? with
  | none, _, _ => inconsistency "scope" id
  | some _, none, _ => inconsistency "stage" id
  | some _, some _, none => inconsistency "code_challenge_method" id
  | some scope, some stage, some pkce =>
    match r.code? pkce with
    | none => inconsistency "authorization_code" id
    | some code =>
      if r.redirectUriIsUrl then .ok {
        id
        stage
        code
        clientId := r.oauth2ClientId
        rawRedirectUri := r.redirectUri
        scope
        state := r.state
        nonce := r.nonce
        responseMode := r.responseMode
        responseTypeIdToken := r.responseTypeIdToken
        createdAt := r.createdAt
        loginHint := r.loginHint
        locale := r.locale }
      else inconsistency "redirect_uri" id

/-- A decoded grant keeps the id, and its stage and code come from the columns. -/
theorem toAuthorizationGrant_ok {id : Ulid} {g : AuthorizationGrant}
    (h : r.toAuthorizationGrant id = .ok g) : g.id = id ∧ r.stage? = some g.stage := by
  unfold toAuthorizationGrant inconsistency at h
  cases hscope : Scope.fromStr r.scope with
  | none => simp [hscope] at h
  | some scope =>
    cases hstage : r.stage? with
    | none => simp [hscope, hstage] at h
    | some stage =>
      cases hpkce : r.pkce? with
      | none => simp [hscope, hstage, hpkce] at h
      | some pkce =>
        cases hcode : r.code? pkce with
        | none => simp [hscope, hstage, hpkce, hcode] at h
        | some code =>
          simp only [hscope, hstage, hpkce, hcode] at h
          split_ifs at h
          cases h
          exact ⟨rfl, rfl⟩

theorem stage?_fulfilled {sessionId : Ulid} {fulfilledAt : Time} :
    r.stage? = some (.fulfilled sessionId fulfilledAt) ↔
      r.fulfilledAt = some fulfilledAt ∧ r.exchangedAt = none ∧ r.cancelledAt = none ∧
        r.oauth2SessionId = some sessionId := by
  unfold stage?
  split <;> simp_all [and_comm]

end AuthorizationGrantRow

namespace DeviceCodeGrantRow

def state? (r : DeviceCodeGrantRow) : Option DeviceCodeGrantState :=
  match r.fulfilledAt, r.rejectedAt, r.exchangedAt, r.userSessionId, r.oauth2SessionId with
  | none, none, none, none, none => some .pending
  | some fulfilledAt, none, none, some userSessionId, none =>
    some (.fulfilled userSessionId fulfilledAt)
  | none, some rejectedAt, none, some userSessionId, none =>
    some (.rejected userSessionId rejectedAt)
  | some fulfilledAt, none, some exchangedAt, some userSessionId, some oauth2SessionId =>
    some (.exchanged userSessionId fulfilledAt exchangedAt oauth2SessionId)
  | _, _, _, _, _ => none

def toDeviceCodeGrant (r : DeviceCodeGrantRow) (id : Ulid) :
    Except DatabaseError DeviceCodeGrant :=
  match Scope.fromStr r.scope, r.state? with
  | none, _ => .error (.inconsistency "oauth2_device_code_grant" (some "scope") id)
  | some _, none => .error (.inconsistency "oauth2_device_code_grant" none id)
  | some scope, some state =>
    .ok ⟨id, state, r.oauth2ClientId, scope, r.userCode, r.deviceCode, r.createdAt, r.expiresAt,
      r.ipAddress, r.userAgent⟩

theorem toDeviceCodeGrant_ok {r : DeviceCodeGrantRow} {id : Ulid} {g : DeviceCodeGrant}
    (h : r.toDeviceCodeGrant id = .ok g) : r.state? = some g.state := by
  unfold toDeviceCodeGrant at h
  split at h
  · cases h
  · cases h
  · next hstate =>
    cases h
    exact hstate

theorem userSessionId_of_fulfilled {r : DeviceCodeGrantRow} {userSessionId : Ulid}
    {fulfilledAt : Time} (h : r.state? = some (.fulfilled userSessionId fulfilledAt)) :
    r.userSessionId = some userSessionId := by
  unfold state? at h
  split at h <;> simp_all

end DeviceCodeGrantRow

def Database.updateGrant (db : Database) (id : Ulid)
    (f : AuthorizationGrantRow → AuthorizationGrantRow) : Database :=
  { db with oauth2AuthorizationGrants := db.oauth2AuthorizationGrants.update id f }

def Database.updateDeviceGrant (db : Database) (id : Ulid)
    (f : DeviceCodeGrantRow → DeviceCodeGrantRow) : Database :=
  { db with oauth2DeviceCodeGrant := db.oauth2DeviceCodeGrant.update id f }

def Database.insertDeviceGrant (db : Database) (id : Ulid) (row : DeviceCodeGrantRow) : Database :=
  { db with oauth2DeviceCodeGrant := db.oauth2DeviceCodeGrant.insert id row }

def Database.grantOf? (db : Database) (code : String) : Option AuthorizationGrant :=
  (db.oauth2AuthorizationGrants.find? (fun _ r => r.authorizationCode = some code)).bind
    (fun r => (r.2.toAuthorizationGrant r.1).toOption)

def Database.deviceGrantOf? (db : Database) (deviceCode : String) : Option DeviceCodeGrant :=
  (db.oauth2DeviceCodeGrant.find? (fun _ r => r.deviceCode = deviceCode)).bind
    (fun r => (r.2.toDeviceCodeGrant r.1).toOption)

namespace OAuth2AuthorizationGrantRepository

def lookup (id : Ulid) : Repo ε (Option AuthorizationGrant) :=
  Repo.fetch (fun db => (db.oauth2AuthorizationGrants.get? id).mapM (·.toAuthorizationGrant id))

def findByCode (code : String) : Repo ε (Option AuthorizationGrant) := Repo.fetch (fun db =>
    (db.oauth2AuthorizationGrants.find? (fun _ r => r.authorizationCode = some code)).mapM
      (fun r => r.2.toAuthorizationGrant r.1))

def fulfill (fulfilledAt : Time) (session : Session) (grant : AuthorizationGrant) :
    Repo ε AuthorizationGrant := do
  Repo.updateRow (fun db => db.oauth2AuthorizationGrants.contains grant.id)
    (fun db => if db.oauth2Sessions.contains session.id then none else some .foreignKeyViolation)
    (.row .oauth2AuthorizationGrants grant.id)
    (·.updateGrant grant.id (fun r => { r with
      fulfilledAt := some fulfilledAt
      oauth2SessionId := some session.id }))
  let stage ← Repo.transition (grant.stage.fulfill fulfilledAt session)
  pure { grant with stage }

/-- The update is keyed on the id of the grant alone; the stage is that of the loaded copy. -/
def exchange (exchangedAt : Time) (grant : AuthorizationGrant) : Repo ε AuthorizationGrant := do
  Repo.updateRow (fun db => db.oauth2AuthorizationGrants.contains grant.id) Repo.unconstrained
    (.row .oauth2AuthorizationGrants grant.id)
    (·.updateGrant grant.id (fun r => { r with exchangedAt := some exchangedAt }))
  let stage ← Repo.transition (grant.stage.exchange exchangedAt)
  pure { grant with stage }

section Rules

variable {now : Time} {session : Session} {grant grant' : AuthorizationGrant} {db db' : Database}

theorem returns_exchange (h : (exchange now grant : Repo ε _).Returns db grant' db') :
    db' = db.updateGrant grant.id (fun r => { r with exchangedAt := some now }) := by
  obtain ⟨-, -, hrest⟩ := Repo.returns_updateRow_bind.mp h
  obtain ⟨_, _, htransition, hpure⟩ := returns_bind.mp hrest
  obtain ⟨-, rfl⟩ := Repo.returns_transition.mp htransition
  exact (returns_pure.mp hpure).2.symm

end Rules

def cleanupIds {R : Type} (since : Option Ulid) (until_ : Ulid) (limit : ℕ) (t : Table Ulid R) :
    List Ulid :=
  (t.keys.filter (fun id => since.all (· < id) && id ≤ until_)).take (limitI64 limit)

def cleanup (since : Option Ulid) (until_ : Ulid) (limit : ℕ) : Repo ε (ℕ × Option Ulid) :=
  let ids (db : Database) := cleanupIds since until_ limit db.oauth2AuthorizationGrants
  Repo.statement Repo.unconstrained
    (fun db => ⟨fun db' => { db' with
        oauth2AuthorizationGrants := db'.oauth2AuthorizationGrants.delete
          (fun id _ => id ∈ ids db) },
      (ids db).map (.row .oauth2AuthorizationGrants)⟩)
    (fun db => ((ids db).length, (ids db).getLast?))

end OAuth2AuthorizationGrantRepository

structure OAuth2DeviceCodeGrantParams where
  client : Client
  scope : Scope
  (deviceCode userCode : String)
  expiresIn : Duration
  userAgent : Option String
  ipAddress : Option IpAddr

namespace OAuth2DeviceCodeGrantRepository

def violation (id clientId : Ulid) (deviceCode userCode : String) (db : Database) :
    Option DatabaseError :=
  if db.oauth2DeviceCodeGrant.contains id then some .uniqueViolation
  else if (db.oauth2DeviceCodeGrant.find? (fun _ r => r.userCode = userCode)).isSome then
    some .uniqueViolation
  else if (db.oauth2DeviceCodeGrant.find? (fun _ r => r.deviceCode = deviceCode)).isSome then
    some .uniqueViolation
  else if !db.oauth2Clients.contains clientId then some .foreignKeyViolation
  else none

def newRow (now : Time) (params : OAuth2DeviceCodeGrantParams) : DeviceCodeGrantRow where
  oauth2ClientId := params.client.id
  scope := params.scope.toString
  deviceCode := params.deviceCode
  userCode := params.userCode
  createdAt := now
  expiresAt := now + params.expiresIn
  fulfilledAt := none
  rejectedAt := none
  exchangedAt := none
  userSessionId := none
  oauth2SessionId := none
  ipAddress := params.ipAddress
  userAgent := params.userAgent

def add (now : Time) (id : Ulid) (params : OAuth2DeviceCodeGrantParams) :
    Repo ε DeviceCodeGrant := do
  Repo.insert (violation id params.client.id params.deviceCode params.userCode)
    [.row .oauth2DeviceCodeGrant id, .unique .oauth2DeviceCodeGrant params.userCode,
      .unique .oauth2DeviceCodeGrant params.deviceCode]
    (·.insertDeviceGrant id (newRow now params))
  pure ⟨id, .pending, params.client.id, params.scope, params.userCode, params.deviceCode, now,
    now + params.expiresIn, params.ipAddress, params.userAgent⟩

def findByUserCode (userCode : String) : Repo ε (Option DeviceCodeGrant) := Repo.fetch (fun db =>
    (db.oauth2DeviceCodeGrant.find? (fun _ r => r.userCode = userCode)).mapM
      (fun r => r.2.toDeviceCodeGrant r.1))

def findByDeviceCode (deviceCode : String) : Repo ε (Option DeviceCodeGrant) :=
  Repo.fetch (fun db =>
    (db.oauth2DeviceCodeGrant.find? (fun _ r => r.deviceCode = deviceCode)).mapM
      (fun r => r.2.toDeviceCodeGrant r.1))

/-- Here the transition comes before the update. -/
def exchange (exchangedAt : Time) (grant : DeviceCodeGrant) (session : Session) :
    Repo ε DeviceCodeGrant := do
  let state ← Repo.transition (grant.state.exchange session exchangedAt)
  Repo.updateRow (fun db => db.oauth2DeviceCodeGrant.contains grant.id)
    (fun db => if db.oauth2Sessions.contains session.id then none else some .foreignKeyViolation)
    (.row .oauth2DeviceCodeGrant grant.id)
    (·.updateDeviceGrant grant.id (fun r => { r with
      exchangedAt := some exchangedAt
      oauth2SessionId := some session.id }))
  pure { grant with state }

section Rules

variable {now : Time} {session : Session} {grant grant' : DeviceCodeGrant} {db db' : Database}
variable {params : OAuth2DeviceCodeGrantParams}

theorem returns_add {id : Ulid} : (add now id params : Repo ε _).Returns db grant db' ↔
      violation id params.client.id params.deviceCode params.userCode db = none ∧
      ⟨id, .pending, params.client.id, params.scope, params.userCode, params.deviceCode, now,
        now + params.expiresIn, params.ipAddress, params.userAgent⟩ = grant ∧
      db.insertDeviceGrant id (newRow now params) = db' := by
  simp [add, and_assoc, and_left_comm]

theorem violation_eq_none {id clientId : Ulid} {deviceCode userCode : String}
    (h : violation id clientId deviceCode userCode db = none) :
    db.oauth2DeviceCodeGrant.find? (fun _ r => r.userCode = userCode) = none ∧
      db.oauth2DeviceCodeGrant.find? (fun _ r => r.deviceCode = deviceCode) = none := by
  unfold violation at h
  split_ifs at h with hid huser hdevice hclient
  exact ⟨by simpa using huser, by simpa using hdevice⟩

theorem toDeviceCodeGrant_newRow {id : Ulid} :
    (newRow now params).toDeviceCodeGrant id = .ok grant ↔
      ∃ scope, Scope.fromStr params.scope.toString = some scope ∧
        ⟨id, .pending, params.client.id, scope, params.userCode, params.deviceCode, now,
          now + params.expiresIn, params.ipAddress, params.userAgent⟩ = grant := by
  have hstate : (newRow now params).state? = some .pending := rfl
  have htext : (newRow now params).scope = params.scope.toString := rfl
  unfold DeviceCodeGrantRow.toDeviceCodeGrant
  rw [hstate, htext]
  cases Scope.fromStr params.scope.toString with
  | none => simp
  | some scope => simp [newRow]

theorem returns_exchange (h : (exchange now grant session : Repo ε _).Returns db grant' db') :
    db' = db.updateDeviceGrant grant.id (fun r => { r with
      exchangedAt := some now
      oauth2SessionId := some session.id }) := by
  obtain ⟨_, _, htransition, hrest⟩ := returns_bind.mp h
  obtain ⟨-, rfl⟩ := Repo.returns_transition.mp htransition
  obtain ⟨-, -, hpure⟩ := Repo.returns_updateRow_bind.mp hrest
  exact (returns_pure.mp hpure).2.symm

end Rules

def cleanup (since : Option Ulid) (until_ : Ulid) (limit : ℕ) : Repo ε (ℕ × Option Ulid) :=
  let ids (db : Database) :=
    OAuth2AuthorizationGrantRepository.cleanupIds since until_ limit db.oauth2DeviceCodeGrant
  Repo.statement Repo.unconstrained
    (fun db => ⟨fun db' => { db' with
        oauth2DeviceCodeGrant := db'.oauth2DeviceCodeGrant.delete (fun id _ => id ∈ ids db) },
      (ids db).map (.row .oauth2DeviceCodeGrant)⟩)
    (fun db => ((ids db).length, (ids db).getLast?))

end OAuth2DeviceCodeGrantRepository

end Pasion

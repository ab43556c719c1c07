import Pasion.Handlers.CodeExchange
import Pasion.Handlers.TokenEffects

/-! Which sessions the grant types issue tokens for, and whether the session or the approval behind
them still is in force. -/
namespace Pasion.Liveness

open Relational TokenEffects Txn Table

variable {x : Services} {env : TokenEnv} {client : Client} {res : AccessTokenResponse}
  {db db' : Database}
variable {grant : AuthorizationGrant}

/-- The session that the issued access token is attached to was not finished in `db`. -/
def OnLiveSession (env : TokenEnv) (db db' : Database) : Prop :=
  ∃ row session, db'.oauth2AccessTokens.get? env.accessTokenId = some row ∧
    db.session? row.oauth2SessionId = some session ∧ session.isValid

/-- The session that the issued access token is attached to is that of the browser session which
approved the device code. In `db` this was not finished, and its user was valid. -/
def ApprovalInForce (env : TokenEnv) (deviceCode : String) (db db' : Database) : Prop :=
  ∃ row session grant browserSession fulfilledAt,
    db'.oauth2AccessTokens.get? env.accessTokenId = some row ∧
    db'.oauth2Sessions.get? row.oauth2SessionId = some session ∧
    session.userSessionId = some browserSession.id ∧
    db.deviceGrantOf? deviceCode = some grant ∧
    grant.state = .fulfilled browserSession.id fulfilledAt ∧
    db.browserSession? browserSession.id = some browserSession ∧
    browserSession.finishedAt = none ∧ browserSession.user.isValid

/-- The row of the session that the grant of the code names. -/
def codeSessionRow? (db : Database) (code : String) : Option OAuth2SessionRow :=
  (db.oauth2AuthorizationGrants.find? (fun _ r => r.authorizationCode = some code)).bind
    (fun r => r.2.oauth2SessionId.bind db.oauth2Sessions.get?)

/-- The rows of the browser session that the device grant names, and of its user. -/
def approvalRows? (db : Database) (deviceCode : String) : Option (UserSessionRow × UserRow) := do
  let grant ← db.oauth2DeviceCodeGrant.find? (fun _ r => r.deviceCode = deviceCode)
  let session ← grant.2.userSessionId.bind db.userSessions.get?
  let user ← db.users.get? session.userId
  pure (session, user)

def inForce (rows : UserSessionRow × UserRow) : Bool :=
  rows.1.finishedAt.isNone && rows.2.lockedAt.isNone && rows.2.deactivatedAt.isNone

theorem get?_issued {sessionId : Ulid} :
    (issueAccess env sessionId db).oauth2AccessTokens.get? env.accessTokenId =
      some (accessRow env sessionId) := by
  simp [issueAccess, Database.insertAccessToken, get?_insert]

theorem get?_revokeAccess {now : Time} {accessTokenId : Option Ulid} {k : Ulid}
    (row : OAuth2AccessTokenRow) (h : db.oauth2AccessTokens.get? k = some row) :
    ∃ row', (revokeAccess now accessTokenId db).oauth2AccessTokens.get? k = some row' ∧
      row'.oauth2SessionId = row.oauth2SessionId := by
  cases accessTokenId with
  | none => exact ⟨row, h, rfl⟩
  | some id =>
    simp only [revokeAccess, Database.updateAccessToken, get?_update, h]
    split_ifs
    · exact ⟨_, rfl, rfl⟩
    · exact ⟨row, rfl, rfl⟩

theorem onLiveSession_of_codeExchanged {session : Session}
    (h : CodeExchanged env db res db' grant session) :
    OnLiveSession env db db' ↔ session.isValid := by
  have hrow : db'.oauth2AccessTokens.get? env.accessTokenId = some (accessRow env session.id) := by
    rw [h.after]
    exact get?_issued
  constructor
  · rintro ⟨row, session', hrow', hloaded, hvalid⟩
    cases hrow.symm.trans hrow'
    cases h.loaded.symm.trans hloaded
    exact hvalid
  · intro hvalid
    exact ⟨_, session, hrow, h.loaded, hvalid⟩

theorem codeSessionRow?_of_fulfilled {code : String} {session : Session} {fulfilledAt : Time}
    (hfound : db.grantOf? code = some grant) (hstage : grant.stage = .fulfilled session.id fulfilledAt)
    (hloaded : db.session? session.id = some session) :
    ∃ row, codeSessionRow? db code = some row ∧ (session.isValid ↔ row.finishedAt = none) := by
  obtain ⟨r, hr, hdecode⟩ := Option.bind_eq_some_iff.mp hfound
  have hstage? := (r.2.toAuthorizationGrant_ok (toOption_eq_some.mp hdecode)).2
  rw [hstage] at hstage?
  obtain ⟨-, -, -, hsessionId⟩ := AuthorizationGrantRow.stage?_fulfilled.mp hstage?
  obtain ⟨-, row, hrow, -, -, hvalid⟩ := Database.session?_eq_some hloaded
  refine ⟨row, ?_, hvalid⟩
  rw [codeSessionRow?, hr, Option.bind_some, hsessionId, Option.bind_some, hrow]

theorem exchangeAuthorizationCode_onLiveSession_iff {request : AuthorizationCodeGrant}
    (h : (exchangeAuthorizationCode x env request client).Returns db res db') :
    OnLiveSession env db db' ↔ (codeSessionRow? db request.code).any (·.finishedAt.isNone) := by
  obtain ⟨grant, session, hfound, hexchanged⟩ := returns_exchangeAuthorizationCode_found h
  obtain ⟨fulfilledAt, hstage⟩ := hexchanged.fulfilled
  obtain ⟨row, hrow, hvalid⟩ := codeSessionRow?_of_fulfilled hfound hstage hexchanged.loaded
  rw [onLiveSession_of_codeExchanged hexchanged, hvalid, hrow, Option.any_some, Option.isNone_iff_eq_none]

theorem handleRefreshToken_onLiveSession {token : String}
    (h : (handleRefreshToken env token client).Returns db res db') : OnLiveSession env db db' := by
  obtain ⟨old, session, db₁, -, hrefreshed⟩ := returns_handleRefreshToken h
  have hid := (Database.session?_eq_some hrefreshed.loaded).1
  -- the access token of the old refresh token is revoked last, and only loses its validity
  have hrow : ∃ row, db'.oauth2AccessTokens.get? env.accessTokenId = some row ∧
      row.oauth2SessionId = session.id := by
    rw [hrefreshed.after]
    refine get?_revokeAccess (accessRow env session.id) ?_
    exact get?_issued
  obtain ⟨row, hrow, hsession⟩ := hrow
  refine ⟨row, session, hrow, ?_, hrefreshed.live⟩
  rw [hsession, hid]
  exact hrefreshed.loaded

theorem approvalRows?_of_approved {deviceCode : String} {row : OAuth2SessionRow}
    {grant : DeviceCodeGrant} {browserSession : BrowserSession}
    (h : DeviceApproved deviceCode db row grant browserSession) :
    ∃ rows, approvalRows? db deviceCode = some rows ∧
      (inForce rows ↔ browserSession.finishedAt = none ∧ browserSession.user.isValid) := by
  obtain ⟨fulfilledAt, hstate⟩ := h.fulfilled
  obtain ⟨r, hr, hdecode⟩ := Option.bind_eq_some_iff.mp h.found
  have hstate? := DeviceCodeGrantRow.toDeviceCodeGrant_ok (toOption_eq_some.mp hdecode)
  rw [hstate] at hstate?
  have hsessionId := DeviceCodeGrantRow.userSessionId_of_fulfilled hstate?
  obtain ⟨-, -, sessionRow, userRow, hsession, huser, hfinished, hvalid⟩ :=
    Database.browserSession?_eq_some h.loaded
  refine ⟨(sessionRow, userRow), ?_, ?_⟩
  · simp [approvalRows?, hr, hsessionId, hsession, huser]
  · simp [inForce, hfinished, hvalid, and_assoc]

/-- The access token and its session, in whatever way the session was opened. -/
theorem get?_opened {db₁ : Database} {row : OAuth2SessionRow} {refreshed : Bool}
    (h : SessionOpened env db res db' db₁ row refreshed) :
    db'.oauth2AccessTokens.get? env.accessTokenId = some (accessRow env env.sessionId) ∧
      db'.oauth2Sessions.get? env.sessionId = some row := by
  obtain ⟨-, -, -, -, -, hsessions⟩ := h.before
  have hrow : db₁.oauth2Sessions.get? env.sessionId = some row := by
    rw [hsessions, get?_insert, if_pos rfl]
  rw [h.after]
  cases refreshed with
  | false => exact ⟨get?_issued, hrow⟩
  | true => exact ⟨get?_issued, hrow⟩

theorem exchangeDeviceCode_approvalInForce_iff {deviceCode : String}
    (h : (exchangeDeviceCode x env deviceCode client).Returns db res db') :
    ApprovalInForce env deviceCode db db' ↔ (approvalRows? db deviceCode).any inForce := by
  obtain ⟨db₁, sessionRow, refreshed, grant, browserSession, hopened, happroved⟩ :=
    returns_exchangeDeviceCode h
  obtain ⟨rows, hrows, hinForce⟩ := approvalRows?_of_approved happroved
  obtain ⟨haccess, hsession⟩ := get?_opened hopened
  obtain ⟨fulfilledAt, hstate⟩ := happroved.fulfilled
  rw [hrows, Option.any_some, hinForce]
  constructor
  · rintro ⟨row', session', grant', browserSession', fulfilledAt', hrow', hsession', huserSession', -,
      -, hloaded', hlive⟩
    cases haccess.symm.trans hrow'
    cases hsession.symm.trans hsession'
    have hid := Option.some.inj (happroved.userSession.symm.trans huserSession')
    rw [← hid, happroved.loaded] at hloaded'
    cases hloaded'
    exact hlive
  · intro hlive
    exact ⟨_, _, grant, browserSession, fulfilledAt, haccess, hsession, happroved.userSession,
      happroved.found, hstate, happroved.loaded, hlive⟩

/-- Refreshing asks for a live session. Exchanging a code asks neither for a live session nor for an
approval that is still in force: whether it is depends on the rows alone. -/
theorem issued_in_force_iff (x : Services) (env : TokenEnv) (client : Client) (db : Database)
    (request : AuthorizationCodeGrant) (token deviceCode : String) :
    (∀ res db', (exchangeAuthorizationCode x env request client).Returns db res db' →
      (OnLiveSession env db db' ↔ (codeSessionRow? db request.code).any (·.finishedAt.isNone))) ∧
    (∀ res db', (handleRefreshToken env token client).Returns db res db' →
      OnLiveSession env db db') ∧
    ∀ res db', (exchangeDeviceCode x env deviceCode client).Returns db res db' →
      (ApprovalInForce env deviceCode db db' ↔ (approvalRows? db deviceCode).any inForce) :=
  ⟨fun _ _ h => exchangeAuthorizationCode_onLiveSession_iff h,
    fun _ _ h => handleRefreshToken_onLiveSession h,
    fun _ _ h => exchangeDeviceCode_approvalInForce_iff h⟩

/-- A code and a device code were approved. Then the user may have logged out and been locked. -/
def approved (endedAt : Option Time) : Database := { Database.empty with
  users := Table.empty.insert 1 ⟨"alice", 0, 0, endedAt, none, false, false, none, none, none⟩
  userSessions := Table.empty.insert 2 ⟨1, 0, endedAt, none, none, none⟩
  oauth2Clients := Table.empty.insert 3 .codeFlow
  oauth2Sessions := Table.empty.insert 4
    ⟨some 1, some 2, 3, ["openid"], 0, endedAt, none, none, none, none⟩
  oauth2AuthorizationGrants := Table.empty.insert 5
    ⟨0, none, some 0, none, "openid", none, none, "https://client/", true, "query", true, false,
      some "code", none, none, none, none, 3, some 4⟩
  oauth2DeviceCodeGrant := Table.empty.insert 6
    ⟨3, "openid", "device", "user", 0, 100, some 0, none, none, some 2, none, none, none⟩ }

def lateRequest : TokenEnv := ⟨2, 300, [1], [1], 10, 11, 12, none⟩

def deviceClient : Client := ⟨3, Ulid.toString 3, [.authorizationCode, .deviceCode], none⟩

def codeRequest : AuthorizationCodeGrant := ⟨"code", some "https://client/", none⟩

theorem approved_returns (endedAt : Option Time) (hended : endedAt = none ∨ endedAt = some 1) :
    (∃ res db', (exchangeAuthorizationCode CodeExchange.agreeable lateRequest codeRequest
      deviceClient).Returns (approved endedAt) res db') ∧
    ∃ res db', (exchangeDeviceCode CodeExchange.agreeable lateRequest "device"
      deviceClient).Returns (approved endedAt) res db' := by
  rcases hended with rfl | rfl <;>
    exact ⟨succeeds_iff_any.mpr (by decide +kernel), succeeds_iff_any.mpr (by decide +kernel)⟩

theorem tokens_while_logged_in :
    (∃ res db', (exchangeAuthorizationCode CodeExchange.agreeable lateRequest codeRequest
      deviceClient).Returns (approved none) res db' ∧ OnLiveSession lateRequest (approved none) db') ∧
    ∃ res db', (exchangeDeviceCode CodeExchange.agreeable lateRequest "device"
      deviceClient).Returns (approved none) res db' ∧
        ApprovalInForce lateRequest "device" (approved none) db' := by
  obtain ⟨⟨res, db', hcode⟩, res', db'', hdevice⟩ := approved_returns none (.inl rfl)
  obtain ⟨hcode_iff, -, hdevice_iff⟩ := issued_in_force_iff CodeExchange.agreeable lateRequest
    deviceClient (approved none) codeRequest "" "device"
  exact ⟨⟨res, db', hcode, (hcode_iff res db' hcode).mpr (by decide +kernel)⟩,
    res', db'', hdevice, (hdevice_iff res' db'' hdevice).mpr (by decide +kernel)⟩

theorem tokens_after_logout :
    (∃ res db', (exchangeAuthorizationCode CodeExchange.agreeable lateRequest codeRequest
      deviceClient).Returns (approved (some 1)) res db' ∧
      ¬OnLiveSession lateRequest (approved (some 1)) db') ∧
    (∃ res db', (exchangeDeviceCode CodeExchange.agreeable lateRequest "device"
      deviceClient).Returns (approved (some 1)) res db' ∧
      ¬ApprovalInForce lateRequest "device" (approved (some 1)) db') := by
  obtain ⟨⟨res, db', hcode⟩, res', db'', hdevice⟩ := approved_returns (some 1) (.inr rfl)
  refine ⟨⟨res, db', hcode, ?_⟩, res', db'', hdevice, ?_⟩
  · rw [exchangeAuthorizationCode_onLiveSession_iff hcode]
    decide +kernel
  · rw [exchangeDeviceCode_approvalInForce_iff hdevice]
    decide +kernel

end Pasion.Liveness

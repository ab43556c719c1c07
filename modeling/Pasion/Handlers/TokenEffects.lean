import Pasion.Handlers.TokenService

/-! What the grant types leave in the database. -/
namespace Pasion.TokenEffects

open Relational Txn Table

def accessRow (env : TokenEnv) (sessionId : Ulid) : OAuth2AccessTokenRow :=
  ⟨sessionId, TokenType.generate .accessToken env.accessTokenBytes, env.now,
    some (env.now + env.accessTokenTtl), none, none⟩

def refreshRow (env : TokenEnv) (sessionId : Ulid) : OAuth2RefreshTokenRow :=
  ⟨TokenType.generate .refreshToken env.refreshTokenBytes, env.now, none, none,
    some env.accessTokenId, sessionId, none⟩

def issueAccess (env : TokenEnv) (sessionId : Ulid) (db : Database) : Database :=
  db.insertAccessToken env.accessTokenId (accessRow env sessionId)

def issueRefresh (env : TokenEnv) (sessionId : Ulid) (db : Database) : Database :=
  db.insertRefreshToken env.refreshTokenId (refreshRow env sessionId)

/-- Neither the id nor the text of the access token about to be issued is taken. -/
structure FreshAccess (env : TokenEnv) (sessionId : Ulid) (db : Database) : Prop where
  id : db.oauth2AccessTokens.get? env.accessTokenId = none
  text : ∀ k r, db.oauth2AccessTokens.get? k = some r →
    r.accessToken ≠ TokenType.generate .accessToken env.accessTokenBytes
  session : db.oauth2Sessions.contains sessionId

structure FreshRefresh (env : TokenEnv) (db : Database) : Prop where
  id : db.oauth2RefreshTokens.get? env.refreshTokenId = none
  text : ∀ k r, db.oauth2RefreshTokens.get? k = some r →
    r.refreshToken ≠ TokenType.generate .refreshToken env.refreshTokenBytes

def touch (sessionId : Ulid) (userAgent : Option String) (db : Database) : Database :=
  match userAgent with
  | some userAgent => db.updateSession sessionId (fun r => { r with userAgent := some userAgent })
  | none => db

def endSession (now : Time) (sessionId : Ulid) (db : Database) : Database :=
  db.updateSession sessionId (fun r => { r with finishedAt := some now })

/-- A session with administrative scopes has a user who may hold them. -/
def MayKeep (db : Database) (session : Session) : Prop :=
  Admin.requiresAdmin session.scope → Admin.mayHoldAdminScope (session.userId.bind db.user?)

section Shared

variable {ε : Type} [FromRepository ε] {env : TokenEnv} {session session' : Session}
  {db db' : Database} {now : Time}
variable {userAgent : Option String} {e : ε}

theorem returns_addAccessToken {t : AccessToken}
    (h : (OAuth2AccessTokenRepository.add env.now env.accessTokenId session
      (TokenType.generate .accessToken env.accessTokenBytes) (some env.accessTokenTtl) :
        Repo ε _).Returns db t db') :
    FreshAccess env session.id db ∧ t.id = env.accessTokenId ∧
      t.accessToken = TokenType.generate .accessToken env.accessTokenBytes ∧
      db' = issueAccess env session.id db := by
  obtain ⟨hviolation, rfl, rfl⟩ := OAuth2AccessTokenRepository.returns_add.mp h
  obtain ⟨hid, htext, hsession⟩ := OAuth2AccessTokenRepository.violation_eq_none hviolation
  exact ⟨⟨hid, htext, hsession⟩, rfl, rfl, rfl⟩

theorem returns_addRefreshToken {accessToken : AccessToken} {t : RefreshToken}
    (haccess : accessToken.id = env.accessTokenId)
    (h : (OAuth2RefreshTokenRepository.add env.now env.refreshTokenId session accessToken
      (TokenType.generate .refreshToken env.refreshTokenBytes) : Repo ε _).Returns db t db') :
    FreshRefresh env db ∧ t.id = env.refreshTokenId ∧
      t.refreshToken = TokenType.generate .refreshToken env.refreshTokenBytes ∧
      db' = issueRefresh env session.id db := by
  obtain ⟨hviolation, rfl, rfl⟩ := OAuth2RefreshTokenRepository.returns_add.mp h
  obtain ⟨hid, htext⟩ := OAuth2RefreshTokenRepository.violation_eq_none hviolation
  refine ⟨⟨hid, htext⟩, rfl, rfl, ?_⟩
  rw [haccess]
  rfl

theorem returns_generateTokenPair {pair : AccessToken × RefreshToken}
    (h : (generateTokenPair env session env.accessTokenTtl : Repo ε _).Returns db pair db') :
    FreshAccess env session.id db ∧ FreshRefresh env db ∧
      pair.1.accessToken = TokenType.generate .accessToken env.accessTokenBytes ∧
      pair.2.refreshToken = TokenType.generate .refreshToken env.refreshTokenBytes ∧
      pair.2.id = env.refreshTokenId ∧
      db' = issueRefresh env session.id (issueAccess env session.id db) := by
  obtain ⟨accessToken, db₁, haccess, hrest⟩ := returns_bind.mp h
  obtain ⟨refreshToken, db₂, hrefresh, hpure⟩ := returns_bind.mp hrest
  obtain ⟨hfresh, hid, htext, rfl⟩ := returns_addAccessToken haccess
  obtain ⟨hfresh', hid', htext', rfl⟩ := returns_addRefreshToken hid hrefresh
  obtain ⟨rfl, rfl⟩ := returns_pure.mp hpure
  exact ⟨hfresh, ⟨hfresh'.id, hfresh'.text⟩, htext, htext', hid', rfl⟩

theorem returns_recordUserAgent
    (h : (recordUserAgent session userAgent : Repo ε _).Returns db session' db') :
    session' = { session with userAgent := userAgent.or session.userAgent } ∧
      db' = touch session.id userAgent db := by
  cases userAgent with
  | none =>
    obtain ⟨rfl, rfl⟩ := returns_pure.mp h
    exact ⟨rfl, rfl⟩
  | some userAgent =>
    obtain ⟨_, _, hupdate, hpure⟩ := returns_bind.mp h
    obtain ⟨-, rfl⟩ := OAuth2SessionRepository.returns_updateSession.mp hupdate
    obtain ⟨rfl, rfl⟩ := returns_pure.mp hpure
    exact ⟨rfl, rfl⟩

omit [FromRepository ε] in
theorem returns_sessionMayKeepAdminScope {allowed : Bool}
    (h : (sessionMayKeepAdminScope session : Repo ε Bool).Returns db allowed db') :
    (allowed → MayKeep db session) ∧ db = db' := by
  unfold sessionMayKeepAdminScope at h
  split_ifs at h with hadmin
  · obtain ⟨rfl, rfl⟩ := returns_pure.mp h
    refine ⟨fun _ hrequires => ?_, rfl⟩
    rw [hrequires] at hadmin
    cases hadmin
  · cases huser : session.userId with
    | none =>
      rw [huser] at h
      obtain ⟨rfl, rfl⟩ := returns_pure.mp h
      exact ⟨fun hfalse => absurd hfalse (by simp [Admin.mayHoldAdminScope]), rfl⟩
    | some userId =>
      rw [huser] at h
      simp only [UserRepository.lookup, returns_bind, returns_query, returns_pure] at h
      obtain ⟨_, _, ⟨rfl, rfl⟩, rfl, rfl⟩ := h
      refine ⟨fun hallowed _ => ?_, rfl⟩
      rw [huser]
      exact hallowed

theorem returns_ensureMayKeepAdminScope {u : Unit}
    (h : (ensureMayKeepAdminScope now session e).Returns db u db') :
    MayKeep db session ∧ db' = db := by
  obtain ⟨allowed, _, hkeep, hrest⟩ := returns_bind.mp h
  obtain ⟨hallowed, rfl⟩ := returns_sessionMayKeepAdminScope hkeep
  cases allowed with
  | true => exact ⟨hallowed rfl, (returns_pure.mp hrest).2.symm⟩
  | false =>
    obtain ⟨_, _, -, hcommit⟩ := returns_bind.mp hrest
    exact absurd hcommit returns_commitError

omit [FromRepository ε] in
theorem savesError_sessionMayKeepAdminScope :
    ¬(sessionMayKeepAdminScope session : Repo ε Bool).SavesError db e db' := by
  unfold sessionMayKeepAdminScope
  split_ifs
  · simp
  · cases session.userId <;> simp [UserRepository.lookup]

/-- The one error that is saved: the session ends. -/
theorem savesError_ensureMayKeepAdminScope {e' : ε}
    (h : (ensureMayKeepAdminScope now session e).SavesError db e' db') :
    db' = endSession now session.id db := by
  rcases savesError_bind.mp h with hkeep | ⟨allowed, _, hkeep, hrest⟩
  · exact absurd hkeep savesError_sessionMayKeepAdminScope
  · obtain ⟨-, rfl⟩ := returns_sessionMayKeepAdminScope hkeep
    cases allowed with
    | true => exact absurd hrest savesError_pure
    | false =>
      rcases savesError_bind.mp hrest with hfinish | ⟨_, _, hfinish, hcommit⟩
      · simp [OAuth2SessionRepository.finish, OAuth2SessionRepository.updateSession] at hfinish
      · obtain ⟨-, -, rfl⟩ := OAuth2SessionRepository.returns_finish.mp hfinish
        exact (savesError_commitError.mp hcommit).2.symm

@[simp]
theorem savesError_recordUserAgent :
    ¬(recordUserAgent session userAgent : Repo ε _).SavesError db e db' := by
  cases userAgent <;>
    simp [recordUserAgent, OAuth2SessionRepository.recordUserAgent,
      OAuth2SessionRepository.updateSession]

@[simp]
theorem savesError_generateTokenPair {ttl : Duration} :
    ¬(generateTokenPair env session ttl : Repo ε _).SavesError db e db' := by
  simp [generateTokenPair, OAuth2AccessTokenRepository.add, OAuth2RefreshTokenRepository.add]

end Shared

section Grants

variable {x : Services} {env : TokenEnv} {client : Client} {res : AccessTokenResponse}
  {db db' : Database}
variable {now : Time} {grant : AuthorizationCodeGrant} {session : Session} {id : Ulid}
  {e : RefreshTokenExchangeError} {t old : RefreshToken}
  {f : OAuth2AccessTokenRow → OAuth2AccessTokenRow} {token deviceCode : String}

theorem returns_fulfilledSessionId {grant : AuthorizationGrant} {sessionId : Ulid}
    (h : (fulfilledSessionId now grant).Returns db sessionId db') :
    (∃ fulfilledAt, grant.stage = .fulfilled sessionId fulfilledAt) ∧ db' = db := by
  unfold fulfilledSessionId at h
  cases hstage : grant.stage with
  | pending => simp [hstage] at h
  | cancelled at_ => simp [hstage] at h
  | exchanged sid fulfilledAt exchangedAt =>
    simp only [hstage] at h
    split_ifs at h
    · simp at h
    · simp at h
  | fulfilled sid fulfilledAt =>
    simp only [hstage] at h
    split_ifs at h
    · simp at h
    · obtain ⟨rfl, rfl⟩ := returns_pure.mp h
      exact ⟨⟨fulfilledAt, rfl⟩, rfl⟩

/-- An exchanged code: the session it stands for gets a pair of tokens, and the grant is marked. -/
structure CodeExchanged (env : TokenEnv) (db : Database) (res : AccessTokenResponse)
    (db' : Database) (grant : AuthorizationGrant) (session : Session) : Prop where
  granted : ∃ code, db.grantOf? code = some grant
  fulfilled : ∃ fulfilledAt, grant.stage = .fulfilled session.id fulfilledAt
  loaded : db.session? session.id = some session
  mayKeep : MayKeep db session
  freshAccess : FreshAccess env session.id (touch session.id env.userAgent db)
  freshRefresh : FreshRefresh env (touch session.id env.userAgent db)
  accessToken : res.accessToken = TokenType.generate .accessToken env.accessTokenBytes
  refreshToken : res.refreshToken = some (TokenType.generate .refreshToken env.refreshTokenBytes)
  after : db' = (issueRefresh env session.id (issueAccess env session.id
    (touch session.id env.userAgent db))).updateGrant grant.id
      (fun r => { r with exchangedAt := some env.now })

theorem mayKeep_touch {userAgent : Option String}
    (h : MayKeep (touch id userAgent db) session) : MayKeep db session := by
  cases userAgent <;> exact h

theorem returns_exchangeAuthorizationCode_found
    (h : (exchangeAuthorizationCode x env grant client).Returns db res db') :
    ∃ authzGrant session, db.grantOf? grant.code = some authzGrant ∧
      CodeExchanged env db res db' authzGrant session := by
  simp only [exchangeAuthorizationCode, OAuth2AuthorizationGrantRepository.findByCode,
    returns_require_bind, Repo.returns_fetch_ofOption, mapM_eq_ok_some] at h
  obtain ⟨-, authzGrant, hgrant, h⟩ := h
  rw [returns_bind] at h
  obtain ⟨sessionId, _, hfulfilled, h⟩ := h
  obtain ⟨hstage, rfl⟩ := returns_fulfilledSessionId hfulfilled
  simp only [OAuth2SessionRepository.lookup, Repo.returns_fetch_ofOption, mapM_eq_ok_some,
    returns_ofExcept_bind] at h
  obtain ⟨session, hloaded, lang, -, deviceName, -, h⟩ := h
  obtain rfl := (Database.session?_eq_some hloaded).1
  rw [returns_bind] at h
  obtain ⟨session', _, hagent, h⟩ := h
  obtain ⟨rfl, rfl⟩ := returns_recordUserAgent hagent
  simp only [returns_ofOption_bind, returns_ofExcept_bind, returns_require_bind] at h
  obtain ⟨code, -, -, -, _, -, h⟩ := h
  rw [returns_bind] at h
  obtain ⟨_, _, hkeep, h⟩ := h
  obtain ⟨hmay, rfl⟩ := returns_ensureMayKeepAdminScope hkeep
  simp only [returns_ofOption_bind] at h
  obtain ⟨userSessionId, -, h⟩ := h
  rw [returns_bind] at h
  obtain ⟨found, _, hbrowser, h⟩ := h
  simp only [returns_ofOption_bind, BrowserSessionRepository.getLastAuthentication,
    Repo.returns_fetch_bind] at h
  obtain ⟨browserSession, rfl, lastAuthentication, -, h⟩ := h
  obtain ⟨-, rfl⟩ := BrowserSessionRepository.returns_lookup.mp hbrowser
  rw [returns_bind] at h
  obtain ⟨pair, _, hpair, h⟩ := h
  obtain ⟨hfreshA, hfreshR, haccess, hrefresh, -, rfl⟩ := returns_generateTokenPair hpair
  simp only [returns_ofExcept_bind] at h
  obtain ⟨idToken, -, h⟩ := h
  rw [returns_bind] at h
  obtain ⟨_, _, hlock, h⟩ := h
  obtain rfl := UserRepository.returns_acquireLockForSync.mp hlock
  simp only [returns_ofExcept_bind] at h
  obtain ⟨_, -, h⟩ := h
  rw [returns_bind] at h
  obtain ⟨_, _, hexchange, hpure⟩ := h
  obtain rfl := OAuth2AuthorizationGrantRepository.returns_exchange hexchange
  obtain ⟨rfl, rfl⟩ := returns_pure.mp hpure
  exact ⟨authzGrant, session, hgrant, ⟨_, hgrant⟩, hstage, hloaded, mayKeep_touch hmay, hfreshA,
    hfreshR, haccess, congrArg some hrefresh, rfl⟩

theorem returns_exchangeAuthorizationCode
    (h : (exchangeAuthorizationCode x env grant client).Returns db res db') :
    ∃ authzGrant session, CodeExchanged env db res db' authzGrant session := by
  obtain ⟨authzGrant, session, -, hexchanged⟩ := returns_exchangeAuthorizationCode_found h
  exact ⟨authzGrant, session, hexchanged⟩

theorem savesError_fulfilledSessionId {grant : AuthorizationGrant}
    {e : AuthorizationCodeExchangeError} (h : (fulfilledSessionId now grant).SavesError db e db') :
    ∃ sessionId, db' = endSession now sessionId db := by
  unfold fulfilledSessionId at h
  cases hstage : grant.stage with
  | pending => simp [hstage] at h
  | cancelled at_ => simp [hstage] at h
  | exchanged sid fulfilledAt exchangedAt =>
    simp only [hstage] at h
    split_ifs at h
    · simp only [OAuth2SessionRepository.lookup, Repo.savesError_fetch_bind,
        savesError_ofOption_bind] at h
      obtain ⟨_, -, session, -, h⟩ := h
      rcases savesError_bind.mp h with hfinish | ⟨_, _, hfinish, hcommit⟩
      · simp [OAuth2SessionRepository.finish, OAuth2SessionRepository.updateSession] at hfinish
      · obtain ⟨-, -, rfl⟩ := OAuth2SessionRepository.returns_finish.mp hfinish
        exact ⟨session.id, (savesError_commitError.mp hcommit).2.symm⟩
    · simp at h
  | fulfilled sid fulfilledAt =>
    simp only [hstage] at h
    split_ifs at h <;> simp at h

/-- A failed exchange that is saved has ended a session. -/
theorem savesError_exchangeAuthorizationCode {e : AuthorizationCodeExchangeError}
    (h : (exchangeAuthorizationCode x env grant client).SavesError db e db') :
    ∃ sessionId userAgent, db' = endSession env.now sessionId (touch sessionId userAgent db) := by
  simp only [exchangeAuthorizationCode, OAuth2AuthorizationGrantRepository.findByCode,
    savesError_require_bind, Repo.savesError_fetch_bind, savesError_ofOption_bind] at h
  obtain ⟨-, _, -, authzGrant, -, h⟩ := h
  rw [savesError_bind] at h
  rcases h with hfulfilled | ⟨sessionId, _, hfulfilled, h⟩
  · obtain ⟨sessionId, hafter⟩ := savesError_fulfilledSessionId hfulfilled
    exact ⟨sessionId, none, hafter⟩
  obtain ⟨-, rfl⟩ := returns_fulfilledSessionId hfulfilled
  simp only [OAuth2SessionRepository.lookup, Repo.savesError_fetch_bind,
    savesError_ofOption_bind, savesError_ofExcept_bind] at h
  obtain ⟨_, -, session, -, lang, -, deviceName, -, h⟩ := h
  rw [savesError_bind] at h
  rcases h with hagent | ⟨session', _, hagent, h⟩
  · exact absurd hagent savesError_recordUserAgent
  obtain ⟨rfl, rfl⟩ := returns_recordUserAgent hagent
  simp only [savesError_ofOption_bind, savesError_ofExcept_bind, savesError_require_bind] at h
  obtain ⟨code, -, -, -, _, -, h⟩ := h
  rw [savesError_bind] at h
  rcases h with hkeep | ⟨_, _, hkeep, h⟩
  · have hafter := savesError_ensureMayKeepAdminScope hkeep
    exact ⟨session.id, env.userAgent, hafter⟩
  -- nothing after the check saves an error
  · simp [BrowserSessionRepository.getLastAuthentication, UserRepository.acquireLockForSync,
      OAuth2AuthorizationGrantRepository.exchange] at h

/-- The tokens that replaced a consumed refresh token, while nobody has used them. -/
structure Successor (db : Database) (old next : RefreshToken) (accessToken : AccessToken) :
    Prop where
  pointed : old.state.nextRefreshTokenId = some next.id
  loaded : db.refreshToken? next.id = some next
  valid : next.isValid
  access : next.accessTokenId = some accessToken.id
  loadedAccess : db.accessToken? accessToken.id = some accessToken
  unused : accessToken.isUsed = false
  unrevoked : accessToken.state = .valid

/-- What becomes of the successor of a refresh token that is presented. -/
inductive SuccessorGone (now : Time) (old : RefreshToken) (db : Database) : Database → Prop where
  | none (hvalid : old.isValid) : SuccessorGone now old db db
  | revoked {next : RefreshToken} {accessToken : AccessToken}
      (hsuccessor : Successor db old next accessToken) :
      SuccessorGone now old db
        ((db.updateAccessToken accessToken.id (fun r => { r with revokedAt := some now
          })).updateRefreshToken next.id (fun r => { r with revokedAt := some now }))

theorem id_of_accessToken? {t : AccessToken} (h : db.accessToken? id = some t) : t.id = id := by
  obtain ⟨r, -, rfl⟩ := Option.map_eq_some_iff.mp h
  rfl

theorem id_of_refreshToken? (h : db.refreshToken? id = some t) : t.id = id := by
  obtain ⟨r, -, hdecode⟩ := Option.bind_eq_some_iff.mp h
  exact (r.toRefreshToken_ok (toOption_eq_some.mp hdecode)).1

theorem valid_of_revoke {t t' : AccessToken} (h : t.revoke now = .ok t') : t.state = .valid := by
  unfold AccessToken.revoke AccessTokenState.revoke at h
  cases hstate : t.state with
  | valid => rfl
  | revoked at_ => simp [hstate, Except.map] at h

theorem returns_revokeLostSuccessor {u : Unit}
    (h : (revokeLostSuccessor now old).Returns db u db') : SuccessorGone now old db db' := by
  unfold revokeLostSuccessor at h
  split_ifs at h with hvalid
  · obtain ⟨-, rfl⟩ := returns_pure.mp h
    exact .none hvalid
  · simp only [revokeUnusedSuccessor, OAuth2RefreshTokenRepository.lookup,
      OAuth2AccessTokenRepository.lookup, returns_ofOption_bind, Repo.returns_fetch_ofOption,
      mapM_eq_ok_some, returns_require_bind, returns_query_bind] at h
    obtain ⟨nextId, hnext, next, hloaded, hnextValid, accessTokenId, haccess, accessToken, hfound,
      hunused, h⟩ := h
    simp only [returns_bind, returns_pure, OAuth2AccessTokenRepository.returns_revoke,
      OAuth2RefreshTokenRepository.returns_revoke] at h
    obtain ⟨_, _, ⟨-, hrevoke, rfl⟩, _, _, ⟨-, -, rfl⟩, -, rfl⟩ := h
    obtain rfl := id_of_refreshToken? hloaded
    obtain rfl := id_of_accessToken? hfound
    exact .revoked ⟨hnext, hloaded, hnextValid, haccess, hfound, by simpa using hunused,
      valid_of_revoke hrevoke⟩

/-- Revokes an access token that is there and not revoked. -/
def revokeAccess (now : Time) (accessTokenId : Option Ulid) (db : Database) : Database :=
  match accessTokenId with
  | some id => db.updateAccessToken id (fun r => { r with revokedAt := r.revokedAt.or (some now) })
  | none => db

theorem updateAccessToken_congr {g : OAuth2AccessTokenRow → OAuth2AccessTokenRow}
    (h : ∀ r, db.oauth2AccessTokens.get? id = some r → f r = g r) :
    db.updateAccessToken id f = db.updateAccessToken id g := by
  unfold Database.updateAccessToken
  rw [update_congr h]

theorem updateAccessToken_eq_self (h : ∀ r, db.oauth2AccessTokens.get? id = some r → f r = r) :
    db.updateAccessToken id f = db := by
  unfold Database.updateAccessToken
  rw [update_congr h, update_id]

theorem returns_revokeAccessTokenOf {u : Unit} (h : (revokeAccessTokenOf now t).Returns db u db') :
    db' = revokeAccess now t.accessTokenId db := by
  unfold revokeAccessTokenOf at h
  unfold revokeAccess
  cases hid : t.accessTokenId with
  | none =>
    rw [hid] at h
    exact (returns_pure.mp h).2.symm
  | some id =>
    simp only [hid, OAuth2AccessTokenRepository.lookup, returns_bind, returns_query] at h
    obtain ⟨_, _, ⟨rfl, rfl⟩, hrest⟩ := h
    cases hrow : db.oauth2AccessTokens.get? id with
    | none =>
      rw [show db.accessToken? id = none by simp [Database.accessToken?, hrow]] at hrest
      dsimp only
      rw [updateAccessToken_eq_self (by simp [hrow])]
      exact (returns_pure.mp hrest).2.symm
    | some r =>
      rw [show db.accessToken? id = some (r.toAccessToken id) by
        simp [Database.accessToken?, hrow]] at hrest
      unfold revokeUnlessRevoked at hrest
      cases hrevoked : r.revokedAt with
      | some at_ =>
        simp only [OAuth2AccessTokenRow.toAccessToken, hrevoked, AccessTokenState.isRevoked,
          if_true] at hrest
        refine (returns_pure.mp hrest).2.symm.trans (updateAccessToken_eq_self ?_).symm
        intro r' hr'
        cases hrow.symm.trans hr'
        rw [hrevoked, Option.some_or, ← hrevoked]
      | none =>
        simp only [OAuth2AccessTokenRow.toAccessToken, hrevoked, AccessTokenState.isRevoked,
          Bool.false_eq_true, if_false, returns_bind,
          OAuth2AccessTokenRepository.returns_revoke, returns_pure] at hrest
        obtain ⟨_, _, ⟨-, -, rfl⟩, -, rfl⟩ := hrest
        exact updateAccessToken_congr (by simp [hrow, hrevoked])

/-- The lost successor goes, a new pair is issued, and the old token points to the new one. -/
structure Refreshed (env : TokenEnv) (db : Database) (res : AccessTokenResponse) (db' : Database)
    (old : RefreshToken) (session : Session) (db₁ : Database) : Prop where
  presented : ∃ token, db.refreshTokenOf? token = some old
  loaded : db.session? old.sessionId = some session
  live : session.isValid
  mayKeep : MayKeep db session
  successor : SuccessorGone env.now old (touch session.id env.userAgent db) db₁
  freshAccess : FreshAccess env session.id db₁
  freshRefresh : FreshRefresh env db₁
  accessToken : res.accessToken = TokenType.generate .accessToken env.accessTokenBytes
  refreshToken : res.refreshToken = some (TokenType.generate .refreshToken env.refreshTokenBytes)
  after : db' = revokeAccess env.now old.accessTokenId
    ((issueRefresh env session.id (issueAccess env session.id db₁)).updateRefreshToken old.id
      (fun r => { r with
        consumedAt := some env.now
        nextOAuth2RefreshTokenId := some env.refreshTokenId }))

theorem accessTokenId_of_consume {t' next : RefreshToken}
    (h : t.consume now next = .ok t') : t'.accessTokenId = t.accessTokenId := by
  unfold RefreshToken.consume at h
  cases hstate : t.state.consume now next.id with
  | error e => simp [hstate, Except.map] at h
  | ok state =>
    simp only [hstate, Except.map, Except.ok.injEq] at h
    rw [← h]

theorem returns_handleRefreshToken (h : (handleRefreshToken env token client).Returns db res db') :
    ∃ old session db₁, db.refreshTokenOf? token = some old ∧
      Refreshed env db res db' old session db₁ := by
  simp only [handleRefreshToken, OAuth2RefreshTokenRepository.findByToken,
    OAuth2SessionRepository.lookup, returns_require_bind, Repo.returns_fetch_ofOption,
    mapM_eq_ok_some] at h
  obtain ⟨-, old, hold, session, hloaded, h⟩ := h
  rw [returns_bind] at h
  obtain ⟨session', _, hagent, h⟩ := h
  obtain ⟨rfl, rfl⟩ := returns_recordUserAgent hagent
  rw [returns_require_bind] at h
  obtain ⟨hlive, h⟩ := h
  rw [returns_bind] at h
  obtain ⟨_, _, hkeep, h⟩ := h
  obtain ⟨hmay, rfl⟩ := returns_ensureMayKeepAdminScope hkeep
  rw [returns_require_bind] at h
  obtain ⟨-, h⟩ := h
  simp only [returns_bind, OAuth2RefreshTokenRepository.returns_consume] at h
  obtain ⟨_, db₁, hsuccessor, pair, _, hpair, old', _, ⟨-, -, hconsume, rfl⟩, _, _, hrevoke, hpure⟩ :=
    h
  obtain ⟨hfreshA, hfreshR, haccess, hrefresh, hid, rfl⟩ := returns_generateTokenPair hpair
  have hafter := returns_revokeAccessTokenOf hrevoke
  obtain ⟨rfl, rfl⟩ := returns_pure.mp hpure
  rw [accessTokenId_of_consume hconsume, hid] at hafter
  exact ⟨old, session, db₁, hold, ⟨_, hold⟩, hloaded, hlive, mayKeep_touch hmay,
    returns_revokeLostSuccessor hsuccessor, hfreshA, hfreshR, haccess, congrArg some hrefresh, hafter⟩

@[simp]
theorem savesError_revokeLostSuccessor : ¬(revokeLostSuccessor now old).SavesError db e db' := by
  unfold revokeLostSuccessor
  split_ifs <;> simp [revokeUnusedSuccessor, OAuth2RefreshTokenRepository.lookup,
    OAuth2AccessTokenRepository.lookup, OAuth2AccessTokenRepository.revoke,
    OAuth2RefreshTokenRepository.revoke]

@[simp]
theorem savesError_revokeAccessTokenOf : ¬(revokeAccessTokenOf now t).SavesError db e db' := by
  have hunless {found : Option AccessToken} {db db' : Database} :
      ¬(revokeUnlessRevoked now found).SavesError db e db' := by
    cases found with
    | none => simp [revokeUnlessRevoked]
    | some accessToken =>
      simp only [revokeUnlessRevoked]
      split_ifs <;> simp [OAuth2AccessTokenRepository.revoke]
  unfold revokeAccessTokenOf
  cases t.accessTokenId <;> simp [OAuth2AccessTokenRepository.lookup, hunless]

theorem savesError_handleRefreshToken
    (h : (handleRefreshToken env token client).SavesError db e db') :
    ∃ sessionId userAgent, db' = endSession env.now sessionId (touch sessionId userAgent db) := by
  simp only [handleRefreshToken, OAuth2RefreshTokenRepository.findByToken,
    OAuth2SessionRepository.lookup, savesError_require_bind, Repo.savesError_fetch_bind,
    savesError_ofOption_bind] at h
  obtain ⟨-, _, -, old, -, _, -, session, -, h⟩ := h
  rw [savesError_bind] at h
  rcases h with hagent | ⟨session', _, hagent, h⟩
  · exact absurd hagent savesError_recordUserAgent
  obtain ⟨rfl, rfl⟩ := returns_recordUserAgent hagent
  rw [savesError_require_bind] at h
  obtain ⟨-, h⟩ := h
  rw [savesError_bind] at h
  rcases h with hkeep | ⟨_, _, hkeep, h⟩
  · have hafter := savesError_ensureMayKeepAdminScope hkeep
    exact ⟨session.id, env.userAgent, hafter⟩
  · simp [OAuth2RefreshTokenRepository.consume] at h

/-- A new session for a client, with the tokens issued to it. -/
structure SessionOpened (env : TokenEnv) (db : Database) (res : AccessTokenResponse)
    (db' db₁ : Database) (row : OAuth2SessionRow) (refreshed : Bool) : Prop where
  opened : db.oauth2Sessions.get? env.sessionId = none
  before : db₁.oauth2AccessTokens = db.oauth2AccessTokens ∧
    db₁.oauth2RefreshTokens = db.oauth2RefreshTokens ∧
    db₁.oauth2AuthorizationGrants = db.oauth2AuthorizationGrants ∧ db₁.users = db.users ∧
    db₁.personalSessions = db.personalSessions ∧
    db₁.oauth2Sessions = db.oauth2Sessions.insert env.sessionId row
  freshAccess : FreshAccess env env.sessionId db₁
  freshRefresh : refreshed → FreshRefresh env db₁
  accessToken : res.accessToken = TokenType.generate .accessToken env.accessTokenBytes
  refreshToken : res.refreshToken =
    if refreshed then some (TokenType.generate .refreshToken env.refreshTokenBytes) else none
  after : db' = if refreshed then issueRefresh env env.sessionId (issueAccess env env.sessionId db₁)
    else issueAccess env env.sessionId db₁

/-- A session that has just been added takes the user agent and keeps the rest. -/
theorem touch_insertSession (id : Ulid) (row : OAuth2SessionRow) (userAgent : Option String)
    (db : Database) :
    touch id userAgent (db.insertSession id row) =
      db.insertSession id { row with userAgent := userAgent.or row.userAgent } := by
  cases userAgent with
  | none => rfl
  | some userAgent =>
    simp only [touch, Database.updateSession, Database.insertSession, update_insert, Option.some_or]

theorem returns_addSession {ε : Type} [FromRepository ε]
    {user : Option User} {userSession : Option BrowserSession} {scope : Scope}
    (h : (OAuth2SessionRepository.add now id client user userSession scope : Repo ε _).Returns db
      session db') :
    db.oauth2Sessions.get? id = none ∧ session.id = id ∧ ∃ row, row.userId = user.map User.id ∧
      row.userSessionId = userSession.map BrowserSession.id ∧ row.scopeList = scope.toList ∧
      db' = db.insertSession id row := by
  obtain ⟨hviolation, rfl, rfl⟩ := OAuth2SessionRepository.returns_add.mp h
  exact ⟨OAuth2SessionRepository.violation_eq_none hviolation, rfl, _, rfl, rfl, rfl, rfl⟩

/-- No grant of administrative scopes to a client alone. -/
theorem returns_handleClientCredentials {scope : Option Scope}
    (h : (handleClientCredentials x env scope client).Returns db res db') :
    ∃ db₁ row granted, SessionOpened env db res db' db₁ row false ∧
      row.scopeList = granted.toList ∧ Admin.requiresAdmin granted = false := by
  simp only [handleClientCredentials, OAuth2SessionRepository.addFromClientCredentials,
    returns_require_bind, returns_ofExcept_bind] at h
  obtain ⟨-, hadmin, violations, -, -, h⟩ := h
  simp only [returns_bind] at h
  obtain ⟨session, _, hadd, session', _, hagent, accessToken, _, haccess, hpure⟩ := h
  obtain ⟨hopened, hid, row, -, -, hscope, rfl⟩ := returns_addSession hadd
  obtain ⟨rfl, rfl⟩ := returns_recordUserAgent hagent
  obtain ⟨hfresh, -, htext, rfl⟩ := returns_addAccessToken haccess
  obtain ⟨rfl, rfl⟩ := returns_pure.mp hpure
  simp only [hid, touch_insertSession] at hfresh ⊢
  set row' : OAuth2SessionRow := { row with userAgent := env.userAgent.or row.userAgent }
  exact ⟨db.insertSession env.sessionId row', row', scope.getD .empty,
    ⟨hopened, ⟨rfl, rfl, rfl, rfl, rfl, rfl⟩, hfresh, by simp, htext, rfl, rfl⟩, hscope,
    by simpa using hadmin⟩

theorem savesError_handleClientCredentials {scope : Option Scope}
    {e : ClientCredentialsGrantError} :
    ¬(handleClientCredentials x env scope client).SavesError db e db' := by
  simp [handleClientCredentials, OAuth2SessionRepository.addFromClientCredentials,
    OAuth2SessionRepository.add, OAuth2AccessTokenRepository.add]

theorem returns_refreshTokenIfGranted {accessToken : AccessToken}
    {refreshToken : Option RefreshToken} (hid : accessToken.id = env.accessTokenId)
    (h : (refreshTokenIfGranted env client session accessToken).Returns db refreshToken db') :
    ∃ refreshed : Bool, (refreshed → FreshRefresh env db) ∧
      refreshToken.map RefreshToken.refreshToken =
        (if refreshed then some (TokenType.generate .refreshToken env.refreshTokenBytes) else none) ∧
      db' = if refreshed then issueRefresh env session.id db else db := by
  unfold refreshTokenIfGranted at h
  split_ifs at h
  · obtain ⟨t, _, hadd, hpure⟩ := returns_bind.mp h
    obtain ⟨hfresh, -, htext, rfl⟩ := returns_addRefreshToken hid hadd
    obtain ⟨rfl, rfl⟩ := returns_pure.mp hpure
    exact ⟨true, fun _ => hfresh, by simp [htext], rfl⟩
  · obtain ⟨rfl, rfl⟩ := returns_pure.mp h
    exact ⟨false, by simp, rfl, rfl⟩

theorem fulfilledBrowserSessionId_eq_ok {state : DeviceCodeGrantState} :
    fulfilledBrowserSessionId state = .ok id ↔ ∃ fulfilledAt, state = .fulfilled id fulfilledAt := by
  cases state <;> simp [fulfilledBrowserSessionId]

/-- The new session is that of the device grant and of the browser session that approved it. -/
structure DeviceApproved (deviceCode : String) (db : Database) (row : OAuth2SessionRow)
    (grant : DeviceCodeGrant) (browserSession : BrowserSession) : Prop where
  found : db.deviceGrantOf? deviceCode = some grant
  fulfilled : ∃ fulfilledAt, grant.state = .fulfilled browserSession.id fulfilledAt
  loaded : db.browserSession? browserSession.id = some browserSession
  user : row.userId = some browserSession.user.id
  userSession : row.userSessionId = some browserSession.id
  scope : row.scopeList = grant.scope.toList
  adminAllowed : Admin.adminScopeAllowed browserSession.user grant.scope

theorem returns_exchangeDeviceCode
    (h : (exchangeDeviceCode x env deviceCode client).Returns db res db') :
    ∃ db₁ row refreshed grant browserSession, SessionOpened env db res db' db₁ row refreshed ∧
      DeviceApproved deviceCode db row grant browserSession := by
  simp only [exchangeDeviceCode, OAuth2DeviceCodeGrantRepository.findByDeviceCode,
    OAuth2SessionRepository.addFromBrowserSession, returns_require_bind,
    Repo.returns_fetch_ofOption, mapM_eq_ok_some, returns_ofExcept_bind,
    fulfilledBrowserSessionId_eq_ok] at h
  obtain ⟨-, grant, hfound, -, -, browserSessionId, hfulfilled, h⟩ := h
  rw [returns_bind] at h
  obtain ⟨found, _, hlookup, h⟩ := h
  simp only [returns_ofOption_bind, returns_require_bind] at h
  obtain ⟨browserSession, rfl, hadmin, h⟩ := h
  obtain ⟨hbrowser, rfl⟩ := BrowserSessionRepository.returns_lookup.mp hlookup
  obtain rfl := (Database.browserSession?_eq_some hbrowser).1
  rw [returns_bind] at h
  obtain ⟨session, _, hadd, h⟩ := h
  rw [returns_bind] at h
  obtain ⟨_, _, hexchange, h⟩ := h
  rw [returns_bind] at h
  obtain ⟨session', _, hagent, h⟩ := h
  rw [returns_bind] at h
  obtain ⟨accessToken, _, haccess, h⟩ := h
  rw [returns_bind] at h
  obtain ⟨refreshToken, _, hrefresh, h⟩ := h
  rw [returns_ofExcept_bind] at h
  obtain ⟨idToken, -, h⟩ := h
  rw [returns_bind] at h
  obtain ⟨_, _, hlock, h⟩ := h
  obtain rfl := UserRepository.returns_acquireLockForSync.mp hlock
  rw [returns_ofExcept_bind] at h
  obtain ⟨_, -, hpure⟩ := h
  obtain ⟨hopened, hid, row, huserId, huserSession, hscope, rfl⟩ := returns_addSession hadd
  obtain rfl := OAuth2DeviceCodeGrantRepository.returns_exchange hexchange
  obtain ⟨rfl, rfl⟩ := returns_recordUserAgent hagent
  obtain ⟨hfresh, haccessId, htext, rfl⟩ := returns_addAccessToken haccess
  obtain ⟨refreshed, hfreshR, htextR, rfl⟩ := returns_refreshTokenIfGranted haccessId hrefresh
  obtain ⟨rfl, rfl⟩ := returns_pure.mp hpure
  -- the device grant and the session are in different tables
  let db₀ := db.updateDeviceGrant grant.id (fun r => { r with
    exchangedAt := some env.now
    oauth2SessionId := some env.sessionId })
  have hswap : (db.insertSession env.sessionId row).updateDeviceGrant grant.id (fun r => { r with
      exchangedAt := some env.now
      oauth2SessionId := some env.sessionId }) = db₀.insertSession env.sessionId row := rfl
  simp only [hid] at hfresh hfreshR ⊢
  simp only [hswap, touch_insertSession] at hfresh hfreshR ⊢
  set row' : OAuth2SessionRow := { row with userAgent := env.userAgent.or row.userAgent }
  exact ⟨db₀.insertSession env.sessionId row', row', refreshed, grant, browserSession,
    ⟨hopened, ⟨rfl, rfl, rfl, rfl, rfl, rfl⟩, hfresh, fun hr => ⟨(hfreshR hr).id, (hfreshR hr).text⟩,
      htext, htextR, rfl⟩,
    ⟨hfound, hfulfilled, hbrowser, huserId, huserSession, hscope, hadmin⟩⟩

theorem savesError_exchangeDeviceCode {e : DeviceCodeExchangeError} :
    ¬(exchangeDeviceCode x env deviceCode client).SavesError db e db' := by
  have hrefresh {session : Session} {accessToken : AccessToken} {db db' : Database} :
      ¬(refreshTokenIfGranted env client session accessToken).SavesError db e db' := by
    unfold refreshTokenIfGranted
    split_ifs <;> simp [OAuth2RefreshTokenRepository.add]
  simp [exchangeDeviceCode, OAuth2DeviceCodeGrantRepository.findByDeviceCode,
    OAuth2SessionRepository.addFromBrowserSession, OAuth2SessionRepository.add,
    OAuth2DeviceCodeGrantRepository.exchange, OAuth2AccessTokenRepository.add, hrefresh,
    UserRepository.acquireLockForSync]

end Grants

end Pasion.TokenEffects

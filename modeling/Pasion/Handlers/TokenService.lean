import Pasion.Handlers.Admin
import Pasion.Pg.OAuth2Grant

/-! The grant types of the token endpoint. -/
namespace Pasion

open Relational Txn

inductive AuthorizationCodeExchangeError where
  | unauthorizedClient (clientId : Ulid)
  | grantNotFound
  | invalidGrant (grantId : Ulid)
  | pkceVerification (e : CodeChallengeError)
  | badRequest
  | adminScopeNotAllowed
  | unexpectedClient (was expected : Ulid)
  | noSuchBrowserSession (id : Ulid)
  | noSuchOAuthSession (id : Ulid)
  | provisionDeviceFailed (message : String)
  | repository (e : DatabaseError)
  | internal (message : String)
  deriving DecidableEq

inductive RefreshTokenExchangeError where
  | unauthorizedClient (clientId : Ulid)
  | refreshTokenNotFound
  | refreshTokenInvalid (id : Ulid)
  | sessionInvalid (id : Ulid)
  | clientIdMismatch (expected actual : Ulid)
  | noSuchOAuthSession (id : Ulid)
  | noSuchNextRefreshToken (next previous : Ulid)
  | noSuchNextAccessToken (accessToken refreshToken : Ulid)
  | noAccessTokenOnRefreshToken (refreshToken : Ulid)
  | repository (e : DatabaseError)

inductive ClientCredentialsGrantError where
  | adminScopeNotAllowed
  | unauthorizedClient (clientId : Ulid)
  | deniedByPolicy (violations : List String)
  | repository (e : DatabaseError)
  | internal (message : String)

inductive DeviceCodeExchangeError where
  | adminScopeNotAllowed
  | unauthorizedClient (clientId : Ulid)
  | grantNotFound
  | clientIdMismatch (expected actual : Ulid)
  | deviceCodeExpired
  | deviceCodePending
  | deviceCodeRejected
  | deviceCodeExchanged
  | noSuchBrowserSession (id : Ulid)
  | provisionDeviceFailed (message : String)
  | repository (e : DatabaseError)
  | internal (message : String)

instance : FromRepository AuthorizationCodeExchangeError := ⟨.repository⟩
instance : FromRepository RefreshTokenExchangeError := ⟨.repository⟩
instance : FromRepository ClientCredentialsGrantError := ⟨.repository⟩
instance : FromRepository DeviceCodeExchangeError := ⟨.repository⟩

structure AuthorizationCodeGrant where
  code : String
  (redirectUri codeVerifier : Option String)

structure AccessTokenResponse where
  accessToken : String
  (refreshToken idToken : Option String)
  expiresIn : Option Duration
  scope : Option Scope
  deriving DecidableEq

structure Services where
  parseLocale : String → Except String String
  renderDeviceName : Client → Option String → String → Except String String
  generateIdToken : Client → Option AuthorizationGrant → BrowserSession → Option AccessToken →
    Option Authentication → Except String String
  upsertDevice : String → String → Option String → Except String Unit
  s256 : String → String
  evaluateAuthorizationGrant : Client → Scope → Option String → Except String (List String)

structure TokenEnv where
  now : Time
  accessTokenTtl : Duration
  (accessTokenBytes refreshTokenBytes : List UInt8)
  (accessTokenId refreshTokenId sessionId : Ulid)
  userAgent : Option String

section Shared

variable {ε : Type} [FromRepository ε]

def sessionMayKeepAdminScope (session : Session) : Repo ε Bool :=
  if !Admin.requiresAdmin session.scope then pure true
  else
    match session.userId with
    | some userId => do
      let user ← UserRepository.lookup userId
      pure (Admin.mayHoldAdminScope user)
    | none => pure (Admin.mayHoldAdminScope none)

/-- A session that may not keep its administrative scopes is ended for good. -/
def ensureMayKeepAdminScope (now : Time) (session : Session) (e : ε) : Repo ε Unit := do
  let allowed ← sessionMayKeepAdminScope session
  if allowed then pure ()
  else do
    let _ ← OAuth2SessionRepository.finish now session
    .commitError e

def recordUserAgent (session : Session) : Option String → Repo ε Session
  | some userAgent => OAuth2SessionRepository.recordUserAgent session userAgent
  | none => pure session

def matrixDeviceIds (scope : Scope) : List String := scope.iter.filterMap (fun token =>
    (Str.stripPrefix "urn:matrix:client:device:" token.asStr).or
      (Str.stripPrefix "urn:matrix:org.matrix.msc2967.client:device:" token.asStr))

def upsertDevices (x : Services) (username : String) (deviceName : Option String) :
    List String → Except String Unit
  | [] => .ok ()
  | deviceId :: rest =>
    (x.upsertDevice username deviceId deviceName).bind
      (fun _ => upsertDevices x username deviceName rest)

def generateTokenPair (env : TokenEnv) (session : Session) (ttl : Duration) :
    Repo ε (AccessToken × RefreshToken) := do
  let accessToken ← OAuth2AccessTokenRepository.add env.now env.accessTokenId session
    (TokenType.generate .accessToken env.accessTokenBytes) (some ttl)
  let refreshToken ← OAuth2RefreshTokenRepository.add env.now env.refreshTokenId session accessToken
    (TokenType.generate .refreshToken env.refreshTokenBytes)
  pure (accessToken, refreshToken)

end Shared

section AuthorizationCode

/-- The session of a grant to exchange; a replay after twenty seconds ends the session. -/
def fulfilledSessionId (now : Time) (grant : AuthorizationGrant) :
    Repo AuthorizationCodeExchangeError Ulid :=
  match grant.stage with
  | .cancelled _ => .rollback (.invalidGrant grant.id)
  | .exchanged sessionId _ exchangedAt =>
    if now - exchangedAt > 20 * 1000 * 1000 then do
      let found ← OAuth2SessionRepository.lookup sessionId
      let session ← Txn.ofOption found (.noSuchOAuthSession sessionId)
      let _ ← OAuth2SessionRepository.finish now session
      .commitError (.invalidGrant grant.id)
    else .rollback (.invalidGrant grant.id)
  | .pending => .rollback (.invalidGrant grant.id)
  | .fulfilled sessionId fulfilledAt =>
    if now - fulfilledAt > 10 * 60 * 1000 * 1000 then .rollback (.invalidGrant grant.id)
    else pure sessionId

def verifyPkce (x : Services) (pkce : Option Pkce) (codeVerifier : Option String) :
    Except AuthorizationCodeExchangeError Unit :=
  match pkce, codeVerifier with
  | none, none => .ok ()
  | some _, none => .error .badRequest
  | none, some _ => .error .badRequest
  | some pkce, some verifier => (pkce.verify x.s256 verifier).mapError .pkceVerification

/-- An ID token goes with the `openid` scope. -/
def idTokenIfOpenid (x : Services) (client : Client) (scope : Scope)
    (grant : Option AuthorizationGrant) (browserSession : BrowserSession)
    (accessToken : AccessToken) (lastAuthentication : Option Authentication) :
    Except String (Option String) :=
  if scope.contains "openid" then
    (x.generateIdToken client grant browserSession (some accessToken) lastAuthentication).map some
  else .ok none

def exchangeAuthorizationCode (x : Services) (env : TokenEnv) (grant : AuthorizationCodeGrant)
    (client : Client) : Repo AuthorizationCodeExchangeError AccessTokenResponse := do
  Txn.require (client.grantTypes.contains .authorizationCode) (.unauthorizedClient client.id)
  let found ← OAuth2AuthorizationGrantRepository.findByCode grant.code
  let authzGrant ← Txn.ofOption found .grantNotFound
  let sessionId ← fulfilledSessionId env.now authzGrant
  let found ← OAuth2SessionRepository.lookup sessionId
  let session ← Txn.ofOption found (.noSuchOAuthSession sessionId)
  let lang ← Txn.ofExcept (x.parseLocale (authzGrant.locale.getD "en")) .internal
  let deviceName ← Txn.ofExcept (x.renderDeviceName client env.userAgent lang) .internal
  let session ← recordUserAgent session env.userAgent
  let code ← Txn.ofOption authzGrant.code (.invalidGrant authzGrant.id)
  Txn.require (client.id = session.clientId) (.unexpectedClient client.id session.clientId)
  Txn.require (grant.redirectUri = some authzGrant.rawRedirectUri) (.invalidGrant authzGrant.id)
  Txn.ofExcept (verifyPkce x code.pkce grant.codeVerifier) id
  -- only a caller that has proved to own the code can end the session here
  ensureMayKeepAdminScope env.now session .adminScopeNotAllowed
  let userSessionId ← Txn.ofOption session.userSessionId (.invalidGrant authzGrant.id)
  let found ← BrowserSessionRepository.lookup userSessionId
  let browserSession ← Txn.ofOption found (.noSuchBrowserSession userSessionId)
  let lastAuthentication ← BrowserSessionRepository.getLastAuthentication browserSession
  let (accessToken, refreshToken) ← generateTokenPair env session env.accessTokenTtl
  let idToken ← Txn.ofExcept (idTokenIfOpenid x client session.scope (some authzGrant)
    browserSession accessToken lastAuthentication) .internal
  UserRepository.acquireLockForSync browserSession.user
  Txn.ofExcept (upsertDevices x browserSession.user.username (some deviceName)
    (matrixDeviceIds session.scope)) .provisionDeviceFailed
  let _ ← OAuth2AuthorizationGrantRepository.exchange env.now authzGrant
  pure ⟨accessToken.accessToken, some refreshToken.refreshToken, idToken, some env.accessTokenTtl,
    some session.scope⟩

end AuthorizationCode

section RefreshToken

/-- A consumed token is good again while its successors are unused: these are taken for lost. -/
def revokeUnusedSuccessor (now : Time) (refreshToken : RefreshToken) :
    Repo RefreshTokenExchangeError Unit := do
  let nextId ← Txn.ofOption refreshToken.state.nextRefreshTokenId
    (.refreshTokenInvalid refreshToken.id)
  let found ← OAuth2RefreshTokenRepository.lookup nextId
  let next ← Txn.ofOption found (.noSuchNextRefreshToken nextId refreshToken.id)
  Txn.require next.isValid (.refreshTokenInvalid next.id)
  let accessTokenId ← Txn.ofOption next.accessTokenId (.noAccessTokenOnRefreshToken next.id)
  let found ← OAuth2AccessTokenRepository.lookup accessTokenId
  let nextAccessToken ← Txn.ofOption found (.noSuchNextAccessToken accessTokenId nextId)
  Txn.require (!nextAccessToken.isUsed) (.refreshTokenInvalid next.id)
  let _ ← OAuth2AccessTokenRepository.revoke now nextAccessToken
  let _ ← OAuth2RefreshTokenRepository.revoke now next

/-- Nothing stands against a token that was never consumed. -/
def revokeLostSuccessor (now : Time) (refreshToken : RefreshToken) :
    Repo RefreshTokenExchangeError Unit :=
  if refreshToken.isValid then pure () else revokeUnusedSuccessor now refreshToken

def revokeUnlessRevoked (now : Time) : Option AccessToken → Repo RefreshTokenExchangeError Unit
  | some accessToken =>
    if accessToken.state.isRevoked then pure ()
    else do let _ ← OAuth2AccessTokenRepository.revoke now accessToken
  | none => pure ()

/-- Revokes the access token issued with a refresh token, if it is still there. -/
def revokeAccessTokenOf (now : Time) (refreshToken : RefreshToken) :
    Repo RefreshTokenExchangeError Unit :=
  match refreshToken.accessTokenId with
  | some accessTokenId => do
    let accessToken ← OAuth2AccessTokenRepository.lookup accessTokenId
    revokeUnlessRevoked now accessToken
  | none => pure ()

def handleRefreshToken (env : TokenEnv) (token : String) (client : Client) :
    Repo RefreshTokenExchangeError AccessTokenResponse := do
  Txn.require (client.grantTypes.contains .refreshToken) (.unauthorizedClient client.id)
  let found ← OAuth2RefreshTokenRepository.findByToken token
  let refreshToken ← Txn.ofOption found .refreshTokenNotFound
  let found ← OAuth2SessionRepository.lookup refreshToken.sessionId
  let session ← Txn.ofOption found (.noSuchOAuthSession refreshToken.sessionId)
  let session ← recordUserAgent session env.userAgent
  Txn.require session.isValid (.sessionInvalid session.id)
  ensureMayKeepAdminScope env.now session (.sessionInvalid session.id)
  Txn.require (client.id = session.clientId) (.clientIdMismatch session.clientId client.id)
  revokeLostSuccessor env.now refreshToken
  let (newAccessToken, newRefreshToken) ← generateTokenPair env session env.accessTokenTtl
  let refreshToken ← OAuth2RefreshTokenRepository.consume env.now refreshToken newRefreshToken
  revokeAccessTokenOf env.now refreshToken
  pure ⟨newAccessToken.accessToken, some newRefreshToken.refreshToken, none,
    some env.accessTokenTtl, some session.scope⟩

end RefreshToken

section ClientCredentials

def scopeUnlessEmpty (scope : Scope) : Option Scope := if scope.isEmpty then none else some scope

def handleClientCredentials (x : Services) (env : TokenEnv) (scope : Option Scope)
    (client : Client) : Repo ClientCredentialsGrantError AccessTokenResponse := do
  Txn.require (client.grantTypes.contains .clientCredentials) (.unauthorizedClient client.id)
  let scope := scope.getD .empty
  Txn.require (!Admin.requiresAdmin scope) .adminScopeNotAllowed
  let violations ← Txn.ofExcept (x.evaluateAuthorizationGrant client scope env.userAgent) .internal
  Txn.require violations.isEmpty (.deniedByPolicy violations)
  let session ← OAuth2SessionRepository.addFromClientCredentials env.now env.sessionId client scope
  let session ← recordUserAgent session env.userAgent
  let accessToken ← OAuth2AccessTokenRepository.add env.now env.accessTokenId session
    (TokenType.generate .accessToken env.accessTokenBytes) (some env.accessTokenTtl)
  pure ⟨accessToken.accessToken, none, none, some env.accessTokenTtl,
    scopeUnlessEmpty session.scope⟩

end ClientCredentials

section DeviceCode

def fulfilledBrowserSessionId : DeviceCodeGrantState → Except DeviceCodeExchangeError Ulid
  | .pending => .error .deviceCodePending
  | .rejected _ _ => .error .deviceCodeRejected
  | .exchanged _ _ _ _ => .error .deviceCodeExchanged
  | .fulfilled browserSessionId _ => .ok browserSessionId

/-- A client that may refresh gets a refresh token. -/
def refreshTokenIfGranted (env : TokenEnv) (client : Client) (session : Session)
    (accessToken : AccessToken) : Repo DeviceCodeExchangeError (Option RefreshToken) :=
  if client.grantTypes.contains .refreshToken then do
    let refreshToken ← OAuth2RefreshTokenRepository.add env.now env.refreshTokenId session
      accessToken (TokenType.generate .refreshToken env.refreshTokenBytes)
    pure (some refreshToken)
  else pure none

def exchangeDeviceCode (x : Services) (env : TokenEnv) (deviceCode : String) (client : Client) :
    Repo DeviceCodeExchangeError AccessTokenResponse := do
  Txn.require (client.grantTypes.contains .deviceCode) (.unauthorizedClient client.id)
  let found ← OAuth2DeviceCodeGrantRepository.findByDeviceCode deviceCode
  let grant ← Txn.ofOption found .grantNotFound
  Txn.require (client.id = grant.clientId) (.clientIdMismatch grant.clientId client.id)
  Txn.require (!(grant.expiresAt < env.now)) .deviceCodeExpired
  let browserSessionId ← Txn.ofExcept (fulfilledBrowserSessionId grant.state) id
  let found ← BrowserSessionRepository.lookup browserSessionId
  let browserSession ← Txn.ofOption found (.noSuchBrowserSession browserSessionId)
  Txn.require (Admin.adminScopeAllowed browserSession.user grant.scope) .adminScopeNotAllowed
  let session ← OAuth2SessionRepository.addFromBrowserSession env.now env.sessionId client
    browserSession grant.scope
  let _ ← OAuth2DeviceCodeGrantRepository.exchange env.now grant session
  let session ← recordUserAgent session env.userAgent
  let accessToken ← OAuth2AccessTokenRepository.add env.now env.accessTokenId session
    (TokenType.generate .accessToken env.accessTokenBytes) (some env.accessTokenTtl)
  let refreshToken ← refreshTokenIfGranted env client session accessToken
  let idToken ← Txn.ofExcept (idTokenIfOpenid x client session.scope none browserSession
    accessToken none) .internal
  UserRepository.acquireLockForSync browserSession.user
  Txn.ofExcept (upsertDevices x browserSession.user.username none
    (matrixDeviceIds session.scope)) .provisionDeviceFailed
  pure ⟨accessToken.accessToken, refreshToken.map RefreshToken.refreshToken, idToken,
    some env.accessTokenTtl, scopeUnlessEmpty session.scope⟩

end DeviceCode

/-- A write that leaves refresh tokens and grants as they are. -/
structure Aside (e : Effect Database LockKey) : Prop where
  refreshTokens : ∀ db, (e.write db).oauth2RefreshTokens = db.oauth2RefreshTokens
  grants : ∀ db, (e.write db).oauth2AuthorizationGrants = db.oauth2AuthorizationGrants
  deviceGrants : ∀ db, (e.write db).oauth2DeviceCodeGrant = db.oauth2DeviceCodeGrant

section Writes

variable {ε : Type} [FromRepository ε] {session : Session} {now : Time}

theorem aside_idle : Aside .idle := ⟨fun _ => rfl, fun _ => rfl, fun _ => rfl⟩

theorem issues_updateSession {id : Ulid} {f : OAuth2SessionRow → OAuth2SessionRow} :
    (OAuth2SessionRepository.updateSession id f : Repo ε Unit).Issues Aside :=
  Repo.issues_updateRow aside_idle ⟨fun _ => rfl, fun _ => rfl, fun _ => rfl⟩

theorem issues_finish : (OAuth2SessionRepository.finish now session : Repo ε _).Issues Aside :=
  issues_updateSession.bind fun _ => Repo.issues_transition _

theorem issues_recordUserAgent {userAgent : Option String} :
    (recordUserAgent session userAgent : Repo ε Session).Issues Aside := by
  cases userAgent with
  | none => exact issues_pure _
  | some userAgent => exact issues_updateSession.bind fun _ => issues_pure _

theorem issues_ensureMayKeepAdminScope {e : ε} :
    (ensureMayKeepAdminScope now session e).Issues Aside := by
  have hkeep : (sessionMayKeepAdminScope session : Repo ε Bool).Issues Aside := by
    unfold sessionMayKeepAdminScope
    split_ifs
    · exact issues_pure _
    · cases session.userId with
      | none => exact issues_pure _
      | some userId => exact (issues_query _).bind fun _ => issues_pure _
  refine hkeep.bind fun allowed => ?_
  split_ifs
  · exact issues_pure _
  · exact issues_finish.bind fun _ => issues_commitError _

theorem issues_addAccessToken {id : Ulid} {text : String} {expiresAfter : Option Duration} :
    (OAuth2AccessTokenRepository.add now id session text expiresAfter :
      Repo ε AccessToken).Issues Aside := by
  refine Txn.Issues.bind ?_ fun _ => issues_pure _
  exact Repo.issues_insert aside_idle ⟨fun _ => rfl, fun _ => rfl, fun _ => rfl⟩

omit [FromRepository ε] in
theorem issues_acquireLockForSync {user : User} :
    (UserRepository.acquireLockForSync user : Repo ε Unit).Issues Aside :=
  issues_execute fun _ => ⟨fun _ => rfl, fun _ => rfl, fun _ => rfl⟩

end Writes

end Pasion

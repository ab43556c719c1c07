import Pasion.Handlers.Introspection
import Pasion.Handlers.TokenStore
import Pasion.Pg.Upstream

/-! Revocation of a token, which ends the session that the token belongs to. -/
namespace Pasion.Revocation

open Relational Txn

inductive RevocationError where
  | repository (e : DatabaseError)
  | unsupportedTokenType
  | unknownToken
  | unauthorizedClient

instance : FromRepository RevocationError := ⟨.repository⟩

structure Env where
  sha256 : String → List ℕ
  now : Time
  jobId : Ulid

def hasDevice (session : PersonalSession) : Bool := session.scope.iter.any (fun token =>
    Str.startsWith token.asStr "urn:matrix:client:device:" ||
      Str.startsWith token.asStr "urn:matrix:org.matrix.msc2967.client:device:")

def scheduleIfDevice (env : Env) (session : PersonalSession) : Repo RevocationError Unit :=
  if hasDevice session then
    QueueJobRepository.scheduleJob env.now env.jobId (.syncDevices session.actorUserId)
  else pure ()

/-- A client may end the sessions that it owns; the homeserver may end any. -/
def mayEndPersonal (clientId : Option Ulid) (owner : PersonalSessionOwner) : Bool :=
  clientId.all (fun id => owner = .oauth2Client id)

def revokePersonalToken (env : Env) (token : String) (clientId : Option Ulid) :
    Repo RevocationError Unit := do
  let found ← PersonalAccessTokenRepository.findByToken env.sha256 token
  let accessToken ← Txn.ofOption found .unknownToken
  Txn.require (accessToken.isValid env.now) .unknownToken
  let found ← PersonalSessionRepository.lookup accessToken.sessionId
  let session ← Txn.ofOption found .unknownToken
  Txn.require session.isValid .unknownToken
  Txn.require (mayEndPersonal clientId session.owner) .unauthorizedClient
  let _ ← PersonalAccessTokenRepository.revoke env.now accessToken
  let revoked ← PersonalSessionRepository.revoke env.now session
  scheduleIfDevice env revoked

def accessTokenSession (env : Env) (token : String) : Repo RevocationError Ulid := do
  let found ← OAuth2AccessTokenRepository.findByToken token
  let accessToken ← Txn.ofOption found .unknownToken
  Txn.require (accessToken.isValid env.now) .unknownToken
  pure accessToken.sessionId

def refreshTokenSession (token : String) : Repo RevocationError Ulid := do
  let found ← OAuth2RefreshTokenRepository.findByToken token
  let refreshToken ← Txn.ofOption found .unknownToken
  Txn.require refreshToken.isValid .unknownToken
  pure refreshToken.sessionId

def sessionToEnd (env : Env) (token : String) (hint : Option OAuthTokenTypeHint) :
    TokenType → Repo RevocationError Ulid
  | .accessToken =>
    match hint with
    | some .accessToken | none => accessTokenSession env token
    | some .refreshToken => Txn.rollback .unknownToken
    | some (.unknown _) => Txn.rollback .unsupportedTokenType
  | .refreshToken =>
    match hint with
    | some .refreshToken | none => refreshTokenSession token
    | some .accessToken => Txn.rollback .unknownToken
    | some (.unknown _) => Txn.rollback .unsupportedTokenType
  | .personalAccessToken =>
    match hint with
    | some (.unknown _) => Txn.rollback .unsupportedTokenType
    | _ => Txn.rollback .unknownToken

def scheduleForUser (env : Env) (session : Session) : Repo RevocationError Unit :=
  match session.userId with
  | some userId => do
    let found ← UserRepository.lookup userId
    let user ← Txn.ofOption found .unknownToken
    QueueJobRepository.scheduleJob env.now env.jobId (.syncDevices user.id)
  | none => pure ()

def revokeOAuth2Token (env : Env) (token : String) (hint : Option OAuthTokenTypeHint)
    (type : TokenType) (clientId : Option Ulid) : Repo RevocationError Unit := do
  let sessionId ← sessionToEnd env token hint type
  let found ← OAuth2SessionRepository.lookup sessionId
  let session ← Txn.ofOption found .unknownToken
  Txn.require session.isValid .unknownToken
  Txn.require (clientId.all (· = session.clientId)) .unauthorizedClient
  scheduleForUser env session
  let _ ← OAuth2SessionRepository.finish env.now session

def revokeToken (env : Env) (token : String) (hint : Option OAuthTokenTypeHint)
    (clientId : Option Ulid) : Repo RevocationError Unit := do
  let tokenType ← Txn.ofExcept (TokenType.check token) (fun _ => .unknownToken)
  if tokenType = .personalAccessToken then do
    Txn.require (hint ≠ some .refreshToken) .unknownToken
    revokePersonalToken env token clientId
  else revokeOAuth2Token env token hint tokenType clientId

/-- A session of one of the two kinds. -/
inductive SessionKey where
  | oauth2 (id : Ulid)
  | personal (id : Ulid)
  deriving DecidableEq

def tokenSession? (db : Database) (sha256 : String → List ℕ) (token : String) : Option SessionKey :=
  match TokenType.check token with
  | .ok .accessToken => (db.accessTokenOf? token).map (.oauth2 ·.sessionId)
  | .ok .refreshToken => (db.refreshTokenOf? token).map (.oauth2 ·.sessionId)
  | .ok .personalAccessToken => (db.personalTokenOf? sha256 token).map (.personal ·.sessionId)
  | .error _ => none

def Ended (db : Database) : SessionKey → Prop
  | .oauth2 id => ∀ r, db.oauth2Sessions.get? id = some r → r.finishedAt.isSome
  | .personal id => ∀ r, db.personalSessions.get? id = some r → r.revokedAt.isSome

section Effects

variable {env : Env} {token : String} {hint : Option OAuthTokenTypeHint} {clientId : Option Ulid}
  {type : TokenType} {db db' : Database} {u : Unit}
variable {sessionId : Ulid} {e : RevocationError}

theorem quiet_scheduleJob {job : Job}
    (h : (QueueJobRepository.scheduleJob env.now env.jobId job : Repo RevocationError Unit).Returns
      db u db') : Quiet db db' := by
  rw [QueueJobRepository.returns_scheduleJob h]
  exact .of_sessions rfl rfl rfl rfl (.refl staysFinished_refl _)

theorem returns_scheduleForUser {session : Session}
    (h : (scheduleForUser env session).Returns db u db') :
    Quiet db db' ∧ db'.oauth2Sessions = db.oauth2Sessions := by
  unfold scheduleForUser at h
  cases huserId : session.userId with
  | none =>
    rw [huserId] at h
    obtain ⟨-, rfl⟩ := returns_pure.mp h
    exact ⟨.refl _, rfl⟩
  | some userId =>
    simp only [huserId, UserRepository.lookup, returns_bind, returns_query, returns_ofOption] at h
    obtain ⟨_, _, ⟨-, rfl⟩, user, _, ⟨-, rfl⟩, hjob⟩ := h
    refine ⟨quiet_scheduleJob hjob, ?_⟩
    rw [QueueJobRepository.returns_scheduleJob hjob]

theorem returns_accessTokenSession (h : (accessTokenSession env token).Returns db sessionId db') :
    (∃ t, db.accessTokenOf? token = some t ∧ t.sessionId = sessionId) ∧ db' = db := by
  simp only [accessTokenSession, OAuth2AccessTokenRepository.findByToken, returns_bind,
    returns_query, returns_ofOption, returns_require, returns_pure] at h
  obtain ⟨_, _, ⟨hfound, rfl⟩, t, _, ⟨rfl, rfl⟩, _, _, ⟨-, rfl⟩, hsession, rfl⟩ := h
  exact ⟨⟨t, hfound, hsession⟩, rfl⟩

theorem returns_refreshTokenSession (h : (refreshTokenSession token).Returns db sessionId db') :
    (∃ t, db.refreshTokenOf? token = some t ∧ t.sessionId = sessionId) ∧ db' = db := by
  simp only [refreshTokenSession, returns_bind, returns_ofOption, returns_require,
    returns_pure] at h
  obtain ⟨_, _, hfind, t, _, ⟨rfl, rfl⟩, _, _, ⟨-, rfl⟩, hsession, rfl⟩ := h
  obtain ⟨hfound, rfl⟩ := OAuth2RefreshTokenRepository.returns_findByToken.mp hfind
  exact ⟨⟨t, hfound, hsession⟩, rfl⟩

theorem returns_sessionToEnd (hcheck : TokenType.check token = .ok type)
    (h : (sessionToEnd env token hint type).Returns db sessionId db') :
    tokenSession? db env.sha256 token = some (.oauth2 sessionId) ∧ db' = db := by
  unfold tokenSession?
  rw [hcheck]
  cases type with
  | accessToken =>
    simp only [sessionToEnd] at h
    split at h
    all_goals try exact absurd h returns_rollback
    all_goals
      obtain ⟨⟨t, hfound, rfl⟩, rfl⟩ := returns_accessTokenSession h
      exact ⟨by rw [hfound]; rfl, rfl⟩
  | refreshToken =>
    simp only [sessionToEnd] at h
    split at h
    all_goals try exact absurd h returns_rollback
    all_goals
      obtain ⟨⟨t, hfound, rfl⟩, rfl⟩ := returns_refreshTokenSession h
      exact ⟨by rw [hfound]; rfl, rfl⟩
  | personalAccessToken =>
    simp only [sessionToEnd] at h
    split at h <;> exact absurd h returns_rollback

theorem ended_updateSession {id : Ulid} {now : Time} :
    Ended (db.updateSession id (fun r => { r with finishedAt := some now })) (.oauth2 id) := by
  intro r hr
  have hget : (db.oauth2Sessions.update id (fun r => { r with finishedAt := some now })).get? id =
      some r := hr
  rw [Table.get?_update, if_pos rfl] at hget
  obtain ⟨r₀, -, rfl⟩ := Option.map_eq_some_iff.mp hget
  rfl

theorem returns_revokeOAuth2Token (hcheck : TokenType.check token = .ok type)
    (h : (revokeOAuth2Token env token hint type clientId).Returns db u db') :
    (∃ key, tokenSession? db env.sha256 token = some key ∧ Ended db' key) ∧ Quiet db db' := by
  simp only [revokeOAuth2Token, returns_bind, returns_ofOption, returns_require,
    OAuth2SessionRepository.returns_finish, returns_pure] at h
  obtain ⟨sessionId, _, hsession, _, _, hlookup, session, _, ⟨rfl, rfl⟩, _, _, ⟨-, rfl⟩, _, _,
    ⟨-, rfl⟩, _, db₁, hjob, _, _, ⟨-, -, rfl⟩, -, rfl⟩ := h
  obtain ⟨hkey, rfl⟩ := returns_sessionToEnd hcheck hsession
  obtain ⟨hloaded, rfl⟩ := OAuth2SessionRepository.returns_lookup.mp hlookup
  obtain rfl := (Database.session?_eq_some hloaded).1
  exact ⟨⟨_, hkey, ended_updateSession⟩, (returns_scheduleForUser hjob).1.trans .finishSession⟩

theorem quiet_revokePersonalAccessToken {now : Time} {t t' : PersonalAccessToken}
    (h : (PersonalAccessTokenRepository.revoke now t : Repo RevocationError _).Returns db t' db') :
    Quiet db db' ∧ db'.personalSessions = db.personalSessions := by
  obtain ⟨-, -, hpure⟩ := Repo.returns_updateRow_bind.mp h
  obtain ⟨-, rfl⟩ := returns_pure.mp hpure
  exact ⟨.of_sessions rfl rfl rfl rfl (.refl staysFinished_refl _), rfl⟩

theorem quiet_revokePersonalSession {now : Time} {session session' : PersonalSession}
    (h : (PersonalSessionRepository.revoke now session : Repo RevocationError _).Returns db session'
      db') : Quiet db db' ∧ Ended db' (.personal session.id) := by
  have hsessions := (PersonalSessionRepository.returns_revoke h).1
  obtain ⟨_, db₁, htokens, hrest⟩ := returns_bind.mp h
  obtain ⟨-, -, rfl⟩ := Repo.returns_statement.mp htokens
  obtain ⟨-, -, htransition⟩ := Repo.returns_updateRow_bind.mp hrest
  obtain ⟨-, rfl⟩ := Repo.returns_transition.mp htransition
  refine ⟨⟨rfl, rfl, .refl staysFinished_refl _, ?_, fun _ _ hr => hr⟩, ?_⟩
  · rw [hsessions]
    exact .update staysRevoked_refl (fun _ _ => rfl) _ _
  · intro r hr
    rw [hsessions, Table.get?_update, if_pos rfl] at hr
    obtain ⟨r₀, -, rfl⟩ := Option.map_eq_some_iff.mp hr
    rfl

theorem ended_of_quiet {key : SessionKey} (hquiet : Quiet db db') (h : Ended db key) :
    Ended db' key := by
  cases key with
  | oauth2 id =>
    intro r' hr'
    obtain ⟨r, hr, hstays⟩ := hquiet.sessions.get?_right hr'
    exact hstays (h r hr)
  | personal id =>
    intro r' hr'
    obtain ⟨r, hr, hstays⟩ := hquiet.personalSessions.get?_right hr'
    exact hstays (h r hr)

theorem returns_revokePersonalToken (hcheck : TokenType.check token = .ok .personalAccessToken)
    (h : (revokePersonalToken env token clientId).Returns db u db') :
    (∃ key, tokenSession? db env.sha256 token = some key ∧ Ended db' key) ∧ Quiet db db' := by
  simp only [revokePersonalToken, PersonalAccessTokenRepository.findByToken, returns_bind,
    returns_query, returns_ofOption, returns_require] at h
  obtain ⟨_, _, ⟨hfound, rfl⟩, t, _, ⟨rfl, rfl⟩, _, _, ⟨-, rfl⟩, _, _, hlookup, session, _,
    ⟨rfl, rfl⟩, _, _, ⟨-, rfl⟩, _, _, ⟨-, rfl⟩, _, _, htoken, session', db₂, hsession, hjob⟩ := h
  obtain ⟨hloaded, rfl⟩ := PersonalSessionRepository.returns_lookup.mp hlookup
  have hid := (Database.personalSession?_eq_some hloaded).1
  obtain ⟨hquiet, -⟩ := quiet_revokePersonalAccessToken htoken
  obtain ⟨hquiet', hended⟩ := quiet_revokePersonalSession hsession
  have hlast : Quiet db₂ db' := by
    unfold scheduleIfDevice at hjob
    split_ifs at hjob
    · exact quiet_scheduleJob hjob
    · obtain ⟨-, rfl⟩ := returns_pure.mp hjob
      exact .refl _
  refine ⟨⟨.personal session.id, ?_, ended_of_quiet hlast hended⟩, (hquiet.trans hquiet').trans hlast⟩
  unfold tokenSession?
  rw [hcheck]
  dsimp only
  rw [hfound, hid]
  rfl

/-- A token that was revoked belonged to a session, and that session is over. -/
theorem returns_revokeToken (h : (revokeToken env token hint clientId).Returns db u db') :
    (∃ key, tokenSession? db env.sha256 token = some key ∧ Ended db' key) ∧ Quiet db db' := by
  simp only [revokeToken, returns_bind, returns_ofExcept] at h
  obtain ⟨type, _, ⟨hcheck, rfl⟩, hrest⟩ := h
  split_ifs at hrest with htype
  · obtain ⟨_, _, hhint, hpersonal⟩ := returns_bind.mp hrest
    obtain ⟨-, rfl⟩ := returns_require.mp hhint
    rw [htype] at hcheck
    exact returns_revokePersonalToken hcheck hpersonal
  · exact returns_revokeOAuth2Token hcheck hrest

theorem savesError_sessionToEnd : ¬(sessionToEnd env token hint type).SavesError db e db' := by
  have haccess : ¬(accessTokenSession env token).SavesError db e db' := by
    simp [accessTokenSession, OAuth2AccessTokenRepository.findByToken]
  have hrefresh : ¬(refreshTokenSession token).SavesError db e db' := by
    simp [refreshTokenSession, OAuth2RefreshTokenRepository.findByToken]
  cases type <;> simp only [sessionToEnd] <;> split <;> simp [haccess, hrefresh]

theorem savesError_scheduleForUser {session : Session} :
    ¬(scheduleForUser env session).SavesError db e db' := by
  unfold scheduleForUser
  cases session.userId <;> simp [UserRepository.lookup, QueueJobRepository.scheduleJob]

theorem savesError_scheduleIfDevice {session : PersonalSession} :
    ¬(scheduleIfDevice env session).SavesError db e db' := by
  unfold scheduleIfDevice
  split_ifs <;> simp [QueueJobRepository.scheduleJob]

theorem savesError_revokeToken : ¬(revokeToken env token hint clientId).SavesError db e db' := by
  intro h
  simp only [revokeToken, savesError_bind, savesError_ofExcept, false_or] at h
  obtain ⟨type, _, -, hrest⟩ := h
  split_ifs at hrest
  · simp [revokePersonalToken, PersonalAccessTokenRepository.findByToken,
      PersonalSessionRepository.lookup, PersonalAccessTokenRepository.revoke,
      PersonalSessionRepository.revoke, savesError_scheduleIfDevice] at hrest
  · simp [revokeOAuth2Token, savesError_sessionToEnd, OAuth2SessionRepository.lookup,
      savesError_scheduleForUser, OAuth2SessionRepository.finish,
      OAuth2SessionRepository.updateSession] at hrest

end Effects

end Pasion.Revocation

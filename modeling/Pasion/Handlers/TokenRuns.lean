import Pasion.Handlers.CallContext
import Pasion.Handlers.Consent
import Pasion.Handlers.Revocation
import Pasion.Handlers.TokenEffects
import Pasion.Handlers.Userinfo
import Pasion.Relational.Sequential

/-! Requests and cleanups that touch tokens, one after the other, and what each of them may do. -/
namespace Pasion.TokenRuns

open Relational TokenEffects Introspection Txn

/-- The bounds of a cleanup by time; `ties` orders the rows with equal timestamps. -/
structure Window where
  ties : Ulid → ℕ
  since : Option Time
  until_ : Time
  limit : ℕ

structure IdWindow where
  since : Option Ulid
  until_ : Ulid
  limit : ℕ

inductive Cleanup where
  | revokedAccessTokens (w : Window)
  | expiredAccessTokens (w : Window)
  | revokedRefreshTokens (w : Window)
  | consumedRefreshTokens (w : Window)
  | finishedSessions (w : Window)
  | inactiveIps (w : Window)
  | authorizationGrants (w : IdWindow)
  | deviceCodeGrants (w : IdWindow)

inductive Op where
  | acceptConsent (x : Consent.Services) (now : Time) (newSessionId : Ulid)
      (browserSession : BrowserSession) (grantId : Ulid)
  | exchangeCode (x : Services) (env : TokenEnv) (grant : AuthorizationCodeGrant) (client : Client)
  | exchangeDevice (x : Services) (env : TokenEnv) (deviceCode : String) (client : Client)
  | clientCredentials (x : Services) (env : TokenEnv) (scope : Option Scope) (client : Client)
  | refresh (env : TokenEnv) (token : String) (client : Client)
  | introspect (sha256 : String → List ℕ) (now : Time) (token : String)
      (hint : Option OAuthTokenTypeHint)
  | userinfo (x : Userinfo.Signing) (now : Time) (token : Userinfo.RequestToken)
  | adminCall (sha256 : String → List ℕ) (now : Time) (authorization : Option (List UInt8))
  | revoke (env : Revocation.Env) (token : String) (hint : Option OAuthTokenTypeHint)
      (clientId : Option Ulid)
  | recordActivity (activities : List (Ulid × Time × Option IpAddr))
  | recordPersonalActivity (activities : List (Ulid × Time × Option IpAddr))
  | cleanup (c : Cleanup)

def Cleanup.apply (db : Database) : Cleanup → Database
  | revokedAccessTokens w => ((OAuth2AccessTokenRepository.cleanupRevoked w.ties w.since w.until_
      w.limit : Repo DatabaseError _).transact db).2
  | expiredAccessTokens w => ((OAuth2AccessTokenRepository.cleanupExpired w.ties w.since w.until_
      w.limit : Repo DatabaseError _).transact db).2
  | revokedRefreshTokens w => ((OAuth2RefreshTokenRepository.cleanupRevoked w.ties w.since w.until_
      w.limit : Repo DatabaseError _).transact db).2
  | consumedRefreshTokens w => ((OAuth2RefreshTokenRepository.cleanupConsumed w.ties w.since w.until_
      w.limit : Repo DatabaseError _).transact db).2
  | finishedSessions w => ((OAuth2SessionRepository.cleanupFinished w.ties w.since w.until_
      w.limit : Repo DatabaseError _).transact db).2
  | inactiveIps w => ((OAuth2SessionRepository.cleanupInactiveIps w.ties w.since w.until_
      w.limit : Repo DatabaseError _).transact db).2
  | authorizationGrants w => ((OAuth2AuthorizationGrantRepository.cleanup w.since w.until_
      w.limit : Repo DatabaseError _).transact db).2
  | deviceCodeGrants w => ((OAuth2DeviceCodeGrantRepository.cleanup w.since w.until_
      w.limit : Repo DatabaseError _).transact db).2

def step (db : Database) : Op → Database
  | .acceptConsent x now newSessionId browserSession grantId =>
    ((Consent.acceptAuthorizationConsent x now newSessionId browserSession grantId).transact db).2
  | .exchangeCode x env grant client => ((exchangeAuthorizationCode x env grant client).transact db).2
  | .exchangeDevice x env deviceCode client =>
    ((exchangeDeviceCode x env deviceCode client).transact db).2
  | .clientCredentials x env scope client =>
    ((handleClientCredentials x env scope client).transact db).2
  | .refresh env token client => ((handleRefreshToken env token client).transact db).2
  | .introspect sha256 now token hint => ((introspectToken sha256 now token hint).transact db).2
  | .userinfo x now token => ((Userinfo.handleGet x now token).transact db).2
  | .adminCall sha256 now authorization =>
    ((AdminCall.extractCallContext sha256 now authorization).transact db).2
  | .revoke env token hint clientId => ((Revocation.revokeToken env token hint clientId).transact db).2
  | .recordActivity activities =>
    ((OAuth2SessionRepository.recordBatchActivity activities : Repo DatabaseError _).transact db).2
  | .recordPersonalActivity activities =>
    ((PersonalSessionRepository.recordBatchActivity activities : Repo DatabaseError _).transact db).2
  | .cleanup c => c.apply db

def Op.env? : Op → Option TokenEnv
  | exchangeCode _ env _ _ => some env
  | exchangeDevice _ env _ _ => some env
  | clientCredentials _ env _ _ => some env
  | refresh env _ _ => some env
  | _ => none

def Op.newSession? : Op → Option Ulid
  | acceptConsent _ _ newSessionId _ _ => some newSessionId
  | exchangeDevice _ env _ _ => some env.sessionId
  | clientCredentials _ env _ _ => some env.sessionId
  | _ => none

/-- What a request or a cleanup may leave behind. -/
inductive Change (op : Op) (db : Database) : Database → Prop where
  | quiet {db' : Database} (h : Quiet db db') : Change op db db'
  | used (now : Time) (t : AccessToken) : Change op db (markedUsed now t db)
  | consented {db' : Database} {grantId sessionId : Ulid} {now : Time}
      (hid : op.newSession? = some sessionId) (h : Consent.Fulfilled db db' grantId sessionId now) :
      Change op db db'
  | exchanged {env : TokenEnv} {res : AccessTokenResponse} {db' : Database}
      {grant : AuthorizationGrant} {session : Session} (henv : op.env? = some env)
      (h : CodeExchanged env db res db' grant session) : Change op db db'
  | refreshed {env : TokenEnv} {token : String} {res : AccessTokenResponse} {db' : Database}
      {old : RefreshToken} {session : Session} {db₁ : Database} (henv : op.env? = some env)
      (hold : db.refreshTokenOf? token = some old)
      (h : Refreshed env db res db' old session db₁) : Change op db db'
  | opened {env : TokenEnv} {res : AccessTokenResponse} {db' db₁ : Database} {row : OAuth2SessionRow}
      {refreshed : Bool} (henv : op.env? = some env) (hid : op.newSession? = some env.sessionId)
      (h : SessionOpened env db res db' db₁ row refreshed) : Change op db db'
  | accessDeleted (ids : List Ulid) :
      Change op db (db.delete .oauth2AccessTokens (· ∈ ids))
  | refreshDeleted (ids : List Ulid)
      (h : ∀ id ∈ ids, ∃ r, db.oauth2RefreshTokens.get? id = some r ∧
        (r.revokedAt.isSome ∨ r.consumedAt.isSome)) :
      Change op db (db.delete .oauth2RefreshTokens (· ∈ ids))
  | sessionsDeleted (ids : List Ulid)
      (h : ∀ g r, db.oauth2AuthorizationGrants.get? g = some r → ∀ id ∈ r.oauth2SessionId, id ∉ ids) :
      Change op db (OAuth2SessionRepository.deleteSessions db db ids)

section Cleanups

variable {op : Op} {db db' : Database} {w : Window}
variable {n : ℕ × Option Time}

theorem change_accessCleanup {timestamp : OAuth2AccessTokenRow → Option Time}
    (h : (OAuth2AccessTokenRepository.cleanupBy timestamp w.ties w.since w.until_ w.limit :
      Repo DatabaseError _).Returns db n db') : Change op db db' := by
  obtain ⟨-, -, rfl⟩ := Repo.returns_deleting.mp h
  exact .accessDeleted _

theorem change_refreshCleanup {timestamp : OAuth2RefreshTokenRow → Option Time}
    {eligible : Database → OAuth2RefreshTokenRow → Bool}
    (htimestamp : ∀ r, (timestamp r).isSome → r.revokedAt.isSome ∨ r.consumedAt.isSome)
    (h : (OAuth2RefreshTokenRepository.cleanupBy timestamp eligible w.ties w.since w.until_ w.limit :
      Repo DatabaseError _).Returns db n db') : Change op db db' := by
  obtain ⟨-, -, rfl⟩ := Repo.returns_deleting.mp h
  refine .refreshDeleted _ fun id hid => ?_
  obtain ⟨⟨_, r⟩, hmem, rfl⟩ := List.mem_map.mp hid
  obtain ⟨hget, hsome, -⟩ := mem_cleanupRows hmem
  exact ⟨r, hget, htimestamp r hsome⟩

theorem change_sessionCleanup
    (h : (OAuth2SessionRepository.cleanupFinished w.ties w.since w.until_ w.limit :
      Repo DatabaseError _).Returns db n db') : Change op db db' := by
  rw [OAuth2SessionRepository.cleanupFinished, Repo.returns_deleting] at h
  obtain ⟨hstranded, -, rfl⟩ := h
  refine .sessionsDeleted _ fun g r hg id hid => ?_
  refine (OAuth2SessionRepository.stranded_deleteSessions fun id hid => ?_).mp hstranded g r id hg hid
  obtain ⟨⟨_, row⟩, hmem, rfl⟩ := List.mem_map.mp hid
  exact Table.contains_iff_exists.mpr ⟨row, (mem_cleanupRows hmem).1⟩

/-- A cleanup that clears the addresses of sessions leaves the rest of their rows. -/
theorem quiet_inactiveIps
    (h : (OAuth2SessionRepository.cleanupInactiveIps w.ties w.since w.until_ w.limit :
      Repo DatabaseError _).Returns db n db') : Quiet db db' := by
  obtain ⟨-, -, rfl⟩ := Repo.returns_statement.mp h
  refine .of_sessions rfl rfl rfl rfl (.mapRows (fun id r => ?_) _)
  split_ifs
  · exact fun hfinished => hfinished
  · exact staysFinished_refl r

theorem quiet_grantCleanup {w : IdWindow} {n : ℕ × Option Ulid}
    (h : (OAuth2AuthorizationGrantRepository.cleanup w.since w.until_ w.limit :
      Repo DatabaseError _).Returns db n db') : Quiet db db' := by
  obtain ⟨-, -, rfl⟩ := Repo.returns_statement.mp h
  refine ⟨rfl, rfl, .refl staysFinished_refl _, .refl staysRevoked_refl _, fun g r hr => ?_⟩
  dsimp only at hr
  rw [Table.get?_delete] at hr
  exact (Option.filter_eq_some_iff.mp hr).1

theorem quiet_deviceGrantCleanup {w : IdWindow} {n : ℕ × Option Ulid}
    (h : (OAuth2DeviceCodeGrantRepository.cleanup w.since w.until_ w.limit :
      Repo DatabaseError _).Returns db n db') : Quiet db db' := by
  obtain ⟨-, -, rfl⟩ := Repo.returns_statement.mp h
  exact .of_sessions rfl rfl rfl rfl (.refl staysFinished_refl _)

theorem Cleanup.change (c : Cleanup) : Change op db (c.apply db) := by
  have hstay : Change op db db := .quiet (.refl db)
  cases c with
  | revokedAccessTokens w =>
    refine transact_induct hstay (fun _ _ h => change_accessCleanup h) fun e s' h => ?_
    simp [OAuth2AccessTokenRepository.cleanupRevoked, OAuth2AccessTokenRepository.cleanupBy] at h
  | expiredAccessTokens w =>
    refine transact_induct hstay (fun _ _ h => change_accessCleanup h) fun e s' h => ?_
    simp [OAuth2AccessTokenRepository.cleanupExpired, OAuth2AccessTokenRepository.cleanupBy] at h
  | revokedRefreshTokens w =>
    refine transact_induct hstay (fun _ _ h => change_refreshCleanup (fun _ => .inl) h)
      fun e s' h => ?_
    simp [OAuth2RefreshTokenRepository.cleanupRevoked, OAuth2RefreshTokenRepository.cleanupBy] at h
  | consumedRefreshTokens w =>
    refine transact_induct hstay (fun _ _ h => change_refreshCleanup (fun _ => .inr) h)
      fun e s' h => ?_
    simp [OAuth2RefreshTokenRepository.cleanupConsumed, OAuth2RefreshTokenRepository.cleanupBy] at h
  | finishedSessions w =>
    refine transact_induct hstay (fun _ _ h => change_sessionCleanup h) fun e s' h => ?_
    simp [OAuth2SessionRepository.cleanupFinished] at h
  | inactiveIps w =>
    refine transact_induct hstay (fun _ _ h => .quiet (quiet_inactiveIps h)) fun e s' h => ?_
    simp [OAuth2SessionRepository.cleanupInactiveIps] at h
  | authorizationGrants w =>
    refine transact_induct hstay (fun _ _ h => .quiet (quiet_grantCleanup h)) fun e s' h => ?_
    simp [OAuth2AuthorizationGrantRepository.cleanup] at h
  | deviceCodeGrants w =>
    refine transact_induct hstay (fun _ _ h => .quiet (quiet_deviceGrantCleanup h))
      fun e s' h => ?_
    simp [OAuth2DeviceCodeGrantRepository.cleanup] at h

end Cleanups

section Requests

variable {op : Op} {db db' : Database}
variable {userAgent : Option String} {now : Time} {sha256 : String → List ℕ} {token : String}
  {hint : Option OAuthTokenTypeHint} {activities : List (Ulid × Time × Option IpAddr)}

theorem quiet_touch {id : Ulid} : Quiet db (touch id userAgent db) := by
  cases userAgent with
  | none => exact .refl db
  | some userAgent => exact .updateSession fun _ hfinished => hfinished

theorem quiet_endSession {id : Ulid} : Quiet db (endSession now id (touch id userAgent db)) :=
  quiet_touch.trans .finishSession

theorem sessions_revokeAccess {id : Option Ulid} :
    (revokeAccess now id db).oauth2Sessions = db.oauth2Sessions ∧
      (revokeAccess now id db).personalSessions = db.personalSessions := by
  cases id <;> exact ⟨rfl, rfl⟩

theorem change_introspectToken {res : IntrospectionResponse}
    (h : (introspectToken sha256 now token hint).Returns db res db') : Change op db db' := by
  obtain ⟨type, -, -, htype⟩ := returns_introspectToken.mp h
  cases type with
  | accessToken =>
    obtain ⟨t, session, user, -, -, rfl⟩ := returns_introspectAccessToken.mp htype
    exact .used now t
  | refreshToken =>
    obtain ⟨t, session, user, -, -, rfl⟩ := returns_introspectRefreshToken htype
    exact .quiet (.refl _)
  | personalAccessToken =>
    obtain ⟨t, session, actor, owner, -, -, rfl⟩ := returns_introspectPersonalToken.mp htype
    exact .quiet (.refl _)

theorem savesError_introspectToken {e : IntrospectionError} :
    ¬(introspectToken sha256 now token hint).SavesError db e db' := by
  have huser {session : Session} {db db' : Database} :
      ¬(sessionUser session).SavesError db e db' := by
    unfold sessionUser
    cases session.userId <;> simp [UserRepository.lookup]
  have hmark {t : AccessToken} {db db' : Database} : ¬(markUsedOnce now t).SavesError db e db' := by
    unfold markUsedOnce
    split_ifs <;> simp [OAuth2AccessTokenRepository.markUsed]
  have howner {owner : PersonalSessionOwner} {db db' : Database} :
      ¬(ownerAuthority owner).SavesError db e db' := by
    cases owner <;> simp [ownerAuthority, UserRepository.lookup, OAuth2ClientRepository.lookup]
  intro h
  simp only [introspectToken, savesError_ofExcept_bind, savesError_require_bind] at h
  obtain ⟨type, -, -, h⟩ := h
  cases type with
  | accessToken =>
    simp [introspectAccessToken, OAuth2AccessTokenRepository.findByToken,
      OAuth2SessionRepository.lookup, huser, hmark] at h
  | refreshToken =>
    simp [introspectRefreshToken, OAuth2RefreshTokenRepository.findByToken,
      OAuth2SessionRepository.lookup, huser] at h
  | personalAccessToken =>
    simp [introspectPersonalToken, PersonalAccessTokenRepository.findByToken,
      PersonalSessionRepository.lookup, UserRepository.lookup, howner] at h

/-- An answer that cannot be signed has marked the token all the same. -/
theorem savesError_handleGet {x : Userinfo.Signing} {token : Userinfo.RequestToken}
    {e : Userinfo.RouteError} (h : (Userinfo.handleGet x now token).SavesError db e db') :
    ∃ t, db' = markedUsed now t db := by
  have hprotected {scopes : List String} {e : Userinfo.AuthorizationVerificationError} :
      ¬(Userinfo.protectedSession now token scopes).SavesError db e db' := by
    intro h
    simp only [Userinfo.protectedSession, Userinfo.fetch, OAuth2AccessTokenRepository.findByToken,
      OAuth2SessionRepository.lookup, savesError_bind, savesError_ofOption,
      savesError_query, Repo.savesError_fetch, savesError_pure, savesError_require,
      and_false, exists_false, or_self, false_or] at h
    obtain ⟨pair, _, -, _, _, -, _, _, -, h⟩ := h
    split_ifs at h
    · simp at h
    · simp [OAuth2AccessTokenRepository.markUsed] at h
  unfold Userinfo.handleGet at h
  rw [savesError_bind] at h
  rcases h with h | ⟨session, db₁, hsession, h⟩
  · obtain ⟨e', h, -⟩ := savesError_mapError.mp h
    exact absurd h hprotected
  · obtain ⟨text, t, -, -, -, -, -, -, rfl⟩ :=
      Userinfo.returns_protectedSession (returns_mapError.mp hsession)
    simp only [savesError_ofOption_bind, UserRepository.lookup, savesError_query_bind,
      OAuth2ClientRepository.lookup, Repo.savesError_fetch_bind] at h
    obtain ⟨userId, -, user, -, _, -, client, -, h⟩ := h
    refine ⟨t, ?_⟩
    unfold Userinfo.respond at h
    split at h
    · simp at h
    · split_ifs at h
      · split at h
        · simp at h
        · exact (savesError_commitError.mp h).2.symm
      · exact (savesError_commitError.mp h).2.symm

theorem savesError_extractCallContext
    {authorization : Option (List UInt8)} {e : AdminCall.Rejection} :
    ¬(AdminCall.extractCallContext sha256 now authorization).SavesError db e db' := by
  have hvalid {owner : PersonalSessionOwner} {db db' : Database} :
      ¬(AdminCall.ensureOwnerValid owner).SavesError db e db' := by
    cases owner <;> simp [AdminCall.ensureOwnerValid, UserRepository.lookup]
  have hcaller {token : String} {type : TokenType} {db db' : Database} :
      ¬(AdminCall.callerSession sha256 now token type).SavesError db e db' := by
    cases type <;> simp [AdminCall.callerSession, AdminCall.oauth2Caller, AdminCall.personalCaller,
      OAuth2AccessTokenRepository.findByToken, OAuth2SessionRepository.lookup,
      PersonalAccessTokenRepository.findByToken, PersonalSessionRepository.lookup, hvalid]
  have huser {session : AdminCall.CallerSession} {db db' : Database} :
      ¬(AdminCall.callerUser session).SavesError db e db' := by
    unfold AdminCall.callerUser
    cases session.userId <;> simp [UserRepository.lookup]
  have hadmin {session : AdminCall.CallerSession} {user : Option User} {db db' : Database} :
      ¬(AdminCall.ensureOwnerAdmin session user).SavesError db e db' := by
    unfold AdminCall.ensureOwnerAdmin
    split
    · split_ifs <;> simp [UserRepository.lookup]
    · simp
  simp [AdminCall.extractCallContext, hcaller, huser, hadmin]

theorem returns_callerSession {type : TokenType} {caller : AdminCall.CallerSession}
    (h : (AdminCall.callerSession sha256 now token type).Returns db caller db') : db' = db := by
  cases type with
  | accessToken =>
    obtain ⟨t, session, -, -, -, -, -, rfl⟩ := AdminCall.returns_oauth2Caller.mp h
    rfl
  | refreshToken => exact absurd h returns_rollback
  | personalAccessToken =>
    obtain ⟨t, session, -, -, -, -, -, -, rfl⟩ := AdminCall.returns_personalCaller.mp h
    rfl

theorem quiet_recordActivity {u : Unit}
    (h : (OAuth2SessionRepository.recordBatchActivity activities : Repo DatabaseError _).Returns db u
      db') : Quiet db db' := by
  obtain ⟨_, _, hexecute, hrequire⟩ := returns_bind.mp h
  obtain ⟨-, rfl⟩ := returns_execute.mp hexecute
  obtain ⟨-, rfl⟩ := returns_require.mp hrequire
  refine .of_sessions rfl rfl rfl rfl (.mapRows (fun id r => ?_) _)
  split
  · exact staysFinished_refl r
  · exact fun hfinished => hfinished

theorem quiet_recordPersonalActivity {u : Unit}
    (h : (PersonalSessionRepository.recordBatchActivity activities : Repo DatabaseError _).Returns db
      u db') : Quiet db db' := by
  obtain ⟨_, _, hexecute, hrequire⟩ := returns_bind.mp h
  obtain ⟨-, rfl⟩ := returns_execute.mp hexecute
  obtain ⟨-, rfl⟩ := returns_require.mp hrequire
  refine ⟨rfl, rfl, .refl staysFinished_refl _, .mapRows (fun id r => ?_) _, fun _ _ hr => hr⟩
  split
  · exact staysRevoked_refl r
  · exact fun hrevoked => hrevoked

/-- Every request and every cleanup makes one of the changes. -/
theorem step_change (db : Database) (op : Op) : Change op db (step db op) := by
  have hstay : Change op db db := .quiet (.refl db)
  cases op with
  | acceptConsent x now newSessionId browserSession grantId =>
    refine transact_induct hstay (fun _ _ h => ?_)
      fun _ _ h => absurd h Consent.savesError_acceptAuthorizationConsent
    rcases Consent.returns_acceptAuthorizationConsent h with rfl | hfulfilled
    · exact hstay
    · exact .consented rfl hfulfilled
  | exchangeCode x env grant client =>
    refine transact_induct hstay (fun _ _ h => ?_) fun _ _ h => ?_
    · obtain ⟨authzGrant, session, hexchanged⟩ := returns_exchangeAuthorizationCode h
      exact .exchanged rfl hexchanged
    · obtain ⟨sessionId, userAgent, rfl⟩ := savesError_exchangeAuthorizationCode h
      exact .quiet quiet_endSession
  | exchangeDevice x env deviceCode client =>
    refine transact_induct hstay (fun _ _ h => ?_)
      fun _ _ h => absurd h savesError_exchangeDeviceCode
    obtain ⟨db₁, row, refreshed, _, _, hopened, -⟩ := returns_exchangeDeviceCode h
    exact .opened rfl rfl hopened
  | clientCredentials x env scope client =>
    refine transact_induct hstay (fun _ _ h => ?_)
      fun _ _ h => absurd h savesError_handleClientCredentials
    obtain ⟨db₁, row, granted, hopened, -⟩ := returns_handleClientCredentials h
    exact .opened rfl rfl hopened
  | refresh env token client =>
    refine transact_induct hstay (fun _ _ h => ?_) fun _ _ h => ?_
    · obtain ⟨old, session, db₁, hold, hrefreshed⟩ := returns_handleRefreshToken h
      exact .refreshed rfl hold hrefreshed
    · obtain ⟨sessionId, userAgent, rfl⟩ := savesError_handleRefreshToken h
      exact .quiet quiet_endSession
  | introspect sha256 now token hint =>
    exact transact_induct hstay (fun _ _ h => change_introspectToken h)
      fun _ _ h => absurd h savesError_introspectToken
  | userinfo x now token =>
    refine transact_induct hstay (fun _ _ h => ?_) fun _ _ h => ?_
    · obtain ⟨text, t, session, user, -, -, rfl⟩ := Userinfo.returns_handleGet h
      exact .used now t
    · obtain ⟨t, rfl⟩ := savesError_handleGet h
      exact .used now t
  | adminCall sha256 now authorization =>
    refine transact_induct hstay (fun _ _ h => ?_)
      fun _ _ h => absurd h savesError_extractCallContext
    obtain ⟨token, type, -, -, hcaller, -⟩ := AdminCall.returns_extractCallContext.mp h
    rw [returns_callerSession hcaller]
    exact hstay
  | revoke env token hint clientId =>
    exact transact_induct hstay (fun _ _ h => .quiet (Revocation.returns_revokeToken h).2)
      fun _ _ h => absurd h Revocation.savesError_revokeToken
  | recordActivity activities =>
    refine transact_induct hstay (fun _ _ h => .quiet (quiet_recordActivity h)) fun _ _ h => ?_
    simp [OAuth2SessionRepository.recordBatchActivity, Repo.ensureAffectedRows] at h
  | recordPersonalActivity activities =>
    refine transact_induct hstay (fun _ _ h => .quiet (quiet_recordPersonalActivity h))
      fun _ _ h => ?_
    simp [PersonalSessionRepository.recordBatchActivity, Repo.ensureAffectedRows] at h
  | cleanup c => exact c.change

end Requests

end Pasion.TokenRuns

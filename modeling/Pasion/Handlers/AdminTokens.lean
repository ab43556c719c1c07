import Pasion.Handlers.CodeExchange
import Pasion.Handlers.Introspection
import Pasion.Handlers.TokenEffects

/-! Tokens with administrative scopes: who is behind those that are issued, and behind those that
introspection reports. -/
namespace Pasion.AdminTokens

open Relational TokenEffects Table

def HoldsToken (db : Database) (res : AccessTokenResponse) (sessionId : Ulid) : Prop :=
  (∃ id r, db.oauth2AccessTokens.get? id = some r ∧ r.accessToken = res.accessToken ∧
    r.oauth2SessionId = sessionId) ∨
  ∃ id r, db.oauth2RefreshTokens.get? id = some r ∧ some r.refreshToken = res.refreshToken ∧
    r.oauth2SessionId = sessionId

def Privileged (row : OAuth2SessionRow) : Prop :=
  ∃ token ∈ row.scopeList, Admin.isPrivilegedScopeToken token

def AdminBehind (db : Database) (userId : Option Ulid) : Prop :=
  ∃ user, userId.bind db.user? = some user ∧ user.canRequestAdmin

/-- The sessions of the tokens have no administrative scopes, or a user who may hold them. -/
def LawfullyIssued (db : Database) (res : AccessTokenResponse) (db' : Database) : Prop :=
  ∀ sessionId row, HoldsToken db' res sessionId → db'.oauth2Sessions.get? sessionId = some row →
    Privileged row → AdminBehind db row.userId

section Issued

variable {db db' db₁ : Database} {env : TokenEnv} {res : AccessTokenResponse} {sessionId : Ulid}
variable {row : OAuth2SessionRow} {x : Services} {client : Client}

def OnlySession (db : Database) (res : AccessTokenResponse) (sessionId : Ulid) : Prop :=
  ∀ id, HoldsToken db res id → id = sessionId

theorem holdsToken_issueAccess {id : Ulid} (hfresh : FreshAccess env sessionId db)
    (haccess : res.accessToken = TokenType.generate .accessToken env.accessTokenBytes)
    (h : HoldsToken (issueAccess env sessionId db) res id) :
    id = sessionId ∨ ∃ k r, db.oauth2RefreshTokens.get? k = some r ∧
      some r.refreshToken = res.refreshToken ∧ r.oauth2SessionId = id := by
  rcases h with ⟨k, r, hr, htext, hsession⟩ | hrefresh
  · left
    have hget : (db.oauth2AccessTokens.insert env.accessTokenId (accessRow env sessionId)).get? k =
        some r := hr
    rw [get?_insert] at hget
    split_ifs at hget with hk
    · rw [← hsession, ← Option.some.inj hget]
      rfl
    · exact absurd (htext.trans haccess) (hfresh.text k r hget)
  · exact .inr hrefresh

theorem onlySession_issueAccess (hfresh : FreshAccess env sessionId db)
    (haccess : res.accessToken = TokenType.generate .accessToken env.accessTokenBytes)
    (hrefresh : res.refreshToken = none) :
    OnlySession (issueAccess env sessionId db) res sessionId := by
  intro id hholds
  rcases holdsToken_issueAccess hfresh haccess hholds with heq | ⟨k, r, -, htext, -⟩
  · exact heq
  · rw [hrefresh] at htext
    cases htext

theorem onlySession_issuePair (hfresh : FreshAccess env sessionId db)
    (hfreshR : FreshRefresh env db)
    (haccess : res.accessToken = TokenType.generate .accessToken env.accessTokenBytes)
    (hrefresh : res.refreshToken = some (TokenType.generate .refreshToken env.refreshTokenBytes)) :
    OnlySession (issueRefresh env sessionId (issueAccess env sessionId db)) res sessionId := by
  intro id hholds
  rcases hholds with hholds | ⟨k, r, hr, htext, hsession⟩
  · rcases holdsToken_issueAccess hfresh haccess (.inl hholds) with heq | ⟨k, r, hr, htext, -⟩
    · exact heq
    · exact absurd (Option.some.inj (htext.trans hrefresh)) (hfreshR.text k r hr)
  · have hget : (db.oauth2RefreshTokens.insert env.refreshTokenId (refreshRow env sessionId)).get?
        k = some r := hr
    rw [get?_insert] at hget
    split_ifs at hget with hk
    · rw [← hsession, ← Option.some.inj hget]
      rfl
    · exact absurd (Option.some.inj (htext.trans hrefresh)) (hfreshR.text k r hget)

/-- Updates that keep the text and the session of every token move no token to another session. -/
theorem onlySession_updateRefreshToken {k : Ulid} {f : OAuth2RefreshTokenRow → OAuth2RefreshTokenRow}
    (hf : ∀ r, (f r).refreshToken = r.refreshToken ∧ (f r).oauth2SessionId = r.oauth2SessionId)
    (h : OnlySession db res sessionId) : OnlySession (db.updateRefreshToken k f) res sessionId := by
  intro id hholds
  rcases hholds with hholds | ⟨k', r, hr, htext, hsession⟩
  · exact h id (.inl hholds)
  · have hget : (db.oauth2RefreshTokens.update k f).get? k' = some r := hr
    rw [get?_update] at hget
    split_ifs at hget
    · obtain ⟨r₀, hr₀, rfl⟩ := Option.map_eq_some_iff.mp hget
      rw [(hf r₀).1] at htext
      rw [(hf r₀).2] at hsession
      exact h id (.inr ⟨k', r₀, hr₀, htext, hsession⟩)
    · exact h id (.inr ⟨k', r, hget, htext, hsession⟩)

theorem onlySession_revokeAccess {now : Time} {accessTokenId : Option Ulid}
    (h : OnlySession db res sessionId) :
    OnlySession (revokeAccess now accessTokenId db) res sessionId := by
  cases accessTokenId with
  | none => exact h
  | some k =>
    intro id hholds
    rcases hholds with ⟨k', r, hr, htext, hsession⟩ | hholds
    · have hget : (db.oauth2AccessTokens.update k (fun r =>
          { r with revokedAt := r.revokedAt.or (some now) })).get? k' = some r := hr
      rw [get?_update] at hget
      split_ifs at hget
      · obtain ⟨r₀, hr₀, rfl⟩ := Option.map_eq_some_iff.mp hget
        exact h id (.inl ⟨k', r₀, hr₀, htext, hsession⟩)
      · exact h id (.inl ⟨k', r, hget, htext, hsession⟩)
    · exact h id (.inr hholds)

theorem privileged_iff {scope : Scope} (h : Scope.collectStr row.scopeList = some scope) :
    Privileged row ↔ Admin.requiresAdmin scope := by
  rw [Admin.requiresAdmin_iff]
  unfold Privileged
  constructor
  · intro ⟨token, hmem, hpriv⟩
    obtain ⟨t, ht, rfl⟩ := Scope.mem_toList.mp ((Scope.mem_toList_collectStr h).mpr hmem)
    exact ⟨t, ht, hpriv⟩
  · intro ⟨t, ht, hpriv⟩
    exact ⟨t.asStr, (Scope.mem_toList_collectStr h).mp (Scope.mem_toList.mpr ⟨t, ht, rfl⟩), hpriv⟩

theorem adminBehind_of_mayHold {userId : Option Ulid}
    (h : Admin.mayHoldAdminScope (userId.bind db.user?)) : AdminBehind db userId := by
  unfold AdminBehind
  cases huser : userId.bind db.user? with
  | none => simp [huser, Admin.mayHoldAdminScope] at h
  | some user => exact ⟨user, rfl, by simpa [huser, Admin.mayHoldAdminScope] using h⟩

theorem get?_touch {userAgent : Option String}
    (h : (touch sessionId userAgent db).oauth2Sessions.get? sessionId = some row) :
    ∃ r, db.oauth2Sessions.get? sessionId = some r ∧ row.userId = r.userId ∧
      row.scopeList = r.scopeList := by
  cases userAgent with
  | none => exact ⟨row, h, rfl, rfl⟩
  | some userAgent =>
    have hget : (db.oauth2Sessions.update sessionId (fun r =>
        { r with userAgent := some userAgent })).get? sessionId = some row := h
    rw [get?_update, if_pos rfl] at hget
    obtain ⟨r, hr, rfl⟩ := Option.map_eq_some_iff.mp hget
    exact ⟨r, hr, rfl, rfl⟩

theorem lawfullyIssued_of_mayKeep {session : Session} (userAgent : Option String)
    (hloaded : db.session? session.id = some session) (hmay : MayKeep db session)
    (honly : OnlySession db' res session.id)
    (hsessions : db'.oauth2Sessions = (touch session.id userAgent db).oauth2Sessions) :
    LawfullyIssued db res db' := by
  intro sessionId row hholds hrow hpriv
  rw [honly sessionId hholds, hsessions] at hrow
  obtain ⟨r, hr, huser, hscope⟩ := get?_touch hrow
  obtain ⟨-, r', hr', huser', hscope', -⟩ := Database.session?_eq_some hloaded
  cases hr.symm.trans hr'
  rw [← hscope] at hscope'
  rw [huser, ← huser']
  exact adminBehind_of_mayHold (hmay ((privileged_iff hscope').mp hpriv))

theorem lawful_exchangeAuthorizationCode {grant : AuthorizationCodeGrant} (h : (exchangeAuthorizationCode x env grant client).Returns db res db') :
    LawfullyIssued db res db' := by
  obtain ⟨authzGrant, session, hex⟩ := returns_exchangeAuthorizationCode h
  have honly := onlySession_issuePair hex.freshAccess hex.freshRefresh hex.accessToken
    hex.refreshToken
  refine lawfullyIssued_of_mayKeep env.userAgent hex.loaded hex.mayKeep ?_ ?_
  · rw [hex.after]
    exact honly
  · rw [hex.after]
    rfl

theorem sessions_of_successorGone {now : Time} {old : RefreshToken}
    (h : SuccessorGone now old db db') : db'.oauth2Sessions = db.oauth2Sessions := by
  cases h <;> rfl

theorem lawful_handleRefreshToken {token : String}
    (h : (handleRefreshToken env token client).Returns db res db') : LawfullyIssued db res db' := by
  obtain ⟨old, session, db₁, -, hre⟩ := returns_handleRefreshToken h
  have hloaded : db.session? session.id = some session := by
    rw [(Database.session?_eq_some hre.loaded).1]
    exact hre.loaded
  refine lawfullyIssued_of_mayKeep env.userAgent hloaded hre.mayKeep ?_ ?_
  · rw [hre.after]
    refine onlySession_revokeAccess (onlySession_updateRefreshToken (fun _ => ⟨rfl, rfl⟩) ?_)
    exact onlySession_issuePair hre.freshAccess hre.freshRefresh hre.accessToken hre.refreshToken
  · rw [hre.after, ← sessions_of_successorGone hre.successor]
    cases old.accessTokenId <;> rfl

theorem onlySession_of_opened {refreshed : Bool}
    (h : SessionOpened env db res db' db₁ row refreshed) : OnlySession db' res env.sessionId := by
  cases refreshed with
  | true =>
    rw [h.after]
    exact onlySession_issuePair h.freshAccess (h.freshRefresh rfl) h.accessToken h.refreshToken
  | false =>
    rw [h.after]
    exact onlySession_issueAccess h.freshAccess h.accessToken h.refreshToken

theorem row_of_opened {row' : OAuth2SessionRow} {refreshed : Bool}
    (h : SessionOpened env db res db' db₁ row refreshed)
    (hrow : db'.oauth2Sessions.get? env.sessionId = some row') : row' = row := by
  have hsessions : db'.oauth2Sessions = db.oauth2Sessions.insert env.sessionId row := by
    rw [h.after, ← h.before.2.2.2.2.2]
    cases refreshed <;> rfl
  rw [hsessions, get?_insert, if_pos rfl] at hrow
  exact (Option.some.inj hrow).symm

theorem requiresAdmin_of_privileged {granted : Scope}
    (hscope : row.scopeList = granted.toList) (h : Privileged row) :
    Admin.requiresAdmin granted := by
  obtain ⟨token, hmem, hpriv⟩ := h
  rw [hscope] at hmem
  obtain ⟨t, ht, rfl⟩ := Scope.mem_toList.mp hmem
  exact Admin.requiresAdmin_iff.mpr ⟨t, ht, hpriv⟩

theorem lawful_handleClientCredentials {scope : Option Scope}
    (h : (handleClientCredentials x env scope client).Returns db res db') :
    LawfullyIssued db res db' := by
  obtain ⟨db₁, row, granted, hopened, hscope, hadmin⟩ := returns_handleClientCredentials h
  intro sessionId row' hholds hrow hpriv
  rw [onlySession_of_opened hopened sessionId hholds] at hrow
  obtain rfl := row_of_opened hopened hrow
  rw [requiresAdmin_of_privileged hscope hpriv] at hadmin
  cases hadmin

theorem lawful_exchangeDeviceCode {deviceCode : String}
    (h : (exchangeDeviceCode x env deviceCode client).Returns db res db') :
    LawfullyIssued db res db' := by
  obtain ⟨db₁, row, refreshed, grant, browserSession, hopened, happroved⟩ :=
    returns_exchangeDeviceCode h
  have huser := (Database.browserSession?_eq_some happroved.loaded).2.1
  have hadmin := happroved.adminAllowed
  intro sessionId row' hholds hrow hpriv
  rw [onlySession_of_opened hopened sessionId hholds] at hrow
  obtain rfl := row_of_opened hopened hrow
  have hrequires := requiresAdmin_of_privileged happroved.scope hpriv
  refine ⟨browserSession.user, by rw [happroved.user]; exact huser, ?_⟩
  simpa [Admin.adminScopeAllowed, hrequires, Admin.mayHoldAdminScope] using hadmin

end Issued

/-- The user of a token, and the owner of its session, may hold administrative scopes. -/
def AdminOfToken (db : Database) (sha256 : String → List ℕ) (token : String) : Prop :=
  (TokenType.check token = .ok .accessToken ∧ ∃ t session,
    db.accessTokenOf? token = some t ∧ db.session? t.sessionId = some session ∧
      AdminBehind db session.userId) ∨
  (TokenType.check token = .ok .refreshToken ∧ ∃ t session,
    db.refreshTokenOf? token = some t ∧ db.session? t.sessionId = some session ∧
      AdminBehind db session.userId) ∨
  (TokenType.check token = .ok .personalAccessToken ∧ ∃ t session,
    db.personalTokenOf? sha256 token = some t ∧ db.personalSession? t.sessionId = some session ∧
      AdminBehind db (some session.actorUserId) ∧
      ∀ ownerId, session.owner = .user ownerId → AdminBehind db (some ownerId))

section Reported

open Introspection

variable {db db' : Database} {sha256 : String → List ℕ} {now : Time} {token : String}
  {hint : Option OAuthTokenTypeHint} {res : IntrospectionResponse}

theorem adminBehind_of_sessionUser {session : Session} {user : Option User}
    (h : sessionUser? db session = some user) (hadmin : Admin.mayHoldAdminScope user) :
    AdminBehind db session.userId := by
  unfold sessionUser? at h
  cases huserId : session.userId with
  | none =>
    simp only [huserId, Option.some.injEq] at h
    rw [← h] at hadmin
    cases hadmin
  | some userId =>
    simp only [huserId] at h
    obtain ⟨u, hu, rfl⟩ := Option.map_eq_some_iff.mp h
    exact ⟨u, (Option.filter_eq_some_iff.mp hu).1, by simpa [Admin.mayHoldAdminScope] using hadmin⟩

theorem adminBehind_of_owner {ownerId : Ulid} {owner : Bool × Option String}
    (h : ownerAuthority? db (.user ownerId) = some owner) (hadmin : owner.1) :
    AdminBehind db (some ownerId) := by
  obtain ⟨u, hu, rfl⟩ := Option.map_eq_some_iff.mp h
  exact ⟨u, (Option.filter_eq_some_iff.mp hu).1, hadmin⟩

theorem adminOfToken_of_reported {scope : Scope}
    (h : (introspectToken sha256 now token hint).Returns db res db')
    (hscope : res.scope = some scope) (hadmin : Admin.requiresAdmin scope) :
    AdminOfToken db sha256 token := by
  obtain ⟨type, hcheck, -, hbranch⟩ := returns_introspectToken.mp h
  cases type with
  | accessToken =>
    obtain ⟨t, session, user, hactive, rfl, -⟩ := returns_introspectAccessToken.mp hbranch
    rw [← Option.some.inj hscope] at hadmin
    exact .inl ⟨hcheck, t, session, hactive.found, hactive.loaded,
      adminBehind_of_sessionUser hactive.subject (requiresAdmin_reportedScope hadmin)⟩
  | refreshToken =>
    obtain ⟨t, session, user, hactive, rfl, -⟩ := returns_introspectRefreshToken hbranch
    rw [← Option.some.inj hscope] at hadmin
    exact .inr (.inl ⟨hcheck, t, session, hactive.found, hactive.loaded,
      adminBehind_of_sessionUser hactive.subject (requiresAdmin_reportedScope hadmin)⟩)
  | personalAccessToken =>
    obtain ⟨t, session, actor, owner, hactive, rfl, -⟩ := returns_introspectPersonalToken.mp hbranch
    rw [← Option.some.inj hscope] at hadmin
    obtain ⟨hactor, howner⟩ := Bool.and_eq_true_iff.mp (requiresAdmin_reportedScope hadmin)
    refine .inr (.inr ⟨hcheck, t, session, hactive.found, hactive.loaded,
      ⟨actor, hactive.acting, hactor⟩, fun ownerId hid => ?_⟩)
    exact adminBehind_of_owner (hid ▸ hactive.owned) howner

theorem requiresAdmin_normalizeScope {scope : Scope} :
    Admin.requiresAdmin (normalizeScope scope) ↔ Admin.requiresAdmin scope := by
  rw [Admin.requiresAdmin_iff, exists_mem_normalizeScope (fun _ => id), Admin.requiresAdmin_iff]

end Reported

/-- Administrative scopes are issued to, and reported of, users only who may hold them. -/
theorem adminScope_needs_admin (x : Services) (env : TokenEnv) (client : Client)
    (sha256 : String → List ℕ) (now : Time) (db db' : Database) :
    (∀ res grant, (exchangeAuthorizationCode x env grant client).Returns db res db' →
      LawfullyIssued db res db') ∧
    (∀ res token, (handleRefreshToken env token client).Returns db res db' →
      LawfullyIssued db res db') ∧
    (∀ res scope, (handleClientCredentials x env scope client).Returns db res db' →
      LawfullyIssued db res db') ∧
    (∀ res deviceCode, (exchangeDeviceCode x env deviceCode client).Returns db res db' →
      LawfullyIssued db res db') ∧
    (∀ res token hint scope,
      (Introspection.introspectToken sha256 now token hint).Returns db res db' →
      res.scope = some scope → Admin.requiresAdmin scope → AdminOfToken db sha256 token) ∧
    ∀ scope, Admin.requiresAdmin (Introspection.normalizeScope scope) ↔
      Admin.requiresAdmin scope := by
  refine ⟨?_, ?_, ?_, ?_, ?_, ?_⟩
  · intro res grant h
    exact lawful_exchangeAuthorizationCode h
  · intro res token h
    exact lawful_handleRefreshToken h
  · intro res scope h
    exact lawful_handleClientCredentials h
  · intro res deviceCode h
    exact lawful_exchangeDeviceCode h
  · intro res token hint scope h hscope hadmin
    exact adminOfToken_of_reported h hscope hadmin
  · intro scope
    exact requiresAdmin_normalizeScope

section Fixtures

def adminGrant : Database := { CodeExchange.fulfilledGrant with
  users := Table.empty.insert 1 ⟨"alice", 0, 0, none, none, true, false, none, none, none⟩
  oauth2Sessions := Table.empty.insert 4
    ⟨some 1, some 2, 3, ["openid", "urn:pasion:admin"], 0, none, none, none, none, none⟩ }

def adminEnv : TokenEnv := ⟨1, 300, List.replicate 30 1, List.replicate 30 2, 10, 11, 12, none⟩

def adminExchange : Repo AuthorizationCodeExchangeError AccessTokenResponse :=
  exchangeAuthorizationCode CodeExchange.agreeable adminEnv
    ⟨"code", some "https://client/", none⟩ (CodeExchange.twoRequests true).client

def adminIntrospection : Repo Introspection.IntrospectionError Introspection.IntrospectionResponse :=
  Introspection.introspectToken (fun _ => []) 2
    (TokenType.generate .accessToken adminEnv.accessTokenBytes) none

theorem adminScope_of_admin : ∃ res db' res' db'',
    adminExchange.Returns adminGrant res db' ∧ LawfullyIssued adminGrant res db' ∧
    adminIntrospection.Returns db' res' db'' ∧ res'.scope.any Admin.requiresAdmin ∧
    AdminOfToken db' (fun _ => []) (TokenType.generate .accessToken adminEnv.accessTokenBytes) := by
  obtain ⟨res, hissued, -⟩ := Txn.exists_returns adminExchange adminGrant (fun _ => true)
    (by decide +kernel)
  obtain ⟨res', hreported, hadmin⟩ := Txn.exists_returns adminIntrospection
    (adminExchange.exec adminGrant).2 (fun r => r.scope.any Admin.requiresAdmin) (by decide +kernel)
  obtain ⟨scope, hscope, hrequires⟩ := (Option.any_eq_true _ _).mp hadmin
  have hboth := adminScope_needs_admin CodeExchange.agreeable adminEnv
    (CodeExchange.twoRequests true).client (fun _ => []) 2
  exact ⟨res, _, res', _, hissued, (hboth _ _).1 res _ hissued, hreported, hadmin,
    (hboth _ _).2.2.2.2.1 res' _ none scope hreported hscope hrequires⟩

end Fixtures

end Pasion.AdminTokens

import Pasion.Handlers.Admin
import Pasion.Pg.OAuth2Grant
import Pasion.Pg.Personal

/-! Token introspection: which tokens are active, and with which scope. -/
namespace Pasion.Introspection

open Relational Txn

def unstableApiScope : ScopeToken := ⟨"urn:matrix:org.matrix.msc2967.client:api:*", by decide⟩

def stableApiScope : ScopeToken := ⟨"urn:matrix:client:api:*", by decide⟩

/-- What the presence of a token adds to a scope: the same access under its other name. -/
def equivalents (token : ScopeToken) : List ScopeToken :=
  if token = stableApiScope then [unstableApiScope]
  else if token = unstableApiScope then [stableApiScope]
  else
    match (Str.stripPrefix "urn:matrix:client:device:" token.asStr).or
      (Str.stripPrefix "urn:matrix:org.matrix.msc2967.client:device:" token.asStr) with
    | none => []
    | some deviceId =>
      match ScopeToken.fromStr (stableDeviceScope deviceId),
        ScopeToken.fromStr (unstableDeviceScope deviceId) with
      | some stable, some unstable => [stable, unstable]
      | _, _ => []

def normalizeScope (scope : Scope) : Scope := (scope.iter.flatMap equivalents).foldl .insert scope

inductive IntrospectionError where
  | repository (e : DatabaseError)
  | unexpectedTokenType
  | invalidTokenFormat (e : TokenFormatError)
  | unknownToken (type : TokenType)
  | invalidToken (type : TokenType)
  | invalidOAuthSession (id : Ulid)
  | cantLoadOAuthSession (id : Ulid)
  | invalidPersonalSession (id : Ulid)
  | cantLoadPersonalSession (id : Ulid)
  | invalidUser (id : Ulid)
  | cantLoadUser (id : Ulid)
  | cantLoadOAuth2Client (id : Ulid)
  deriving DecidableEq

instance : FromRepository IntrospectionError := ⟨.repository⟩

structure IntrospectionResponse where
  active : Bool
  scope : Option Scope
  (clientId username : Option String)
  tokenType : Option OAuthTokenTypeHint
  exp : Option Time
  expiresIn : Option Duration
  (iat nbf : Option Time)
  (sub jti : Option String)
  deriving DecidableEq

/-- The user of a session, who must be valid; a session of a client alone has none. -/
def sessionUser (session : Session) : Repo IntrospectionError (Option User) :=
  match session.userId with
  | some userId => do
    let found ← UserRepository.lookup userId
    let user ← Txn.ofOption found (.cantLoadUser userId)
    Txn.require user.isValid (.invalidUser user.id)
    pure (some user)
  | none => pure none

def reportedScope (scope : Scope) (isAdmin : Bool) : Scope :=
  normalizeScope (Admin.stripAdminScopeUnless scope isAdmin)

def markUsedOnce (now : Time) (accessToken : AccessToken) : Repo IntrospectionError AccessToken :=
  if accessToken.isUsed then pure accessToken
  else OAuth2AccessTokenRepository.markUsed now accessToken

def accessTokenResponse (now : Time) (accessToken : AccessToken) (session : Session)
    (user : Option User) : IntrospectionResponse where
  active := true
  scope := some (reportedScope session.scope (Admin.mayHoldAdminScope user))
  clientId := some (Ulid.toString session.clientId)
  username := user.map User.username
  tokenType := some .accessToken
  exp := accessToken.expiresAt
  expiresIn := accessToken.expiresAt.map (· - now)
  iat := some accessToken.createdAt
  nbf := some accessToken.createdAt
  sub := user.map User.sub
  jti := some accessToken.jti

def introspectAccessToken (now : Time) (token : String) :
    Repo IntrospectionError IntrospectionResponse := do
  let found ← OAuth2AccessTokenRepository.findByToken token
  let accessToken ← Txn.ofOption found (.unknownToken .accessToken)
  Txn.require (accessToken.isValid now) (.invalidToken .accessToken)
  let found ← OAuth2SessionRepository.lookup accessToken.sessionId
  let session ← Txn.ofOption found (.cantLoadOAuthSession accessToken.sessionId)
  Txn.require session.isValid (.invalidOAuthSession session.id)
  let accessToken ← markUsedOnce now accessToken
  let user ← sessionUser session
  pure (accessTokenResponse now accessToken session user)

def refreshTokenResponse (refreshToken : RefreshToken) (session : Session) (user : Option User) :
    IntrospectionResponse where
  active := true
  scope := some (reportedScope session.scope (Admin.mayHoldAdminScope user))
  clientId := some (Ulid.toString session.clientId)
  username := user.map User.username
  tokenType := some .refreshToken
  exp := none
  expiresIn := none
  iat := some refreshToken.createdAt
  nbf := some refreshToken.createdAt
  sub := user.map User.sub
  jti := some refreshToken.jti

def introspectRefreshToken (token : String) : Repo IntrospectionError IntrospectionResponse := do
  let found ← OAuth2RefreshTokenRepository.findByToken token
  let refreshToken ← Txn.ofOption found (.unknownToken .refreshToken)
  Txn.require refreshToken.isValid (.invalidToken .refreshToken)
  let found ← OAuth2SessionRepository.lookup refreshToken.sessionId
  let session ← Txn.ofOption found (.cantLoadOAuthSession refreshToken.sessionId)
  Txn.require session.isValid (.invalidOAuthSession session.id)
  let user ← sessionUser session
  pure (refreshTokenResponse refreshToken session user)

/-- Whether the owner leaves the actor an administrator, and the client identifier to report. -/
def ownerAuthority : PersonalSessionOwner → Repo IntrospectionError (Bool × Option String)
  | .user ownerUserId => do
    let found ← UserRepository.lookup ownerUserId
    let ownerUser ← Txn.ofOption found (.cantLoadUser ownerUserId)
    Txn.require ownerUser.isValid (.invalidUser ownerUser.id)
    pure (ownerUser.canRequestAdmin, none)
  | .oauth2Client ownerClientId => do
    let found ← OAuth2ClientRepository.lookup ownerClientId
    let ownerClient ← Txn.ofOption found (.cantLoadOAuth2Client ownerClientId)
    pure (true, some ownerClient.clientId)

def personalTokenResponse (now : Time) (accessToken : PersonalAccessToken)
    (session : PersonalSession) (actorUser : User) (owner : Bool × Option String) :
    IntrospectionResponse where
  active := true
  scope := some (reportedScope session.scope (actorUser.canRequestAdmin && owner.1))
  clientId := owner.2
  username := some actorUser.username
  tokenType := some .accessToken
  exp := accessToken.expiresAt
  expiresIn := accessToken.expiresAt.map (· - now)
  iat := some accessToken.createdAt
  nbf := some accessToken.createdAt
  sub := some actorUser.sub
  jti := none

def introspectPersonalToken (sha256 : String → List ℕ) (now : Time) (token : String) :
    Repo IntrospectionError IntrospectionResponse := do
  let found ← PersonalAccessTokenRepository.findByToken sha256 token
  let accessToken ← Txn.ofOption found (.unknownToken .accessToken)
  Txn.require (accessToken.isValid now) (.invalidToken .accessToken)
  let found ← PersonalSessionRepository.lookup accessToken.sessionId
  let session ← Txn.ofOption found (.cantLoadPersonalSession accessToken.sessionId)
  Txn.require session.isValid (.invalidPersonalSession session.id)
  let found ← UserRepository.lookup session.actorUserId
  let actorUser ← Txn.ofOption found (.cantLoadUser session.actorUserId)
  Txn.require actorUser.isValid (.invalidUser actorUser.id)
  let owner ← ownerAuthority session.owner
  pure (personalTokenResponse now accessToken session actorUser owner)

def introspectToken (sha256 : String → List ℕ) (now : Time) (token : String)
    (hint : Option OAuthTokenTypeHint) : Repo IntrospectionError IntrospectionResponse := do
  let tokenType ← Txn.ofExcept (TokenType.check token) .invalidTokenFormat
  Txn.require (hint.all tokenType.fitsHint) .unexpectedTokenType
  match tokenType with
  | .accessToken => introspectAccessToken now token
  | .refreshToken => introspectRefreshToken token
  | .personalAccessToken => introspectPersonalToken sha256 now token

section Scope

variable {scope : Scope} {isAdmin : Bool} {t u : ScopeToken}

theorem mem_normalizeScope : t ∈ normalizeScope scope ↔ (∃ u ∈ scope, t ∈ equivalents u) ∨ t ∈ scope := by
  simp [normalizeScope, Scope.mem_foldl_insert]

theorem startsWith_of_mem_equivalents (h : t ∈ equivalents u) :
    Str.startsWith t.asStr "urn:matrix:" := by
  unfold equivalents at h
  split_ifs at h
  · rw [List.mem_singleton.mp h]
    decide
  · rw [List.mem_singleton.mp h]
    decide
  · split at h
    · cases h
    · split at h
      · next hstable hunstable =>
        rcases List.mem_cons.mp h with rfl | h
        · rw [ScopeToken.asStr_fromStr hstable]
          exact Str.startsWith_append (by decide)
        · rw [List.mem_singleton.mp h, ScopeToken.asStr_fromStr hunstable]
          exact Str.startsWith_append (by decide)
      · cases h

theorem not_privileged_of_matrix {s : String} (h : Str.startsWith s "urn:matrix:") :
    Admin.isPrivilegedScopeToken s = false := by
  -- the seventh character tells the two families apart
  have hseventh : s.toList[6]? = some 't' := Str.getElem?_of_startsWith h (by decide)
  have hdiffers : ∀ (p : String) (c : Char), p.toList[6]? = some c → c ≠ 't' →
      Str.startsWith s p = false := by
    intro p c hc hne
    by_contra hs
    have hs' := Str.getElem?_of_startsWith (Bool.of_not_eq_false hs) hc
    exact hne (Option.some.inj (hs'.symm.trans hseventh))
  have hne : ∀ (p : String) (c : Char), p.toList[6]? = some c → c ≠ 't' → s ≠ p := by
    rintro p c hc hct rfl
    exact hct (Option.some.inj (hc.symm.trans hseventh))
  simp [Admin.isPrivilegedScopeToken, hne Admin.adminScope 's' (by decide) (by decide),
    hne Admin.adminScopeLegacy 's' (by decide) (by decide),
    hdiffers "urn:palpo:admin" 'l' (by decide) (by decide),
    hdiffers "urn:synapse:admin" 'n' (by decide) (by decide)]

/-- Normalisation adds no administrative scope. -/
theorem exists_mem_normalizeScope {Q : ScopeToken → Prop}
    (hQ : ∀ t, Q t → Admin.isPrivilegedScopeToken t.asStr) :
    (∃ t ∈ normalizeScope scope, Q t) ↔ ∃ t ∈ scope, Q t := by
  constructor
  · intro ⟨t, ht, hq⟩
    rcases mem_normalizeScope.mp ht with ⟨u, -, hequiv⟩ | hmem
    · have hpriv := hQ t hq
      rw [not_privileged_of_matrix (startsWith_of_mem_equivalents hequiv)] at hpriv
      cases hpriv
    · exact ⟨t, hmem, hq⟩
  · intro ⟨t, ht, hq⟩
    exact ⟨t, mem_normalizeScope.mpr (.inr ht), hq⟩

theorem requiresAdmin_reportedScope (h : Admin.requiresAdmin (reportedScope scope isAdmin)) :
    isAdmin := by
  rw [Admin.requiresAdmin_iff, reportedScope, exists_mem_normalizeScope (fun _ => id),
    ← Admin.requiresAdmin_iff] at h
  exact Admin.requiresAdmin_strip h

theorem hasAdminScope_reportedScope :
    Admin.hasAdminScope (reportedScope scope isAdmin) ↔ isAdmin ∧ Admin.hasAdminScope scope := by
  rw [← Admin.hasAdminScope_strip, Admin.hasAdminScope_iff, Admin.hasAdminScope_iff, reportedScope]
  exact exists_mem_normalizeScope fun t => Admin.privileged_of_admin

end Scope

def sessionUser? (db : Database) (session : Session) : Option (Option User) :=
  match session.userId with
  | some userId => ((db.user? userId).filter User.isValid).map some
  | none => some none

def ownerAuthority? (db : Database) : PersonalSessionOwner → Option (Bool × Option String)
  | .user ownerUserId =>
    ((db.user? ownerUserId).filter User.isValid).map (fun owner => (owner.canRequestAdmin, none))
  | .oauth2Client ownerClientId =>
    (db.client? ownerClientId).map (fun client => (true, some client.clientId))

def markedUsed (now : Time) (accessToken : AccessToken) (db : Database) : Database :=
  if accessToken.isUsed then db
  else db.updateAccessToken accessToken.id (fun r => { r with firstUsedAt := some now })

structure ActiveAccessToken (db : Database) (now : Time) (token : String)
    (accessToken : AccessToken) (session : Session) (user : Option User) : Prop where
  found : db.accessTokenOf? token = some accessToken
  valid : accessToken.isValid now
  loaded : db.session? accessToken.sessionId = some session
  sessionValid : session.isValid
  subject : sessionUser? db session = some user

structure ActiveRefreshToken (db : Database) (token : String) (refreshToken : RefreshToken)
    (session : Session) (user : Option User) : Prop where
  found : db.refreshTokenOf? token = some refreshToken
  valid : refreshToken.isValid
  loaded : db.session? refreshToken.sessionId = some session
  sessionValid : session.isValid
  subject : sessionUser? db session = some user

structure ActivePersonalToken (db : Database) (sha256 : String → List ℕ) (now : Time)
    (token : String) (accessToken : PersonalAccessToken) (session : PersonalSession)
    (actor : User) (owner : Bool × Option String) : Prop where
  found : db.personalTokenOf? sha256 token = some accessToken
  valid : accessToken.isValid now
  loaded : db.personalSession? accessToken.sessionId = some session
  sessionValid : session.isValid
  acting : db.user? session.actorUserId = some actor
  actorValid : actor.isValid
  owned : ownerAuthority? db session.owner = some owner

section Active

variable {db db' : Database} {now : Time} {token : String} {sha256 : String → List ℕ}
  {res : IntrospectionResponse} {hint : Option OAuthTokenTypeHint}
variable {t : AccessToken}

theorem returns_sessionUser {session : Session} {user : Option User} :
    (sessionUser session).Returns db user db' ↔ sessionUser? db session = some user ∧ db = db' := by
  unfold sessionUser sessionUser?
  cases session.userId with
  | none => simp
  | some userId => exact UserRepository.returns_lookup_passing

theorem returns_ownerAuthority {o : PersonalSessionOwner} {owner : Bool × Option String} :
    (ownerAuthority o).Returns db owner db' ↔ ownerAuthority? db o = some owner ∧ db = db' := by
  cases o with
  | user ownerUserId => exact UserRepository.returns_lookup_passing
  | oauth2Client ownerClientId =>
    simp only [ownerAuthority, ownerAuthority?, returns_bind, returns_ofOption, returns_pure]
    constructor
    · rintro ⟨_, _, hlookup, client, _, ⟨rfl, rfl⟩, rfl, rfl⟩
      obtain ⟨hclient, rfl⟩ := OAuth2ClientRepository.returns_lookup.mp hlookup
      exact ⟨by rw [hclient]; rfl, rfl⟩
    · rintro ⟨hsome, rfl⟩
      obtain ⟨client, hclient, rfl⟩ := Option.map_eq_some_iff.mp hsome
      exact ⟨_, _, OAuth2ClientRepository.returns_lookup.mpr ⟨hclient, rfl⟩, client, _, ⟨rfl, rfl⟩,
        rfl, rfl⟩

theorem returns_markUsedOnce {t' : AccessToken} (hpresent : db.oauth2AccessTokens.contains t.id) :
    (markUsedOnce now t).Returns db t' db' ↔
      (if t.isUsed then t else { t with firstUsedAt := some now }) = t' ∧
        markedUsed now t db = db' := by
  unfold markUsedOnce markedUsed
  by_cases hused : t.isUsed
  · simp [hused]
  · simp [hused, hpresent]

theorem contains_of_accessTokenOf? (h : db.accessTokenOf? token = some t) :
    db.oauth2AccessTokens.contains t.id := by
  obtain ⟨r, hr, rfl⟩ := Option.map_eq_some_iff.mp h
  unfold Table.contains
  exact Option.isSome_iff_exists.mpr ⟨_, (Table.find?_some hr).1⟩

theorem sessionUser?_markedUsed {session : Session} :
    sessionUser? (markedUsed now t db) session = sessionUser? db session := by
  unfold markedUsed
  split_ifs <;> rfl

theorem returns_introspectAccessToken :
    (introspectAccessToken now token).Returns db res db' ↔ ∃ t session user,
      ActiveAccessToken db now token t session user ∧
      res = accessTokenResponse now t session user ∧ db' = markedUsed now t db := by
  simp only [introspectAccessToken, OAuth2AccessTokenRepository.findByToken, returns_bind,
    returns_query, returns_ofOption, returns_require, returns_pure]
  constructor
  · rintro ⟨_, _, ⟨hfound, rfl⟩, t, _, ⟨rfl, rfl⟩, _, _, ⟨hvalid, rfl⟩, _, _, hlookup, session, _,
      ⟨rfl, rfl⟩, _, _, ⟨hsession, rfl⟩, t', _, hmark, user, _, huser, rfl, rfl⟩
    obtain ⟨hloaded, rfl⟩ := OAuth2SessionRepository.returns_lookup.mp hlookup
    obtain ⟨rfl, rfl⟩ := (returns_markUsedOnce (contains_of_accessTokenOf? hfound)).mp hmark
    obtain ⟨hsubject, rfl⟩ := returns_sessionUser.mp huser
    rw [sessionUser?_markedUsed] at hsubject
    refine ⟨t, session, user, ⟨hfound, hvalid, hloaded, hsession, hsubject⟩, ?_, rfl⟩
    split_ifs <;> rfl
  · rintro ⟨t, session, user, hactive, rfl, rfl⟩
    refine ⟨_, _, ⟨hactive.found, rfl⟩, t, _, ⟨rfl, rfl⟩, (), _, ⟨hactive.valid, rfl⟩, _, _,
      OAuth2SessionRepository.returns_lookup.mpr ⟨hactive.loaded, rfl⟩, session, _, ⟨rfl, rfl⟩, (),
      _, ⟨hactive.sessionValid, rfl⟩, _, _, (returns_markUsedOnce
        (contains_of_accessTokenOf? hactive.found)).mpr ⟨rfl, rfl⟩, user, _, ?_, ?_, rfl⟩
    · refine returns_sessionUser.mpr ⟨?_, rfl⟩
      rw [sessionUser?_markedUsed, hactive.subject]
    · split_ifs <;> rfl

theorem returns_introspectRefreshToken (h : (introspectRefreshToken token).Returns db res db') :
    ∃ t session user, ActiveRefreshToken db token t session user ∧
      res = refreshTokenResponse t session user ∧ db' = db := by
  simp only [introspectRefreshToken, returns_bind, returns_ofOption, returns_require,
    returns_pure] at h
  obtain ⟨_, _, hfind, t, _, ⟨rfl, rfl⟩, _, _, ⟨hvalid, rfl⟩, _, _, hlookup, session, _,
    ⟨rfl, rfl⟩, _, _, ⟨hsession, rfl⟩, user, _, huser, rfl, rfl⟩ := h
  obtain ⟨hfound, rfl⟩ := OAuth2RefreshTokenRepository.returns_findByToken.mp hfind
  obtain ⟨hloaded, rfl⟩ := OAuth2SessionRepository.returns_lookup.mp hlookup
  obtain ⟨hsubject, rfl⟩ := returns_sessionUser.mp huser
  exact ⟨t, session, user, ⟨hfound, hvalid, hloaded, hsession, hsubject⟩, rfl, rfl⟩

theorem returns_introspectPersonalToken :
    (introspectPersonalToken sha256 now token).Returns db res db' ↔ ∃ t session actor owner,
      ActivePersonalToken db sha256 now token t session actor owner ∧
      res = personalTokenResponse now t session actor owner ∧ db' = db := by
  simp only [introspectPersonalToken, PersonalAccessTokenRepository.findByToken,
    UserRepository.lookup, returns_bind, returns_query, returns_ofOption,
    returns_require, returns_pure]
  constructor
  · rintro ⟨_, _, ⟨hfound, rfl⟩, t, _, ⟨rfl, rfl⟩, _, _, ⟨hvalid, rfl⟩, _, _, hlookup, session, _,
      ⟨rfl, rfl⟩, _, _, ⟨hsession, rfl⟩, _, _, ⟨hacting, rfl⟩, actor, _, ⟨rfl, rfl⟩, _, _,
      ⟨hactor, rfl⟩, owner, _, howner, rfl, rfl⟩
    obtain ⟨hloaded, rfl⟩ := PersonalSessionRepository.returns_lookup.mp hlookup
    obtain ⟨howned, rfl⟩ := returns_ownerAuthority.mp howner
    exact ⟨t, session, actor, owner,
      ⟨hfound, hvalid, hloaded, hsession, hacting, hactor, howned⟩, rfl, rfl⟩
  · rintro ⟨t, session, actor, owner, hactive, rfl, rfl⟩
    exact ⟨_, _, ⟨hactive.found, rfl⟩, t, _, ⟨rfl, rfl⟩, (), _, ⟨hactive.valid, rfl⟩, _, _,
      PersonalSessionRepository.returns_lookup.mpr ⟨hactive.loaded, rfl⟩, session, _, ⟨rfl, rfl⟩,
      (), _, ⟨hactive.sessionValid, rfl⟩, _, _, ⟨hactive.acting, rfl⟩, actor, _, ⟨rfl, rfl⟩, (), _,
      ⟨hactive.actorValid, rfl⟩, owner, _, returns_ownerAuthority.mpr ⟨hactive.owned, rfl⟩, rfl,
      rfl⟩

theorem returns_introspectToken : (introspectToken sha256 now token hint).Returns db res db' ↔
      ∃ type, TokenType.check token = .ok type ∧ hint.all type.fitsHint ∧
        match type with
        | .accessToken => (introspectAccessToken now token).Returns db res db'
        | .refreshToken => (introspectRefreshToken token).Returns db res db'
        | .personalAccessToken => (introspectPersonalToken sha256 now token).Returns db res db' := by
  simp only [introspectToken, returns_bind, returns_ofExcept, returns_require]
  constructor
  · rintro ⟨type, _, ⟨hcheck, rfl⟩, _, _, ⟨hhint, rfl⟩, h⟩
    refine ⟨type, hcheck, hhint, ?_⟩
    cases type <;> exact h
  · rintro ⟨type, hcheck, hhint, h⟩
    refine ⟨type, _, ⟨hcheck, rfl⟩, (), _, ⟨hhint, rfl⟩, ?_⟩
    cases type <;> exact h

end Active

end Pasion.Introspection

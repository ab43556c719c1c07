import Pasion.Handlers.Introspection

/-! The userinfo endpoint, beside token introspection. -/
namespace Pasion.Userinfo

open Relational Introspection Txn

inductive RequestToken where
  | form (token : String)
  | header (token : String)
  | none

def RequestToken.text : RequestToken → Option String
  | form token => some token
  | header token => some token
  | none => Option.none

inductive AuthorizationVerificationError where
  | missingToken
  | invalidToken
  | insufficientScope
  | internal (e : DatabaseError)

inductive RouteError where
  | internal (message : String)
  | repository (e : DatabaseError)
  | authorizationVerificationError (e : AuthorizationVerificationError)
  | unauthorized
  | invalidSigningKey
  | noSuchClient (id : Ulid)
  | noSuchUser (id : Ulid)

instance : FromRepository AuthorizationVerificationError := ⟨.internal⟩
instance : FromRepository RouteError := ⟨.repository⟩

structure UserInfo where
  (sub username preferredUsername : String)
  (name picture locale : Option String)

inductive UserinfoResponse where
  | json (userInfo : UserInfo)
  | jwt (token : String)

/-- Whether there is a key for an algorithm, and the signature of the information for a client. -/
structure Signing where
  hasSigner : String → Bool
  sign : String → String → UserInfo → Except String String

def fetch (token : RequestToken) : Repo AuthorizationVerificationError (AccessToken × Session) := do
  let text ← Txn.ofOption token.text .missingToken
  let found ← OAuth2AccessTokenRepository.findByToken text
  let accessToken ← Txn.ofOption found .invalidToken
  let found ← OAuth2SessionRepository.lookup accessToken.sessionId
  let session ← Txn.ofOption found .invalidToken
  pure (accessToken, session)

/-- `protected` in the source: every required scope is on the session. -/
def protectedSession (now : Time) (token : RequestToken) (requiredScopes : List String) :
    Repo AuthorizationVerificationError Session := do
  let (accessToken, session) ← fetch token
  Txn.require (accessToken.isValid now && session.isValid) .invalidToken
  Txn.require (requiredScopes.all session.scope.contains) .insufficientScope
  if accessToken.isUsed then pure session
  else do
    let _ ← OAuth2AccessTokenRepository.markUsed now accessToken
    pure session

def userInfo (user : User) : UserInfo where
  sub := user.sub
  username := user.username
  preferredUsername := user.username
  name := user.displayName
  picture := user.avatarUrl
  locale := user.preferredLocale

/-- The transaction is saved before the answer is signed. -/
def respond (x : Signing) (client : Client) (info : UserInfo) : Repo RouteError UserinfoResponse :=
  match client.userinfoSignedResponseAlg with
  | none => pure (.json info)
  | some alg =>
    if x.hasSigner alg then
      match x.sign alg client.clientId info with
      | .ok token => pure (.jwt token)
      | .error message => Txn.commitError (.internal message)
    else Txn.commitError .invalidSigningKey

def handleGet (x : Signing) (now : Time) (token : RequestToken) : Repo RouteError UserinfoResponse := do
  let session ← (protectedSession now token ["openid"]).mapError .authorizationVerificationError
  let userId ← Txn.ofOption session.userId .unauthorized
  let found ← UserRepository.lookup userId
  let user ← Txn.ofOption found (.noSuchUser userId)
  let found ← OAuth2ClientRepository.lookup session.clientId
  let client ← Txn.ofOption found (.noSuchClient session.clientId)
  respond x client (userInfo user)

structure Granted (db : Database) (now : Time) (token : String) (t : AccessToken)
    (session : Session) (user : User) : Prop where
  found : db.accessTokenOf? token = some t
  valid : t.isValid now
  loaded : db.session? t.sessionId = some session
  sessionValid : session.isValid
  openid : session.scope.contains "openid"
  subject : session.userId.bind db.user? = some user

section Answered

variable {db db' : Database} {now : Time} {token : RequestToken} {x : Signing}
  {response : UserinfoResponse}

theorem returns_protectedSession {scopes : List String} {session : Session}
    (h : (protectedSession now token scopes).Returns db session db') :
    ∃ text t, token.text = some text ∧ db.accessTokenOf? text = some t ∧
      db.session? t.sessionId = some session ∧ t.isValid now ∧ session.isValid ∧
      (∀ scope ∈ scopes, session.scope.contains scope) ∧ db' = markedUsed now t db := by
  simp only [protectedSession, fetch, OAuth2AccessTokenRepository.findByToken, returns_bind,
    returns_query, returns_ofOption, returns_require, returns_pure] at h
  obtain ⟨_, _, ⟨text, _, ⟨htext, rfl⟩, _, _, ⟨hfound, rfl⟩, t, _, ⟨rfl, rfl⟩, _, _, hlookup, session',
    _, ⟨rfl, rfl⟩, rfl, rfl⟩, _, _, ⟨hvalid, rfl⟩, _, _, ⟨hscopes, rfl⟩, hmark⟩ := h
  obtain ⟨hloaded, rfl⟩ := OAuth2SessionRepository.returns_lookup.mp hlookup
  obtain ⟨htoken, hsession⟩ := Bool.and_eq_true_iff.mp hvalid
  have hresult : session' = session ∧ db' = markedUsed now t db := by
    unfold markedUsed
    dsimp only at hmark
    split_ifs at hmark ⊢ with hused
    · obtain ⟨rfl, rfl⟩ := returns_pure.mp hmark
      exact ⟨rfl, rfl⟩
    · obtain ⟨_, _, hmarked, hpure⟩ := returns_bind.mp hmark
      obtain ⟨-, -, rfl⟩ := OAuth2AccessTokenRepository.returns_markUsed.mp hmarked
      obtain ⟨rfl, rfl⟩ := returns_pure.mp hpure
      exact ⟨rfl, rfl⟩
  obtain ⟨rfl, rfl⟩ := hresult
  exact ⟨text, t, htext, hfound, hloaded, htoken, hsession, List.all_eq_true.mp hscopes, rfl⟩

theorem returns_respond {client : Client} {info : UserInfo}
    (h : (respond x client info).Returns db response db') : db' = db := by
  unfold respond at h
  cases halg : client.userinfoSignedResponseAlg with
  | none =>
    rw [halg] at h
    exact (returns_pure.mp h).2.symm
  | some alg =>
    simp only [halg] at h
    split_ifs at h
    · cases hsign : x.sign alg client.clientId info with
      | ok token =>
        rw [hsign] at h
        exact (returns_pure.mp h).2.symm
      | error message =>
        rw [hsign] at h
        exact absurd h returns_commitError
    · exact absurd h returns_commitError

theorem user?_markedUsed {t : AccessToken} {id : Ulid} :
    (markedUsed now t db).user? id = db.user? id := by
  unfold markedUsed
  split_ifs <;> rfl

theorem returns_handleGet (h : (handleGet x now token).Returns db response db') :
    ∃ text t session user, token.text = some text ∧ Granted db now text t session user ∧
      db' = markedUsed now t db := by
  simp only [handleGet, UserRepository.lookup, returns_bind, returns_mapError,
    returns_ofOption, returns_query] at h
  obtain ⟨session, _, hprotected, userId, _, ⟨huserId, rfl⟩, _, _, ⟨hfound, rfl⟩, user, _, ⟨rfl, rfl⟩,
    _, _, hlookup, client, _, ⟨rfl, rfl⟩, hrespond⟩ := h
  obtain ⟨text, t, htext, htoken, hloaded, hvalid, hsession, hscopes, rfl⟩ :=
    returns_protectedSession hprotected
  obtain ⟨-, rfl⟩ := OAuth2ClientRepository.returns_lookup.mp hlookup
  obtain rfl := returns_respond hrespond
  rw [user?_markedUsed] at hfound
  have hsubject : session.userId.bind db.user? = some user := by
    rw [huserId]
    exact hfound
  exact ⟨text, t, session, user, htext, ⟨htoken, hvalid, hloaded, hsession,
    hscopes "openid" (List.mem_singleton_self _), hsubject⟩, rfl⟩

end Answered

/-- Introspection without a hint reports the access token with this text as active. -/
def ReportsActive (db : Database) (sha256 : String → List ℕ) (now : Time) (token : String) : Prop :=
  ∃ res db', (introspectToken sha256 now token none).Returns db res db' ∧ res.active ∧
    res.tokenType = some .accessToken ∧ res.jti = (db.accessTokenOf? token).map AccessToken.jti

def tokenUser? (db : Database) (token : String) : Option User :=
  (db.accessTokenOf? token).bind (fun t =>
    (db.session? t.sessionId).bind (fun session => session.userId.bind db.user?))

/-- Where userinfo answers, introspection agrees exactly for well-formed tokens of valid users. -/
theorem reportsActive_iff_validUser {x : Signing} {now : Time} {token : RequestToken}
    {text : String} {response : UserinfoResponse} {db db' : Database} (sha256 : String → List ℕ)
    (htext : token.text = some text) (h : (handleGet x now token).Returns db response db') :
    ReportsActive db sha256 now text ↔
      TokenType.check text = .ok .accessToken ∧ (tokenUser? db text).any User.isValid := by
  obtain ⟨text', t, session, user, htext', hgranted, -⟩ := returns_handleGet h
  cases htext.symm.trans htext'
  obtain ⟨userId, huserId, huser⟩ := Option.bind_eq_some_iff.mp hgranted.subject
  have htokenUser : tokenUser? db text = some user := by
    unfold tokenUser?
    rw [hgranted.found, Option.bind_some, hgranted.loaded, Option.bind_some, hgranted.subject]
  rw [htokenUser, Option.any_some]
  constructor
  · rintro ⟨res, db'', hres, -, htype, hjti⟩
    rw [hgranted.found] at hjti
    obtain ⟨type, hcheck, -, hbranch⟩ := returns_introspectToken.mp hres
    cases type with
    | accessToken =>
      obtain ⟨t', session', user', hactive, -, -⟩ := returns_introspectAccessToken.mp hbranch
      cases hgranted.found.symm.trans hactive.found
      cases hgranted.loaded.symm.trans hactive.loaded
      have hsubject := hactive.subject
      unfold sessionUser? at hsubject
      rw [huserId] at hsubject
      obtain ⟨u, hfilter, -⟩ := Option.map_eq_some_iff.mp hsubject
      obtain ⟨hu, hvalid⟩ := Option.filter_eq_some_iff.mp hfilter
      cases huser.symm.trans hu
      exact ⟨hcheck, hvalid⟩
    | refreshToken =>
      obtain ⟨_, _, _, -, rfl, -⟩ := returns_introspectRefreshToken hbranch
      cases htype
    | personalAccessToken =>
      obtain ⟨_, _, _, _, -, rfl, -⟩ := returns_introspectPersonalToken.mp hbranch
      cases hjti
  · rintro ⟨hcheck, hvalid⟩
    have hactive : ActiveAccessToken db now text t session (some user) := by
      refine ⟨hgranted.found, hgranted.valid, hgranted.loaded, hgranted.sessionValid, ?_⟩
      unfold sessionUser?
      rw [huserId]
      dsimp only
      rw [huser, Option.filter_some_pos hvalid]
      rfl
    refine ⟨_, _, returns_introspectToken.mpr ⟨_, hcheck, rfl,
      returns_introspectAccessToken.mpr ⟨t, session, some user, hactive, rfl, rfl⟩⟩, rfl, rfl, ?_⟩
    rw [hgranted.found]
    rfl

section Fixtures

def plainJson : Signing := ⟨fun _ => false, fun _ _ _ => .error "no key"⟩

def openidToken : String := TokenType.generate .accessToken (List.replicate 30 1)

def userWith (lockedAt : Option Time) : Database := { Database.empty with
  users := Table.empty.insert 1 ⟨"alice", 0, 0, lockedAt, none, false, false, none, none, none⟩
  oauth2Clients := Table.empty.insert 3 .codeFlow
  oauth2Sessions := Table.empty.insert 4
    ⟨some 1, none, 3, ["openid"], 0, none, none, none, none, none⟩
  oauth2AccessTokens := Table.empty.insert 10 ⟨4, openidToken, 0, none, none, none⟩ }

/-- The endpoint answers for a locked user, whose token introspection refuses. -/
theorem locked_user_answered : ∃ response db',
    (handleGet plainJson 1 (.header openidToken)).Returns (userWith (some 0)) response db' ∧
    ¬∃ res db'', (introspectToken (fun _ => []) 1 openidToken none).Returns
      (userWith (some 0)) res db'' := by
  obtain ⟨response, h, -⟩ := exists_returns (handleGet plainJson 1 (.header openidToken))
    (userWith (some 0)) (fun _ => true) (by decide +kernel)
  refine ⟨response, _, h, ?_⟩
  rintro ⟨res, db'', hres⟩
  have hout : ((introspectToken (fun _ => []) 1 openidToken none).exec (userWith (some 0))).1 =
      .rolledBack (.invalidUser 1) := by decide +kernel
  rw [show (introspectToken (fun _ => []) 1 openidToken none).exec (userWith (some 0)) = _ from
    hres] at hout
  cases hout

theorem valid_user_active : ∃ response db',
    (handleGet plainJson 1 (.header openidToken)).Returns (userWith none) response db' ∧
    ReportsActive (userWith none) (fun _ => []) 1 openidToken := by
  obtain ⟨response, h, -⟩ := exists_returns (handleGet plainJson 1 (.header openidToken))
    (userWith none) (fun _ => true) (by decide +kernel)
  exact ⟨response, _, h, (reportsActive_iff_validUser (fun _ => []) rfl h).mpr
    ⟨by decide +kernel, by decide +kernel⟩⟩

end Fixtures

end Pasion.Userinfo

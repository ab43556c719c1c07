import Pasion.Handlers.Introspection
import Pasion.Text.Header

/-! The authorisation of calls to the administration API, beside token introspection. -/
namespace Pasion.AdminCall

open Relational Introspection Txn

inductive Rejection where
  | missingAuthorizationHeader
  | invalidAuthorizationHeader
  | repository (e : DatabaseError)
  | invalidAccessTokenType (e : Option TokenFormatError)
  | unknownAccessToken
  | tokenExpired
  | sessionRevoked
  | userLocked
  | loadSession (id : Ulid)
  | loadUser (id : Ulid)
  | missingScope
  | notAdmin
  deriving DecidableEq

instance : FromRepository Rejection := ⟨.repository⟩

inductive CallerSession where
  | oauth2Session (session : Session)
  | personalSession (session : PersonalSession)

namespace CallerSession

def scope : CallerSession → Scope
  | oauth2Session session => session.scope
  | personalSession session => session.scope

def userId : CallerSession → Option Ulid
  | oauth2Session session => session.userId
  | personalSession session => some session.actorUserId

/-- A locked user may still be the actor of a personal session. -/
def admits : CallerSession → User → Bool
  | oauth2Session _, user => user.isValid
  | personalSession _, user => user.isValidActor

end CallerSession

structure CallContext where
  user : Option User
  session : CallerSession

def bearerToken (authorization : Option (List UInt8)) : Except Rejection String :=
  match authorization with
  | none => .error .missingAuthorizationHeader
  | some value =>
    match Http.toStr value with
    | none => .error .invalidAuthorizationHeader
    | some auth =>
      match (Str.stripPrefix "Bearer " auth).or (Str.stripPrefix "bearer " auth) with
      | none => .error .invalidAuthorizationHeader
      | some token => .ok token

def oauth2Caller (now : Time) (token : String) : Repo Rejection CallerSession := do
  let found ← OAuth2AccessTokenRepository.findByToken token
  let accessToken ← Txn.ofOption found .unknownAccessToken
  let found ← OAuth2SessionRepository.lookup accessToken.sessionId
  let session ← Txn.ofOption found (.loadSession accessToken.sessionId)
  Txn.require session.isValid .sessionRevoked
  Txn.require (accessToken.isValid now) .tokenExpired
  pure (.oauth2Session session)

def ensureOwnerValid : PersonalSessionOwner → Repo Rejection Unit
  | .user ownerUserId => do
    let found ← UserRepository.lookup ownerUserId
    let ownerUser ← Txn.ofOption found (.loadUser ownerUserId)
    Txn.require ownerUser.isValid .userLocked
  | .oauth2Client _ => pure ()

def personalCaller (sha256 : String → List ℕ) (now : Time) (token : String) :
    Repo Rejection CallerSession := do
  let found ← PersonalAccessTokenRepository.findByToken sha256 token
  let accessToken ← Txn.ofOption found .unknownAccessToken
  let found ← PersonalSessionRepository.lookup accessToken.sessionId
  let session ← Txn.ofOption found (.loadSession accessToken.sessionId)
  Txn.require session.isValid .sessionRevoked
  Txn.require (accessToken.isValid now) .tokenExpired
  ensureOwnerValid session.owner
  pure (.personalSession session)

def callerSession (sha256 : String → List ℕ) (now : Time) (token : String) :
    TokenType → Repo Rejection CallerSession
  | .accessToken => oauth2Caller now token
  | .personalAccessToken => personalCaller sha256 now token
  | .refreshToken => Txn.rollback (.invalidAccessTokenType none)

def callerUser (session : CallerSession) : Repo Rejection (Option User) :=
  match session.userId with
  | some userId => do
    let found ← UserRepository.lookup userId
    let user ← Txn.ofOption found (.loadUser userId)
    Txn.require (session.admits user) .userLocked
    pure (some user)
  | none => pure none

def ensureOwnerAdmin (session : CallerSession) (user : Option User) : Repo Rejection Unit :=
  match session with
  | .personalSession { owner := .user ownerId, .. } =>
    if user.all (fun actor => actor.id ≠ ownerId) then do
      let found ← UserRepository.lookup ownerId
      let owner ← Txn.ofOption found (.loadUser ownerId)
      Txn.require (Admin.mayHoldAdminScope (some owner)) .notAdmin
    else pure ()
  | _ => pure ()

def extractCallContext (sha256 : String → List ℕ) (now : Time)
    (authorization : Option (List UInt8)) : Repo Rejection CallContext := do
  let token ← Txn.ofExcept (bearerToken authorization) id
  let tokenType ← Txn.ofExcept (TokenType.check token) (fun e => .invalidAccessTokenType (some e))
  let session ← callerSession sha256 now token tokenType
  let user ← callerUser session
  Txn.require (Admin.hasAdminScope session.scope) .missingScope
  Txn.require (Admin.mayHoldAdminScope user) .notAdmin
  Txn.require (user.all User.isValid) .userLocked
  ensureOwnerAdmin session user
  pure ⟨user, session⟩

section Header

variable {token : String}

theorem bearerToken_visible (h : token.toList.all Http.isVisibleChar) :
    bearerToken (some (Str.bytes ("Bearer " ++ token))) = .ok token := by
  have hall : ("Bearer " ++ token).toList.all Http.isVisibleChar := by
    rw [String.toList_append, List.all_append, h, Bool.and_true]
    decide
  simp only [bearerToken, Http.toStr_bytes hall, Str.stripPrefix_append, Option.some_or]

end Header

section Accepted

variable {db db' : Database} {sha256 : String → List ℕ} {now : Time} {token : String}
  {authorization : Option (List UInt8)} {context : CallContext}
variable {caller session : CallerSession} {user : Option User}

theorem returns_oauth2Caller : (oauth2Caller now token).Returns db caller db' ↔ ∃ t session,
      db.accessTokenOf? token = some t ∧ db.session? t.sessionId = some session ∧
      session.isValid ∧ t.isValid now ∧ .oauth2Session session = caller ∧ db = db' := by
  simp only [oauth2Caller, OAuth2AccessTokenRepository.findByToken, returns_bind,
    returns_query, returns_ofOption, returns_require, returns_pure]
  constructor
  · rintro ⟨_, _, ⟨hfound, rfl⟩, t, _, ⟨rfl, rfl⟩, _, _, hlookup, session, _, ⟨rfl, rfl⟩, _, _,
      ⟨hsession, rfl⟩, _, _, ⟨hvalid, rfl⟩, hcaller, rfl⟩
    obtain ⟨hloaded, rfl⟩ := OAuth2SessionRepository.returns_lookup.mp hlookup
    exact ⟨t, session, hfound, hloaded, hsession, hvalid, hcaller, rfl⟩
  · rintro ⟨t, session, hfound, hloaded, hsession, hvalid, hcaller, rfl⟩
    exact ⟨_, _, ⟨hfound, rfl⟩, t, _, ⟨rfl, rfl⟩, _, _,
      OAuth2SessionRepository.returns_lookup.mpr ⟨hloaded, rfl⟩, session, _, ⟨rfl, rfl⟩, (), _,
      ⟨hsession, rfl⟩, (), _, ⟨hvalid, rfl⟩, hcaller, rfl⟩

/-- A user who owns a session is there and valid; a client that does is not looked at. -/
def OwnerValid (db : Database) : PersonalSessionOwner → Prop
  | .user ownerId => ∃ owner, db.user? ownerId = some owner ∧ owner.isValid
  | .oauth2Client _ => True

theorem returns_ensureOwnerValid {owner : PersonalSessionOwner} {u : Unit} :
    (ensureOwnerValid owner).Returns db u db' ↔ OwnerValid db owner ∧ db = db' := by
  cases owner with
  | oauth2Client clientId => simp [ensureOwnerValid, OwnerValid]
  | user ownerId =>
    simp only [ensureOwnerValid, OwnerValid, UserRepository.lookup, returns_bind,
      returns_query, returns_ofOption, returns_require]
    constructor
    · rintro ⟨_, _, ⟨hfound, rfl⟩, owner, _, ⟨rfl, rfl⟩, hvalid, rfl⟩
      exact ⟨⟨owner, hfound, hvalid⟩, rfl⟩
    · rintro ⟨⟨owner, hfound, hvalid⟩, rfl⟩
      exact ⟨_, _, ⟨hfound, rfl⟩, owner, _, ⟨rfl, rfl⟩, hvalid, rfl⟩

theorem returns_personalCaller :
    (personalCaller sha256 now token).Returns db caller db' ↔ ∃ t session,
      db.personalTokenOf? sha256 token = some t ∧
      db.personalSession? t.sessionId = some session ∧ session.isValid ∧ t.isValid now ∧
      OwnerValid db session.owner ∧ .personalSession session = caller ∧ db = db' := by
  simp only [personalCaller, PersonalAccessTokenRepository.findByToken, returns_bind,
    returns_query, returns_ofOption, returns_require, returns_pure]
  constructor
  · rintro ⟨_, _, ⟨hfound, rfl⟩, t, _, ⟨rfl, rfl⟩, _, _, hlookup, session, _, ⟨rfl, rfl⟩, _, _,
      ⟨hsession, rfl⟩, _, _, ⟨hvalid, rfl⟩, _, _, howner, hcaller, rfl⟩
    obtain ⟨hloaded, rfl⟩ := PersonalSessionRepository.returns_lookup.mp hlookup
    obtain ⟨hownerValid, rfl⟩ := returns_ensureOwnerValid.mp howner
    exact ⟨t, session, hfound, hloaded, hsession, hvalid, hownerValid, hcaller, rfl⟩
  · rintro ⟨t, session, hfound, hloaded, hsession, hvalid, hownerValid, hcaller, rfl⟩
    exact ⟨_, _, ⟨hfound, rfl⟩, t, _, ⟨rfl, rfl⟩, _, _,
      PersonalSessionRepository.returns_lookup.mpr ⟨hloaded, rfl⟩, session, _, ⟨rfl, rfl⟩, (), _,
      ⟨hsession, rfl⟩, (), _, ⟨hvalid, rfl⟩, (), _,
      returns_ensureOwnerValid.mpr ⟨hownerValid, rfl⟩, hcaller, rfl⟩

/-- The user of a caller, who must be allowed in its kind of session. -/
def callerUser? (db : Database) (session : CallerSession) : Option (Option User) :=
  match session.userId with
  | some userId => ((db.user? userId).filter session.admits).map some
  | none => some none

theorem returns_callerUser :
    (callerUser session).Returns db user db' ↔ callerUser? db session = some user ∧ db = db' := by
  unfold callerUser callerUser?
  cases session.userId with
  | none => simp
  | some userId => exact UserRepository.returns_lookup_passing

def OwnerAdmin (db : Database) (session : CallerSession) (user : Option User) : Prop :=
  match session with
  | .personalSession { owner := .user ownerId, .. } =>
    (∀ actor ∈ user, actor.id ≠ ownerId) →
      ∃ owner, db.user? ownerId = some owner ∧ owner.canRequestAdmin
  | _ => True

theorem returns_ensureOwnerAdmin {u : Unit} :
    (ensureOwnerAdmin session user).Returns db u db' ↔ OwnerAdmin db session user ∧ db = db' := by
  obtain session | ⟨id, state, owner, actorUserId, humanName, scope, createdAt, at_, ip⟩ := session
  · simp [ensureOwnerAdmin, OwnerAdmin]
  cases owner with
  | oauth2Client clientId => simp [ensureOwnerAdmin, OwnerAdmin]
  | user ownerId =>
    simp only [ensureOwnerAdmin, OwnerAdmin, Option.all_eq_true, decide_eq_true_eq]
    split_ifs with hother
    · simp only [UserRepository.lookup, returns_bind, returns_query, returns_ofOption,
        returns_require, Admin.mayHoldAdminScope, Option.any_some]
      constructor
      · rintro ⟨_, _, ⟨hfound, rfl⟩, owner, _, ⟨rfl, rfl⟩, hadmin, rfl⟩
        exact ⟨fun _ => ⟨owner, hfound, hadmin⟩, rfl⟩
      · rintro ⟨howner, rfl⟩
        obtain ⟨owner, hfound, hadmin⟩ := howner fun actor hactor => hother actor hactor
        exact ⟨_, _, ⟨hfound, rfl⟩, owner, _, ⟨rfl, rfl⟩, hadmin, rfl⟩
    · rw [returns_pure]
      constructor
      · rintro ⟨-, rfl⟩
        exact ⟨fun hall => absurd (fun actor hactor => hall actor hactor) hother, rfl⟩
      · rintro ⟨-, rfl⟩
        exact ⟨rfl, rfl⟩

theorem returns_extractCallContext :
    (extractCallContext sha256 now authorization).Returns db context db' ↔
      ∃ token type, bearerToken authorization = .ok token ∧ TokenType.check token = .ok type ∧
        (callerSession sha256 now token type).Returns db context.session db' ∧
        callerUser? db' context.session = some context.user ∧
        Admin.hasAdminScope context.session.scope ∧ Admin.mayHoldAdminScope context.user ∧
        context.user.all User.isValid ∧ OwnerAdmin db' context.session context.user := by
  simp only [extractCallContext, returns_bind, returns_ofExcept, returns_require, returns_pure]
  constructor
  · rintro ⟨token, _, ⟨htoken, rfl⟩, type, _, ⟨hcheck, rfl⟩, session, _, hcaller, user, _, huser, _, _,
      ⟨hscope, rfl⟩, _, _, ⟨hadmin, rfl⟩, _, _, ⟨hvalid, rfl⟩, _, _, howner, rfl, rfl⟩
    obtain ⟨hfound, rfl⟩ := returns_callerUser.mp huser
    obtain ⟨hownerAdmin, rfl⟩ := returns_ensureOwnerAdmin.mp howner
    exact ⟨token, type, htoken, hcheck, hcaller, hfound, hscope, hadmin, hvalid, hownerAdmin⟩
  · rintro ⟨token, type, htoken, hcheck, hcaller, hfound, hscope, hadmin, hvalid, hownerAdmin⟩
    exact ⟨token, _, ⟨htoken, rfl⟩, type, _, ⟨hcheck, rfl⟩, _, _, hcaller, _, _,
      returns_callerUser.mpr ⟨hfound, rfl⟩, (), _, ⟨hscope, rfl⟩, (), _, ⟨hadmin, rfl⟩, (), _,
      ⟨hvalid, rfl⟩, (), _, returns_ensureOwnerAdmin.mpr ⟨hownerAdmin, rfl⟩, rfl, rfl⟩

theorem valid_of_sessionUser {session : Session}
    (h : sessionUser? db session = some user) : user.all User.isValid := by
  unfold sessionUser? at h
  cases huserId : session.userId with
  | none =>
    rw [huserId] at h
    rw [← Option.some.inj h]
    rfl
  | some userId =>
    rw [huserId] at h
    obtain ⟨u, hu, rfl⟩ := Option.map_eq_some_iff.mp h
    exact (Option.filter_eq_some_iff.mp hu).2

/-- An accepted access token is an active one whose scope and user are administrative. -/
theorem accepts_accessToken (htoken : bearerToken authorization = .ok token)
    (hcheck : TokenType.check token = .ok .accessToken) :
    (∃ context db', (extractCallContext sha256 now authorization).Returns db context db') ↔
      ∃ t session user, ActiveAccessToken db now token t session user ∧
        Admin.hasAdminScope session.scope ∧ Admin.mayHoldAdminScope user := by
  constructor
  · rintro ⟨⟨user, caller⟩, db', h⟩
    obtain ⟨token', type, htoken', hcheck', hcaller, huser, hscope, hadmin, hvalid, -⟩ :=
      returns_extractCallContext.mp h
    cases htoken.symm.trans htoken'
    cases hcheck.symm.trans hcheck'
    obtain ⟨t, session, hfound, hloaded, hsession, htokenValid, rfl, rfl⟩ :=
      returns_oauth2Caller.mp hcaller
    exact ⟨t, session, user, ⟨hfound, htokenValid, hloaded, hsession, huser⟩, hscope, hadmin⟩
  · rintro ⟨t, session, user, hactive, hscope, hadmin⟩
    refine ⟨⟨user, .oauth2Session session⟩, db, returns_extractCallContext.mpr
      ⟨token, .accessToken, htoken, hcheck, returns_oauth2Caller.mpr ⟨t, session, hactive.found,
        hactive.loaded, hactive.sessionValid, hactive.valid, rfl, rfl⟩, hactive.subject, hscope,
        hadmin, ?_, trivial⟩⟩
    exact valid_of_sessionUser hactive.subject

/-- The owner of every personal session can be loaded. -/
def OwnersLoad (db : Database) : Prop :=
  ∀ id session clientId, db.personalSession? id = some session →
    session.owner = .oauth2Client clientId → (db.client? clientId).isSome

theorem id_of_user? {id : Ulid} {user : User} (h : db.user? id = some user) : user.id = id := by
  obtain ⟨r, -, rfl⟩ := Option.map_eq_some_iff.mp h
  rfl

/-- With an administrator as the actor, the owner checks are the one of introspection. -/
theorem ownerAuthority_iff {session : PersonalSession} {actor : User}
    (hclients : ∀ clientId, session.owner = .oauth2Client clientId → (db.client? clientId).isSome)
    (hacting : db.user? session.actorUserId = some actor) (hadmin : actor.canRequestAdmin) :
    (OwnerValid db session.owner ∧ OwnerAdmin db (.personalSession session) (some actor)) ↔
      ∃ owner, ownerAuthority? db session.owner = some owner ∧ owner.1 := by
  obtain ⟨id, state, owner, actorUserId, humanName, scope, createdAt, at_, ip⟩ := session
  cases owner with
  | oauth2Client clientId =>
    obtain ⟨client, hclient⟩ := Option.isSome_iff_exists.mp (hclients clientId rfl)
    simp [OwnerValid, OwnerAdmin, ownerAuthority?, hclient]
  | user ownerId =>
    simp only [OwnerValid, OwnerAdmin, ownerAuthority?]
    constructor
    · rintro ⟨⟨owner, howner, hvalid⟩, hother⟩
      refine ⟨_, by rw [howner, Option.filter_some_pos hvalid]; rfl, ?_⟩
      by_cases hsame : actor.id = ownerId
      · have heq : owner = actor := by
          rw [← hsame, id_of_user? hacting] at howner
          exact Option.some.inj (howner.symm.trans hacting)
        rw [heq]
        exact hadmin
      · obtain ⟨owner', howner', hadmin'⟩ := hother (by simpa using hsame)
        cases howner.symm.trans howner'
        exact hadmin'
    · rintro ⟨authority, hauthority, hadmin'⟩
      obtain ⟨owner, hfilter, rfl⟩ := Option.map_eq_some_iff.mp hauthority
      obtain ⟨howner, hvalid⟩ := Option.filter_eq_some_iff.mp hfilter
      exact ⟨⟨owner, howner, hvalid⟩, fun _ => ⟨owner, howner, hadmin'⟩⟩

theorem accepts_personalToken (howners : OwnersLoad db)
    (htoken : bearerToken authorization = .ok token)
    (hcheck : TokenType.check token = .ok .personalAccessToken) :
    (∃ context db', (extractCallContext sha256 now authorization).Returns db context db') ↔
      ∃ t session actor owner, ActivePersonalToken db sha256 now token t session actor owner ∧
        Admin.hasAdminScope session.scope ∧ actor.canRequestAdmin ∧ owner.1 := by
  constructor
  · rintro ⟨⟨user, caller⟩, db', h⟩
    obtain ⟨token', type, htoken', hcheck', hcaller, huser, hscope, hadmin, hvalid, hownerAdmin⟩ :=
      returns_extractCallContext.mp h
    cases htoken.symm.trans htoken'
    cases hcheck.symm.trans hcheck'
    obtain ⟨t, session, hfound, hloaded, hsession, htokenValid, hownerValid, rfl, rfl⟩ :=
      returns_personalCaller.mp hcaller
    obtain ⟨actor, hfilter, rfl⟩ := Option.map_eq_some_iff.mp huser
    have hacting := (Option.filter_eq_some_iff.mp hfilter).1
    obtain ⟨owner, howned, hauthority⟩ :=
      (ownerAuthority_iff (howners _ _ · hloaded) hacting hadmin).mp ⟨hownerValid, hownerAdmin⟩
    exact ⟨t, session, actor, owner, ⟨hfound, htokenValid, hloaded, hsession, hacting, hvalid,
      howned⟩, hscope, hadmin, hauthority⟩
  · rintro ⟨t, session, actor, owner, hactive, hscope, hadmin, hauthority⟩
    obtain ⟨hownerValid, hownerAdmin⟩ :=
      (ownerAuthority_iff (howners _ _ · hactive.loaded) hactive.acting hadmin).mpr
        ⟨owner, hactive.owned, hauthority⟩
    refine ⟨⟨some actor, .personalSession session⟩, db, returns_extractCallContext.mpr
      ⟨token, .personalAccessToken, htoken, hcheck, returns_personalCaller.mpr ⟨t, session,
        hactive.found, hactive.loaded, hactive.sessionValid, hactive.valid, hownerValid, rfl, rfl⟩,
        ?_, hscope, hadmin, hactive.actorValid, hownerAdmin⟩⟩
    have hvalidActor := User.isValidActor_of_isValid hactive.actorValid
    show ((db.user? session.actorUserId).filter User.isValidActor).map some = some (some actor)
    rw [hactive.acting, Option.filter_some_pos hvalidActor]
    rfl

end Accepted

/-- The administration API accepts a token exactly if introspection reports it with its scope. -/
theorem accepts_iff_introspects (sha256 : String → List ℕ) (now : Time) (db : Database)
    (token : String) (type : TokenType) (howners : OwnersLoad db)
    (hvisible : token.toList.all Http.isVisibleChar) (hcheck : TokenType.check token = .ok type)
    (htype : type = .accessToken ∨ type = .personalAccessToken) :
    (∃ context db', (extractCallContext sha256 now
      (some (Str.bytes ("Bearer " ++ token)))).Returns db context db') ↔
    ∃ res db' scope, (introspectToken sha256 now token none).Returns db res db' ∧
      res.scope = some scope ∧ Admin.hasAdminScope scope := by
  have htoken := bearerToken_visible hvisible
  rcases htype with rfl | rfl
  · rw [accepts_accessToken htoken hcheck]
    constructor
    · rintro ⟨t, session, user, hactive, hscope, hadmin⟩
      have hreported := returns_introspectAccessToken.mpr ⟨t, session, user, hactive, rfl, rfl⟩
      exact ⟨_, _, _, returns_introspectToken.mpr ⟨_, hcheck, rfl, hreported⟩, rfl,
        hasAdminScope_reportedScope.mpr ⟨hadmin, hscope⟩⟩
    · rintro ⟨res, db', scope, h, hscope, hadmin⟩
      obtain ⟨type, hcheck', -, hbranch⟩ := returns_introspectToken.mp h
      cases hcheck.symm.trans hcheck'
      obtain ⟨t, session, user, hactive, rfl, -⟩ := returns_introspectAccessToken.mp hbranch
      rw [← Option.some.inj hscope] at hadmin
      obtain ⟨hmay, hhas⟩ := hasAdminScope_reportedScope.mp hadmin
      exact ⟨t, session, user, hactive, hhas, hmay⟩
  · rw [accepts_personalToken howners htoken hcheck]
    constructor
    · rintro ⟨t, session, actor, owner, hactive, hscope, hadmin, hauthority⟩
      have hreported := returns_introspectPersonalToken.mpr
        ⟨t, session, actor, owner, hactive, rfl, rfl⟩
      exact ⟨_, _, _, returns_introspectToken.mpr ⟨_, hcheck, rfl, hreported⟩, rfl,
        hasAdminScope_reportedScope.mpr ⟨Bool.and_eq_true_iff.mpr ⟨hadmin, hauthority⟩, hscope⟩⟩
    · rintro ⟨res, db', scope, h, hscope, hadmin⟩
      obtain ⟨type, hcheck', -, hbranch⟩ := returns_introspectToken.mp h
      cases hcheck.symm.trans hcheck'
      obtain ⟨t, session, actor, owner, hactive, rfl, -⟩ :=
        returns_introspectPersonalToken.mp hbranch
      rw [← Option.some.inj hscope] at hadmin
      obtain ⟨hmay, hhas⟩ := hasAdminScope_reportedScope.mp hadmin
      obtain ⟨hactor, howner⟩ := Bool.and_eq_true_iff.mp hmay
      exact ⟨t, session, actor, owner, hactive, hhas, hactor, howner⟩

section Fixtures

def adminWith (token : String) : Database := { Database.empty with
  users := Table.empty.insert 1 ⟨"alice", 0, 0, none, none, true, false, none, none, none⟩
  oauth2Clients := Table.empty.insert 3 .codeFlow
  oauth2Sessions := Table.empty.insert 4
    ⟨some 1, none, 3, ["openid", "urn:pasion:admin"], 0, none, none, none, none, none⟩
  oauth2AccessTokens := Table.empty.insert 10 ⟨4, token, 0, none, none, none⟩ }

theorem ownersLoad_adminWith (token : String) : OwnersLoad (adminWith token) := by
  intro id session clientId h
  cases h

def noDigest (_ : String) : List ℕ := []

/-- A well-formed token with characters that a header cannot carry as text. -/
def accentedToken : String :=
  let base := "mat_" ++ .ofList (List.replicate 15 'é')
  base ++ "_" ++ TokenType.crcOf base

theorem accented_token_refused :
    OwnersLoad (adminWith accentedToken) ∧ TokenType.check accentedToken = .ok .accessToken ∧
    (∃ res db' scope, (introspectToken noDigest 1 accentedToken none).Returns
      (adminWith accentedToken) res db' ∧ res.scope = some scope ∧ Admin.hasAdminScope scope) ∧
    ¬∃ context db', (extractCallContext noDigest 1
      (some (Str.bytes ("Bearer " ++ accentedToken)))).Returns
        (adminWith accentedToken) context db' := by
  refine ⟨ownersLoad_adminWith _, by decide +kernel, ?_, ?_⟩
  · obtain ⟨res, h, hadmin⟩ := exists_returns (introspectToken noDigest 1 accentedToken none)
      (adminWith accentedToken) (fun r => r.scope.any Admin.hasAdminScope) (by decide +kernel)
    obtain ⟨scope, hscope, hhas⟩ := (Option.any_eq_true _ _).mp hadmin
    exact ⟨res, _, scope, h, hscope, hhas⟩
  · rintro ⟨context, db', h⟩
    obtain ⟨token, -, htoken, -⟩ := returns_extractCallContext.mp h
    have hnone : Http.toStr (Str.bytes ("Bearer " ++ accentedToken)) = none := by decide +kernel
    simp [bearerToken, hnone] at htoken

def plainToken : String := TokenType.generate .accessToken (List.replicate 30 1)

theorem plain_token_accepted : (∃ context db', (extractCallContext noDigest 1
      (some (Str.bytes ("Bearer " ++ plainToken)))).Returns (adminWith plainToken) context db') ∧
    ∃ res db' scope, (introspectToken noDigest 1 plainToken none).Returns
      (adminWith plainToken) res db' ∧ res.scope = some scope ∧ Admin.hasAdminScope scope := by
  have hiff := accepts_iff_introspects noDigest 1 (adminWith plainToken) plainToken .accessToken
    (ownersLoad_adminWith _) (by decide +kernel) (by decide +kernel) (.inl rfl)
  obtain ⟨context, h, -⟩ := exists_returns (extractCallContext noDigest 1
    (some (Str.bytes ("Bearer " ++ plainToken)))) (adminWith plainToken) (fun _ => true)
    (by decide +kernel)
  exact ⟨⟨context, _, h⟩, hiff.mp ⟨context, _, h⟩⟩

end Fixtures

end Pasion.AdminCall

import Pasion.Handlers.CallContext
import Pasion.Pg.Registration

/-! What an administrator may do about a user at risk: lock the user, or end the user's sessions. -/
namespace Pasion.RiskAction

open Relational Txn AdminCall

inductive AppError where
  | rejected (rejection : Rejection)
  | notFound (message : String)
  | conflict (message : String)
  | badRequest (message : String)
  | repository (e : DatabaseError)

instance : FromRepository AppError := ⟨.repository⟩

structure RiskActionRequest where
  action : String
  reason : Option String

structure RiskActionResponse where
  action : String
  reason : Option String
  user : User
  sessionsTerminated : Option ℕ

def locks (action : String) : Bool := action = "lock" || action = "force_password_reset"

/-- The last active administrator is not locked out. -/
def guardLastAdministrator (action : String) (user : User) : Repo AppError Unit :=
  if locks action && user.canRequestAdmin && user.isValid then do
    UserRepository.acquireBootstrapAdminLock
    let activeAdmins ← UserRepository.count UserFilter.new.canRequestAdminOnly.activeOnly
    Txn.require (1 < activeAdmins) (.conflict "Cannot remove the last active administrator")
  else pure ()

def activeSessionsOf (user : User) : BrowserSessionFilter :=
  { BrowserSessionFilter.new with user := some user }.activeOnly

def perform (now : Time) (action : String) (user : User) : Repo AppError (User × Option ℕ) :=
  if locks action then do
    let user ← UserRepository.lock now user
    pure (user, none)
  else if action = "terminate_sessions" then do
    let count ← BrowserSessionRepository.finishBulk now (activeSessionsOf user)
    pure (user, some count)
  else Txn.rollback (.badRequest ("Unknown risk action: " ++ action))

/-- Operations without a name of their own are stored as an object. -/
def operation (action : String) : String :=
  if locks action then "\"user_locked\"" else "\x7b\"other\":\"" ++ action ++ "\"\x7d"

def recordAction (now : Time) (logId userId : Ulid) (action : String) :
    Option User → Repo AppError Unit
  | some admin =>
    AuditRepository.addAdminOperation now logId admin.id (operation action) "user" (some userId)
  | none => pure ()

def riskAction (sha256 : String → List ℕ) (now : Time) (logId : Ulid)
    (authorization : Option (List UInt8)) (id : Ulid) (params : RiskActionRequest) :
    Repo AppError RiskActionResponse := do
  let context ← (extractCallContext sha256 now authorization).mapError .rejected
  let found ← UserRepository.lookup id
  let user ← Txn.ofOption found (.notFound ("User ID " ++ Ulid.toString id ++ " not found"))
  guardLastAdministrator params.action user
  let (user, sessionsTerminated) ← perform now params.action user
  recordAction now logId user.id params.action context.user
  pure ⟨params.action, params.reason, user, sessionsTerminated⟩

/-- No session that the user opened for a client, acts in or owns is active. -/
def NoActiveGrants (userId : Ulid) (db : Database) : Prop :=
  (∀ id r, db.oauth2Sessions.get? id = some r → r.userId = some userId → r.finishedAt.isSome) ∧
  ∀ id r, db.personalSessions.get? id = some r →
    r.actorUserId = userId ∨ r.ownerUserId = some userId → r.revokedAt.isSome

def NoActiveSession (userId : Ulid) (db : Database) : Prop :=
  (∀ id r, db.userSessions.get? id = some r → r.userId = userId → r.finishedAt.isSome) ∧
  NoActiveGrants userId db

section Terminate

variable {db db' : Database} {sha256 : String → List ℕ} {now : Time} {logId id : Ulid}
  {authorization : Option (List UInt8)} {params : RiskActionRequest} {response : RiskActionResponse}

theorem extractCallContext_keeps {context : CallContext}
    (h : (extractCallContext sha256 now authorization).Returns db context db') : db' = db := by
  obtain ⟨token, type, -, -, hcaller, -⟩ := returns_extractCallContext.mp h
  cases type with
  | accessToken =>
    obtain ⟨_, _, -, -, -, -, -, rfl⟩ := returns_oauth2Caller.mp hcaller
    rfl
  | personalAccessToken =>
    obtain ⟨_, _, -, -, -, -, -, -, rfl⟩ := returns_personalCaller.mp hcaller
    rfl
  | refreshToken => exact absurd hcaller returns_rollback

theorem returns_terminate (haction : params.action = "terminate_sessions")
    (h : (riskAction sha256 now logId authorization id params).Returns db response db') :
    ∃ user, user.id = id ∧ db'.oauth2Sessions = db.oauth2Sessions ∧
      db'.personalSessions = db.personalSessions ∧
      db'.userSessions = db.userSessions.mapRows (fun k r =>
        if BrowserSessionRepository.selected db (activeSessionsOf user) k r then
          { r with finishedAt := some now } else r) := by
  obtain ⟨context, _, hcontext, h⟩ := returns_bind.mp h
  cases extractCallContext_keeps (returns_mapError.mp hcontext)
  obtain ⟨_, _, hfound, h⟩ := returns_bind.mp h
  obtain ⟨rfl, rfl⟩ := returns_query.mp hfound
  obtain ⟨user, huser, h⟩ := returns_ofOption_bind.mp h
  obtain ⟨_, _, hguard, h⟩ := returns_bind.mp h
  rw [haction] at hguard h
  obtain ⟨-, rfl⟩ := returns_pure.mp hguard
  obtain ⟨_, _, hperform, h⟩ := returns_bind.mp h
  obtain ⟨count, db₁, hfinish, hpair⟩ := returns_bind.mp hperform
  obtain ⟨rfl, rfl⟩ := returns_pure.mp hpair
  obtain ⟨_, db₂, hrecord, h⟩ := returns_bind.mp h
  obtain ⟨-, rfl⟩ := returns_pure.mp h
  have hsame : db₂.oauth2Sessions = db₁.oauth2Sessions ∧
      db₂.personalSessions = db₁.personalSessions ∧ db₂.userSessions = db₁.userSessions := by
    cases hadmin : context.user with
    | none =>
      rw [hadmin] at hrecord
      obtain ⟨-, rfl⟩ := returns_pure.mp hrecord
      exact ⟨rfl, rfl, rfl⟩
    | some admin =>
      rw [hadmin] at hrecord
      obtain ⟨-, rfl⟩ := Repo.returns_insert.mp hrecord
      exact ⟨rfl, rfl, rfl⟩
  obtain ⟨hoauth2, hpersonal, hbrowser⟩ := hsame
  rw [BrowserSessionRepository.returns_finishBulk hfinish] at hoauth2 hpersonal hbrowser
  exact ⟨user, id_of_user? huser, hoauth2, hpersonal, hbrowser⟩

/-- Only browser sessions end, so no session is left exactly if there was no other kind. -/
theorem terminates_all_iff (haction : params.action = "terminate_sessions")
    (h : (riskAction sha256 now logId authorization id params).Returns db response db') :
    NoActiveSession id db' ↔ NoActiveGrants id db := by
  obtain ⟨user, rfl, hoauth2, hpersonal, hbrowser⟩ := returns_terminate haction h
  have hgrants : NoActiveGrants user.id db' ↔ NoActiveGrants user.id db := by
    unfold NoActiveGrants
    rw [hoauth2, hpersonal]
  refine (and_iff_right ?_).trans hgrants
  intro k r hr howner
  rw [hbrowser, Table.get?_mapRows] at hr
  obtain ⟨r₀, hr₀, rfl⟩ := Option.map_eq_some_iff.mp hr
  split_ifs at howner ⊢ with hselected
  · rfl
  · by_contra hactive
    refine hselected (BrowserSessionRepository.selected_iff.mpr ⟨?_, ?_, ?_, ?_, ?_⟩)
    · rintro _ ⟨⟩
      exact howner
    · rintro _ ⟨⟩
      simpa [SessionActivity.admits, SessionActivity.isActive] using hactive
    all_goals
      rintro _ ⟨⟩

end Terminate

/-- The administrator, and a user with one browser session. -/
def atRisk : Database := { adminWith plainToken with
  users := (adminWith plainToken).users.insert 2
    ⟨"bob", 0, 0, none, none, false, false, none, none, none⟩
  userSessions := Table.empty.insert 5 ⟨2, 0, none, none, none, none⟩ }

def terminate (id : Ulid) : Repo AppError RiskActionResponse :=
  riskAction noDigest 1 20 (some (Str.bytes ("Bearer " ++ plainToken))) id
    ⟨"terminate_sessions", none⟩

theorem browser_sessions_terminated :
    ∃ response db', (terminate 2).Returns atRisk response db' ∧ NoActiveSession 2 db' := by
  obtain ⟨response, h, -⟩ := exists_returns (terminate 2) atRisk (fun _ => true) (by decide +kernel)
  refine ⟨response, _, h, (terminates_all_iff rfl h).mpr ⟨?_, ?_⟩⟩
  · intro k r hr howner
    obtain ⟨-, rfl⟩ | ⟨-, hr⟩ := Table.of_get?_insert hr
    · cases howner
    · cases hr
  · intro k r hr
    cases hr

/-- The administrator's own OAuth 2.0 session goes on. -/
theorem oauth2_session_goes_on :
    ∃ response db', (terminate 1).Returns atRisk response db' ∧ ¬NoActiveSession 1 db' := by
  obtain ⟨response, h, -⟩ := exists_returns (terminate 1) atRisk (fun _ => true) (by decide +kernel)
  obtain ⟨-, -, hoauth2, -⟩ := returns_terminate rfl h
  refine ⟨response, _, h, fun hnone => ?_⟩
  have hfinished := hnone.2.1 4 _ (by rw [hoauth2]; rfl) rfl
  cases hfinished

end Pasion.RiskAction

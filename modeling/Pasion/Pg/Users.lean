import Pasion.Pg.Repository

/-! Repositories of users, browser sessions, passwords, emails and account recovery. -/
namespace Pasion

open Relational Txn

variable {ε : Type} [FromRepository ε]

def UserRow.toUser (r : UserRow) (id : Ulid) : User where
  id
  username := r.username
  createdAt := r.createdAt
  updatedAt := r.updatedAt
  lockedAt := r.lockedAt
  deactivatedAt := r.deactivatedAt
  canRequestAdmin := r.canRequestAdmin
  isGuest := r.isGuest
  displayName := r.displayName
  avatarUrl := r.avatarUrl
  preferredLocale := r.preferredLocale

def Database.user? (db : Database) (id : Ulid) : Option User := (db.users.get? id).map (·.toUser id)

def Database.updateUser (db : Database) (id : Ulid) (f : UserRow → UserRow) : Database :=
  { db with users := db.users.update id f }

inductive UserState where
  | active
  | locked
  | deactivated

def UserState.admits (s : UserState) (r : UserRow) : Bool :=
  match s with
  | active => r.lockedAt.isNone && r.deactivatedAt.isNone
  | locked => r.lockedAt.isSome
  | deactivated => r.deactivatedAt.isSome

structure UserFilter where
  state : Option UserState
  canRequestAdmin : Option Bool

namespace UserFilter

def new : UserFilter := ⟨none, none⟩

def canRequestAdminOnly (f : UserFilter) : UserFilter := { f with canRequestAdmin := some true }

def activeOnly (f : UserFilter) : UserFilter := { f with state := some .active }

def selects (f : UserFilter) (r : UserRow) : Bool :=
  f.state.all (·.admits r) && f.canRequestAdmin.all (r.canRequestAdmin = ·)

end UserFilter

namespace UserRepository

def lookup (id : Ulid) : Repo ε (Option User) := Txn.query (·.user? id)

/-- Several users may share a lowercase name; then the exact name decides. -/
def findByUsername (lower toLowercase : String → String) (username : String) :
    Repo ε (Option User) :=
  Txn.query (fun db =>
    match db.users.select (fun _ r => lower r.username = toLowercase username) with
    | [] => none
    | [r] => some (r.2.toUser r.1)
    | list => (list.find? (fun r => r.2.username = username)).map (fun r => r.2.toUser r.1))

def existsUser (lower toLowercase : String → String) (username : String) : Repo ε Bool :=
  Txn.query (fun db => db.users.any (fun _ r => lower r.username = toLowercase username))

def count (f : UserFilter) : Repo ε ℕ :=
  Txn.query (fun db => (db.users.select (fun _ r => f.selects r)).length)

def updateUser (id : Ulid) (f : UserRow → UserRow) : Repo ε Unit :=
  Repo.updateRow (fun db => db.users.contains id) Repo.unconstrained (.row .users id)
    (·.updateUser id f)

def patchRow (user : User) (r : UserRow) : UserRow := { r with
  updatedAt := user.updatedAt
  lockedAt := user.lockedAt
  deactivatedAt := user.deactivatedAt
  canRequestAdmin := user.canRequestAdmin
  displayName := user.displayName
  avatarUrl := user.avatarUrl
  preferredLocale := user.preferredLocale }

def patch (now : Time) (user : User) (patch : UserPatch) : Repo ε User :=
  if patch.isEmpty then pure user
  else if !patch.changed now user then pure (patch.apply now user)
  else do
    let user := { patch.apply now user with updatedAt := now }
    updateUser user.id (patchRow user)
    pure user

def updateProfile (now : Time) (user : User) (p : UserProfilePatch) : Repo ε User :=
  patch now user (.ofProfile p)

def lock (now : Time) (user : User) : Repo ε User :=
  if user.lockedAt.isSome then pure user
  else patch now user { UserPatch.default with locked := some true }

def deactivate (now : Time) (user : User) : Repo ε User :=
  if user.deactivatedAt.isSome then pure user
  else patch now user { UserPatch.default with deactivated := some true }

def setCanRequestAdmin (now : Time) (user : User) (canRequestAdmin : Bool) : Repo ε User := do
  updateUser user.id (fun r => { r with canRequestAdmin, updatedAt := now })
  pure { user with canRequestAdmin, updatedAt := now }

def bootstrapAdminLock : LockKey := .advisory 0x706173696f6e4144

def acquireBootstrapAdminLock : Repo ε Unit :=
  Txn.execute (fun _ => ⟨id, [bootstrapAdminLock]⟩) (fun _ => ())

/-- The advisory lock of a user is the low 64 bits of the id. -/
def acquireLockForSync (user : User) : Repo ε Unit :=
  Txn.execute (fun _ => ⟨id, [.advisory (user.id % 2 ^ 64)]⟩) (fun _ => ())

omit [FromRepository ε] in
@[simp]
theorem returns_acquireLockForSync {user : User} {u : Unit} {db db' : Database} :
    (acquireLockForSync user : Repo ε Unit).Returns db u db' ↔ db = db' := by
  simp [acquireLockForSync]

omit [FromRepository ε] in
/-- A user who is looked up and must pass a test. -/
theorem returns_lookup_passing {α : Type} {id : Ulid} {e : ε} {e' : User → ε} {test : User → Bool}
    {f : User → α} {a : α} {db db' : Database} :
    (do
      let found ← lookup id
      let user ← Txn.ofOption found e
      Txn.require (test user) (e' user)
      pure (f user) : Repo ε α).Returns db a db' ↔
      ((db.user? id).filter test).map f = some a ∧ db = db' := by
  simp only [lookup, returns_bind, returns_query, returns_ofOption, returns_require, returns_pure]
  constructor
  · rintro ⟨_, _, ⟨rfl, rfl⟩, u, _, ⟨hfound, rfl⟩, _, _, ⟨hvalid, rfl⟩, rfl, rfl⟩
    exact ⟨by simp [hfound, hvalid], rfl⟩
  · rintro ⟨hsome, rfl⟩
    obtain ⟨u, hu, rfl⟩ := Option.map_eq_some_iff.mp hsome
    obtain ⟨hfound, hvalid⟩ := Option.filter_eq_some_iff.mp hu
    exact ⟨_, _, ⟨rfl, rfl⟩, u, _, ⟨hfound, rfl⟩, (), _, ⟨hvalid, rfl⟩, rfl, rfl⟩

end UserRepository

def UserSessionRow.toBrowserSession (r : UserSessionRow) (id : Ulid) (user : User) :
    BrowserSession where
  id
  user
  createdAt := r.createdAt
  finishedAt := r.finishedAt
  userAgent := r.userAgent
  lastActiveAt := r.lastActiveAt
  lastActiveIp := r.lastActiveIp

def UserSessionAuthenticationRow.toAuthentication (r : UserSessionAuthenticationRow) (id : Ulid) :
    Except DatabaseError Authentication :=
  match r.userPasswordId, r.upstreamOAuthAuthorizationSessionId with
  | some userPasswordId, none => .ok ⟨id, r.createdAt, .password userPasswordId⟩
  | none, some upstreamId => .ok ⟨id, r.createdAt, .upstreamOAuth2 upstreamId⟩
  | none, none => .ok ⟨id, r.createdAt, .unknown⟩
  | some _, some _ => .error (.inconsistency "user_session_authentications" none id)

def Database.browserSession? (db : Database) (id : Ulid) : Option BrowserSession :=
  (db.userSessions.get? id).bind
    (fun row => (db.user? row.userId).map (row.toBrowserSession id))

theorem Database.browserSession?_eq_some {db : Database} {id : Ulid} {session : BrowserSession}
    (h : db.browserSession? id = some session) :
    session.id = id ∧ db.user? session.user.id = some session.user ∧
      ∃ r u, db.userSessions.get? id = some r ∧ db.users.get? r.userId = some u ∧
        session.finishedAt = r.finishedAt ∧
        session.user.isValid = (u.lockedAt.isNone && u.deactivatedAt.isNone) := by
  obtain ⟨r, hr, hmap⟩ := Option.bind_eq_some_iff.mp h
  obtain ⟨user, huser, rfl⟩ := Option.map_eq_some_iff.mp hmap
  obtain ⟨u, hu, rfl⟩ := Option.map_eq_some_iff.mp huser
  exact ⟨rfl, huser, r, u, hr, hu, rfl, rfl⟩

namespace BrowserSessionRepository

/-- Two reads: the session row, then the row of its user. -/
def lookup (id : Ulid) : Repo ε (Option BrowserSession) := do
  let sessionRow ← Txn.query (fun db => db.userSessions.get? id)
  match sessionRow with
  | none => pure none
  | some row =>
    let user ← UserRepository.lookup row.userId
    pure (user.map (row.toBrowserSession id))

/-- The authentication with the latest creation time. -/
def getLastAuthentication (userSession : BrowserSession) : Repo ε (Option Authentication) :=
  Repo.fetch (fun db =>
    (maxBy (fun r => r.2.createdAt)
      (db.userSessionAuthentications.select (fun _ r => r.userSessionId = userSession.id))).mapM
        (fun r => r.2.toAuthentication r.1))

omit [FromRepository ε] in
@[simp]
theorem returns_lookup {id : Ulid} {res : Option BrowserSession} {db db' : Database} :
    (lookup id : Repo ε _).Returns db res db' ↔ db.browserSession? id = res ∧ db = db' := by
  unfold lookup UserRepository.lookup Database.browserSession?
  simp only [returns_bind, returns_query]
  cases db.userSessions.get? id with
  | none => simp [eq_comm]
  | some row => simp [eq_comm, and_comm]

omit [FromRepository ε] in
@[simp]
theorem savesError_lookup {id : Ulid} {e : ε} {db db' : Database} :
    ¬(lookup id : Repo ε _).SavesError db e db' := by
  unfold lookup UserRepository.lookup
  simp only [savesError_bind, savesError_query, false_or, not_exists, not_and]
  rintro (_ | row) db₁ - <;> simp

omit [FromRepository ε] in
theorem satisfies_lookup {V : Database → Prop} {G : Database → Effect Database LockKey → Prop}
    {w : Effect Database LockKey} {id : Ulid}
    {Q : Option BrowserSession → Effect Database LockKey → Prop} (hQ : ∀ a, Q a w) :
    (lookup id : Repo ε _).Satisfies V G Q w := by
  unfold lookup UserRepository.lookup
  simp only [satisfies_bind, satisfies_query]
  intro db _
  cases db.userSessions.get? id with
  | none => exact hQ none
  | some row =>
    simp only [satisfies_bind, satisfies_query, satisfies_pure]
    exact fun _ _ => hQ _

end BrowserSessionRepository

def UserPasswordRow.toPassword (r : UserPasswordRow) (id : Ulid) : Except DatabaseError Password :=
  if 0 ≤ r.version ∧ r.version < 2 ^ 16 then
    .ok ⟨id, r.hashedPassword, r.version.toNat, r.upgradedFromId, r.createdAt⟩
  else .error (.inconsistency "user_passwords" (some "version") id)

namespace UserPasswordRepository

def active (user : User) : Repo ε (Option Password) := Repo.fetch (fun db =>
    (maxBy (fun r => r.2.createdAt)
      (db.userPasswords.select (fun _ r => r.userId = user.id))).mapM (fun r => r.2.toPassword r.1))

def add (now : Time) (id : Ulid) (user : User) (version : ℕ) (hashedPassword : String)
    (upgradedFrom : Option Password) : Repo ε Password := do
  let upgradedFromId := upgradedFrom.map Password.id
  Repo.insert
    (fun db =>
      if db.userPasswords.contains id then some .uniqueViolation
      else if !db.users.contains user.id ||
          upgradedFromId.any (fun p => p ≠ id && !db.userPasswords.contains p) then
        some .foreignKeyViolation
      else none)
    [.row .userPasswords id]
    (fun db => { db with
      userPasswords := db.userPasswords.insert id
        ⟨user.id, hashedPassword, version, upgradedFromId, now⟩ })
  pure ⟨id, hashedPassword, version, upgradedFromId, now⟩

end UserPasswordRepository

def UserEmailRow.toUserEmail (r : UserEmailRow) (id : Ulid) : UserEmail :=
  ⟨id, r.userId, r.email, r.createdAt, r.updatedAt, r.confirmedAt, r.isPrimary⟩

structure UserEmailFilter where
  user : Option User
  email : Option String

namespace UserEmailFilter

def new : UserEmailFilter := ⟨none, none⟩

def forEmail (f : UserEmailFilter) (email : String) : UserEmailFilter :=
  { f with email := some email }

def selects (f : UserEmailFilter) (lower toLowercase : String → String) (r : UserEmailRow) : Bool :=
  f.user.all (r.userId = ·.id) && f.email.all (lower r.email = toLowercase ·)

end UserEmailFilter

def Database.emailAuthenticationCodes (db : Database) (authenticationId : Ulid) (code : String) :
    List (Ulid × UserEmailAuthenticationCodeRow) :=
  db.userEmailAuthenticationCodes.select (fun _ r =>
    r.userEmailAuthenticationId = authenticationId ∧ r.code = code)

def Database.emailAuthenticationCode? (db : Database) (authenticationId : Ulid) (code : String) :
    Option UserEmailAuthenticationCode :=
  (db.emailAuthenticationCodes authenticationId code).head?.map
    (fun r => ⟨r.1, r.2.userEmailAuthenticationId, r.2.code, r.2.createdAt, r.2.expiresAt⟩)

namespace UserEmailRepository

def count (lower toLowercase : String → String) (f : UserEmailFilter) : Repo ε ℕ :=
  Txn.query (fun db => (db.userEmails.select (fun _ r => f.selects lower toLowercase r)).length)

/-- The first address of a user is the primary one. -/
def add (now : Time) (id : Ulid) (user : User) (email : String) : Repo ε UserEmail := do
  let existingCount ← Txn.query (fun db =>
    (db.userEmails.select (fun _ r => r.userId = user.id)).length)
  let isPrimary : Bool := existingCount = 0
  Repo.insert
    (fun db =>
      if db.userEmails.contains id then some .uniqueViolation
      else if !db.users.contains user.id then some .foreignKeyViolation
      else none)
    [.row .userEmails id]
    (fun db => { db with
      userEmails := db.userEmails.insert id ⟨user.id, email, now, now, some now, isPrimary⟩ })
  pure ⟨id, user.id, email, now, now, some now, isPrimary⟩

def lookup (id : Ulid) : Repo ε (Option UserEmail) :=
  Txn.query (fun db => (db.userEmails.get? id).map (·.toUserEmail id))

/-- An address that several rows have is not found. -/
def findByEmail (lower toLowercase : String → String) (email : String) :
    Repo ε (Option UserEmail) :=
  Txn.query (fun db =>
    match db.userEmails.select (fun _ r => lower r.email = toLowercase email) with
    | [r] => some (r.2.toUserEmail r.1)
    | _ => none)

def lookupAuthentication (id : Ulid) : Repo ε (Option UserEmailAuthentication) :=
  Txn.query (fun db => (db.userEmailAuthentications.get? id).map
    (fun r => ⟨id, r.userSessionId, r.userRegistrationId, r.email, r.createdAt, r.completedAt⟩))

def findAuthenticationCode (authentication : UserEmailAuthentication) (code : String) :
    Repo ε (Option UserEmailAuthenticationCode) :=
  Txn.query (·.emailAuthenticationCode? authentication.id code)

/-- The update is keyed on the id and on the row being incomplete. -/
def completeAuthenticationWithCode (now : Time) (authentication : UserEmailAuthentication) :
    Repo ε UserEmailAuthentication := do
  Repo.updateRow
    (fun db => (db.userEmailAuthentications.get? authentication.id).any (·.completedAt.isNone))
    Repo.unconstrained (.row .userEmailAuthentications authentication.id)
    (fun db => { db with
      userEmailAuthentications := db.userEmailAuthentications.update authentication.id
        (fun r => { r with completedAt := some now }) })
  pure { authentication with completedAt := some now }

end UserEmailRepository

def Database.totpConfig? (db : Database) (userId : Ulid) : Option UserTotpConfig :=
  (db.userTotpConfigs.find? (fun _ r => r.userId = userId)).map
    (fun r => ⟨r.1, r.2.userId, r.2.secret, r.2.digits, r.2.period, r.2.confirmedAt⟩)

def UserRecoverySessionRow.toUserRecoverySession (r : UserRecoverySessionRow) (id : Ulid) :
    UserRecoverySession :=
  ⟨id, r.email, r.userAgent, r.ipAddress, r.locale, r.createdAt, r.consumedAt⟩

def UserRecoveryTicketRow.toUserRecoveryTicket (r : UserRecoveryTicketRow) (id : Ulid) :
    UserRecoveryTicket :=
  ⟨id, r.userRecoverySessionId, r.userEmailId, r.ticket, r.createdAt, r.expiresAt⟩

namespace UserRecoveryRepository

def lookupSession (id : Ulid) : Repo ε (Option UserRecoverySession) :=
  Txn.query (fun db => (db.userRecoverySessions.get? id).map (·.toUserRecoverySession id))

def findTicket (ticket : String) : Repo ε (Option UserRecoveryTicket) :=
  Txn.query (fun db => (db.userRecoveryTickets.find? (fun _ r => r.ticket = ticket)).map
    (fun r => r.2.toUserRecoveryTicket r.1))

/-- The update is keyed on the id alone; only the copy is checked for being unconsumed. -/
def consumeTicket (now : Time) (session : UserRecoverySession) : Repo ε UserRecoverySession := do
  Txn.require session.consumedAt.isNone (repository .invalidOperation)
  Repo.updateRow (fun db => db.userRecoverySessions.contains session.id) Repo.unconstrained
    (.row .userRecoverySessions session.id)
    (fun db => { db with
      userRecoverySessions := db.userRecoverySessions.update session.id
        (fun r => { r with consumedAt := some now }) })
  pure { session with consumedAt := some now }

end UserRecoveryRepository

end Pasion

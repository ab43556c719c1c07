import Pasion.Pg.OAuth2Session

/-! Repositories of personal sessions and of their access tokens. -/
namespace Pasion

open Relational Clause Txn

variable {ε : Type} [FromRepository ε]

structure PersonalSessionFilter where
  ownerUser : Option User
  ownerOAuth2Client : Option Client
  actorUser : Option User
  device : Option String
  state : Option SessionActivity
  scope : Option Scope
  (lastActiveBefore lastActiveAfter expiresBefore expiresAfter : Option Time)
  expires : Option Bool

def PersonalSessionFilter.new : PersonalSessionFilter :=
  ⟨none, none, none, none, none, none, none, none, none, none, none⟩

def PersonalSessionRow.owner? (r : PersonalSessionRow) : Option PersonalSessionOwner :=
  match r.ownerUserId, r.ownerOAuth2ClientId with
  | some userId, none => some (.user userId)
  | none, some clientId => some (.oauth2Client clientId)
  | _, _ => none

def PersonalSessionRow.toPersonalSession (r : PersonalSessionRow) (id : Ulid) :
    Except DatabaseError PersonalSession :=
  match Scope.collectStr r.scopeList, r.owner? with
  | none, _ => .error (.inconsistency "personal_sessions" (some "scope") id)
  | some _, none => .error (.inconsistency "personal_sessions"
      (some "owner_user_id, owner_oauth2_client_id") id)
  | some scope, some owner => .ok {
      id
      state := match r.revokedAt with
        | none => .valid
        | some revokedAt => .revoked revokedAt
      owner
      actorUserId := r.actorUserId
      humanName := r.humanName
      scope
      createdAt := r.createdAt
      lastActiveAt := r.lastActiveAt
      lastActiveIp := r.lastActiveIp }

def PersonalAccessTokenRow.toPersonalAccessToken (r : PersonalAccessTokenRow) (id : Ulid) :
    PersonalAccessToken :=
  ⟨id, r.personalSessionId, r.createdAt, r.expiresAt, r.revokedAt⟩

def Database.personalSession? (db : Database) (id : Ulid) : Option PersonalSession :=
  (db.personalSessions.get? id).bind (fun r => (r.toPersonalSession id).toOption)

theorem Database.personalSession?_eq_some {db : Database} {id : Ulid} {session : PersonalSession}
    (h : db.personalSession? id = some session) :
    session.id = id ∧ ∃ r, db.personalSessions.get? id = some r ∧
      (session.isValid ↔ r.revokedAt = none) := by
  obtain ⟨r, hr, hdecode⟩ := Option.bind_eq_some_iff.mp h
  unfold PersonalSessionRow.toPersonalSession at hdecode
  split at hdecode
  · cases hdecode
  · cases hdecode
  · rw [← Option.some.inj hdecode]
    refine ⟨rfl, r, hr, ?_⟩
    cases r.revokedAt <;> simp [PersonalSession.isValid, PersonalSessionState.isValid]

/-- Tokens are stored and found by their digest. -/
def Database.personalTokenOf? (db : Database) (sha256 : String → List ℕ) (accessToken : String) :
    Option PersonalAccessToken :=
  (db.personalAccessTokens.find? (fun _ t => t.accessTokenSha256 = sha256 accessToken)).map
    (fun t => t.2.toPersonalAccessToken t.1)

/-- A session beside one of its tokens that are not revoked, or alone if it has none. -/
abbrev JoinedRow := PersonalSessionRow × Option (Ulid × PersonalAccessTokenRow)

namespace PersonalSessionRepository

def joinTokens (db : Database) (session : Ulid × PersonalSessionRow) : List (Ulid × JoinedRow) :=
  match db.personalAccessTokens.select
    (fun _ t => t.personalSessionId = session.1 && t.revokedAt.isNone) with
  | [] => [(session.1, session.2, none)]
  | tokens => tokens.map (fun t => (session.1, session.2, some t))

def joined (db : Database) : List (Ulid × JoinedRow) :=
  db.personalSessions.rows.flatMap (joinTokens db)

def expiresAt (r : Ulid × JoinedRow) : Option Time := r.2.2.bind (fun t => t.2.expiresAt)

/-- The device filter is raw text, with no parentheses of its own. -/
def deviceClause (device : String) : Clause (Ulid × JoinedRow) :=
  test (fun r => stableDeviceScope device ∈ r.2.1.scopeList) ++ [.or] ++
    test (fun r => unstableDeviceScope device ∈ r.2.1.scopeList)

def applySessionFilter (f : PersonalSessionFilter) : List (Clause (Ulid × JoinedRow)) :=
  filterOn f.ownerUser (fun user => .test (fun r => r.2.1.ownerUserId = some user.id)) ++
  filterOn f.ownerOAuth2Client
    (fun client => .test (fun r => r.2.1.ownerOAuth2ClientId = some client.id)) ++
  filterOn f.actorUser (fun user => .test (fun r => r.2.1.actorUserId = user.id)) ++
  filterOn f.device deviceClause ++
  filterOn f.state (fun state => .test (fun r => state.admits r.2.1.revokedAt)) ++
  filterOn f.scope (fun scope => .test (fun r => containsAll r.2.1.scopeList scope.toList)) ++
  filterOn f.lastActiveBefore (fun t => .test (fun r => r.2.1.lastActiveAt.any (· < t))) ++
  filterOn f.lastActiveAfter (fun t => .test (fun r => r.2.1.lastActiveAt.any (t < ·))) ++
  filterOn f.expiresBefore (fun t => .test (fun r => (expiresAt r).any (· < t))) ++
  filterOn f.expiresAfter (fun t => .test (fun r => (expiresAt r).any (t < ·))) ++
  filterOn f.expires (fun expires => .test (fun r => (expiresAt r).isSome = expires))

/-- The cursors of a page, as further filters of the query. -/
def cursorClauses (p : Pagination) : List (Clause (Ulid × JoinedRow)) :=
  filterOn p.after (fun after => .test (fun r => after < r.1)) ++
  filterOn p.before (fun before => .test (fun r => r.1 < before))

def lookup (id : Ulid) : Repo ε (Option PersonalSession) :=
  Repo.fetch (fun db => (db.personalSessions.get? id).mapM (·.toPersonalSession id))

@[simp]
theorem returns_lookup {id : Ulid} {session : PersonalSession} {db db' : Database} :
    (lookup id : Repo ε _).Returns db (some session) db' ↔
      db.personalSession? id = some session ∧ db = db' := by
  rw [lookup, Repo.returns_fetch, mapM_eq_ok_some]
  rfl

def violation (id : Ulid) (ownerUserId ownerOAuth2ClientId : Option Ulid) (actorUserId : Ulid)
    (db : Database) : Option DatabaseError :=
  if db.personalSessions.contains id then some .uniqueViolation
  else if !ownerUserId.all (db.users.contains ·) ||
      !ownerOAuth2ClientId.all (db.oauth2Clients.contains ·) || !db.users.contains actorUserId then
    some .foreignKeyViolation
  else none

def add (createdAt : Time) (id : Ulid) (owner : PersonalSessionOwner) (actorUser : User)
    (humanName : String) (scope : Scope) : Repo ε PersonalSession := do
  let ownerUserId := match owner with
    | .user userId => some userId
    | .oauth2Client _ => none
  let ownerOAuth2ClientId := match owner with
    | .user _ => none
    | .oauth2Client clientId => some clientId
  Repo.insert (violation id ownerUserId ownerOAuth2ClientId actorUser.id)
    [.row .personalSessions id]
    (fun db => { db with
      personalSessions := db.personalSessions.insert id
        ⟨ownerUserId, ownerOAuth2ClientId, actorUser.id, humanName, scope.toList, createdAt, none,
          none, none⟩ })
  pure ⟨id, .valid, owner, actorUser.id, humanName, scope, createdAt, none, none⟩

/-- Revokes the tokens of the session, then the session. -/
def revoke (revokedAt : Time) (session : PersonalSession) : Repo ε PersonalSession := do
  Repo.statement Repo.unconstrained
    (fun db => ⟨fun db' => { db' with
        personalAccessTokens := db'.personalAccessTokens.mapRows (fun _ t =>
          if t.personalSessionId = session.id && t.revokedAt.isNone then
            { t with revokedAt := some revokedAt } else t) },
      (db.personalAccessTokens.select (fun _ t =>
        t.personalSessionId = session.id && t.revokedAt.isNone)).map
          (fun t => .row .personalAccessTokens t.1)⟩)
    (fun _ => ())
  Repo.updateRow (fun db => db.personalSessions.contains session.id) Repo.unconstrained
    (.row .personalSessions session.id)
    (fun db => { db with
      personalSessions := db.personalSessions.update session.id
        (fun r => { r with revokedAt := some revokedAt }) })
  Repo.transition (session.finish revokedAt)

/-- The row of a page, with a token that is known not to be revoked. -/
def toSessionAndToken (r : Ulid × JoinedRow) :
    Except DatabaseError (PersonalSession × Option PersonalAccessToken) :=
  (r.2.1.toPersonalSession r.1).map (fun session =>
    (session, r.2.2.map (fun t => ⟨t.1, session.id, t.2.createdAt, t.2.expiresAt, none⟩)))

def listed (f : PersonalSessionFilter) (p : Pagination) (db : Database) : List (Ulid × JoinedRow) :=
  (joined db).filter (fun r => selects (applySessionFilter f ++ cursorClauses p) r)

def list (f : PersonalSessionFilter) (p : Pagination) :
    Repo ε (Page (PersonalSession × Option PersonalAccessToken)) :=
  Repo.fetch (fun db => (p.process (p.cut (listed f p db))).tryMap toSessionAndToken)

def count (f : PersonalSessionFilter) : Repo ε ℕ :=
  Txn.query (fun db => ((joined db).filter (fun r => selects (applySessionFilter f) r)).length)

/-- A batch that names a session twice updates fewer rows than it has entries, and is refused. -/
def recordBatchActivity (activities : List (Ulid × Time × Option IpAddr)) : Repo ε Unit := do
  let rowsAffected ← Txn.execute
    (fun _ => ⟨fun db => { db with
        personalSessions := db.personalSessions.mapRows (fun id r =>
          match activities.find? (fun a => a.1 = id) with
          | none => r
          | some (_, lastActiveAt, lastActiveIp) => { r with
              lastActiveAt := some (r.lastActiveAt.elim lastActiveAt (max lastActiveAt ·))
              lastActiveIp := lastActiveIp.or r.lastActiveIp }) },
      activities.map (fun a => .row .personalSessions a.1)⟩)
    (fun db => (db.personalSessions.select (fun id _ => activities.any (fun a => a.1 = id))).length)
  Repo.ensureAffectedRows rowsAffected activities.length

section Rules

variable {db db' : Database} {id : Ulid} {r : PersonalSessionRow} {x : Ulid × JoinedRow}
variable {session : PersonalSession}

theorem fst_of_mem_joinTokens {session : Ulid × PersonalSessionRow} (h : x ∈ joinTokens db session) :
    x.1 = session.1 ∧ x.2.1 = session.2 := by
  unfold joinTokens at h
  split at h
  · rw [List.mem_singleton.mp h]
    exact ⟨rfl, rfl⟩
  · obtain ⟨t, -, rfl⟩ := List.mem_map.mp h
    exact ⟨rfl, rfl⟩

theorem get?_of_mem_joined (h : x ∈ joined db) : db.personalSessions.get? x.1 = some x.2.1 := by
  obtain ⟨session, hsession, hx⟩ := List.mem_flatMap.mp h
  obtain ⟨hid, hrow⟩ := fst_of_mem_joinTokens hx
  rw [hid, hrow]
  exact Table.mem_rows.mp hsession

/-- The join leaves no session out. -/
theorem exists_mem_joined (h : db.personalSessions.get? id = some r) :
    ∃ t, (id, r, t) ∈ joined db := by
  have hne : ∃ t, (id, r, t) ∈ joinTokens db (id, r) := by
    unfold joinTokens
    split
    · exact ⟨none, List.mem_singleton_self _⟩
    · next htokens =>
      obtain ⟨t, ht⟩ := List.exists_mem_of_ne_nil _ htokens
      exact ⟨some t, List.mem_map.mpr ⟨t, ht, rfl⟩⟩
  obtain ⟨t, ht⟩ := hne
  exact ⟨t, List.mem_flatMap.mpr ⟨(id, r), Table.mem_rows.mpr h, ht⟩⟩

theorem joined_sorted (db : Database) : (joined db).Pairwise (fun a b => a.1 ≤ b.1) := by
  refine List.pairwise_flatMap.mpr ⟨fun session _ => ?_, ?_⟩
  · refine List.pairwise_of_forall_mem_list fun a ha b hb => ?_
    rw [(fst_of_mem_joinTokens ha).1, (fst_of_mem_joinTokens hb).1]
  · refine db.personalSessions.sorted.imp fun {a b} hab x hx y hy => ?_
    rw [(fst_of_mem_joinTokens hx).1, (fst_of_mem_joinTokens hy).1]
    exact Nat.le_of_lt hab

/-- The sessions of an actor on a device: the actor restricts the stable scope alone. -/
def actorOnDevice (user : User) (device : String) : PersonalSessionFilter :=
  { PersonalSessionFilter.new with
    actorUser := some user
    device := some device
    state := some .active }

theorem selects_actorOnDevice {user : User} {device : String} {p : Pagination} :
    selects (applySessionFilter (actorOnDevice user device) ++ cursorClauses p) x =
      ((x.2.1.actorUserId = user.id && stableDeviceScope device ∈ x.2.1.scopeList ||
        unstableDeviceScope device ∈ x.2.1.scopeList) && x.2.1.revokedAt.isNone &&
          p.between x.1) := by
  have hcursors : ∀ c ∈ cursorClauses p, c.Closed x :=
    closed_append (filterOn_closed fun _ => closed_test _) (filterOn_closed fun _ => closed_test _)
  have hclosed : ∀ c ∈ test (fun r : Ulid × JoinedRow =>
      SessionActivity.active.admits r.2.1.revokedAt) :: cursorClauses p, c.Closed x := by
    intro c hc
    rcases List.mem_cons.mp hc with rfl | hc
    · exact closed_test _
    · exact hcursors c hc
  have hall : (cursorClauses p).all (·.eval x) = p.between x.1 := by
    unfold cursorClauses Pagination.between
    cases p.after <;> cases p.before <;> simp [filterOn]
  have hselects := selects_raw_or
    (closed_test (fun r : Ulid × JoinedRow => r.2.1.actorUserId = user.id))
    (closed_test (fun r => stableDeviceScope device ∈ r.2.1.scopeList))
    (closed_test (fun r => unstableDeviceScope device ∈ r.2.1.scopeList)) hclosed
  rw [List.all_cons, hall] at hselects
  refine Eq.trans hselects ?_
  simp [SessionActivity.admits, SessionActivity.isActive, Bool.and_assoc]

theorem returns_add {createdAt : Time} {owner : PersonalSessionOwner} {actorUser : User}
    {humanName : String} {scope : Scope}
    (h : (add createdAt id owner actorUser humanName scope : Repo ε _).Returns db session db') :
    db.personalSessions.get? id = none ∧ ∃ ownerUserId ownerOAuth2ClientId, db' = { db with
      personalSessions := db.personalSessions.insert id ⟨ownerUserId, ownerOAuth2ClientId,
        actorUser.id, humanName, scope.toList, createdAt, none, none, none⟩ } := by
  obtain ⟨_, db₁, hinsert, hpure⟩ := returns_bind.mp h
  obtain ⟨hviolation, rfl⟩ := Repo.returns_insert.mp hinsert
  obtain ⟨-, rfl⟩ := returns_pure.mp hpure
  refine ⟨?_, _, _, rfl⟩
  unfold violation at hviolation
  split_ifs at hviolation with hcontains
  simpa [Table.contains] using hcontains

theorem returns_revoke {revokedAt : Time} {session' : PersonalSession}
    (h : (revoke revokedAt session : Repo ε _).Returns db session' db') :
    db'.personalSessions = db.personalSessions.update session.id
        (fun r => { r with revokedAt := some revokedAt }) ∧
      db'.oauth2Sessions = db.oauth2Sessions ∧ db'.userSessions = db.userSessions ∧
      db'.users = db.users := by
  obtain ⟨_, db₁, htokens, h⟩ := returns_bind.mp h
  obtain ⟨-, -, rfl⟩ := Repo.returns_statement.mp htokens
  obtain ⟨-, -, h⟩ := Repo.returns_updateRow_bind.mp h
  obtain ⟨-, rfl⟩ := Repo.returns_transition.mp h
  exact ⟨rfl, rfl, rfl, rfl⟩

theorem id_of_toSessionAndToken {s : PersonalSession × Option PersonalAccessToken}
    (h : toSessionAndToken x = .ok s) : s.1.id = x.1 := by
  unfold toSessionAndToken PersonalSessionRow.toPersonalSession at h
  cases hscope : Scope.collectStr x.2.1.scopeList with
  | none => simp [hscope, Except.map] at h
  | some scope =>
    cases howner : x.2.1.owner? with
    | none => simp [hscope, howner, Except.map] at h
    | some owner =>
      simp only [hscope, howner, Except.map, Except.ok.injEq] at h
      rw [← h]

end Rules

end PersonalSessionRepository

namespace PersonalAccessTokenRepository

def findByToken (sha256 : String → List ℕ) (accessToken : String) :
    Repo ε (Option PersonalAccessToken) :=
  Txn.query (·.personalTokenOf? sha256 accessToken)

def violation (id sessionId : Ulid) (digest : List ℕ) (db : Database) : Option DatabaseError :=
  if db.personalAccessTokens.contains id ||
      db.personalAccessTokens.any (fun _ t => t.accessTokenSha256 = digest) then
    some .uniqueViolation
  else if !db.personalSessions.contains sessionId then some .foreignKeyViolation
  else none

def add (sha256 : String → List ℕ) (createdAt : Time) (id : Ulid) (session : PersonalSession)
    (accessToken : String) (expiresAfter : Option Duration) : Repo ε PersonalAccessToken := do
  let expiresAt := expiresAfter.map (createdAt + ·)
  Repo.insert (violation id session.id (sha256 accessToken))
    [.row .personalAccessTokens id, .unique .personalAccessTokens accessToken]
    (fun db => { db with
      personalAccessTokens := db.personalAccessTokens.insert id
        ⟨session.id, sha256 accessToken, createdAt, expiresAt, none⟩ })
  pure ⟨id, session.id, createdAt, expiresAt, none⟩

def revoke (revokedAt : Time) (accessToken : PersonalAccessToken) :
    Repo ε PersonalAccessToken := do
  Repo.updateRow (fun db => db.personalAccessTokens.contains accessToken.id) Repo.unconstrained
    (.row .personalAccessTokens accessToken.id)
    (fun db => { db with
      personalAccessTokens := db.personalAccessTokens.update accessToken.id
        (fun t => { t with revokedAt := some revokedAt }) })
  pure { accessToken with revokedAt := some revokedAt }

theorem returns_add {sha256 : String → List ℕ} {createdAt : Time} {id : Ulid}
    {session : PersonalSession} {accessToken : String} {expiresAfter : Option Duration}
    {token : PersonalAccessToken} {db db' : Database}
    (h : (add sha256 createdAt id session accessToken expiresAfter : Repo ε _).Returns db token
      db') : ∃ t, db' = { db with personalAccessTokens := t } := by
  obtain ⟨_, db₁, hinsert, hpure⟩ := returns_bind.mp h
  obtain ⟨-, rfl⟩ := Repo.returns_insert.mp hinsert
  obtain ⟨-, rfl⟩ := returns_pure.mp hpure
  exact ⟨_, rfl⟩

end PersonalAccessTokenRepository

end Pasion

import Pasion.Pg.BrowserSession
import Pasion.Pg.Tokens

/-! The repository of OAuth 2.0 sessions. -/
namespace Pasion

open Relational Clause

variable {ε : Type} [FromRepository ε]

def stableDeviceScope (device : String) : String := "urn:matrix:client:device:" ++ device

def unstableDeviceScope (device : String) : String :=
  "urn:matrix:org.matrix.msc2967.client:device:" ++ device

inductive ClientKind where
  | static
  | dynamic

structure OAuth2SessionFilter where
  user : Option User
  anyUser : Option Bool
  browserSession : Option BrowserSession
  browserSessionFilter : Option BrowserSessionFilter
  device : Option String
  client : Option Client
  clientKind : Option ClientKind
  state : Option SessionActivity
  scope : Option Scope
  (lastActiveBefore lastActiveAfter : Option Time)

def OAuth2SessionFilter.new : OAuth2SessionFilter :=
  ⟨none, none, none, none, none, none, none, none, none, none, none⟩

/-- The array operator `@>`. -/
def containsAll (scopeList tokens : List String) : Bool := tokens.all (· ∈ scopeList)

def OAuth2SessionRow.toSession (r : OAuth2SessionRow) (id : Ulid) : Except DatabaseError Session :=
  match Scope.collectStr r.scopeList with
  | none => .error (.inconsistency "oauth2_sessions" (some "scope") id)
  | some scope => .ok {
      id
      state := match r.finishedAt with
        | none => .valid
        | some finishedAt => .finished finishedAt
      createdAt := r.createdAt
      userId := r.userId
      userSessionId := r.userSessionId
      clientId := r.oauth2ClientId
      scope
      userAgent := r.userAgent
      lastActiveAt := r.lastActiveAt
      lastActiveIp := r.lastActiveIp
      humanName := r.humanName }

def Database.session? (db : Database) (id : Ulid) : Option Session :=
  (db.oauth2Sessions.get? id).bind (fun r => (r.toSession id).toOption)

def Database.insertSession (db : Database) (id : Ulid) (r : OAuth2SessionRow) : Database :=
  { db with oauth2Sessions := db.oauth2Sessions.insert id r }

def Database.updateSession (db : Database) (id : Ulid) (f : OAuth2SessionRow → OAuth2SessionRow) :
    Database :=
  { db with oauth2Sessions := db.oauth2Sessions.update id f }

theorem OAuth2SessionRow.toSession_ok {r : OAuth2SessionRow} {id : Ulid} {session : Session}
    (h : r.toSession id = .ok session) :
    session.id = id ∧ session.userId = r.userId ∧
      Scope.collectStr r.scopeList = some session.scope ∧
      (session.isValid ↔ r.finishedAt = none) := by
  unfold toSession at h
  cases hscope : Scope.collectStr r.scopeList with
  | none => simp [hscope] at h
  | some scope =>
    simp only [hscope, Except.ok.injEq] at h
    subst h
    refine ⟨rfl, rfl, rfl, ?_⟩
    cases hfinished : r.finishedAt <;> simp [Session.isValid, SessionState.isValid]

theorem Database.session?_eq_some {db : Database} {id : Ulid} {session : Session}
    (h : db.session? id = some session) :
    session.id = id ∧ ∃ r, db.oauth2Sessions.get? id = some r ∧ session.userId = r.userId ∧
      Scope.collectStr r.scopeList = some session.scope ∧
      (session.isValid ↔ r.finishedAt = none) := by
  obtain ⟨r, hr, hdecode⟩ := Option.bind_eq_some_iff.mp h
  obtain ⟨hid, hrest⟩ := r.toSession_ok (toOption_eq_some.mp hdecode)
  exact ⟨hid, r, hr, hrest⟩

namespace OAuth2SessionRepository

variable {db db' : Database}

def isStaticClient (db : Database) (id : Ulid) : Bool :=
  (db.oauth2Clients.get? id).any (·.isStatic = some true)

def admitsKind (db : Database) (clientId : Ulid) : ClientKind → Bool
  | .static => isStaticClient db clientId
  | .dynamic => !isStaticClient db clientId

/-- Of a nested filter the subquery reads user, state and activity, and no upstream sessions. -/
def nestedBrowserSessionFilter (f : BrowserSessionFilter) : List (Clause (Ulid × UserSessionRow)) :=
  filterOn f.user (fun user => .test (fun r => r.2.userId = user.id)) ++
  filterOn f.state (fun state => .test (fun r => state.admits r.2.finishedAt)) ++
  filterOn f.lastActiveBefore (fun t => .test (fun r => r.2.lastActiveAt.any (· < t))) ++
  filterOn f.lastActiveAfter (fun t => .test (fun r => r.2.lastActiveAt.any (t < ·)))

def applySessionFilter (db : Database) (f : OAuth2SessionFilter) :
    List (Clause (Ulid × OAuth2SessionRow)) :=
  filterOn f.user (fun user => .test (fun r => r.2.userId = some user.id)) ++
  filterOn f.client (fun client => .test (fun r => r.2.oauth2ClientId = client.id)) ++
  filterOn f.clientKind (fun kind => .test (fun r => admitsKind db r.2.oauth2ClientId kind)) ++
  filterOn f.device (fun device => .either
    (.test (fun r => containsAll r.2.scopeList [stableDeviceScope device]))
    (.test (fun r => containsAll r.2.scopeList [unstableDeviceScope device]))) ++
  filterOn f.browserSession
    (fun browserSession => .test (fun r => r.2.userSessionId = some browserSession.id)) ++
  filterOn f.browserSessionFilter (fun nested => .test (fun r =>
    r.2.userSessionId.any (fun userSessionId =>
      (db.userSessions.get? userSessionId).any (fun row =>
        Clause.selects (nestedBrowserSessionFilter nested) (userSessionId, row))))) ++
  filterOn f.state (fun state => .test (fun r => state.admits r.2.finishedAt)) ++
  filterOn f.scope (fun scope => .test (fun r => containsAll r.2.scopeList scope.toList)) ++
  filterOn f.anyUser (fun anyUser => .test (fun r => r.2.userId.isSome = anyUser)) ++
  filterOn f.lastActiveAfter (fun t => .test (fun r => r.2.lastActiveAt.any (t < ·))) ++
  filterOn f.lastActiveBefore (fun t => .test (fun r => r.2.lastActiveAt.any (· < t)))

def selected (db : Database) (f : OAuth2SessionFilter) (id : Ulid) (r : OAuth2SessionRow) : Bool :=
  Clause.selects (applySessionFilter db f) (id, r)

theorem nestedBrowserSessionFilter_iff {f : BrowserSessionFilter} {id : Ulid}
    {r : UserSessionRow} :
    selects (nestedBrowserSessionFilter f) (id, r) ↔
      (∀ user, f.user = some user → r.userId = user.id) ∧
      (∀ state, f.state = some state → state.admits r.finishedAt) ∧
      (∀ t, f.lastActiveBefore = some t → r.lastActiveAt.any (· < t)) ∧
      ∀ t, f.lastActiveAfter = some t → r.lastActiveAt.any (t < ·) := by
  have hclosed : ∀ c ∈ nestedBrowserSessionFilter f, c.Closed (id, r) := by
    unfold nestedBrowserSessionFilter
    refine closed_append (closed_append (closed_append ?_ ?_) ?_) ?_ <;>
      exact filterOn_closed fun _ => closed_test _
  rw [selects_eq_all hclosed]
  simp only [nestedBrowserSessionFilter, List.all_append, Bool.and_eq_true, all_filterOn,
    eval_test, decide_eq_true_eq, and_assoc]

theorem selected_iff {f : OAuth2SessionFilter} {id : Ulid} {r : OAuth2SessionRow} :
    selected db f id r ↔ (∀ user, f.user = some user → r.userId = some user.id) ∧
      (∀ client, f.client = some client → r.oauth2ClientId = client.id) ∧
      (∀ kind, f.clientKind = some kind → admitsKind db r.oauth2ClientId kind) ∧
      (∀ device, f.device = some device →
        stableDeviceScope device ∈ r.scopeList ∨ unstableDeviceScope device ∈ r.scopeList) ∧
      (∀ browserSession, f.browserSession = some browserSession →
        r.userSessionId = some browserSession.id) ∧
      (∀ nested, f.browserSessionFilter = some nested → ∃ u row, r.userSessionId = some u ∧
        db.userSessions.get? u = some row ∧
        selects (nestedBrowserSessionFilter nested) (u, row)) ∧
      (∀ state, f.state = some state → state.admits r.finishedAt) ∧
      (∀ scope, f.scope = some scope → containsAll r.scopeList scope.toList) ∧
      (∀ anyUser, f.anyUser = some anyUser → r.userId.isSome = anyUser) ∧
      (∀ t, f.lastActiveAfter = some t → r.lastActiveAt.any (t < ·)) ∧
      ∀ t, f.lastActiveBefore = some t → r.lastActiveAt.any (· < t) := by
  have hclosed : ∀ c ∈ applySessionFilter db f, c.Closed (id, r) := by
    unfold applySessionFilter
    refine closed_append (closed_append (closed_append (closed_append (closed_append
      (closed_append (closed_append (closed_append (closed_append (closed_append
        ?_ ?_) ?_) (filterOn_closed fun _ => (either_closed (closed_test _) (closed_test _)).1))
          ?_) ?_) ?_) ?_) ?_) ?_) ?_
    all_goals exact filterOn_closed fun _ => closed_test _
  rw [selected, selects_eq_all hclosed]
  have hdevice : ∀ device : String,
      (either (test (fun r : Ulid × OAuth2SessionRow =>
          containsAll r.2.scopeList [stableDeviceScope device]))
        (test (fun r => containsAll r.2.scopeList [unstableDeviceScope device]))).eval (id, r) ↔
      stableDeviceScope device ∈ r.scopeList ∨ unstableDeviceScope device ∈ r.scopeList := by
    intro device
    rw [(either_closed (closed_test _) (closed_test _)).2]
    simp [containsAll]
  simp only [applySessionFilter, List.all_append, Bool.and_eq_true, all_filterOn, eval_test,
    decide_eq_true_eq, hdevice, Option.any_eq_true, and_assoc, exists_and_left]

def lookup (id : Ulid) : Repo ε (Option Session) :=
  Repo.fetch (fun db => (db.oauth2Sessions.get? id).mapM (·.toSession id))

@[simp]
theorem returns_lookup {id : Ulid} {session : Session} :
    (lookup id : Repo ε _).Returns db (some session) db' ↔
      db.session? id = some session ∧ db = db' := by
  rw [lookup, Repo.returns_fetch, mapM_eq_ok_some]
  rfl

/-- The column `user_id` is declared not null. -/
def violation (id clientId : Ulid) (userId userSessionId : Option Ulid) (db : Database) :
    Option DatabaseError :=
  if userId.isNone then some .notNullViolation
  else if db.oauth2Sessions.contains id then some .uniqueViolation
  else if !db.oauth2Clients.contains clientId || !userId.all (db.users.contains ·) ||
      !userSessionId.all (db.userSessions.contains ·) then some .foreignKeyViolation
  else none

def add (createdAt : Time) (id : Ulid) (client : Client) (user : Option User)
    (userSession : Option BrowserSession) (scope : Scope) : Repo ε Session := do
  let userId := user.map User.id
  let userSessionId := userSession.map BrowserSession.id
  Repo.insert (violation id client.id userId userSessionId) [.row .oauth2Sessions id]
    (·.insertSession id
      ⟨userId, userSessionId, client.id, scope.toList, createdAt, none, none, none, none, none⟩)
  pure ⟨id, .valid, createdAt, userId, userSessionId, client.id, scope, none, none, none, none⟩

def addFromBrowserSession (createdAt : Time) (id : Ulid) (client : Client)
    (userSession : BrowserSession) (scope : Scope) : Repo ε Session :=
  add createdAt id client (some userSession.user) (some userSession) scope

def addFromClientCredentials (createdAt : Time) (id : Ulid) (client : Client) (scope : Scope) :
    Repo ε Session :=
  add createdAt id client none none scope

def finishBulk (finishedAt : Time) (f : OAuth2SessionFilter) : Repo ε ℕ := Txn.execute
    (fun db => ⟨fun db' => { db' with
        oauth2Sessions := db'.oauth2Sessions.mapRows (fun id r =>
          if selected db f id r then { r with finishedAt := some finishedAt } else r) },
      (db.oauth2Sessions.select (selected db f)).map (fun r => .row .oauth2Sessions r.1)⟩)
    (fun db => (db.oauth2Sessions.select (selected db f)).length)

omit [FromRepository ε] in
theorem returns_finishBulk {finishedAt : Time} {f : OAuth2SessionFilter} {n : ℕ} (h : (finishBulk finishedAt f : Repo ε ℕ).Returns db n db') :
    db' = { db with
      oauth2Sessions := db.oauth2Sessions.mapRows (fun id r =>
        if selected db f id r then { r with finishedAt := some finishedAt } else r) } :=
  (Txn.returns_execute.mp h).2.symm

def updateSession (id : Ulid) (f : OAuth2SessionRow → OAuth2SessionRow) : Repo ε Unit :=
  Repo.updateRow (fun db => db.oauth2Sessions.contains id) Repo.unconstrained
    (.row .oauth2Sessions id) (·.updateSession id f)

def finish (finishedAt : Time) (session : Session) : Repo ε Session := do
  updateSession session.id (fun r => { r with finishedAt := some finishedAt })
  Repo.transition (session.finish finishedAt)

def list (f : OAuth2SessionFilter) (pagination : Pagination) : Repo ε (Page Session) :=
  Repo.fetch (fun db =>
    (pagination.page (db.oauth2Sessions.select (selected db f))).tryMap
      (fun r => r.2.toSession r.1))

def count (f : OAuth2SessionFilter) : Repo ε ℕ :=
  Txn.query (fun db => (db.oauth2Sessions.select (selected db f)).length)

/-- A batch that names a session twice updates fewer rows than it has entries, and is refused. -/
def recordBatchActivity (activities : List (Ulid × Time × Option IpAddr)) : Repo ε Unit := do
  let rowsAffected ← Txn.execute
    (fun _ => ⟨fun db => { db with
        oauth2Sessions := db.oauth2Sessions.mapRows (fun id r =>
          match activities.find? (fun a => a.1 = id) with
          | none => r
          | some (_, lastActiveAt, lastActiveIp) => { r with
              lastActiveAt := some (r.lastActiveAt.elim lastActiveAt (max lastActiveAt ·))
              lastActiveIp := lastActiveIp.or r.lastActiveIp }) },
      activities.map (fun a => .row .oauth2Sessions a.1)⟩)
    (fun db => (db.oauth2Sessions.select (fun id _ => activities.any (fun a => a.1 = id))).length)
  Repo.ensureAffectedRows rowsAffected activities.length

def recordUserAgent (session : Session) (userAgent : String) : Repo ε Session := do
  updateSession session.id (fun r => { r with userAgent := some userAgent })
  pure { session with userAgent := some userAgent }

def setHumanName (session : Session) (humanName : Option String) : Repo ε Session := do
  updateSession session.id (fun r => { r with humanName })
  pure { session with humanName }

section Rules

variable {now : Time} {id : Ulid} {client : Client} {user : Option User}
  {userSession : Option BrowserSession} {scope : Scope} {session session' : Session}
  {db db' : Database}

@[simp]
theorem returns_add :
    (add now id client user userSession scope : Repo ε _).Returns db session db' ↔
      violation id client.id (user.map User.id) (userSession.map BrowserSession.id) db = none ∧
      ⟨id, .valid, now, user.map User.id, userSession.map BrowserSession.id, client.id, scope, none,
        none, none, none⟩ = session ∧
      db.insertSession id ⟨user.map User.id, userSession.map BrowserSession.id, client.id,
        scope.toList, now, none, none, none, none, none⟩ = db' := by
  simp [add, and_assoc]

theorem violation_eq_none {clientId : Ulid} {userId userSessionId : Option Ulid}
    (h : violation id clientId userId userSessionId db = none) :
    db.oauth2Sessions.get? id = none := by
  unfold violation at h
  split_ifs at h with huser hid hreferences
  simpa [Table.contains] using hid

@[simp]
theorem returns_updateSession {f : OAuth2SessionRow → OAuth2SessionRow} {u : Unit} :
    (updateSession id f : Repo ε Unit).Returns db u db' ↔
      db.oauth2Sessions.contains id ∧ db.updateSession id f = db' := by
  simp [updateSession, Repo.unconstrained]

@[simp]
theorem returns_finish :
    (finish now session : Repo ε _).Returns db session' db' ↔
      db.oauth2Sessions.contains session.id ∧
      session.finish now = .ok session' ∧
      db.updateSession session.id (fun r => { r with finishedAt := some now }) = db' := by
  simp [finish, and_assoc]

end Rules

def finishedRows (ties : Ulid → ℕ) (since : Option Time) (until_ : Time) (limit : ℕ)
    (db : Database) : List (Ulid × OAuth2SessionRow) :=
  cleanupRows OAuth2SessionRow.finishedAt (fun _ => true) ties since until_ limit db.oauth2Sessions

/-- Deletes sessions with their tokens and, by cascade, the device code grants they came from. -/
def deleteSessions (seen db : Database) (ids : List Ulid) : Database :=
  ((db.delete .oauth2RefreshTokens
    (· ∈ seen.oauth2RefreshTokens.keysWhere (·.oauth2SessionId ∈ ids))).delete
    .oauth2AccessTokens (· ∈ seen.oauth2AccessTokens.keysWhere (·.oauth2SessionId ∈ ids))).delete
    .oauth2Sessions (· ∈ ids)

def cleanupFinished (ties : Ulid → ℕ) (since : Option Time) (until_ : Time) (limit : ℕ) :
    Repo ε (ℕ × Option Time) :=
  let rows := finishedRows ties since until_ limit
  Repo.deleting
    (fun seen db => deleteSessions seen db ((rows seen).map Prod.fst))
    (fun db => (rows db).map (fun r => .row .oauth2Sessions r.1))
    (fun db => cleanupResult OAuth2SessionRow.finishedAt (rows db))

section References

open Table

variable {ids : List Ulid}

/-- Tokens and authorization grants stand in the way of a session that is deleted. -/
theorem stranded_oauth2Sessions (hids : ∀ id ∈ ids, db.oauth2Sessions.contains id) :
    db.stranded (db.delete .oauth2Sessions (· ∈ ids)) = false ↔
      (∀ id r, db.oauth2AccessTokens.get? id = some r → r.oauth2SessionId ∉ ids) ∧
      (∀ id r, db.oauth2RefreshTokens.get? id = some r → r.oauth2SessionId ∉ ids) ∧
      ∀ id r session, db.oauth2AuthorizationGrants.get? id = some r →
        r.oauth2SessionId = some session → session ∉ ids := by
  have hrestricting : ForeignKey.restricting .oauth2Sessions =
      [.oauth2AccessTokensOAuth2SessionId, .oauth2RefreshTokensOAuth2SessionId,
        .oauth2AuthorizationGrantsOAuth2SessionId] := rfl
  have hkeys := fun id => contains_deleteKeys (t := db.oauth2Sessions) (· ∈ ids) id
  have hgone : ∀ x, decide (x ∈ ids) → db.oauth2Sessions.contains x :=
    fun x hx => hids x (of_decide_eq_true hx)
  rw [Database.stranded_delete, hrestricting, List.any_cons, List.any_cons, List.any_cons,
    List.any_nil, Bool.or_false, Bool.or_eq_false_iff, Bool.or_eq_false_iff]
  refine and_congr ?_ (and_congr ?_ ?_) <;> refine (Reference.not_strands_iff hkeys hgone).trans ?_
  · exact forall₂_congr fun id r => ⟨fun h hr => of_decide_eq_false (h _ hr rfl),
      fun h x hr hx => decide_eq_false (Option.some.inj hx ▸ h hr)⟩
  · exact forall₂_congr fun id r => ⟨fun h hr => of_decide_eq_false (h _ hr rfl),
      fun h x hr hx => decide_eq_false (Option.some.inj hx ▸ h hr)⟩
  · simp only [decide_eq_false_iff_not]
    rfl

/-- The tokens of the sessions are gone before them, so only authorization grants are left. -/
theorem stranded_deleteSessions (hids : ∀ id ∈ ids, db.oauth2Sessions.contains id) :
    db.stranded (deleteSessions db db ids) = false ↔
      ∀ id r session, db.oauth2AuthorizationGrants.get? id = some r →
        r.oauth2SessionId = some session → session ∉ ids := by
  let refreshIds := db.oauth2RefreshTokens.keysWhere (·.oauth2SessionId ∈ ids)
  let accessIds := db.oauth2AccessTokens.keysWhere (·.oauth2SessionId ∈ ids)
  let db₁ := db.delete .oauth2RefreshTokens (· ∈ refreshIds)
  let db₂ := db₁.delete .oauth2AccessTokens (· ∈ accessIds)
  have hhas₁ : ∀ (fk : ForeignKey) x, fk.reference.has db₁ x → fk.reference.has db x :=
    fun fk x => Database.has_of_has_delete fk x
  have hhas₂ : ∀ (fk : ForeignKey) x, fk.reference.has db₂ x → fk.reference.has db x :=
    fun fk x hx => hhas₁ fk x (Database.has_of_has_delete fk x hx)
  have hdb₂ : db.stranded db₂ = false := by
    rw [Database.stranded_delete_of_not_stranded (Database.not_stranded_delete rfl) hhas₁]
    exact Database.not_stranded_delete rfl
  have haccess : ∀ id r, db₂.oauth2AccessTokens.get? id = some r → r.oauth2SessionId ∉ ids := by
    intro id r hr hmem
    obtain ⟨hr, hnot⟩ := get?_deleteAccessTokens.mp hr
    exact hnot (mem_keysWhere.mpr ⟨r, hr, decide_eq_true hmem⟩)
  have hrefresh : ∀ id r, db₂.oauth2RefreshTokens.get? id = some r → r.oauth2SessionId ∉ ids := by
    intro id r hr hmem
    obtain ⟨r₁, hr₁, rfl⟩ := get?_refresh_deleteAccessTokens.mp hr
    obtain ⟨r₀, hr₀, hnot, rfl⟩ := get?_deleteRefreshTokens.mp hr₁
    exact hnot (mem_keysWhere.mpr ⟨r₀, hr₀, decide_eq_true hmem⟩)
  have hids₂ : ∀ id ∈ ids, db₂.oauth2Sessions.contains id := hids
  rw [deleteSessions, Database.stranded_delete_of_not_stranded hdb₂ hhas₂,
    stranded_oauth2Sessions hids₂, and_iff_right haccess, and_iff_right hrefresh]
  rfl

end References

def cleanupInactiveIps (ties : Ulid → ℕ) (since : Option Time) (threshold : Time) (limit : ℕ) :
    Repo ε (ℕ × Option Time) :=
  let rows (db : Database) := cleanupRows OAuth2SessionRow.lastActiveAt
    (·.lastActiveIp.isSome) ties since threshold limit db.oauth2Sessions
  Repo.statement Repo.unconstrained
    (fun db => ⟨fun db' => { db' with
        oauth2Sessions := db'.oauth2Sessions.mapRows (fun id r =>
          if id ∈ (rows db).map Prod.fst then { r with lastActiveIp := none } else r) },
      (rows db).map (fun r => .row .oauth2Sessions r.1)⟩)
    (fun db => cleanupResult OAuth2SessionRow.lastActiveAt (rows db))

end OAuth2SessionRepository

end Pasion

import Pasion.Pg.ForeignKeys

/-! Repositories of access tokens and refresh tokens. -/
namespace Pasion

open Relational Table

variable {ε : Type} [FromRepository ε]

/-- `LIMIT` takes a 64-bit signed number. -/
def limitI64 (limit : ℕ) : ℕ := min limit (2 ^ 63 - 1)

def inWindow (since : Option Time) (until_ t : Time) : Bool := since.all (· ≤ t) && t < until_

/-- The rows a cleanup deletes: those with a timestamp between the bounds, the oldest first. -/
def cleanupRows {R : Type} (timestamp : R → Option Time) (eligible : R → Bool)
    (ties : Ulid → ℕ) (since : Option Time) (until_ : Time) (limit : ℕ) (t : Table Ulid R) :
    List (Ulid × R) :=
  orderLimit (fun r => (timestamp r.2).getD 0) (fun r => ties r.1) (limitI64 limit)
    (t.select (fun _ r => (timestamp r).any (inWindow since until_) && eligible r))

/-- How many rows were deleted, and the latest of their timestamps. -/
def cleanupResult {R : Type} (timestamp : R → Option Time) (rows : List (Ulid × R)) :
    ℕ × Option Time :=
  (rows.length, ((maxBy (fun r => (timestamp r.2).getD 0) rows).bind (fun r => timestamp r.2)))

theorem mem_cleanupRows {R : Type} {timestamp : R → Option Time} {eligible : R → Bool}
    {ties : Ulid → ℕ} {since : Option Time} {until_ : Time} {limit : ℕ} {t : Table Ulid R}
    {id : Ulid} {r : R} (h : (id, r) ∈ cleanupRows timestamp eligible ties since until_ limit t) :
    t.get? id = some r ∧ (timestamp r).isSome ∧ eligible r := by
  obtain ⟨hget, hsel⟩ := mem_select.mp (mem_of_mem_orderLimit h)
  obtain ⟨hts, helig⟩ := Bool.and_eq_true_iff.mp hsel
  refine ⟨hget, ?_, helig⟩
  cases ht : timestamp r with
  | none => rw [ht] at hts; exact absurd hts (by simp)
  | some x => rfl

def OAuth2AccessTokenRow.toAccessToken (r : OAuth2AccessTokenRow) (id : Ulid) : AccessToken where
  id
  state := match r.revokedAt with
    | none => .valid
    | some revokedAt => .revoked revokedAt
  sessionId := r.oauth2SessionId
  accessToken := r.accessToken
  createdAt := r.createdAt
  expiresAt := r.expiresAt
  firstUsedAt := r.firstUsedAt

def Database.insertAccessToken (db : Database) (id : Ulid) (r : OAuth2AccessTokenRow) : Database :=
  { db with oauth2AccessTokens := db.oauth2AccessTokens.insert id r }

def Database.updateAccessToken (db : Database) (id : Ulid)
    (f : OAuth2AccessTokenRow → OAuth2AccessTokenRow) : Database :=
  { db with oauth2AccessTokens := db.oauth2AccessTokens.update id f }

def Database.insertRefreshToken (db : Database) (id : Ulid) (r : OAuth2RefreshTokenRow) : Database :=
  { db with oauth2RefreshTokens := db.oauth2RefreshTokens.insert id r }

def Database.updateRefreshToken (db : Database) (id : Ulid)
    (f : OAuth2RefreshTokenRow → OAuth2RefreshTokenRow) : Database :=
  { db with oauth2RefreshTokens := db.oauth2RefreshTokens.update id f }

section Deleted

variable {db : Database} {ids : List Ulid}

theorem get?_deleteAccessTokens {a : Ulid} {ra : OAuth2AccessTokenRow} :
    (db.delete .oauth2AccessTokens (· ∈ ids)).oauth2AccessTokens.get? a = some ra ↔
      db.oauth2AccessTokens.get? a = some ra ∧ a ∉ ids := by
  simp [Database.delete, and_comm]

/-- Deleting access tokens empties the references that refresh tokens hold to them. -/
theorem get?_refresh_deleteAccessTokens {k : Ulid} {r' : OAuth2RefreshTokenRow} :
    (db.delete .oauth2AccessTokens (· ∈ ids)).oauth2RefreshTokens.get? k = some r' ↔
      ∃ r, db.oauth2RefreshTokens.get? k = some r ∧ { r with
        oauth2AccessTokenId := r.oauth2AccessTokenId.filter (· ∉ ids) } = r' := by
  let put (a : Option Ulid) (r : OAuth2RefreshTokenRow) := { r with oauth2AccessTokenId := a }
  rw [← Option.map_eq_some_iff]
  simp only [decide_not]
  exact Eq.congr_left (get?_setNull put (fun _ => rfl) k)

/-- Deleting refresh tokens empties the pointers of their predecessors. -/
theorem get?_deleteRefreshTokens {k : Ulid} {r' : OAuth2RefreshTokenRow} :
    (db.delete .oauth2RefreshTokens (· ∈ ids)).oauth2RefreshTokens.get? k = some r' ↔
      ∃ r, db.oauth2RefreshTokens.get? k = some r ∧ k ∉ ids ∧ { r with
        nextOAuth2RefreshTokenId := r.nextOAuth2RefreshTokenId.filter (· ∉ ids) } = r' := by
  let put (n : Option Ulid) (r : OAuth2RefreshTokenRow) := { r with nextOAuth2RefreshTokenId := n }
  have hget : (db.delete .oauth2RefreshTokens (· ∈ ids)).oauth2RefreshTokens.get? k = _ :=
    get?_setNull put (fun _ => rfl) k
  rw [hget, Option.map_eq_some_iff]
  simp only [decide_not]
  refine exists_congr fun r => ?_
  by_cases hk : k ∈ ids <;> simp [put, hk]

end Deleted

def Database.accessToken? (db : Database) (id : Ulid) : Option AccessToken :=
  (db.oauth2AccessTokens.get? id).map (·.toAccessToken id)

def Database.accessTokenOf? (db : Database) (accessToken : String) : Option AccessToken :=
  (db.oauth2AccessTokens.find? (fun _ r => r.accessToken = accessToken)).map
    (fun r => r.2.toAccessToken r.1)

namespace OAuth2AccessTokenRepository

def lookup (id : Ulid) : Repo ε (Option AccessToken) := Txn.query (·.accessToken? id)

def findByToken (accessToken : String) : Repo ε (Option AccessToken) :=
  Txn.query (·.accessTokenOf? accessToken)

def violation (id sessionId : Ulid) (accessToken : String) (db : Database) :
    Option DatabaseError :=
  if db.oauth2AccessTokens.contains id then some .uniqueViolation
  else if db.oauth2AccessTokens.any (fun _ r => r.accessToken = accessToken) then
    some .uniqueViolation
  else if !db.oauth2Sessions.contains sessionId then some .foreignKeyViolation
  else none

def add (createdAt : Time) (id : Ulid) (session : Session) (accessToken : String)
    (expiresAfter : Option Duration) : Repo ε AccessToken := do
  let expiresAt := expiresAfter.map (createdAt + ·)
  Repo.insert (violation id session.id accessToken)
    [.row .oauth2AccessTokens id, .unique .oauth2AccessTokens accessToken]
    (·.insertAccessToken id ⟨session.id, accessToken, createdAt, expiresAt, none, none⟩)
  pure ⟨id, .valid, session.id, accessToken, createdAt, expiresAt, none⟩

def revoke (revokedAt : Time) (accessToken : AccessToken) : Repo ε AccessToken := do
  Repo.updateRow (fun db => db.oauth2AccessTokens.contains accessToken.id) Repo.unconstrained
    (.row .oauth2AccessTokens accessToken.id)
    (·.updateAccessToken accessToken.id (fun r => { r with revokedAt := some revokedAt }))
  Repo.transition (accessToken.revoke revokedAt)

def markUsed (now : Time) (accessToken : AccessToken) : Repo ε AccessToken := do
  Repo.updateRow (fun db => db.oauth2AccessTokens.contains accessToken.id) Repo.unconstrained
    (.row .oauth2AccessTokens accessToken.id)
    (·.updateAccessToken accessToken.id (fun r => { r with firstUsedAt := some now }))
  pure { accessToken with firstUsedAt := some now }

section Rules

variable {now : Time} {id : Ulid} {session : Session} {token : String} {t t' : AccessToken}
  {expiresAfter : Option Duration} {db db' : Database}

theorem violation_eq_none {sessionId : Ulid} (h : violation id sessionId token db = none) :
    db.oauth2AccessTokens.get? id = none ∧
      (∀ k r, db.oauth2AccessTokens.get? k = some r → r.accessToken ≠ token) ∧
      db.oauth2Sessions.contains sessionId := by
  unfold violation at h
  split_ifs at h with hid htoken hsession
  refine ⟨by simpa [Table.contains] using hid, fun k r hk heq => htoken ?_, by simpa using hsession⟩
  exact any_iff.mpr ⟨k, r, hk, by simpa using heq⟩

@[simp]
theorem returns_add :
    (add now id session token expiresAfter : Repo ε _).Returns db t db' ↔
      violation id session.id token db = none ∧
      ⟨id, .valid, session.id, token, now, expiresAfter.map (now + ·), none⟩ = t ∧
      db.insertAccessToken id
        ⟨session.id, token, now, expiresAfter.map (now + ·), none, none⟩ = db' := by
  simp [add, and_assoc, and_left_comm]

@[simp]
theorem returns_revoke :
    (revoke now t : Repo ε _).Returns db t' db' ↔ db.oauth2AccessTokens.contains t.id ∧
      t.revoke now = .ok t' ∧
      db.updateAccessToken t.id (fun r => { r with revokedAt := some now }) = db' := by
  simp [revoke, Repo.unconstrained, and_assoc]

@[simp]
theorem returns_markUsed :
    (markUsed now t : Repo ε _).Returns db t' db' ↔ db.oauth2AccessTokens.contains t.id ∧
      { t with firstUsedAt := some now } = t' ∧
      db.updateAccessToken t.id (fun r => { r with firstUsedAt := some now }) = db' := by
  simp [markUsed, Repo.unconstrained, and_assoc]

end Rules

/-- The two cleanups differ in the column they go by. -/
def cleanupBy (timestamp : OAuth2AccessTokenRow → Option Time) (ties : Ulid → ℕ)
    (since : Option Time) (until_ : Time) (limit : ℕ) : Repo ε (ℕ × Option Time) :=
  let rows (db : Database) :=
    cleanupRows timestamp (fun _ => true) ties since until_ limit db.oauth2AccessTokens
  Repo.deleting
    (fun seen => Database.delete .oauth2AccessTokens (· ∈ (rows seen).map Prod.fst))
    (fun db => (rows db).map (fun r => .row .oauth2AccessTokens r.1))
    (fun db => cleanupResult timestamp (rows db))

def cleanupRevoked (ties : Ulid → ℕ) (since : Option Time) (until_ : Time) (limit : ℕ) :
    Repo ε (ℕ × Option Time) :=
  cleanupBy OAuth2AccessTokenRow.revokedAt ties since until_ limit

def cleanupExpired (ties : Ulid → ℕ) (since : Option Time) (until_ : Time) (limit : ℕ) :
    Repo ε (ℕ × Option Time) :=
  cleanupBy OAuth2AccessTokenRow.expiresAt ties since until_ limit

end OAuth2AccessTokenRepository

def OAuth2RefreshTokenRow.state? (r : OAuth2RefreshTokenRow) : Option RefreshTokenState :=
  match r.revokedAt, r.consumedAt, r.nextOAuth2RefreshTokenId with
  | none, none, none => some .valid
  | some revokedAt, none, none => some (.revoked revokedAt)
  | none, some consumedAt, none => some (.consumed consumedAt none)
  | none, some consumedAt, some id => some (.consumed consumedAt (some id))
  | _, _, _ => none

def OAuth2RefreshTokenRow.toRefreshToken (r : OAuth2RefreshTokenRow) (id : Ulid) :
    Except DatabaseError RefreshToken :=
  match r.state? with
  | some state =>
    .ok ⟨id, state, r.refreshToken, r.oauth2SessionId, r.createdAt, r.oauth2AccessTokenId⟩
  | none =>
    .error (.inconsistency "oauth2_refresh_tokens" (some "next_oauth2_refresh_token_id") id)

theorem OAuth2RefreshTokenRow.toRefreshToken_ok {r : OAuth2RefreshTokenRow} {id : Ulid}
    {t : RefreshToken} (h : r.toRefreshToken id = .ok t) :
    t.id = id ∧ r.state? = some t.state ∧ t.sessionId = r.oauth2SessionId ∧
      t.accessTokenId = r.oauth2AccessTokenId := by
  unfold toRefreshToken at h
  cases hstate : r.state? with
  | none => simp [hstate] at h
  | some state =>
    simp only [hstate, Except.ok.injEq] at h
    subst h
    exact ⟨rfl, rfl, rfl, rfl⟩

def Database.refreshToken? (db : Database) (id : Ulid) : Option RefreshToken :=
  (db.oauth2RefreshTokens.get? id).bind (fun r => (r.toRefreshToken id).toOption)

def Database.refreshTokenOf? (db : Database) (refreshToken : String) : Option RefreshToken :=
  (db.oauth2RefreshTokens.find? (fun _ r => r.refreshToken = refreshToken)).bind
    (fun r => (r.2.toRefreshToken r.1).toOption)

namespace OAuth2RefreshTokenRepository

def lookup (id : Ulid) : Repo ε (Option RefreshToken) :=
  Repo.fetch (fun db => (db.oauth2RefreshTokens.get? id).mapM (·.toRefreshToken id))

def findByToken (refreshToken : String) : Repo ε (Option RefreshToken) := Repo.fetch (fun db =>
    (db.oauth2RefreshTokens.find? (fun _ r => r.refreshToken = refreshToken)).mapM
      (fun r => r.2.toRefreshToken r.1))

@[simp]
theorem returns_findByToken {token : String} {t : RefreshToken} {db db' : Database} :
    (findByToken token : Repo ε _).Returns db (some t) db' ↔
      db.refreshTokenOf? token = some t ∧ db = db' := by
  rw [findByToken, Repo.returns_fetch, mapM_eq_ok_some]
  rfl

def violation (id sessionId accessTokenId : Ulid) (refreshToken : String) (db : Database) :
    Option DatabaseError :=
  if db.oauth2RefreshTokens.contains id then some .uniqueViolation
  else if db.oauth2RefreshTokens.any (fun _ r => r.refreshToken = refreshToken) then
    some .uniqueViolation
  else if !db.oauth2Sessions.contains sessionId || !db.oauth2AccessTokens.contains accessTokenId then
    some .foreignKeyViolation
  else none

def add (createdAt : Time) (id : Ulid) (session : Session) (accessToken : AccessToken)
    (refreshToken : String) : Repo ε RefreshToken := do
  Repo.insert (violation id session.id accessToken.id refreshToken)
    [.row .oauth2RefreshTokens id, .unique .oauth2RefreshTokens refreshToken]
    (·.insertRefreshToken id
      ⟨refreshToken, createdAt, none, none, some accessToken.id, session.id, none⟩)
  pure ⟨id, .valid, refreshToken, session.id, createdAt, some accessToken.id⟩

def consume (consumedAt : Time) (refreshToken replacedBy : RefreshToken) :
    Repo ε RefreshToken := do
  Repo.updateRow (fun db => db.oauth2RefreshTokens.contains refreshToken.id)
    (fun db =>
      if db.oauth2RefreshTokens.contains replacedBy.id then none else some .foreignKeyViolation)
    (.row .oauth2RefreshTokens refreshToken.id)
    (·.updateRefreshToken refreshToken.id (fun r => { r with
      consumedAt := some consumedAt
      nextOAuth2RefreshTokenId := some replacedBy.id }))
  Repo.transition (refreshToken.consume consumedAt replacedBy)

def revoke (revokedAt : Time) (refreshToken : RefreshToken) : Repo ε RefreshToken := do
  Repo.updateRow (fun db => db.oauth2RefreshTokens.contains refreshToken.id) Repo.unconstrained
    (.row .oauth2RefreshTokens refreshToken.id)
    (·.updateRefreshToken refreshToken.id (fun r => { r with revokedAt := some revokedAt }))
  Repo.transition (refreshToken.revoke revokedAt)

section Rules

variable {now : Time} {id : Ulid} {session : Session} {token : String} {t t' next : RefreshToken}
  {accessToken : AccessToken} {db db' : Database}

theorem violation_eq_none {sessionId accessTokenId : Ulid}
    (h : violation id sessionId accessTokenId token db = none) :
    db.oauth2RefreshTokens.get? id = none ∧
      (∀ k r, db.oauth2RefreshTokens.get? k = some r → r.refreshToken ≠ token) := by
  unfold violation at h
  split_ifs at h with hid htoken hreferences
  refine ⟨by simpa [Table.contains] using hid, fun k r hk heq => htoken ?_⟩
  exact any_iff.mpr ⟨k, r, hk, by simpa using heq⟩

@[simp]
theorem returns_add :
    (add now id session accessToken token : Repo ε _).Returns db t db' ↔
      violation id session.id accessToken.id token db = none ∧
      ⟨id, .valid, token, session.id, now, some accessToken.id⟩ = t ∧
      db.insertRefreshToken id
        ⟨token, now, none, none, some accessToken.id, session.id, none⟩ = db' := by
  simp [add, and_assoc]

@[simp]
theorem returns_consume :
    (consume now t next : Repo ε _).Returns db t' db' ↔
      db.oauth2RefreshTokens.contains t.id ∧ db.oauth2RefreshTokens.contains next.id ∧
      t.consume now next = .ok t' ∧ db.updateRefreshToken t.id (fun r => { r with
        consumedAt := some now
        nextOAuth2RefreshTokenId := some next.id }) = db' := by
  simp [consume, and_assoc]

@[simp]
theorem returns_revoke :
    (revoke now t : Repo ε _).Returns db t' db' ↔ db.oauth2RefreshTokens.contains t.id ∧
      t.revoke now = .ok t' ∧
      db.updateRefreshToken t.id (fun r => { r with revokedAt := some now }) = db' := by
  simp [revoke, Repo.unconstrained, and_assoc]

end Rules

/-- Deletes the rows of a cleanup that goes by `timestamp` among the `eligible` tokens. -/
def cleanupBy (timestamp : OAuth2RefreshTokenRow → Option Time)
    (eligible : Database → OAuth2RefreshTokenRow → Bool) (ties : Ulid → ℕ)
    (since : Option Time) (until_ : Time) (limit : ℕ) : Repo ε (ℕ × Option Time) :=
  let rows (db : Database) :=
    cleanupRows timestamp (eligible db) ties since until_ limit db.oauth2RefreshTokens
  Repo.deleting
    (fun seen => Database.delete .oauth2RefreshTokens (· ∈ (rows seen).map Prod.fst))
    (fun db => (rows db).map (fun r => .row .oauth2RefreshTokens r.1))
    (fun db => cleanupResult timestamp (rows db))

def cleanupRevoked (ties : Ulid → ℕ) (since : Option Time) (until_ : Time) (limit : ℕ) :
    Repo ε (ℕ × Option Time) :=
  cleanupBy OAuth2RefreshTokenRow.revokedAt (fun _ _ => true) ties since until_ limit

/-- A consumed token is kept while its successor waits to be consumed. -/
def cleanupConsumed (ties : Ulid → ℕ) (since : Option Time) (until_ : Time) (limit : ℕ) :
    Repo ε (ℕ × Option Time) :=
  cleanupBy OAuth2RefreshTokenRow.consumedAt
    (fun db r =>
      match r.nextOAuth2RefreshTokenId with
      | none => true
      | some next => (db.oauth2RefreshTokens.get? next).any (·.consumedAt.isSome))
    ties since until_ limit

end OAuth2RefreshTokenRepository

end Pasion

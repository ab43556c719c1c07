import Pasion.Handlers.PasswordLogin
import Pasion.Pg.Personal
import Pasion.Relational.Loop
import Pasion.Text.Header

/-! Password logins that a trusted homeserver makes for a Matrix device. -/
namespace Pasion.Matrix

open Relational PasswordLogin PersonalSessionRepository Txn Table

inductive RouteError where
  | internal (message : String)
  | repository (e : DatabaseError)
  | invalidToken
  | unauthorized
  | rateLimited
  | badRequest (message : String)
  deriving DecidableEq

instance : FromRepository RouteError := ⟨.repository⟩

structure MatrixPasswordLoginRequest where
  (username password deviceId : String)
  initialDeviceDisplayName : Option String

structure MatrixPasswordLoginResponse where
  (accessToken tokenType userId deviceId : String)
  expiresInMs : Option ℤ
  deriving DecidableEq

/-- The secret, the time, what a login draws, and the homeserver and digest that it calls. -/
structure Env where
  services : PasswordLogin.Services
  sharedSecret : String
  now : Time
  requester : Option IpAddr
  (passwordId sessionId tokenId : Ulid)
  tokenBytes : List UInt8
  sha256 : String → List ℕ
  mxid : String → String
  upsertDevice : String → String → Option String → Except String Unit

def mapPasswordLoginError : PasswordLoginError → RouteError
  | .repository e => .repository e
  | .password message => .internal message

def bearerToken (authorization : Option (List UInt8)) : Option String :=
  (authorization.bind Http.toStr).bind (Str.stripPrefix "Bearer ")

def constantTimeEq (left right : List UInt8) : Bool :=
  if left.length ≠ right.length then false
  else ((left.zip right).foldl (fun diff b => diff ||| (b.1 ^^^ b.2)) 0) = 0

/-- ASCII letters and digits, and 17 marks that are named by their codes. -/
def isDeviceIdByte (b : UInt8) : Bool :=
  (48 ≤ b && b ≤ 57) || (65 ≤ b && b ≤ 90) || (97 ≤ b && b ≤ 122) ||
    b ∈ [46, 95, 126, 33, 36, 38, 39, 40, 41, 42, 43, 44, 59, 61, 58, 47, 45]

def validMatrixDeviceId (deviceId : String) : Bool :=
  !deviceId.isEmpty && (Str.bytes deviceId).all isDeviceIdByte

def matrixDeviceScope (deviceId : String) : Except RouteError Scope :=
  if !validMatrixDeviceId deviceId then .error (.badRequest "invalid device id")
  else
    match Scope.fromStr ("openid urn:matrix:client:api:*" ++ " " ++ stableDeviceScope deviceId) with
    | some scope => .ok scope
    | none => .error (.badRequest "invalid device id")

def checkRequest (env : Env) (authorization : Option (List UInt8)) : Except RouteError Unit :=
  if Str.isBlank env.sharedSecret then .error (.internal "matrix.secret must not be empty")
  else
    match bearerToken authorization with
    | none => .error .invalidToken
    | some token =>
      if constantTimeEq (Str.bytes token) (Str.bytes env.sharedSecret) then .ok ()
      else .error .invalidToken

def checkInput (input : MatrixPasswordLoginRequest) : Except RouteError Unit :=
  if input.username.isEmpty || input.password.isEmpty || input.deviceId.isEmpty then
    .error (.badRequest "missing required login fields")
  else .ok ()

def userOf : PasswordVerificationOutcome → Except RouteError User
  | .disabled => .error (.badRequest "password_login_disabled")
  | .invalidCredentials => .error .unauthorized
  | .rateLimited => .error .rateLimited
  | .accountDeactivated => .error (.badRequest "account_deactivated")
  | .accountLocked => .error (.badRequest "account_locked")
  | .authenticated user _ => .ok user

def verify (env : Env) (input : MatrixPasswordLoginRequest) :
    Repo RouteError PasswordVerificationOutcome :=
  (verifyPasswordLogin env.services env.now env.passwordId
    ⟨input.username, input.password, env.requester, true⟩).mapError mapPasswordLoginError

def oauth2SessionsOnDevice (user : User) (deviceId : String) : OAuth2SessionFilter :=
  { OAuth2SessionFilter.new with
    user := some user
    device := some deviceId
    state := some .active }

/-- Lists one page and revokes its sessions; the next page begins behind the last of them. -/
def revokePage (now : Time) (f : PersonalSessionFilter) (p : Pagination) :
    Repo RouteError (Pagination ⊕ Unit) := do
  let page ← PersonalSessionRepository.list f p
  let nextCursor := page.edges.getLast?.map Prod.fst
  Txn.forEach (fun edge => do
    let _ ← PersonalSessionRepository.revoke now edge.2.1
    pure ()) page.edges
  pure (if page.hasNextPage then
      nextCursor.elim (.inr ()) (fun cursor => .inl ((Pagination.first 1000).withAfter cursor))
    else .inr ())

def revokeExisting (now : Time) (fuel : ℕ) (f : PersonalSessionFilter) : Repo RouteError Unit :=
  Txn.loop (.internal "out of fuel") (revokePage now f) fuel (Pagination.first 1000)

def humanName (input : MatrixPasswordLoginRequest) : String :=
  input.initialDeviceDisplayName.getD ("Matrix device " ++ input.deviceId)

def passwordLogin (env : Env) (fuel : ℕ) (authorization : Option (List UInt8))
    (body : Option MatrixPasswordLoginRequest) :
    Repo RouteError MatrixPasswordLoginResponse := do
  Txn.ofExcept (checkRequest env authorization) id
  let input ← Txn.ofOption body (.badRequest "invalid json body")
  Txn.ofExcept (checkInput input) id
  let outcome ← verify env input
  let user ← Txn.ofExcept (userOf outcome) id
  UserRepository.acquireLockForSync user
  let _ ← OAuth2SessionRepository.finishBulk env.now (oauth2SessionsOnDevice user input.deviceId)
  revokeExisting env.now fuel (actorOnDevice user input.deviceId)
  let rawToken := TokenType.generate .personalAccessToken env.tokenBytes
  let scope ← Txn.ofExcept (matrixDeviceScope input.deviceId) id
  let session ← PersonalSessionRepository.add env.now env.sessionId (.user user.id) user
    (humanName input) scope
  let _ ← PersonalAccessTokenRepository.add env.sha256 env.now env.tokenId session rawToken none
  Txn.ofExcept (env.upsertDevice user.username input.deviceId input.initialDeviceDisplayName)
    .internal
  pure ⟨rawToken, "Bearer", env.mxid user.username, input.deviceId, none⟩

theorem constantTimeEq_iff {left right : List UInt8} :
    constantTimeEq left right ↔ left = right := by
  have hfold : ∀ d : UInt8, left.length = right.length →
      ((left.zip right).foldl (fun diff b => diff ||| (b.1 ^^^ b.2)) d = 0 ↔
        d = 0 ∧ left = right) := by
    induction left generalizing right with
    | nil => simp +contextual [eq_comm]
    | cons a left ih =>
      intro d hlen
      cases right with
      | nil => cases hlen
      | cons b right =>
        rw [List.zip_cons_cons, List.foldl_cons, ih _ (Nat.succ.inj hlen), UInt8.or_eq_zero_iff,
          UInt8.xor_eq_zero_iff, List.cons.injEq, and_assoc]
  unfold constantTimeEq
  split_ifs with hlen
  · exact ⟨False.elim, fun h => absurd (congrArg List.length h) hlen⟩
  · rw [decide_eq_true_iff, hfold 0 (not_not.mp hlen)]
    exact and_iff_right rfl

/-- A request is let in exactly if its header is the secret as a bearer token, and that not blank. -/
theorem checkRequest_ok_iff {env : Env} {authorization : Option (List UInt8)} :
    checkRequest env authorization = .ok () ↔ ¬Str.isBlank env.sharedSecret ∧
      authorization.bind Http.toStr = some ("Bearer " ++ env.sharedSecret) := by
  unfold checkRequest bearerToken
  constructor
  · intro h
    split_ifs at h with hblank
    refine ⟨hblank, ?_⟩
    split at h
    · cases h
    · next token htoken =>
      split_ifs at h with heq
      obtain ⟨header, hheader, hstrip⟩ := Option.bind_eq_some_iff.mp htoken
      have hbytes := congrArg List.toByteArray (constantTimeEq_iff.mp heq)
      obtain rfl : token = env.sharedSecret := by
        rw [← String.toByteArray_inj, ← String.utf8Encode_toList, ← String.utf8Encode_toList]
        exact hbytes
      rw [hheader, Str.stripPrefix_some hstrip]
  · rintro ⟨hblank, hheader⟩
    simp [hblank, hheader, Str.stripPrefix_append, constantTimeEq_iff]

section Paging

variable {now : Time} {user : User} {deviceId : String} {p : Pagination} {fuel : ℕ}
  {db db' s s' : Database}

def reached (user : User) (deviceId : String) (r : PersonalSessionRow) : Bool :=
  (r.actorUserId = user.id && stableDeviceScope deviceId ∈ r.scopeList ||
    unstableDeviceScope deviceId ∈ r.scopeList) && r.revokedAt.isNone

def revokeRows (now : Time) (q : Ulid → PersonalSessionRow → Bool)
    (t : Table Ulid PersonalSessionRow) : Table Ulid PersonalSessionRow :=
  t.mapRows (fun id r => if q id r then { r with revokedAt := some now } else r)

/-- The tables of sessions other than the personal ones stay as they are. -/
structure SameOthers (db db' : Database) : Prop where
  oauth2Sessions : db'.oauth2Sessions = db.oauth2Sessions
  userSessions : db'.userSessions = db.userSessions

theorem SameOthers.trans (h : SameOthers db s) (h' : SameOthers s s') : SameOthers db s' :=
  ⟨h'.oauth2Sessions.trans h.oauth2Sessions, h'.userSessions.trans h.userSessions⟩

theorem revokeRows_revokeRows {q q' : Ulid → PersonalSessionRow → Bool}
    {c : Ulid → PersonalSessionRow → Bool} {t : Table Ulid PersonalSessionRow}
    (h : ∀ id r, t.get? id = some r →
      c id r = (q id r || q' id (if q id r then { r with revokedAt := some now } else r))) :
    revokeRows now q' (revokeRows now q t) = revokeRows now c t := by
  unfold revokeRows
  rw [mapRows_mapRows, mapRows_eq_iff]
  intro id r hr
  rw [h id r hr]
  cases q id r with
  | false => simp
  | true => simp

theorem returns_forEach_revoke {edges : List (Ulid × PersonalSession × Option PersonalAccessToken)}
    (h : (Txn.forEach (fun edge => do
      let _ ← PersonalSessionRepository.revoke now edge.2.1
      pure ()) edges : Repo RouteError Unit).Returns s () s') :
    s'.personalSessions =
        revokeRows now (fun id _ => id ∈ edges.map (·.2.1.id)) s.personalSessions ∧
      SameOthers s s' := by
  induction edges generalizing s with
  | nil =>
    obtain ⟨-, rfl⟩ := returns_pure.mp h
    refine ⟨ext_get? fun id => ?_, rfl, rfl⟩
    simp [revokeRows]
  | cons edge rest ih =>
    obtain ⟨_, s₁, hfirst, hrest⟩ := returns_bind.mp h
    obtain ⟨session, s₂, hrevoke, hpure⟩ := returns_bind.mp hfirst
    obtain ⟨-, rfl⟩ := returns_pure.mp hpure
    obtain ⟨hsessions, hoauth2, huser, -⟩ := returns_revoke hrevoke
    obtain ⟨hall, hothers⟩ := ih hrest
    refine ⟨?_, SameOthers.trans ⟨hoauth2, huser⟩ hothers⟩
    have hone : s₂.personalSessions =
        revokeRows now (fun id _ => id = edge.2.1.id) s.personalSessions := by
      rw [hsessions]
      simp [revokeRows, Table.update]
    rw [hall, hone]
    apply revokeRows_revokeRows
    intro id r _
    rw [List.map_cons, Bool.eq_iff_iff]
    simp

def window (user : User) (deviceId : String) (p : Pagination) (s : Database) :
    List (Ulid × JoinedRow) :=
  listed (actorOnDevice user deviceId) p s

theorem mem_window {x : Ulid × JoinedRow} : x ∈ window user deviceId p s ↔
      x ∈ joined s ∧ reached user deviceId x.2.1 ∧ p.between x.1 := by
  unfold window listed
  rw [List.mem_filter, selects_actorOnDevice, Bool.and_eq_true]
  rfl

theorem mem_map_window {id : Ulid} : id ∈ (window user deviceId p s).map Prod.fst ↔
      ∃ r, s.personalSessions.get? id = some r ∧ reached user deviceId r ∧ p.between id := by
  rw [List.mem_map]
  constructor
  · rintro ⟨x, hx, rfl⟩
    obtain ⟨hjoined, hreached⟩ := mem_window.mp hx
    exact ⟨_, get?_of_mem_joined hjoined, hreached⟩
  · rintro ⟨r, hr, hreached⟩
    obtain ⟨t, ht⟩ := exists_mem_joined hr
    exact ⟨_, mem_window.mpr ⟨ht, hreached⟩, rfl⟩

/-- The sessions of the page are revoked, and the page decides where the next one begins. -/
theorem returns_revokePage {r : Pagination ⊕ Unit}
    (h : (revokePage now (actorOnDevice user deviceId) p).Returns s r s') :
    let page := p.process (p.cut (window user deviceId p s))
    s'.personalSessions =
        revokeRows now (fun id _ => id ∈ page.edges.map Prod.fst) s.personalSessions ∧
      SameOthers s s' ∧
      r = if page.hasNextPage then
          (page.edges.getLast?.map Prod.fst).elim (.inr ())
            (fun cursor => .inl ((Pagination.first 1000).withAfter cursor))
        else .inr () := by
  intro page
  obtain ⟨q, s₁, hlist, hrest⟩ := returns_bind.mp h
  obtain ⟨hpage, rfl⟩ := Repo.returns_fetch.mp hlist
  obtain ⟨_, s₂, hrevoke, hpure⟩ := returns_bind.mp hrest
  obtain ⟨rfl, rfl⟩ := returns_pure.mp hpure
  obtain ⟨hnext, hedges⟩ := Page.tryMap_ok hpage
  obtain ⟨hsessions, hothers⟩ := returns_forEach_revoke hrevoke
  have hkeys : q.edges.map Prod.fst = page.edges.map Prod.fst := by
    rw [← List.forall₂_eq_eq_eq, List.forall₂_map_left_iff, List.forall₂_map_right_iff]
    exact hedges.flip.imp fun y x hxy => hxy.1
  have hids : q.edges.map (·.2.1.id) = page.edges.map Prod.fst := by
    rw [← List.forall₂_eq_eq_eq, List.forall₂_map_left_iff, List.forall₂_map_right_iff]
    exact hedges.flip.imp fun y x hxy => id_of_toSessionAndToken hxy.2
  rw [hids] at hsessions
  refine ⟨hsessions, hothers, ?_⟩
  rw [hnext, ← List.getLast?_map, ← List.getLast?_map, hkeys]
  rfl

/-- The sessions behind the cursor that the filter reaches are revoked, and nothing else is. -/
structure Progress (now : Time) (user : User) (deviceId : String) (db : Database) (p : Pagination)
    (s : Database) : Prop where
  before : p.before = none
  count : p.count = 1000
  direction : p.direction = .forward
  sessions : s.personalSessions = revokeRows now
    (fun id r => reached user deviceId r && p.after.any (id ≤ ·)) db.personalSessions
  others : SameOthers db s

theorem Progress.between (h : Progress now user deviceId db p s) {id : Ulid} :
    p.between id = !p.after.any (id ≤ ·) := by
  unfold Pagination.between
  rw [h.before]
  cases p.after with
  | none => rfl
  | some a =>
    rw [Bool.eq_iff_iff]
    simp only [Option.all_some, Option.all_none, Option.any_some, Bool.and_true, decide_eq_true_eq,
      Bool.not_eq_true', decide_eq_false_iff_not]
    exact Nat.not_le.symm

/-- Rows in front of the cursor are still as they were. -/
theorem Progress.mem_map_window (h : Progress now user deviceId db p s) {id : Ulid}
    {r : PersonalSessionRow} (hr : db.personalSessions.get? id = some r) :
    id ∈ (window user deviceId p s).map Prod.fst ↔
      reached user deviceId r ∧ ¬p.after.any (id ≤ ·) := by
  rw [Matrix.mem_map_window, h.between, h.sessions]
  simp only [revokeRows, get?_mapRows, hr, Option.map_some, Option.some.injEq,
    exists_eq_left']
  by_cases hafter : p.after.any (id ≤ ·) = true
  · simp [hafter]
  · simp [hafter]

theorem Progress.sessions_of_page (h : Progress now user deviceId db p s) {keys : List Ulid}
    (passed : Ulid → Bool)
    (hkeys : ∀ id r, db.personalSessions.get? id = some r →
      (id ∈ keys ↔ id ∈ (window user deviceId p s).map Prod.fst ∧ passed id))
    (hpassed : ∀ id, p.after.any (id ≤ ·) → passed id) :
    revokeRows now (fun id _ => id ∈ keys) s.personalSessions =
      revokeRows now (fun id r => reached user deviceId r && passed id) db.personalSessions := by
  rw [h.sessions]
  apply revokeRows_revokeRows
  intro id r hr
  rw [Bool.eq_iff_iff, Bool.or_eq_true, decide_eq_true_iff, hkeys id r hr, h.mem_map_window hr]
  by_cases hafter : p.after.any (id ≤ ·) = true
  · simp [hafter, hpassed id hafter]
  · simp [hafter]


theorem Progress.count_lt (h : Progress now user deviceId db p s) : p.count < 2 ^ 63 - 1 := by
  rw [h.count]
  omega

/-- The last round leaves no session that the filter reaches. -/
theorem Progress.last (h : Progress now user deviceId db p s)
    (hpage : (revokePage now (actorOnDevice user deviceId) p).Returns s (.inr ()) s') :
    s'.personalSessions = revokeRows now (fun _ r => reached user deviceId r) db.personalSessions ∧
      SameOthers db s' := by
  obtain ⟨hsessions, hothers, hr⟩ := returns_revokePage hpage
  refine ⟨?_, h.others.trans hothers⟩
  have hlast : (p.process (p.cut (window user deviceId p s))).hasNextPage = false := by
    by_contra hnext
    rw [Bool.not_eq_false] at hnext
    obtain ⟨l, hl, -⟩ := Pagination.edges_of_next h.direction h.count_lt
      (by rw [h.count]; omega) hnext ((joined_sorted s).filter _)
    rw [if_pos hnext, hl] at hr
    cases hr
  rw [hsessions, Pagination.edges_of_last h.direction h.count_lt hlast,
    h.sessions_of_page (fun _ => true) (by simp) (by simp)]
  simp only [Bool.and_true]

theorem Progress.next {p' : Pagination} (h : Progress now user deviceId db p s)
    (hpage : (revokePage now (actorOnDevice user deviceId) p).Returns s (.inl p') s') :
    Progress now user deviceId db p' s' ∧
      p'.remaining db.personalSessions.rows < p.remaining db.personalSessions.rows := by
  obtain ⟨hsessions, hothers, hr⟩ := returns_revokePage hpage
  have hnext : (p.process (p.cut (window user deviceId p s))).hasNextPage = true := by
    by_contra hlast
    rw [if_neg hlast] at hr
    cases hr
  obtain ⟨l, hl, hwindow, hedges, hrest⟩ := Pagination.edges_of_next h.direction h.count_lt
    (by rw [h.count]; omega) hnext ((joined_sorted s).filter _)
  rw [if_pos hnext, hl] at hr
  have hp' : p' = p.withAfter l.1 := by
    obtain rfl := Sum.inl.inj hr
    have hbefore := h.before
    have hcount := h.count
    have hdirection := h.direction
    cases p
    cases hbefore
    cases hcount
    cases hdirection
    rfl
  obtain ⟨hjoined, hreached, hbetween⟩ := mem_window.mp hwindow
  have hafter : ∀ id, p.after.any (id ≤ ·) → id ≤ l.1 := by
    intro id hid
    obtain ⟨a, ha, hle⟩ := (Option.any_eq_true _ _).mp hid
    have hlt : a < l.1 := by
      unfold Pagination.between at hbetween
      rw [ha] at hbetween
      exact of_decide_eq_true (Bool.and_eq_true_iff.mp hbetween).1
    exact Nat.le_trans (of_decide_eq_true hle) (Nat.le_of_lt hlt)
  have hkeys : ∀ id, id ∈ (p.process (p.cut (window user deviceId p s))).edges.map Prod.fst ↔
      id ∈ (window user deviceId p s).map Prod.fst ∧ id ≤ l.1 := by
    intro id
    simp only [List.mem_map]
    constructor
    · rintro ⟨x, hx, rfl⟩
      obtain ⟨hx, hle⟩ := hedges x hx
      exact ⟨⟨x, hx, rfl⟩, hle⟩
    · rintro ⟨⟨x, hx, rfl⟩, hle⟩
      rcases Nat.lt_or_eq_of_le hle with hlt | heq
      · exact ⟨x, hrest x hx hlt, rfl⟩
      · exact ⟨l, List.mem_of_getLast? hl, heq.symm⟩
  rw [hp']
  constructor
  · refine ⟨h.before, h.count, h.direction, ?_, h.others.trans hothers⟩
    rw [hsessions, h.sessions_of_page (fun id => id ≤ l.1) (fun id r _ => ?_) ?_]
    · rfl
    · simpa using hafter
    · rw [hkeys, decide_eq_true_iff]
  · have hget := get?_of_mem_joined hjoined
    rw [h.sessions, revokeRows, get?_mapRows] at hget
    obtain ⟨r, hr, -⟩ := Option.map_eq_some_iff.mp hget
    exact Pagination.remaining_withAfter_lt (x := (l.1, r)) (mem_rows.mpr hr) hbetween

theorem Progress.start : Progress now user deviceId db (Pagination.first 1000) db where
  before := rfl
  count := rfl
  direction := rfl
  sessions := by
    refine ext_get? fun id => ?_
    simp [revokeRows, Pagination.first]
  others := ⟨rfl, rfl⟩

/-- All pages together revoke the sessions that the filter reaches. -/
theorem returns_revokeExisting
    (h : (revokeExisting now fuel (actorOnDevice user deviceId)).Returns db () db') :
    db'.personalSessions = revokeRows now (fun _ r => reached user deviceId r) db.personalSessions ∧
      SameOthers db db' := by
  refine returns_loop (I := Progress now user deviceId db)
    (Q := fun _ s => s.personalSessions =
      revokeRows now (fun _ r => reached user deviceId r) db.personalSessions ∧
        SameOthers db s) ?_ ?_ Progress.start h
  · intro p s p' s' hp hpage
    exact (hp.next hpage).1
  · intro p s _ s' hp hpage
    exact hp.last hpage

end Paging

section Login

variable {env : Env} {fuel : ℕ} {authorization : Option (List UInt8)}
  {input : MatrixPasswordLoginRequest} {response : MatrixPasswordLoginResponse} {user : User}
  {userPassword : Password} {deviceId : String} {db db' db₁ : Database}

/-- The scope list of a session is for the device. -/
def onDevice (deviceId : String) (scopeList : List String) : Bool :=
  stableDeviceScope deviceId ∈ scopeList || unstableDeviceScope deviceId ∈ scopeList

/-- The active personal sessions of the user on the device. -/
def ofUserOnDevice (user : User) (deviceId : String) (r : PersonalSessionRow) : Bool :=
  r.revokedAt.isNone && r.actorUserId = user.id && onDevice deviceId r.scopeList

/-- The sessions of the user on the device end, one begins, and every other session stays. -/
structure ReplacesSessions (now : Time) (user : User) (deviceId : String) (db db' : Database) :
    Prop where
  oauth2Sessions : db'.oauth2Sessions = db.oauth2Sessions.mapRows (fun _ r =>
    if r.finishedAt.isNone && r.userId = some user.id && onDevice deviceId r.scopeList then
      { r with finishedAt := some now } else r)
  personalSessions : ∃ id r, db.personalSessions.get? id = none ∧ r.actorUserId = user.id ∧
    r.revokedAt = none ∧ stableDeviceScope deviceId ∈ r.scopeList ∧
    db'.personalSessions =
      (revokeRows now (fun _ r => ofUserOnDevice user deviceId r) db.personalSessions).insert id r
  userSessions : db'.userSessions = db.userSessions

/-- No active personal session of another actor has the unstable scope of the device. -/
def OthersOffDevice (user : User) (deviceId : String) (db : Database) : Prop :=
  ∀ id r, db.personalSessions.get? id = some r → r.revokedAt = none → r.actorUserId ≠ user.id →
    unstableDeviceScope deviceId ∉ r.scopeList

theorem selected_oauth2SessionsOnDevice {id : Ulid} {r : OAuth2SessionRow} :
    OAuth2SessionRepository.selected db (oauth2SessionsOnDevice user deviceId) id r =
      (r.finishedAt.isNone && r.userId = some user.id && onDevice deviceId r.scopeList) := by
  rw [Bool.eq_iff_iff, OAuth2SessionRepository.selected_iff]
  simp [oauth2SessionsOnDevice, OAuth2SessionFilter.new, SessionActivity.admits,
    SessionActivity.isActive, onDevice, and_comm, and_assoc, and_left_comm]

theorem returns_passwordLogin
    (h : (passwordLogin env fuel authorization (some input)).Returns db response db') :
    ∃ user userPassword db₁ scope, (verify env input).Returns db (.authenticated user userPassword)
        db₁ ∧ matrixDeviceScope input.deviceId = .ok scope ∧
      db'.oauth2Sessions = db.oauth2Sessions.mapRows (fun _ r =>
        if r.finishedAt.isNone && r.userId = some user.id && onDevice input.deviceId r.scopeList then
          { r with finishedAt := some env.now } else r) ∧
      db.personalSessions.get? env.sessionId = none ∧
      (∃ r, r.actorUserId = user.id ∧ r.revokedAt = none ∧ r.scopeList = scope.toList ∧
        db'.personalSessions = (revokeRows env.now (fun _ r => reached user input.deviceId r)
          db.personalSessions).insert env.sessionId r) ∧
      db'.userSessions = db.userSessions := by
  unfold passwordLogin at h
  obtain ⟨_, _, hcheck, h⟩ := returns_bind.mp h
  obtain ⟨-, rfl⟩ := returns_ofExcept.mp hcheck
  obtain ⟨input', _, hbody, h⟩ := returns_bind.mp h
  obtain ⟨hsome, rfl⟩ := returns_ofOption.mp hbody
  cases hsome
  obtain ⟨_, _, hinput, h⟩ := returns_bind.mp h
  obtain ⟨-, rfl⟩ := returns_ofExcept.mp hinput
  obtain ⟨outcome, db₁, hverify, h⟩ := returns_bind.mp h
  obtain ⟨user, _, huser, h⟩ := returns_bind.mp h
  obtain ⟨houtcome, rfl⟩ := returns_ofExcept.mp huser
  obtain ⟨_, _, hlock, h⟩ := returns_bind.mp h
  obtain rfl := UserRepository.returns_acquireLockForSync.mp hlock
  obtain ⟨_, db₂, hfinish, h⟩ := returns_bind.mp h
  obtain ⟨_, db₃, hrevoke, h⟩ := returns_bind.mp h
  obtain ⟨scope, _, hdevice, h⟩ := returns_bind.mp h
  obtain ⟨hscope, rfl⟩ := returns_ofExcept.mp hdevice
  obtain ⟨session, db₄, hadd, h⟩ := returns_bind.mp h
  obtain ⟨token, db₅, htoken, h⟩ := returns_bind.mp h
  obtain ⟨_, _, hupsert, h⟩ := returns_bind.mp h
  obtain ⟨-, rfl⟩ := returns_ofExcept.mp hupsert
  obtain ⟨-, rfl⟩ := returns_pure.mp h
  obtain ⟨userPassword, rfl⟩ : ∃ userPassword, outcome = .authenticated user userPassword := by
    cases outcome <;> cases houtcome
    exact ⟨_, rfl⟩
  obtain ⟨⟨passwords, hpasswords⟩, -, -⟩ :=
    returns_verifyPasswordLogin (returns_mapError.mp hverify)
  have hfinished := OAuth2SessionRepository.returns_finishBulk hfinish
  obtain ⟨hsessions, hothers⟩ := returns_revokeExisting hrevoke
  obtain ⟨hfresh, ownerUserId, ownerClientId, hadded⟩ := returns_add hadd
  obtain ⟨tokens, htokens⟩ := PersonalAccessTokenRepository.returns_add htoken
  have hpersonal : db₂.personalSessions = db.personalSessions := by rw [hfinished, hpasswords]
  refine ⟨user, userPassword, db₁, scope, hverify, hscope, ?_, ?_, ⟨⟨ownerUserId, ownerClientId,
    user.id, humanName input, scope.toList, env.now, none, none, none⟩, rfl, rfl, rfl, ?_⟩, ?_⟩
  · rw [htokens, hadded, hothers.oauth2Sessions, hfinished, hpasswords]
    simp only [selected_oauth2SessionsOnDevice]
  · rw [hsessions, hpersonal] at hfresh
    simpa [revokeRows] using hfresh
  · rw [htokens, hadded, hsessions, hpersonal]
  · rw [htokens, hadded, hothers.userSessions, hfinished, hpasswords]

theorem stableDeviceScope_mem {scope : Scope} (h : matrixDeviceScope deviceId = .ok scope) :
    stableDeviceScope deviceId ∈ scope.toList := by
  unfold matrixDeviceScope at h
  split_ifs at h with hvalid
  have hblank : ' ' ∉ (stableDeviceScope deviceId).toList := by
    intro hmem
    unfold stableDeviceScope at hmem
    rw [String.toList_append, List.mem_append] at hmem
    rcases hmem with hmem | hmem
    · revert hmem
      decide
    · have hbyte : (32 : UInt8) ∈ Str.bytes deviceId :=
        List.mem_flatMap.mpr ⟨' ', hmem, by decide⟩
      simp only [validMatrixDeviceId, Bool.not_eq_true', Bool.not_eq_false, Bool.and_eq_true,
        List.all_eq_true] at hvalid
      exact absurd (hvalid.2 _ hbyte) (by decide)
  split at h
  · next s hs =>
    cases h
    exact (Scope.mem_toList_collectStr hs).mpr (Str.mem_split_append hblank)
  · cases h

theorem user_unique {user' : User} {userPassword' : Password} {db₁' : Database}
    (h : (verify env input).Returns db (.authenticated user userPassword) db₁)
    (h' : (verify env input).Returns db (.authenticated user' userPassword') db₁') :
    user' = user := by
  have heq := h'.symm.trans h
  simp only [Prod.mk.injEq, Outcome.committed.injEq,
    PasswordVerificationOutcome.authenticated.injEq] at heq
  exact heq.1.1

theorem reached_eq_of_othersOffDevice {id : Ulid} {r : PersonalSessionRow}
    (h : OthersOffDevice user deviceId db) (hr : db.personalSessions.get? id = some r) :
    reached user deviceId r = ofUserOnDevice user deviceId r := by
  have hother := h id r hr
  unfold reached ofUserOnDevice onDevice
  cases hactive : r.revokedAt with
  | none =>
    by_cases hactor : r.actorUserId = user.id
    · simp [hactor]
    · simp [hactor, hother hactive hactor]
  | some t => simp

/-- A login replaces these sessions exactly if nobody else has the unstable scope of the device. -/
theorem replacesSessions_iff_othersOffDevice
    (hverify : (verify env input).Returns db (.authenticated user userPassword) db₁)
    (h : (passwordLogin env fuel authorization (some input)).Returns db response db') :
    ReplacesSessions env.now user input.deviceId db db' ↔
      OthersOffDevice user input.deviceId db := by
  obtain ⟨user', userPassword', db₁', scope, hverify', hscope, hoauth2, hfresh,
    ⟨row, hactor, hrevoked, hlist, hpersonal⟩, huserSessions⟩ := returns_passwordLogin h
  obtain rfl := user_unique hverify hverify'
  constructor
  · intro hreplaces id r hr hactive hother hunstable
    obtain ⟨id', row', hfresh', -, -, -, hpersonal'⟩ := hreplaces.personalSessions
    have hne : id ≠ env.sessionId := by
      rintro rfl
      rw [hfresh] at hr
      cases hr
    have hne' : id ≠ id' := by
      rintro rfl
      rw [hfresh'] at hr
      cases hr
    -- The code revokes the row, which the specification leaves alone.
    have hget := congrArg (fun t => t.get? id) (hpersonal.symm.trans hpersonal')
    simp only [get?_insert, hne, hne', if_false, revokeRows, get?_mapRows, hr,
      Option.map_some, Option.some.injEq] at hget
    have hreached : reached user' input.deviceId r = true := by
      simp [reached, hunstable, hactive]
    have hnot : ofUserOnDevice user' input.deviceId r = false := by
      simp [ofUserOnDevice, hother]
    simp only [hreached, hnot, if_true, Bool.false_eq_true, if_false] at hget
    rw [← hget] at hactive
    cases hactive
  · intro hothers
    have hrows : revokeRows env.now (fun _ r => reached user' input.deviceId r)
        db.personalSessions =
        revokeRows env.now (fun _ r => ofUserOnDevice user' input.deviceId r)
          db.personalSessions := by
      unfold revokeRows
      rw [mapRows_eq_iff]
      intro id r hr
      simp only [reached_eq_of_othersOffDevice hothers hr]
    refine ⟨hoauth2, ⟨env.sessionId, row, hfresh, hactor, hrevoked, ?_, ?_⟩, huserSessions⟩
    · rw [hlist]
      exact stableDeviceScope_mem hscope
    · rw [hpersonal, hrows]

end Login

section TwoUsers

def homeserver : Env where
  services := {
    passwordLoginEnabled := true
    loginWithEmailAllowed := false
    localpart := fun _ => none
    checkPasswordForUser := fun _ => true
    checkPassword := fun _ _ => true
    verifyAndUpgrade := fun _ password hash =>
      .ok (if password = hash then .matched none else .notMatched)
    lower := id
    toLowercase := id }
  sharedSecret := "secret"
  now := 1
  requester := none
  passwordId := 91
  sessionId := 92
  tokenId := 93
  tokenBytes := [1]
  sha256 := fun _ => []
  mxid := id
  upsertDevice := fun _ _ _ => .ok ()

def aliceOnDevice : MatrixPasswordLoginRequest := ⟨"alice", "hunter2", "DEV", none⟩

def bearerSecret : Option (List UInt8) := some (Str.bytes "Bearer secret")

def alice : User := ⟨1, "alice", 0, 0, none, none, false, false, none, none, none⟩

def loginResponse : MatrixPasswordLoginResponse :=
  ⟨TokenType.generate .personalAccessToken [1], "Bearer", "alice", "DEV", none⟩

def oneUser : Database := { Database.alice with
  userPasswords := Table.empty.insert 3 ⟨1, "hunter2", 1, none, 0⟩
  personalSessions := Table.empty.insert 11
    ⟨some 1, none, 1, "phone", [unstableDeviceScope "DEV"], 0, none, none, none⟩ }

def twoUsers : Database := { oneUser with
  users := oneUser.users.insert 2 ⟨"bob", 0, 0, none, none, false, false, none, none, none⟩
  personalSessions := oneUser.personalSessions.insert 12
    ⟨some 2, none, 2, "phone", [unstableDeviceScope "DEV"], 0, none, none, none⟩ }

theorem login_ends_other_user : ∃ db₁ db', (verify homeserver aliceOnDevice).Returns twoUsers
        (.authenticated alice ⟨3, "hunter2", 1, none, 0⟩) db₁ ∧
      (passwordLogin homeserver 3 bearerSecret (some aliceOnDevice)).Returns twoUsers
        loginResponse db' ∧
      ¬ReplacesSessions homeserver.now alice "DEV" twoUsers db' := by
  refine ⟨_, _, Prod.ext (by decide +kernel) rfl, Prod.ext (by decide +kernel) rfl, fun h => ?_⟩
  obtain ⟨id, r, hfresh, -, -, -, heq⟩ := h.personalSessions
  have hne : 12 ≠ id := by
    rintro rfl
    exact absurd hfresh (by decide +kernel)
  have hget := congrArg (fun t => t.get? 12) heq
  simp only [get?_insert, if_neg hne] at hget
  exact absurd hget (by decide +kernel)

theorem replacesSessions_oneUser :
    ∃ db', (passwordLogin homeserver 2 bearerSecret (some aliceOnDevice)).Returns oneUser
        loginResponse db' ∧ ReplacesSessions homeserver.now alice "DEV" oneUser db' := by
  have hverify : (verify homeserver aliceOnDevice).Returns oneUser
      (.authenticated alice ⟨3, "hunter2", 1, none, 0⟩)
      ((verify homeserver aliceOnDevice).exec oneUser).2 := Prod.ext (by decide +kernel) rfl
  have hlogin : (passwordLogin homeserver 2 bearerSecret (some aliceOnDevice)).Returns oneUser
      loginResponse ((passwordLogin homeserver 2 bearerSecret (some aliceOnDevice)).exec oneUser).2 :=
    Prod.ext (by decide +kernel) rfl
  refine ⟨_, hlogin, (replacesSessions_iff_othersOffDevice hverify hlogin).mpr ?_⟩
  intro id r hr _ hactor
  have hrow : r = ⟨some 1, none, 1, "phone", [unstableDeviceScope "DEV"], 0, none, none, none⟩ := by
    simp only [oneUser, get?_insert, get?_empty] at hr
    split_ifs at hr
    exact (Option.some.inj hr).symm
  exact absurd (congrArg PersonalSessionRow.actorUserId hrow) hactor

/-- The pages come to an end, though revoking changes what they list. -/
theorem revokeExisting_ends {now : Time} {user : User} {deviceId : String} {db : Database}
    {fuel fuel' : ℕ} (e : RouteError) (hfuel : db.personalSessions.rows.length < fuel)
    (hfuel' : db.personalSessions.rows.length < fuel') :
    (revokeExisting now fuel (actorOnDevice user deviceId)).exec db =
      (Txn.loop e (revokePage now (actorOnDevice user deviceId)) fuel'
        (Pagination.first 1000)).exec db := by
  refine exec_loop_eq (I := Progress now user deviceId db)
    (m := fun p _ => p.remaining db.personalSessions.rows) ?_ Progress.start
    (Nat.lt_of_le_of_lt (List.length_filter_le _ _) hfuel)
    (Nat.lt_of_le_of_lt (List.length_filter_le _ _) hfuel')
  intro p s p' s' hp hpage
  exact hp.next hpage

theorem revokeExisting_ends_twoUsers :
    (revokeExisting 1 3 (actorOnDevice alice "DEV")).exec twoUsers =
      (Txn.loop .rateLimited (revokePage 1 (actorOnDevice alice "DEV")) 9
        (Pagination.first 1000)).exec twoUsers :=
  revokeExisting_ends .rateLimited (by decide) (by decide)

end TwoUsers

end Pasion.Matrix

import Pasion.Pg.OAuth2Session
import Pasion.Pg.Upstream
import Pasion.Relational.Loop

/-! Logouts that an upstream provider asks for. -/
namespace Pasion.BackchannelLogout

open Relational Txn Table

inductive ClaimError where
  | missingClaim (key : String)
  | invalidClaim (key : String)
  | validationError (key : String)
  deriving DecidableEq

/-- Two errors come from the checks made on the signed token itself. -/
inductive RouteError where
  | internal (message : String)
  | repository (e : DatabaseError)
  | invalidRequestBody (message : String)
  | invalidLogoutToken (message : String)
  | logoutTokenVerification (message : String)
  | invalidLogoutTokenClaims (e : ClaimError)
  | noSubOrSidClaim
  | providerNotFound
  deriving DecidableEq

instance : FromRepository RouteError := ⟨.repository⟩

section Claims

def leeway : Duration := 5 * 60 * 1000 * 1000

def extractTime (claims : Claims) (key : String) (valid : Time → Bool) :
    Except ClaimError Time :=
  match claims.get? key with
  | none => .error (.missingClaim key)
  | some (.number seconds) =>
    if valid (seconds * 1000 * 1000) then .ok (seconds * 1000 * 1000)
    else .error (.validationError key)
  | some _ => .error (.invalidClaim key)

def extractOptional (claims : Claims) (key : String) : Except ClaimError (Option String) :=
  match claims.get? key with
  | none => .ok none
  | some (.string s) => .ok (some s)
  | some _ => .error (.invalidClaim key)

def extractEvents (claims : Claims) : Except ClaimError Unit :=
  match claims.get? "events" with
  | none => .error (.missingClaim "events")
  | some (.object members _) =>
    if members.any (fun m => m.1 = "http://schemas.openid.net/event/backchannel-logout" && m.2) then
      .ok ()
    else .error (.invalidClaim "events")
  | some _ => .error (.invalidClaim "events")

def assertAbsent (claims : Claims) (key : String) : Except ClaimError Unit :=
  if (claims.get? key).isSome then .error (.invalidClaim key) else .ok ()

/-- The `sub` and `sid` of a logout token whose claims pass. -/
def checkClaims (now : Time) (claims : Claims) :
    Except RouteError (Option String × Option String) := do
  let _ ← (extractTime claims "exp" (fun t => now ≤ t + leeway)).mapError .invalidLogoutTokenClaims
  let _ ← (extractTime claims "iat" (fun t => t - leeway ≤ now)).mapError .invalidLogoutTokenClaims
  let sub ← (extractOptional claims "sub").mapError .invalidLogoutTokenClaims
  let sid ← (extractOptional claims "sid").mapError .invalidLogoutTokenClaims
  if sub.isNone && sid.isNone then .error .noSubOrSidClaim
  else do
    (extractEvents claims).mapError .invalidLogoutTokenClaims
    (assertAbsent claims "nonce").mapError .invalidLogoutTokenClaims
    .ok (sub, sid)

end Claims

/-- `verify` checks the token with the keys of the provider. -/
structure Env where
  now : Time
  verify : UpstreamOAuthProvider → String → Except RouteError Claims
  jobId : Ulid → Ulid

def authSessionFilter (provider : UpstreamOAuthProvider) (sub sid : Option String) :
    UpstreamOAuthSessionFilter :=
  ⟨some provider, sub, sid⟩

def browserSessionFilter (f : UpstreamOAuthSessionFilter) : BrowserSessionFilter :=
  { BrowserSessionFilter.new with authenticatedByUpstreamSessions := some f }

def oauth2SessionFilter (f : UpstreamOAuthSessionFilter) : OAuth2SessionFilter :=
  { OAuth2SessionFilter.new with
    state := some .active
    browserSessionFilter := some (browserSessionFilter f) }

/-- The users of the sessions on a page are added to the set, and the cursor moves behind it. -/
def collectPage (f : BrowserSessionFilter) (state : Pagination × List Ulid) :
    Repo RouteError ((Pagination × List Ulid) ⊕ List Ulid) := do
  let page ← BrowserSessionRepository.list f state.1
  let userIds := page.edges.foldl (fun ids edge => ids.insert edge.2.user.id) state.2
  let cursor := page.edges.foldl (fun c edge => c.withAfter edge.1) state.1
  pure (if page.hasNextPage then .inl (cursor, userIds) else .inr userIds)

def affectedUsers (fuel : ℕ) (f : BrowserSessionFilter) : Repo RouteError (List Ulid) :=
  Txn.loop (.internal "out of fuel") (collectPage f) fuel (Pagination.first 1000, [])

def logoutAll (env : Env) (fuel : ℕ) (f : UpstreamOAuthSessionFilter) : Repo RouteError Unit := do
  let userIds ← affectedUsers fuel (browserSessionFilter f)
  let _ ← BrowserSessionRepository.finishBulk env.now (browserSessionFilter f).activeOnly
  let _ ← OAuth2SessionRepository.finishBulk env.now (oauth2SessionFilter f)
  Txn.forEach (fun userId =>
    QueueJobRepository.scheduleJob env.now (env.jobId userId) (.syncDevices userId)) userIds

def logout (env : Env) (fuel : ℕ) (provider : UpstreamOAuthProvider)
    (f : UpstreamOAuthSessionFilter) : Repo RouteError Unit :=
  match provider.onBackchannelLogout with
  | .doNothing => pure ()
  | .logoutBrowserOnly => do
    let _ ← BrowserSessionRepository.finishBulk env.now (browserSessionFilter f).activeOnly
    pure ()
  | .logoutAll => logoutAll env fuel f

def post (env : Env) (fuel : ℕ) (providerId : Option Ulid) (body : Except String String) :
    Repo RouteError Unit := do
  let providerId ← Txn.ofOption providerId .providerNotFound
  let logoutToken ← Txn.ofExcept body .invalidRequestBody
  let found ← UpstreamOAuthProviderRepository.lookup providerId
  let provider ← Txn.ofOption (found.filter UpstreamOAuthProvider.enabled) .providerNotFound
  let claims ← Txn.ofExcept (env.verify provider logoutToken) id
  let (sub, sid) ← Txn.ofExcept (checkClaims env.now claims) id
  let _ ← UpstreamOAuthSessionRepository.count (authSessionFilter provider sub sid)
  logout env fuel provider (authSessionFilter provider sub sid)

section Specification

def authenticatedByMatching (db : Database) (f : UpstreamOAuthSessionFilter)
    (userSessionId : Ulid) : Bool :=
  db.userSessionAuthentications.any (fun _ a =>
    a.userSessionId = userSessionId &&
      a.upstreamOAuthAuthorizationSessionId.any (fun upstreamId =>
        (db.upstreamOAuthAuthorizationSessions.get? upstreamId).any
          (UpstreamOAuthSessionRepository.selected f)))

/-- The active browser sessions so authenticated end, with what they opened if all ends. -/
structure EndsExactly (now : Time) (provider : UpstreamOAuthProvider)
    (f : UpstreamOAuthSessionFilter) (db db' : Database) : Prop where
  userSessions : db'.userSessions = db.userSessions.mapRows (fun id r =>
    if r.finishedAt.isNone && authenticatedByMatching db f id then
      { r with finishedAt := some now } else r)
  oauth2Sessions : db'.oauth2Sessions = db.oauth2Sessions.mapRows (fun _ r =>
    if provider.onBackchannelLogout = .logoutAll && r.finishedAt.isNone &&
        r.userSessionId.any (fun u => db.userSessions.contains u &&
          authenticatedByMatching db f u) then
      { r with finishedAt := some now } else r)
  personalSessions : db'.personalSessions = db.personalSessions

/-- No other active browser session, and if all ends no other OAuth 2.0 session, is within reach. -/
structure NoneElseInReach (provider : UpstreamOAuthProvider) (f : UpstreamOAuthSessionFilter)
    (db : Database) : Prop where
  userSessions : ∀ id r, db.userSessions.get? id = some r → r.finishedAt = none →
    BrowserSessionRepository.authenticatedBy db f id → authenticatedByMatching db f id
  oauth2Sessions : provider.onBackchannelLogout = .logoutAll →
    ∀ id r u, db.oauth2Sessions.get? id = some r → r.finishedAt = none →
      r.userSessionId = some u → db.userSessions.contains u → authenticatedByMatching db f u

structure Accepts (env : Env) (db : Database) (providerId : Ulid) (logoutToken : String)
    (provider : UpstreamOAuthProvider) (sub sid : Option String) : Prop where
  lookup : (db.upstreamOAuthProviders.get? providerId).mapM
    (·.toUpstreamOAuthProvider providerId) = .ok (some provider)
  enabled : provider.enabled
  claims : (env.verify provider logoutToken >>= checkClaims env.now) = .ok (sub, sid)

end Specification

section Paging

variable {f : BrowserSessionFilter} {state state' : Pagination × List Ulid}
  {r : (Pagination × List Ulid) ⊕ List Ulid} {users : List Ulid} {fuel fuel' : ℕ}
  {db db' : Database}

theorem returns_collectPage (h : (collectPage f state).Returns db r db') :
    db' = db ∧ ∃ page, (BrowserSessionRepository.list f state.1 : Repo RouteError _).Returns db page
      db ∧ r = if page.hasNextPage then
        .inl (page.edges.foldl (fun c edge => c.withAfter edge.1) state.1,
          page.edges.foldl (fun ids edge => ids.insert edge.2.user.id) state.2)
        else .inr (page.edges.foldl (fun ids edge => ids.insert edge.2.user.id) state.2) := by
  unfold collectPage at h
  obtain ⟨page, db₁, hlist, hpure⟩ := returns_bind.mp h
  obtain ⟨rfl, hpage⟩ := BrowserSessionRepository.returns_list hlist
  obtain ⟨hr, hdb⟩ := returns_pure.mp hpure
  exact ⟨hdb.symm, page, hlist, hr.symm⟩

theorem returns_affectedUsers (h : (affectedUsers fuel f).Returns db users db') : db' = db := by
  refine returns_loop (I := fun _ s => s = db) (Q := fun _ s => s = db) ?_ ?_ rfl h
  · rintro state s state' s' rfl h
    exact (returns_collectPage h).1
  · rintro state s users s' rfl h
    exact (returns_collectPage h).1

theorem remaining_collectPage_lt (hcount : state.1.count = 1000)
    (hdir : state.1.direction = .forward)
    (h : (collectPage f state).Returns db (.inl state') db') :
    state'.1.count = 1000 ∧ state'.1.direction = .forward ∧
      state'.1.remaining db.userSessions.rows < state.1.remaining db.userSessions.rows := by
  obtain ⟨-, page, hlist, hr⟩ := returns_collectPage h
  obtain ⟨-, hpage⟩ := BrowserSessionRepository.returns_list hlist
  set edges := (state.1.fetch _).filterMap _ with hedges
  have hnext : page.hasNextPage = true := by
    by_contra hlast
    rw [if_neg hlast] at hr
    cases hr
  rw [if_pos hnext, Sum.inl.injEq] at hr
  rw [hpage] at hnext
  obtain ⟨l, hl, -, hcursor⟩ := Pagination.foldl_withAfter_process hdir (by omega) (by omega) hnext
  obtain ⟨row, hfetch, hrow⟩ := List.mem_filterMap.mp hl
  have hid : l.1 = row.1 := by
    obtain ⟨user, -, rfl⟩ := Option.map_eq_some_iff.mp hrow
    rfl
  have hwindow : row ∈ db.userSessions.rows ∧ state.1.between row.1 := by
    unfold Pagination.fetch Pagination.cut at hfetch
    rw [hdir] at hfetch
    obtain ⟨hsel, hbetween⟩ := List.mem_filter.mp (List.mem_of_mem_take hfetch)
    exact ⟨(List.mem_filter.mp hsel).1, hbetween⟩
  have hstate : state'.1 = state.1.withAfter row.1 := by rw [hr, hpage, hcursor, hid]
  rw [hstate]
  exact ⟨hcount, hdir, Pagination.remaining_withAfter_lt hwindow.1 hwindow.2⟩

end Paging

section Effect

variable {env : Env} {fuel : ℕ} {f : UpstreamOAuthSessionFilter} {db db' : Database}

theorem selected_browserSessionFilter {id : Ulid} {r : UserSessionRow} :
    BrowserSessionRepository.selected db (browserSessionFilter f).activeOnly id r =
      (r.finishedAt.isNone && BrowserSessionRepository.authenticatedBy db f id) := by
  rw [Bool.eq_iff_iff, BrowserSessionRepository.selected_iff]
  simp [browserSessionFilter, BrowserSessionFilter.activeOnly, BrowserSessionFilter.new,
    SessionActivity.admits, SessionActivity.isActive]

/-- Whatever the upstream filter, an active session of any browser session is selected. -/
theorem selected_oauth2SessionFilter {id : Ulid} {r : OAuth2SessionRow} :
    OAuth2SessionRepository.selected db (oauth2SessionFilter f) id r =
      (r.finishedAt.isNone && r.userSessionId.any (db.userSessions.contains ·)) := by
  rw [Bool.eq_iff_iff, OAuth2SessionRepository.selected_iff]
  have hnested : ∀ u row, Clause.selects (OAuth2SessionRepository.nestedBrowserSessionFilter
      (browserSessionFilter f)) (u, row) = true := by
    intro u row
    rw [OAuth2SessionRepository.nestedBrowserSessionFilter_iff]
    simp [browserSessionFilter, BrowserSessionFilter.new]
  simp only [oauth2SessionFilter, OAuth2SessionFilter.new, SessionActivity.admits,
    SessionActivity.isActive, Table.contains]
  simp [hnested, Option.any_eq_true, Option.isSome_iff_exists, and_comm]

/-- Queued jobs leave every session as it is. -/
theorem forEach_scheduleJob_keeps {users : List Ulid}
    (h : (Txn.forEach (fun userId => QueueJobRepository.scheduleJob env.now (env.jobId userId)
      (.syncDevices userId)) users : Repo RouteError Unit).Returns db () db') :
    db'.userSessions = db.userSessions ∧ db'.oauth2Sessions = db.oauth2Sessions ∧
      db'.personalSessions = db.personalSessions := by
  refine forEach_keeps (I := fun s => s.userSessions = db.userSessions ∧
    s.oauth2Sessions = db.oauth2Sessions ∧ s.personalSessions = db.personalSessions)
    ?_ ⟨rfl, rfl, rfl⟩ h
  intro userId _ s s' hs hjob
  rw [QueueJobRepository.returns_scheduleJob hjob]
  exact hs

/-- What the logout writes: the claims of the token play no part in it. -/
theorem returns_logout {provider : UpstreamOAuthProvider}
    (hkind : provider.onBackchannelLogout ≠ .doNothing)
    (h : (logout env fuel provider f).Returns db () db') :
    db'.userSessions = db.userSessions.mapRows (fun id r =>
        if r.finishedAt.isNone && BrowserSessionRepository.authenticatedBy db f id then
          { r with finishedAt := some env.now } else r) ∧
      db'.oauth2Sessions = db.oauth2Sessions.mapRows (fun _ r =>
        if provider.onBackchannelLogout = .logoutAll && r.finishedAt.isNone &&
            r.userSessionId.any (db.userSessions.contains ·) then
          { r with finishedAt := some env.now } else r) ∧
      db'.personalSessions = db.personalSessions := by
  unfold logout at h
  cases hp : provider.onBackchannelLogout with
  | doNothing => exact absurd hp hkind
  | logoutBrowserOnly =>
    rw [hp] at h
    obtain ⟨n, db₁, hbrowser, hpure⟩ := returns_bind.mp h
    obtain ⟨-, rfl⟩ := returns_pure.mp hpure
    rw [BrowserSessionRepository.returns_finishBulk hbrowser]
    simp only [selected_browserSessionFilter, reduceCtorEq, decide_false, Bool.false_and,
      Bool.false_eq_true, if_false, true_and, and_true]
    exact ext_get? fun k => by simp
  | logoutAll =>
    rw [hp] at h
    obtain ⟨users, db₁, husers, h⟩ := returns_bind.mp h
    obtain ⟨n, db₂, hbrowser, h⟩ := returns_bind.mp h
    obtain ⟨m, db₃, hoauth2, hjobs⟩ := returns_bind.mp h
    obtain rfl := returns_affectedUsers husers
    obtain ⟨hsessions, hoauth2Sessions, hpersonal⟩ := forEach_scheduleJob_keeps hjobs
    rw [hsessions, hoauth2Sessions, hpersonal, OAuth2SessionRepository.returns_finishBulk hoauth2,
      BrowserSessionRepository.returns_finishBulk hbrowser]
    simp only [selected_browserSessionFilter, selected_oauth2SessionFilter, contains_mapRows,
      decide_true, Bool.true_and, and_self]

end Effect

section Exactness

variable {env : Env} {fuel : ℕ} {f : UpstreamOAuthSessionFilter} {db db' : Database}
  {provider : UpstreamOAuthProvider}

private theorem ite_eq_ite_iff_imp {α : Type} {a b : α} {c d : Bool} (hdc : d → c)
    (hne : c → a ≠ b) : (if c then a else b) = (if d then a else b) ↔ (c → d) := by
  cases c <;> cases d <;> simp_all

theorem authenticatedBy_of_matching {id : Ulid} (h : authenticatedByMatching db f id) :
    BrowserSessionRepository.authenticatedBy db f id := by
  unfold authenticatedByMatching at h
  unfold BrowserSessionRepository.authenticatedBy
  rw [any_iff] at h ⊢
  obtain ⟨k, a, hk, ha⟩ := h
  refine ⟨k, a, hk, ?_⟩
  simp only [Bool.and_eq_true, Option.any_eq_true] at ha ⊢
  obtain ⟨hid, upstreamId, hup, s, hs, hsel⟩ := ha
  refine ⟨hid, upstreamId, hup, s, hs, ?_⟩
  rw [UpstreamOAuthSessionRepository.selected_iff] at hsel
  cases hprovider : f.provider with
  | none => rfl
  | some p => simpa using hsel.1 p hprovider

theorem finish_userSessions_eq_iff {now : Time} : (db.userSessions.mapRows (fun id r =>
        if r.finishedAt.isNone && BrowserSessionRepository.authenticatedBy db f id then
          { r with finishedAt := some now } else r) =
      db.userSessions.mapRows (fun id r =>
        if r.finishedAt.isNone && authenticatedByMatching db f id then
          { r with finishedAt := some now } else r)) ↔
    ∀ id r, db.userSessions.get? id = some r → r.finishedAt = none →
      BrowserSessionRepository.authenticatedBy db f id → authenticatedByMatching db f id := by
  rw [mapRows_eq_iff]
  refine forall_congr' fun id => forall_congr' fun r => imp_congr_right fun _ => ?_
  rw [ite_eq_ite_iff_imp]
  · simp only [Bool.and_eq_true, Option.isNone_iff_eq_none, and_imp]
    exact ⟨fun h h₁ h₂ => (h h₁ h₂).2, fun h h₁ h₂ => ⟨h₁, h h₁ h₂⟩⟩
  · simp only [Bool.and_eq_true]
    exact fun h => ⟨h.1, authenticatedBy_of_matching h.2⟩
  · simp only [Bool.and_eq_true, Option.isNone_iff_eq_none]
    intro hc heq
    rw [← heq] at hc
    cases hc.1

theorem finish_oauth2Sessions_eq_iff {now : Time} {all : Bool} {p : Ulid → Bool} :
    (db.oauth2Sessions.mapRows (fun _ r =>
        if all && r.finishedAt.isNone && r.userSessionId.any (db.userSessions.contains ·) then
          { r with finishedAt := some now } else r) =
      db.oauth2Sessions.mapRows (fun _ r =>
        if all && r.finishedAt.isNone &&
            r.userSessionId.any (fun u => db.userSessions.contains u && p u) then
          { r with finishedAt := some now } else r)) ↔
    (all → ∀ id r u, db.oauth2Sessions.get? id = some r → r.finishedAt = none →
      r.userSessionId = some u → db.userSessions.contains u → p u) := by
  have hrow : ∀ r : OAuth2SessionRow,
      ((if all && r.finishedAt.isNone && r.userSessionId.any (db.userSessions.contains ·) then
          { r with finishedAt := some now } else r) =
        (if all && r.finishedAt.isNone &&
            r.userSessionId.any (fun u => db.userSessions.contains u && p u) then
          { r with finishedAt := some now } else r)) ↔
      (all → r.finishedAt = none → ∀ u, r.userSessionId = some u → db.userSessions.contains u →
        p u) := by
    intro r
    rw [ite_eq_ite_iff_imp]
    · cases all <;> cases r.userSessionId <;> simp +contextual
    · cases r.userSessionId <;> simp +contextual
    · intro hc heq
      simp only [Bool.and_eq_true, Option.isNone_iff_eq_none] at hc
      rw [← heq] at hc
      cases hc.1.2
  rw [mapRows_eq_iff]
  simp only [hrow]
  exact ⟨fun h hall id r u hr hfin => h id r hr hall hfin u,
    fun h id r hr hall hfin u => h hall id r u hr hfin⟩

theorem endsExactly_logout_iff (hkind : provider.onBackchannelLogout ≠ .doNothing)
    (h : (logout env fuel provider f).Returns db () db') :
    EndsExactly env.now provider f db db' ↔ NoneElseInReach provider f db := by
  obtain ⟨huser, hoauth2, hpersonal⟩ := returns_logout hkind h
  constructor
  · intro hexact
    constructor
    · exact finish_userSessions_eq_iff.mp (huser.symm.trans hexact.userSessions)
    · have heq := hoauth2.symm.trans hexact.oauth2Sessions
      simpa using finish_oauth2Sessions_eq_iff.mp heq
  · intro hreach
    constructor
    · exact huser.trans (finish_userSessions_eq_iff.mpr hreach.userSessions)
    · refine hoauth2.trans (finish_oauth2Sessions_eq_iff.mpr fun hall => ?_)
      exact hreach.oauth2Sessions (of_decide_eq_true hall)
    · exact hpersonal

end Exactness

section Requests

variable {env : Env} {fuel : ℕ} {db db' : Database} {providerId : Ulid} {logoutToken : String}
  {provider : UpstreamOAuthProvider} {sub sid : Option String}

theorem returns_post (h : (post env fuel (some providerId) (.ok logoutToken)).Returns db () db') :
    ∃ provider sub sid, Accepts env db providerId logoutToken provider sub sid ∧
      (logout env fuel provider (authSessionFilter provider sub sid)).Returns db () db' := by
  unfold post UpstreamOAuthProviderRepository.lookup UpstreamOAuthSessionRepository.count at h
  simp only [returns_bind, returns_ofOption, returns_ofExcept, returns_query,
    Repo.returns_fetch] at h
  obtain ⟨_, _, ⟨hid, rfl⟩, _, _, ⟨htoken, rfl⟩, found, _, ⟨hfound, rfl⟩, provider, _,
    ⟨hfilter, rfl⟩, claims, _, ⟨hverify, rfl⟩, ⟨sub, sid⟩, _, ⟨hclaims, rfl⟩, _, _, ⟨-, rfl⟩, h⟩ := h
  cases hid
  cases htoken
  obtain ⟨rfl, henabled⟩ := Option.filter_eq_some_iff.mp hfilter
  refine ⟨provider, sub, sid, ⟨hfound, henabled, ?_⟩, h⟩
  rw [hverify]
  exact hclaims

theorem Accepts.unique {provider' : UpstreamOAuthProvider} {sub' sid' : Option String}
    (h : Accepts env db providerId logoutToken provider sub sid)
    (h' : Accepts env db providerId logoutToken provider' sub' sid') :
    provider' = provider ∧ sub' = sub ∧ sid' = sid := by
  have hprovider : provider' = provider := by
    have heq := h'.lookup.symm.trans h.lookup
    simpa using heq
  subst hprovider
  have hclaims := h'.claims.symm.trans h.claims
  simpa using hclaims

/-- An accepted token ends the sessions it should exactly when no other one is within its reach. -/
theorem endsExactly_iff_noneElseInReach
    (haccepts : Accepts env db providerId logoutToken provider sub sid)
    (hkind : provider.onBackchannelLogout ≠ .doNothing)
    (h : (post env fuel (some providerId) (.ok logoutToken)).Returns db () db') :
    EndsExactly env.now provider (authSessionFilter provider sub sid) db db' ↔
      NoneElseInReach provider (authSessionFilter provider sub sid) db := by
  obtain ⟨provider', sub', sid', haccepts', hlogout⟩ := returns_post h
  obtain ⟨rfl, rfl, rfl⟩ := haccepts.unique haccepts'
  exact endsExactly_logout_iff hkind hlogout

end Requests

section TwoUsers

def logoutClaims (sub : String) : Claims :=
  [("exp", .number 60), ("iat", .number 0), ("sub", .string sub),
    ("events", .object [("http://schemas.openid.net/event/backchannel-logout", true)] "{}")]

def trusting : Env := ⟨0, fun _ token => .ok (logoutClaims token), fun userId => userId⟩

def oneUser : Database := { Database.alice with
  userSessions := Table.empty.insert 11 ⟨1, 0, none, none, none, none⟩
  userSessionAuthentications := Table.empty.insert 21 ⟨11, 0, none, some 31⟩
  upstreamOAuthProviders := Table.empty.insert 41
    ⟨some "logout_all", none, none, "config", 0, 0, none, none, .default⟩
  upstreamOAuthAuthorizationSessions := Table.empty.insert 31
      ⟨41, none, none, some [("sub", .string "alice")], none, none, some 0, none, none, none, ""⟩ }

def twoUsers : Database := { oneUser with
  users := oneUser.users.insert 2 ⟨"bob", 0, 0, none, none, false, false, none, none, none⟩
  userSessions := oneUser.userSessions.insert 12 ⟨2, 0, none, none, none, none⟩
  userSessionAuthentications := oneUser.userSessionAuthentications.insert 22 ⟨12, 0, none, some 32⟩
  upstreamOAuthAuthorizationSessions := oneUser.upstreamOAuthAuthorizationSessions.insert 32
    ⟨41, none, none, some [("sub", .string "bob")], none, none, some 0, none, none, none, ""⟩ }

theorem logout_ends_other_subject :
    Accepts trusting twoUsers 41 "alice" ⟨41, .logoutAll, none, .config, none, none, .default⟩ (some "alice") none ∧
    ∃ db', (post trusting 3 (some 41) (.ok "alice")).Returns twoUsers () db' ∧
      ¬EndsExactly trusting.now ⟨41, .logoutAll, none, .config, none, none, .default⟩
        (authSessionFilter ⟨41, .logoutAll, none, .config, none, none, .default⟩ (some "alice") none) twoUsers db' := by
  refine ⟨⟨by decide +kernel, rfl, by decide +kernel⟩, _, Prod.ext ?_ rfl, fun h => ?_⟩
  · decide +kernel
  · exact absurd h.userSessions (by decide +kernel)

theorem endsExactly_oneUser :
    ∃ db', (post trusting 2 (some 41) (.ok "alice")).Returns oneUser () db' ∧
      EndsExactly trusting.now ⟨41, .logoutAll, none, .config, none, none, .default⟩
        (authSessionFilter ⟨41, .logoutAll, none, .config, none, none, .default⟩ (some "alice") none) oneUser db' := by
  have hreturns : (post trusting 2 (some 41) (.ok "alice")).Returns oneUser ()
      ((post trusting 2 (some 41) (.ok "alice")).exec oneUser).2 :=
    Prod.ext (by decide +kernel) rfl
  have haccepts : Accepts trusting oneUser 41 "alice" ⟨41, .logoutAll, none, .config, none, none, .default⟩ (some "alice") none :=
    ⟨by decide +kernel, rfl, by decide +kernel⟩
  refine ⟨_, hreturns, (endsExactly_iff_noneElseInReach haccepts (by decide) hreturns).mpr ?_⟩
  constructor
  · intro id r hr _ _
    obtain ⟨rfl, rfl⟩ : id = 11 ∧ r = ⟨1, 0, none, none, none, none⟩ := by
      simpa [oneUser, get?_insert, eq_comm] using hr
    decide +kernel
  · intro _ id r u hr
    simp [oneUser, Database.alice, Database.empty] at hr

/-- The pages come to an end: with more rounds than there are browser sessions, the outcome
depends neither on their number nor on the error that stands for too few. -/
theorem affectedUsers_ends {f : BrowserSessionFilter} {db : Database} {fuel fuel' : ℕ}
    (e : RouteError) (hfuel : db.userSessions.rows.length < fuel)
    (hfuel' : db.userSessions.rows.length < fuel') :
    (affectedUsers fuel f).exec db =
      (Txn.loop e (collectPage f) fuel' (Pagination.first 1000, [])).exec db := by
  refine exec_loop_eq
    (I := fun state s => s = db ∧ state.1.count = 1000 ∧ state.1.direction = .forward)
    (m := fun state _ => state.1.remaining db.userSessions.rows) ?_ ⟨rfl, rfl, rfl⟩
    (Nat.lt_of_le_of_lt (List.length_filter_le _ _) hfuel)
    (Nat.lt_of_le_of_lt (List.length_filter_le _ _) hfuel')
  rintro state s state' s' ⟨rfl, hcount, hdir⟩ h
  obtain ⟨hcount', hdir', hlt⟩ := remaining_collectPage_lt hcount hdir h
  exact ⟨⟨(returns_collectPage h).1, hcount', hdir'⟩, hlt⟩

theorem affectedUsers_ends_twoUsers : (affectedUsers 3 .new).exec twoUsers =
    (Txn.loop .providerNotFound (collectPage .new) 9 (Pagination.first 1000, [])).exec twoUsers :=
  affectedUsers_ends .providerNotFound (by decide) (by decide)

end TwoUsers

end Pasion.BackchannelLogout

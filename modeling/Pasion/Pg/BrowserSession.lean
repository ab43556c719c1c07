import Pasion.Data.Pagination
import Pasion.Pg.Users
import Pasion.Relational.Where

/-! The filter of browser sessions, and the queries and updates that go by it. -/
namespace Pasion

open Relational Clause Txn

variable {ε : Type} [FromRepository ε]

/-- `BrowserSessionState` and `OAuth2SessionState` of the filters. -/
inductive SessionActivity where
  | active
  | finished

def SessionActivity.isActive : SessionActivity → Bool
  | active => true
  | finished => false

def SessionActivity.admits (s : SessionActivity) (finishedAt : Option Time) : Bool :=
  if s.isActive then finishedAt.isNone else finishedAt.isSome

inductive UpstreamOAuthProviderOnBackchannelLogout where
  | doNothing
  | logoutBrowserOnly
  | logoutAll
  deriving DecidableEq

/-- Which side manages a provider: the configuration file or the admin API. -/
inductive UpstreamOAuthProviderSource where
  | config
  | manual
  deriving DecidableEq

def UpstreamOAuthProviderSource.asStr : UpstreamOAuthProviderSource → String
  | config => "config"
  | manual => "manual"

structure UpstreamOAuthProvider where
  id : Ulid
  onBackchannelLogout : UpstreamOAuthProviderOnBackchannelLogout
  disabledAt : Option Time
  source : UpstreamOAuthProviderSource
  humanName : Option String
  responseMode : Option ResponseMode
  claimsImports : ClaimsImports
  deriving DecidableEq

def UpstreamOAuthProvider.enabled (p : UpstreamOAuthProvider) : Bool := p.disabledAt.isNone

structure UpstreamOAuthSessionFilter where
  provider : Option UpstreamOAuthProvider
  (subClaim sidClaim : Option String)

structure BrowserSessionFilter where
  user : Option User
  state : Option SessionActivity
  (lastActiveBefore lastActiveAfter : Option Time)
  authenticatedByUpstreamSessions : Option UpstreamOAuthSessionFilter

def BrowserSessionFilter.new : BrowserSessionFilter := ⟨none, none, none, none, none⟩

def BrowserSessionFilter.activeOnly (f : BrowserSessionFilter) : BrowserSessionFilter :=
  { f with state := some .active }

namespace BrowserSessionRepository

variable {db db' : Database} {f : BrowserSessionFilter}

/-- The subquery goes by the provider of the upstream session alone. -/
def authenticatedBy (db : Database) (f : UpstreamOAuthSessionFilter) (userSessionId : Ulid) : Bool :=
  db.userSessionAuthentications.any (fun _ a =>
    a.userSessionId = userSessionId &&
      a.upstreamOAuthAuthorizationSessionId.any (fun upstreamId =>
        (db.upstreamOAuthAuthorizationSessions.get? upstreamId).any (fun s =>
          f.provider.all (fun p => s.upstreamOAuthProviderId = p.id))))

def applySessionFilter (db : Database) (f : BrowserSessionFilter) :
    List (Clause (Ulid × UserSessionRow)) :=
  filterOn f.user (fun user => .test (fun r => r.2.userId = user.id)) ++
  filterOn f.state (fun state => .test (fun r => state.admits r.2.finishedAt)) ++
  filterOn f.lastActiveAfter (fun t => .test (fun r => r.2.lastActiveAt.any (t < ·))) ++
  filterOn f.lastActiveBefore (fun t => .test (fun r => r.2.lastActiveAt.any (· < t))) ++
  filterOn f.authenticatedByUpstreamSessions
    (fun upstream => .test (fun r => authenticatedBy db upstream r.1))

def selected (db : Database) (f : BrowserSessionFilter) (id : Ulid) (r : UserSessionRow) : Bool :=
  Clause.selects (applySessionFilter db f) (id, r)

def finishBulk (finishedAt : Time) (f : BrowserSessionFilter) : Repo ε ℕ := Txn.execute
    (fun db => ⟨fun db' => { db' with
        userSessions := db'.userSessions.mapRows (fun id r =>
          if selected db f id r then { r with finishedAt := some finishedAt } else r) },
      (db.userSessions.select (selected db f)).map (fun r => .row .userSessions r.1)⟩)
    (fun db => (db.userSessions.select (selected db f)).length)

/-- Sessions without a user are left out before the page is cut. -/
def list (f : BrowserSessionFilter) (pagination : Pagination) : Repo ε (Page BrowserSession) := do
  let sessionRows ← Txn.query (fun db =>
    pagination.fetch (db.userSessions.select (selected db f)))
  let edges ← Txn.query (fun db =>
    sessionRows.filterMap (fun r =>
      (db.user? r.2.userId).map (fun user => (r.1, r.2.toBrowserSession r.1 user))))
  pure (pagination.process edges)

theorem selected_iff {id : Ulid} {r : UserSessionRow} :
    selected db f id r ↔ (∀ user, f.user = some user → r.userId = user.id) ∧
      (∀ state, f.state = some state → state.admits r.finishedAt) ∧
      (∀ t, f.lastActiveAfter = some t → r.lastActiveAt.any (t < ·)) ∧
      (∀ t, f.lastActiveBefore = some t → r.lastActiveAt.any (· < t)) ∧
      ∀ upstream, f.authenticatedByUpstreamSessions = some upstream →
        authenticatedBy db upstream id := by
  have hclosed : ∀ c ∈ applySessionFilter db f, c.Closed (id, r) := by
    unfold applySessionFilter
    refine closed_append (closed_append (closed_append (closed_append ?_ ?_) ?_) ?_) ?_ <;>
      exact filterOn_closed fun _ => closed_test _
  rw [selected, selects_eq_all hclosed]
  simp only [applySessionFilter, List.all_append, Bool.and_eq_true, all_filterOn, eval_test,
    decide_eq_true_eq, and_assoc]

omit [FromRepository ε] in
theorem returns_finishBulk {finishedAt : Time} {n : ℕ} (h : (finishBulk finishedAt f : Repo ε ℕ).Returns db n db') :
    db' = { db with
      userSessions := db.userSessions.mapRows (fun id r =>
        if selected db f id r then { r with finishedAt := some finishedAt } else r) } :=
  (returns_execute.mp h).2.symm

omit [FromRepository ε] in
theorem returns_list {p : Pagination} {page : Page BrowserSession} (h : (list f p : Repo ε _).Returns db page db') :
    db' = db ∧ page = p.process ((p.fetch (db.userSessions.select (selected db f))).filterMap
      (fun r => (db.user? r.2.userId).map (fun user => (r.1, r.2.toBrowserSession r.1 user)))) := by
  unfold list at h
  simp only [returns_bind, returns_query, returns_pure] at h
  obtain ⟨_, _, ⟨rfl, rfl⟩, _, _, ⟨rfl, rfl⟩, hpage, hdb⟩ := h
  exact ⟨hdb.symm, hpage.symm⟩

end BrowserSessionRepository

end Pasion

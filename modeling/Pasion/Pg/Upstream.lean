import Pasion.Pg.BrowserSession

/-! Repositories of upstream providers and upstream sessions, and the job queue. -/
namespace Pasion

open Relational Clause

variable {ε : Type} [FromRepository ε]

def UpstreamOAuthProviderOnBackchannelLogout.fromStr (s : String) :
    Option UpstreamOAuthProviderOnBackchannelLogout :=
  if s = "do_nothing" then some .doNothing
  else if s = "logout_browser_only" then some .logoutBrowserOnly
  else if s = "logout_all" then some .logoutAll
  else none

def UpstreamOAuthProviderSource.fromStr (s : String) : Option UpstreamOAuthProviderSource :=
  if s = "config" then some .config
  else if s = "manual" then some .manual
  else none

def UpstreamOAuthProviderRow.toUpstreamOAuthProvider (r : UpstreamOAuthProviderRow) (id : Ulid) :
    Except DatabaseError UpstreamOAuthProvider :=
  match r.badColumn,
    UpstreamOAuthProviderOnBackchannelLogout.fromStr (r.onBackchannelLogout.getD "do_nothing"),
    UpstreamOAuthProviderSource.fromStr r.source with
  | some column, _, _ => .error (.inconsistency "upstream_oauth_providers" (some column) id)
  | none, none, _ =>
    .error (.inconsistency "upstream_oauth_providers" (some "on_backchannel_logout") id)
  | none, some _, none => .error (.inconsistency "upstream_oauth_providers" (some "source") id)
  | none, some onBackchannelLogout, some source =>
    .ok ⟨id, onBackchannelLogout, r.disabledAt, source, r.humanName, r.responseMode,
      r.claimsImports⟩

def UpstreamOAuthProviderRepository.lookup (id : Ulid) : Repo ε (Option UpstreamOAuthProvider) :=
  Repo.fetch (fun db =>
    (db.upstreamOAuthProviders.get? id).mapM (·.toUpstreamOAuthProvider id))

namespace UpstreamOAuthSessionRepository

/-- `id_token_claims->>'key' = 'value'`. -/
def claimIs (key value : String) (r : UpstreamOAuthAuthorizationSessionRow) : Bool :=
  r.idTokenClaims.any (fun claims => (claims.get? key).any (·.asText = some value))

def applySessionFilter (f : UpstreamOAuthSessionFilter) :
    List (Clause UpstreamOAuthAuthorizationSessionRow) :=
  filterOn f.provider (fun provider => .test (fun r => r.upstreamOAuthProviderId = provider.id)) ++
  filterOn f.subClaim (fun sub => .test (claimIs "sub" sub)) ++
  filterOn f.sidClaim (fun sid => .test (claimIs "sid" sid))

def selected (f : UpstreamOAuthSessionFilter) (r : UpstreamOAuthAuthorizationSessionRow) : Bool :=
  Clause.selects (applySessionFilter f) r

def count (f : UpstreamOAuthSessionFilter) : Repo ε ℕ := Txn.query (fun db =>
    (db.upstreamOAuthAuthorizationSessions.select (fun _ r => selected f r)).length)

theorem selected_iff {f : UpstreamOAuthSessionFilter} {r : UpstreamOAuthAuthorizationSessionRow} :
    selected f r ↔ (∀ p, f.provider = some p → r.upstreamOAuthProviderId = p.id) ∧
      (∀ sub, f.subClaim = some sub → claimIs "sub" sub r) ∧
      ∀ sid, f.sidClaim = some sid → claimIs "sid" sid r := by
  have hclosed : ∀ c ∈ applySessionFilter f, c.Closed r := by
    unfold applySessionFilter
    refine closed_append (closed_append ?_ ?_) ?_ <;>
      exact filterOn_closed fun _ => closed_test _
  rw [selected, selects_eq_all hclosed]
  simp only [applySessionFilter, List.all_append, Bool.and_eq_true, all_filterOn, eval_test,
    decide_eq_true_eq, and_assoc]

end UpstreamOAuthSessionRepository

namespace QueueJobRepository

def newJob (createdAt : Time) (job : Job) : QueueJobRow :=
  ⟨.available, createdAt, none, none, none, job, false, none, none, 0, none, none, none⟩

def scheduleJob (createdAt : Time) (id : Ulid) (job : Job) : Repo ε Unit :=
  Repo.insert (fun db => if db.queueJobs.contains id then some .uniqueViolation else none)
    [.row .queueJobs id]
    (fun db => { db with queueJobs := db.queueJobs.insert id (newJob createdAt job) })

theorem returns_scheduleJob {createdAt : Time} {id : Ulid} {job : Job} {db db' : Database}
    (h : (scheduleJob createdAt id job : Repo ε Unit).Returns db () db') :
    db' = { db with queueJobs := db.queueJobs.insert id (newJob createdAt job) } :=
  (Repo.returns_insert.mp h).2.symm

end QueueJobRepository

end Pasion

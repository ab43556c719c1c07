import Pasion.Pg.ForeignKeys
import Pasion.Pg.OAuth2Session
import Pasion.Pg.Upstream

/-! Cleanups of jobs and of finished sessions, and the references that stand in their way. -/
namespace Pasion

open Relational Table

variable {ε : Type} [FromRepository ε]

namespace QueueJobRepository

/-- The ended jobs with an id between the bounds, the smallest first. -/
def toDelete (since : Option Ulid) (until_ : Ulid) (limit : ℕ) (db : Database) : List Ulid :=
  ((db.queueJobs.select (fun id r => (r.status = .completed || r.status = .failed) &&
    (since.all (· < id) && id ≤ until_))).map Prod.fst).take (limitI64 limit)

def cleanup (since : Option Ulid) (until_ : Ulid) (limit : ℕ) : Repo ε (ℕ × Option Ulid) :=
  Repo.deleting
    (fun seen => Database.delete .queueJobs (· ∈ toDelete since until_ limit seen))
    (fun db => (toDelete since until_ limit db).map (.row .queueJobs))
    (fun db => ((toDelete since until_ limit db).length, (toDelete since until_ limit db).getLast?))

end QueueJobRepository

namespace BrowserSessionRepository

/-- Sessions that an OAuth 2.0 session refers to are spared. -/
def finishedRows (ties : Ulid → ℕ) (since : Option Time) (until_ : Time) (limit : ℕ)
    (db : Database) : List (Ulid × UserSessionRow) :=
  orderLimit (fun r => r.2.finishedAt.getD 0) (fun r => ties r.1) (limitI64 limit)
    (db.userSessions.select (fun id r => r.finishedAt.any (inWindow since until_) &&
      !db.oauth2Sessions.any (fun _ s => s.userSessionId = some id)))

def deleteSessions (seen db : Database) (ids : List Ulid) : Database :=
  (db.delete .userSessionAuthentications
    (· ∈ seen.userSessionAuthentications.keysWhere (·.userSessionId ∈ ids))).delete
    .userSessions (· ∈ ids)

def cleanupFinished (ties : Ulid → ℕ) (since : Option Time) (until_ : Time) (limit : ℕ) :
    Repo ε (ℕ × Option Time) :=
  let rows := finishedRows ties since until_ limit
  Repo.deleting
    (fun seen db => deleteSessions seen db ((rows seen).map Prod.fst))
    (fun db => (rows db).map (fun r => .row .userSessions r.1))
    (fun db => cleanupResult UserSessionRow.finishedAt (rows db))

end BrowserSessionRepository

section References

variable {db : Database} {gone : Ulid → Bool} {ids : List Ulid}

theorem stranded_queueJobs (hgone : ∀ id, gone id → db.queueJobs.contains id) :
    db.stranded (db.delete .queueJobs gone) = false ↔
      (∀ id r next, db.queueJobs.get? id = some r → gone id = false → r.nextAttemptId = some next →
        gone next = false) ∧
      ∀ name s job, db.queueSchedules.get? name = some s → s.lastScheduledJobId = some job →
        gone job = false := by
  have hrestricting : ForeignKey.restricting .queueJobs =
      [.queueJobsNextAttemptId, .queueSchedulesLastScheduledJobId] := rfl
  have hkeys := fun id => contains_deleteKeys (t := db.queueJobs) gone id
  rw [Database.stranded_delete, hrestricting, List.any_cons, List.any_cons, List.any_nil,
    Bool.or_false, Bool.or_eq_false_iff]
  refine and_congr ?_ (Reference.not_strands_iff hkeys hgone)
  refine (Reference.not_strands_iff hkeys hgone).trans ?_
  refine forall₃_congr fun id r next => ?_
  have hget : (db.delete .queueJobs gone).queueJobs.get? id = some r ↔
      db.queueJobs.get? id = some r ∧ gone id = false := by
    simp only [Database.delete, get?_deleteKeys]
    cases gone id <;> simp
  rw [hget, and_imp]

/-- At most device code grants still refer to deleted sessions. -/
theorem stranded_deleteBrowserSessions (hids : ∀ id ∈ ids, db.userSessions.contains id) :
    db.stranded (BrowserSessionRepository.deleteSessions db db ids) = false ↔
      ∀ id r session, db.oauth2DeviceCodeGrant.get? id = some r →
        r.userSessionId = some session → session ∉ ids := by
  let authenticationGone : Ulid → Bool :=
    (· ∈ db.userSessionAuthentications.keysWhere (·.userSessionId ∈ ids))
  let db₁ := db.delete .userSessionAuthentications authenticationGone
  have hhas : ∀ (fk : ForeignKey) x, fk.reference.has db₁ x → fk.reference.has db x :=
    fun fk x => Database.has_of_has_delete fk x
  have hdb₁ : db.stranded db₁ = false := Database.not_stranded_delete rfl
  have hrestricting : ForeignKey.restricting .userSessions =
      [.userSessionAuthenticationsUserSessionId, .oauth2DeviceCodeGrantUserSessionId] := rfl
  have hkeys := fun id => contains_deleteKeys (t := db₁.userSessions) (· ∈ ids) id
  have hauthentications : ForeignKey.strands .userSessionAuthenticationsUserSessionId db₁
      (db₁.delete .userSessions (· ∈ ids)) = false := by
    refine Reference.not_strands_of_not_mem hkeys fun x hx => ?_
    refine not_mem_column_deleteKeys (t := db.userSessionAuthentications)
      authenticationGone fun id r hr hcell => ?_
    cases hcell
    exact decide_eq_true (mem_keysWhere.mpr ⟨r, hr, hx⟩)
  rw [BrowserSessionRepository.deleteSessions, Database.stranded_delete_of_not_stranded hdb₁ hhas,
    Database.stranded_delete, hrestricting, List.any_cons, List.any_cons, List.any_nil,
    hauthentications, Bool.false_or, Bool.or_false]
  refine (Reference.not_strands_iff hkeys fun x hx => hids x (of_decide_eq_true hx)).trans ?_
  simp only [decide_eq_false_iff_not]
  rfl

end References

section Succeeds

variable {db : Database}

theorem contains_of_mem_keys {R : Type} {t : Table Ulid R} {rows : List (Ulid × R)}
    (hrows : ∀ id r, (id, r) ∈ rows → t.get? id = some r) :
    ∀ id ∈ rows.map Prod.fst, t.contains id := by
  intro id hid
  obtain ⟨⟨_, r⟩, hmem, rfl⟩ := List.mem_map.mp hid
  exact contains_iff_exists.mpr ⟨r, hrows _ r hmem⟩

/-- Schedules and retried jobs, grants of a session, and approved device codes stand in the way. -/
theorem cleanups_succeed_iff (db : Database) : (∀ since until_ limit,
      (QueueJobRepository.cleanup since until_ limit : Repo DatabaseError _).Succeeds db ↔
        (∀ id r next, db.queueJobs.get? id = some r →
          id ∉ QueueJobRepository.toDelete since until_ limit db → r.nextAttemptId = some next →
          next ∉ QueueJobRepository.toDelete since until_ limit db) ∧
        ∀ name s job, db.queueSchedules.get? name = some s → s.lastScheduledJobId = some job →
          job ∉ QueueJobRepository.toDelete since until_ limit db) ∧
    ∀ ties since until_ limit,
      ((OAuth2SessionRepository.cleanupFinished ties since until_ limit :
        Repo DatabaseError _).Succeeds db ↔
        ∀ id r session, db.oauth2AuthorizationGrants.get? id = some r →
          r.oauth2SessionId = some session → session ∉
            (OAuth2SessionRepository.finishedRows ties since until_ limit db).map Prod.fst) ∧
      ((BrowserSessionRepository.cleanupFinished ties since until_ limit :
        Repo DatabaseError _).Succeeds db ↔
        ∀ id r session, db.oauth2DeviceCodeGrant.get? id = some r →
          r.userSessionId = some session → session ∉
            (BrowserSessionRepository.finishedRows ties since until_ limit db).map Prod.fst) := by
  refine ⟨fun since until_ limit => ?_, fun ties since until_ limit => ⟨?_, ?_⟩⟩
  · rw [QueueJobRepository.cleanup, Repo.succeeds_deleting, stranded_queueJobs]
    · simp only [decide_eq_false_iff_not]
    · intro id hid
      have hmem := List.mem_of_mem_take (of_decide_eq_true hid)
      exact contains_of_mem_keys (fun _ _ h => (mem_select.mp h).1) id hmem
  · rw [OAuth2SessionRepository.cleanupFinished, Repo.succeeds_deleting,
      OAuth2SessionRepository.stranded_deleteSessions]
    exact contains_of_mem_keys fun _ _ h => (mem_cleanupRows h).1
  · rw [BrowserSessionRepository.cleanupFinished, Repo.succeeds_deleting,
      stranded_deleteBrowserSessions]
    exact contains_of_mem_keys fun _ _ h => (mem_select.mp (mem_of_mem_orderLimit h)).1

/-- A schedule, a browser session and an ended session that other rows refer to. -/
def endedRows : Database := { Database.alice with
  userSessions := Table.empty.insert 2 ⟨1, 0, some 1, none, none, none⟩
  oauth2Clients := Table.empty.insert 3
    ⟨true, true, false, some true, none, none, none, none, none, none, .empty⟩
  oauth2Sessions := Table.empty.insert 4
    ⟨some 1, none, 3, ["openid"], 0, some 1, none, none, none, none⟩
  oauth2AuthorizationGrants := Table.empty.insert 5
    ⟨0, none, some 0, some 0, "openid", none, none, "https://client/", true, "query", true, false,
      some "code", none, none, none, none, 3, some 4⟩
  oauth2DeviceCodeGrant := Table.empty.insert 6
    ⟨3, "openid", "device", "user", 0, 100, some 0, none, none, some 2, none, none, none⟩
  queueJobs := Table.empty.insert 7
    ⟨.completed, 0, some 0, none, some 0, .other "cleanup" "", false, none, none, 0, none, some 0,
      some "cleanup"⟩
  queueSchedules := Table.empty.insert "cleanup" ⟨some 0, some 7⟩ }

theorem cleanups_refused : endedRows.foreignKeysHold ∧
    ¬(QueueJobRepository.cleanup none 7 1 : Repo DatabaseError _).Succeeds endedRows ∧
    ¬(OAuth2SessionRepository.cleanupFinished id none 2 1 :
      Repo DatabaseError _).Succeeds endedRows ∧
    ¬(BrowserSessionRepository.cleanupFinished id none 2 1 :
      Repo DatabaseError _).Succeeds endedRows := by
  decide +kernel

end Succeeds

end Pasion

import Pasion.Pg.Upstream

/-! The jobs of the queue as a worker reserves them. -/
namespace Pasion

open Relational

def Job.queueName : Job → String
  | syncDevices _ => "sync-devices"
  | provisionUser _ _ _ => "provision-user"
  | deactivateUser _ _ => "deactivate-user"
  | contactVerification _ _ => "dispatch-notification"
  | other queueName _ => queueName

structure QueuedJob where
  id : Ulid
  payload : Job
  attempt : ℕ

def QueueJobRow.toQueuedJob (id : Ulid) (r : QueueJobRow) : Except DatabaseError QueuedJob :=
  if r.badMetadata then .error (.inconsistency "queue_jobs" (some "metadata") id)
  else if r.attempt < 0 then .error (.inconsistency "queue_jobs" (some "attempt") id)
  else .ok ⟨id, r.job, r.attempt.toNat⟩

namespace QueueJobRepository

variable {ε : Type} [FromRepository ε]

/-- The rows that a reservation takes; those that others have locked are skipped. -/
def lockedJobs (locked : Ulid → Bool) (queues : List String) (count : ℕ) (db : Database) :
    List (Ulid × QueueJobRow) :=
  (db.queueJobs.select (fun id r => r.status = .available && r.job.queueName ∈ queues &&
    !locked id)).take (min count (2 ^ 63 - 1))

def reserve (now : Time) (worker : Ulid) (locked : Ulid → Bool) (queues : List String)
    (count : ℕ) : Repo ε (List QueuedJob) := do
  let results ← Repo.statement
    (fun db => if lockedJobs locked queues count db ≠ [] ∧ db.queueWorkers.contains worker = false
      then some .foreignKeyViolation else none)
    (fun db =>
      let ids := (lockedJobs locked queues count db).map Prod.fst
      ⟨fun db => { db with queueJobs := db.queueJobs.mapRows (fun id r => if id ∈ ids then
        { r with status := .running, startedAt := some now, startedBy := some worker } else r) },
        ids.map (.row .queueJobs)⟩)
    (lockedJobs locked queues count)
  -- The rows are taken already when one of them turns out not to decode.
  Txn.ofExcept (results.mapM (fun x => x.2.toQueuedJob x.1)) repository

/-- However many jobs wait, no more are handed out than were asked for. -/
theorem length_reserve {now : Time} {worker : Ulid} {locked : Ulid → Bool} {queues : List String}
    {count : ℕ} {db db' : Database} {jobs : List QueuedJob}
    (h : (reserve now worker locked queues count : Repo ε _).Returns db jobs db') :
    jobs.length ≤ count := by
  obtain ⟨results, db₁, hstatement, hdecode⟩ := Txn.returns_bind.mp h
  obtain ⟨-, rfl, -⟩ := Repo.returns_statement.mp hstatement
  have hlength := (Fallible.forall₂_of_mapM_eq_ok (Txn.returns_ofExcept.mp hdecode).1).length_eq
  have htake := List.length_take_le (min count (2 ^ 63 - 1))
    (db.queueJobs.select (fun id r => r.status = .available && r.job.queueName ∈ queues &&
      !locked id))
  calc jobs.length = (lockedJobs locked queues count db).length := hlength.symm
    _ ≤ min count (2 ^ 63 - 1) := htake
    _ ≤ count := Nat.min_le_left _ _

end QueueJobRepository

end Pasion

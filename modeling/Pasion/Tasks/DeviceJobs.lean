import Pasion.Pg.Upstream
import Pasion.Tasks.Matrix

/-! The jobs of the older device queues, which hand over to the synchronisation of devices. -/
namespace Pasion

open Relational Txn

structure ProvisionDeviceJob where
  userId : Ulid
  deviceId : String

structure DeleteDeviceJob where
  userId : Ulid
  deviceId : String

/-- The clock, and the id that is drawn for the next job. -/
structure JobEnv where
  now : Time
  jobId : Ulid

/-- The statements that `schedule_device_sync` makes. -/
def deviceSyncStatements (env : JobEnv) (userId : Ulid) : Repo JobError Unit := do
  let user ← UserRepository.lookup userId
  let user ← Txn.ofOption user (.fail (.message "user not found"))
  QueueJobRepository.scheduleJob env.now env.jobId (.syncDevices user.id)

/-- The repository goes out of scope before anything is saved. -/
def scheduleDeviceSync (env : JobEnv) (userId : Ulid) (db : Database) :
    Except JobError Unit × Database :=
  (deviceSyncStatements env userId).dropped db

def ProvisionDeviceJob.run (env : JobEnv) (job : ProvisionDeviceJob) (db : Database) :
    Except JobError Unit × Database :=
  scheduleDeviceSync env job.userId db

def DeleteDeviceJob.run (env : JobEnv) (job : DeleteDeviceJob) (db : Database) :
    Except JobError Unit × Database :=
  scheduleDeviceSync env job.userId db

variable {env : JobEnv} {userId : Ulid} {db db' : Database}

def oneUser : Database := { Database.empty with
  users := Table.empty.insert 1 ⟨"bob", 0, 0, none, none, false, false, none, none, none⟩ }

end Pasion

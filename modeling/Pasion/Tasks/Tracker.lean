import Mathlib.Algebra.Order.BigOperators.Group.List
import Pasion.Pg.Queue
import Pasion.Relational.Sequential
import Pasion.Relational.Stateful
import Pasion.Tasks.Matrix

/-! A queue worker: the jobs that it runs at a time, and what happens when they end. -/
namespace Pasion.Worker

open Relational Table

def maxConcurrentJobs : ℕ := 10

def maxJobsToFetch : ℕ := 5

def maxAttempts : ℕ := 10

def retryDelay (attempt : ℕ) : Duration := min (2 ^ attempt) (2 ^ 63 - 1) * 5000 * 1000

def jobsToFetchCapacity (runningJobs : ℕ) : ℕ := min (maxConcurrentJobs - runningJobs) maxJobsToFetch

abbrev TaskId := ℕ

structure JobContext where
  id : Ulid
  queueName : String
  attempt : ℕ

/-- What joining a task gives: the result of its job, or the reason why it did not come to one. -/
inductive JoinResult where
  | done (result : Except JobError Unit)
  | crashed (reason : String)

/-- Tasks that run, and tasks that ended and were not joined yet, the oldest first. -/
structure JoinSet where
  running : List TaskId
  ended : List (TaskId × JoinResult)

namespace JoinSet

def new : JoinSet := ⟨[], []⟩

def ids (s : JoinSet) : List TaskId := s.ended.map Prod.fst ++ s.running

def len (s : JoinSet) : ℕ := s.running.length + s.ended.length

def spawn (s : JoinSet) (id : TaskId) : JoinSet := { s with running := id :: s.running }

def tryJoinNextWithId (s : JoinSet) : Option (TaskId × JoinResult) × JoinSet :=
  match s.ended with
  | [] => (none, s)
  | result :: rest => (some result, { s with ended := rest })

/-- A running task comes to its end. -/
def finish (s : JoinSet) (result : TaskId × JoinResult) : JoinSet :=
  if result.1 ∈ s.running then
    { s with running := s.running.erase result.1, ended := s.ended ++ [result] }
  else s

end JoinSet

/-- The runtime gives a new task an id that no task of the set has. The id of a task that was joined
may come again. -/
structure TaskIds where
  next : JoinSet → TaskId
  fresh : ∀ s : JoinSet, next s ∉ s.ids

instance : Inhabited TaskIds where
  default := ⟨fun s => s.ids.sum + 1, fun _ h => absurd (List.le_sum_of_mem h) (Nat.not_succ_le_self _)⟩

structure JobTracker where
  factories : List String
  tasks : JoinSet
  jobContexts : Table TaskId JobContext
  lastJoinResult : Option (TaskId × JoinResult)

namespace JobTracker

def new (factories : List String) : JobTracker := ⟨factories, .new, .empty, none⟩

def queues (t : JobTracker) : List String := t.factories

def spawnJob (taskIds : TaskIds) (t : JobTracker) (context : JobContext) : JobTracker :=
  { t with
    tasks := t.tasks.spawn (taskIds.next t.tasks)
    jobContexts := t.jobContexts.insert (taskIds.next t.tasks) context }

def hasJobs (t : JobTracker) : Bool := t.tasks.len ≠ 0

def runningJobs (t : JobTracker) : ℕ := t.tasks.len + (if t.lastJoinResult.isSome then 1 else 0)

/-- The next result that there is takes the free place. -/
def joinNext (t : JobTracker) : JobTracker :=
  if t.lastJoinResult.isSome then t
  else { t with lastJoinResult := t.tasks.tryJoinNextWithId.1, tasks := t.tasks.tryJoinNextWithId.2 }

/-- While no task has ended this waits, and the worker may be woken up by something else. -/
def collectNextJob (t : JobTracker) : JobTracker := t.joinNext

def finish (t : JobTracker) (result : TaskId × JoinResult) : JobTracker :=
  { t with tasks := t.tasks.finish result }

def withoutResult (t : JobTracker) : JobTracker := { t with lastJoinResult := none }

def spawnReservedJobs (taskIds : TaskIds) (t : JobTracker) (jobs : List QueuedJob) : JobTracker :=
  jobs.foldl (fun t job => t.spawnJob taskIds ⟨job.id, job.payload.queueName, job.attempt⟩) t

end JobTracker

inductive QueueRunnerError where
  | pool
  | database (e : DatabaseError)
  | panic (message : String)

/-- The calls other than the reservation; one that fails may have taken effect. -/
structure QueueCalls where
  getConnection : Database → Except Unit Unit × Database
  heartbeat : Time → Ulid → Database → Except DatabaseError Unit × Database
  removeLeaderLeaseIfExpired : Database → Except DatabaseError Unit × Database
  tryGetLeaderLease : Time → Ulid → Database → Except DatabaseError Bool × Database
  markAsCompleted : Time → Ulid → Database → Except DatabaseError Unit × Database
  markAsFailed : Time → Ulid → String → Database → Except DatabaseError Unit × Database
  retry : Time → Ulid → Duration → Database → Except DatabaseError Unit × Database

structure QueueWorker where
  tracker : JobTracker
  lastHeartbeat : Time
  database : Database

/-- The clock, the registration, the runtime, the tasks that end round by round, locked rows and
failures. -/
structure TickEnv where
  now : Time
  registration : Ulid
  taskIds : TaskIds
  debug : JobCause → String
  meanwhile : ℕ → List (TaskId × JoinResult)
  locked : Ulid → Bool
  lost : Option DatabaseError

abbrev Step (α : Type) := Stateful QueueWorker QueueRunnerError α

def query {α : Type} (f : Database → Except DatabaseError α × Database) : Step α :=
  Stateful.call fun w => ((f w.database).1.mapError .database, { w with database := (f w.database).2 })

/-- No transaction is open, so every statement stands as soon as it is made. -/
def autocommit {α : Type} (p : Repo DatabaseError α) (db : Database) :
    Except DatabaseError α × Database :=
  match p.exec db with
  | (.committed a, db') => (.ok a, db')
  | (.rolledBack e, db') => (.error e, db')
  | (.committedError e, db') => (.error e, db')

def track (f : JobTracker → JobTracker) : Step Unit :=
  Stateful.call fun w => (.ok (), { w with tracker := f w.tracker })

def getConnection (q : QueueCalls) : Step Unit :=
  Stateful.call fun w => ((q.getConnection w.database).1.mapError (fun _ => .pool),
    { w with database := (q.getConnection w.database).2 })

/-- The context of the task is looked up and dropped. -/
def removeContext (id : TaskId) : Step JobContext := Stateful.call fun w =>
    match w.tracker.jobContexts.get? id with
    | none => (.error (.panic "Job context not found"), w)
    | some context => (.ok context, { w with
        tracker := { w.tracker with jobContexts := w.tracker.jobContexts.delete (fun k _ => k = id) } })

/-- A failed job is recorded, and scheduled once more if it may be tried again. -/
def recordFailure (q : QueueCalls) (now : Time) (context : JobContext) (reason : String)
    (decision : JobErrorDecision) : Step Unit := do
  query (q.markAsFailed now context.id reason)
  if decision = .retry ∧ context.attempt < maxAttempts then
    query (q.retry now context.id (retryDelay context.attempt))
  else pure ()

def processResult (q : QueueCalls) (env : TickEnv) (result : TaskId × JoinResult) :
    Step Unit := do
  let context ← removeContext result.1
  match result.2 with
  | .done (.ok ()) => query (q.markAsCompleted env.now context.id)
  | .done (.error e) => recordFailure q env.now context (env.debug e.error) e.decision
  | .crashed reason => recordFailure q env.now context reason .retry

/-- The result that waits is taken out before it is processed. -/
def takeResult : Step (Option (TaskId × JoinResult)) := Stateful.call fun w =>
    (.ok w.tracker.lastJoinResult, { w with tracker := w.tracker.withoutResult })

/-- Each round takes one job off those that are tracked, so as many rounds as jobs are enough. -/
def processLoop (q : QueueCalls) (env : TickEnv) : ℕ → Step Unit
  | 0 => pure ()
  | rounds + 1 => do
    match ← takeResult with
    | none => pure ()
    | some result => do
      processResult q env result
      track (fun t => ((env.meanwhile rounds).foldl JobTracker.finish t).joinNext)
      processLoop q env rounds

def processJobs (q : QueueCalls) (env : TickEnv) : Step Unit := do
  track JobTracker.joinNext
  let rounds ← Stateful.call fun w => (.ok w.tracker.runningJobs, w)
  processLoop q env rounds

def sendHeartbeat (q : QueueCalls) (env : TickEnv) : Step Unit := do
  let lastHeartbeat ← Stateful.call fun w => (.ok w.lastHeartbeat, w)
  if env.now - lastHeartbeat ≥ 60 * 1000 * 1000 then do
    query (q.heartbeat env.now env.registration)
    Stateful.call fun w => (.ok (), { w with lastHeartbeat := env.now })
  else pure ()

def reserve (env : TickEnv) (queues : List String) (count : ℕ) : Step (List QueuedJob) :=
  query fun db => match env.lost with
    | some e => (.error e, db)
    | none => autocommit
      (QueueJobRepository.reserve env.now env.registration env.locked queues count) db

def fetchJobs (env : TickEnv) : Step Unit := do
  let tracker ← Stateful.call fun w => (.ok w.tracker, w)
  if jobsToFetchCapacity tracker.runningJobs = 0 then pure ()
  else do
    let jobs ← reserve env tracker.queues (jobsToFetchCapacity tracker.runningJobs)
    track (·.spawnReservedJobs env.taskIds jobs)

def tickWorker (q : QueueCalls) (env : TickEnv) : Step Bool := do
  getConnection q
  sendHeartbeat q env
  query q.removeLeaderLeaseIfExpired
  let leader ← query (q.tryGetLeaderLease env.now env.registration)
  processJobs q env
  fetchJobs env
  pure leader

/-- One round of `drain_jobs`, which a worker that shuts down repeats. -/
def drainRound (q : QueueCalls) (env : TickEnv) : Step Unit := do
  track JobTracker.collectNextJob
  getConnection q
  processJobs q env

inductive Event where
  /-- A task ends, with a result or in a panic. -/
  | ended (result : TaskId × JoinResult)
  /-- The worker wakes up because a task could be joined. -/
  | joined
  | tick (env : TickEnv)
  | drain (env : TickEnv)

def step (q : QueueCalls) (w : QueueWorker) : Event → QueueWorker
  | .ended result => { w with tracker := w.tracker.finish result }
  | .joined => if w.tracker.hasJobs then { w with tracker := w.tracker.collectNextJob } else w
  | .tick env => ((tickWorker q env).exec w).2
  | .drain env => ((drainRound q env).exec w).2

namespace JobTracker

variable {t : JobTracker} {new : TaskIds} {id : TaskId} {result : TaskId × JoinResult}

/-- The one whose result waits, those that ended, those that run. -/
def taskIds (t : JobTracker) : List TaskId :=
  (t.lastJoinResult.toList ++ t.tasks.ended).map Prod.fst ++ t.tasks.running

theorem length_taskIds : t.taskIds.length = t.runningJobs := by
  unfold taskIds runningJobs JoinSet.len
  cases t.lastJoinResult with
  | none => simp [Nat.add_comm]
  | some result =>
    simp
    omega

theorem taskIds_joinNext : t.joinNext.taskIds = t.taskIds := by
  obtain ⟨factories, ⟨running, ended⟩, contexts, waiting⟩ := t
  cases waiting with
  | some result => rfl
  | none => cases ended <;> rfl

theorem runningJobs_joinNext : t.joinNext.runningJobs = t.runningJobs := by
  rw [← length_taskIds, taskIds_joinNext, length_taskIds]

theorem taskIds_finish : (t.finish result).taskIds.Perm t.taskIds := by
  unfold finish taskIds JoinSet.finish
  split_ifs with hrunning
  · have herase := List.perm_cons_erase hrunning
    simp only [List.map_append, List.map_cons, List.map_nil, List.append_assoc, List.singleton_append]
    exact (herase.symm.append_left _).append_left _
  · exact .refl _

theorem taskIds_foldl_finish (results : List (TaskId × JoinResult)) :
    (results.foldl finish t).taskIds.Perm t.taskIds := by
  induction results generalizing t with
  | nil => exact .refl _
  | cons result rest ih => exact ih.trans taskIds_finish

theorem taskIds_spawnJob (new : TaskIds) (context : JobContext) :
    (t.spawnJob new context).taskIds.Perm (new.next t.tasks :: t.taskIds) :=
  List.perm_middle

theorem jobContexts_joinNext : t.joinNext.jobContexts = t.jobContexts := by
  unfold joinNext
  split_ifs <;> rfl

theorem jobContexts_foldl_finish (results : List (TaskId × JoinResult)) :
    (results.foldl finish t).jobContexts = t.jobContexts := by
  induction results generalizing t with
  | nil => rfl
  | cons result rest ih => exact ih

/-- The bound on the jobs, and what keeps the worker from losing the context of one. -/
structure Sound (t : JobTracker) : Prop where
  le : t.runningJobs ≤ maxConcurrentJobs
  nodup : t.taskIds.Nodup
  context : ∀ id ∈ t.taskIds, t.jobContexts.contains id

/-- Soundness looks at the tasks up to their order. -/
theorem Sound.of_perm {t' : JobTracker} (h : t.Sound) (hperm : t'.taskIds.Perm t.taskIds)
    (hcontexts : t'.jobContexts = t.jobContexts) : t'.Sound where
  le := by
    rw [← length_taskIds, hperm.length_eq, length_taskIds]
    exact h.le
  nodup := hperm.nodup_iff.mpr h.nodup
  context id hid := by
    rw [hcontexts]
    exact h.context id (hperm.mem_iff.mp hid)

theorem sound_new (factories : List String) : (JobTracker.new factories).Sound where
  le := Nat.zero_le _
  nodup := .nil
  context _ hid := by cases hid

theorem Sound.joinNext (h : t.Sound) : t.joinNext.Sound :=
  h.of_perm (by rw [taskIds_joinNext]) jobContexts_joinNext

theorem Sound.foldl_finish (h : t.Sound) (results : List (TaskId × JoinResult)) :
    (results.foldl JobTracker.finish t).Sound :=
  h.of_perm (taskIds_foldl_finish results) (jobContexts_foldl_finish results)

theorem taskIds_of_waiting (h : t.lastJoinResult = some result) :
    t.taskIds = result.1 :: t.withoutResult.taskIds := by
  unfold taskIds withoutResult
  rw [h]
  rfl

/-- Taking out the result that waits frees one place, and its task keeps its context. -/
theorem Sound.withoutResult (h : t.Sound) (hwaiting : t.lastJoinResult = some result) :
    t.withoutResult.Sound ∧ t.withoutResult.runningJobs + 1 = t.runningJobs ∧
      t.withoutResult.jobContexts.contains result.1 ∧ result.1 ∉ t.withoutResult.taskIds := by
  have hids := taskIds_of_waiting hwaiting
  have hone : t.withoutResult.runningJobs + 1 = t.runningJobs := by
    rw [← length_taskIds, ← length_taskIds, hids, List.length_cons]
  have hmem : ∀ id ∈ t.withoutResult.taskIds, id ∈ t.taskIds := fun id hid =>
    hids ▸ List.mem_cons_of_mem _ hid
  obtain ⟨hnot, hnodup⟩ := List.nodup_cons.mp (hids ▸ h.nodup)
  have hle := h.le
  refine ⟨⟨by omega, hnodup, fun id hid => h.context id (hmem id hid)⟩, hone, h.context _ ?_, hnot⟩
  rw [hids]
  exact List.mem_cons_self

theorem taskIds_of_not_waiting (h : t.lastJoinResult = none) : t.taskIds = t.tasks.ids := by
  unfold taskIds
  rw [h]
  rfl

/-- The set does not know the task whose result waits, so the new task might get its id. -/
theorem Sound.spawnJob (h : t.Sound) (hnone : t.lastJoinResult = none) (context : JobContext)
    (hfree : t.runningJobs < maxConcurrentJobs) : (t.spawnJob new context).Sound := by
  have hperm := taskIds_spawnJob (t := t) new context
  have hfresh : new.next t.tasks ∉ t.taskIds := by
    rw [taskIds_of_not_waiting hnone]
    exact new.fresh t.tasks
  refine ⟨?_, hperm.nodup_iff.mpr (List.nodup_cons.mpr ⟨hfresh, h.nodup⟩), fun id hid => ?_⟩
  · rw [← length_taskIds, hperm.length_eq, List.length_cons, length_taskIds]
    omega
  · change (t.jobContexts.insert (new.next t.tasks) context).contains id
    rcases List.mem_cons.mp (hperm.mem_iff.mp hid) with rfl | hold
    · simp [contains_insert]
    · simp [contains_insert, h.context id hold]

/-- As many jobs may be spawned as the capacity allows. -/
theorem Sound.spawnReservedJobs (h : t.Sound) (hnone : t.lastJoinResult = none)
    {jobs : List QueuedJob} (hroom : t.runningJobs + jobs.length ≤ maxConcurrentJobs) :
    (t.spawnReservedJobs new jobs).Sound := by
  induction jobs generalizing t with
  | nil => exact h
  | cons job rest ih =>
    rw [List.length_cons] at hroom
    set context : JobContext := ⟨job.id, job.payload.queueName, job.attempt⟩
    have hone : (t.spawnJob new context).runningJobs = t.runningJobs + 1 := by
      rw [← length_taskIds, (taskIds_spawnJob _ _).length_eq, List.length_cons, length_taskIds]
    exact ih (t := t.spawnJob new context) (h.spawnJob hnone context (by omega)) hnone (by omega)

theorem Sound.add_capacity_le (h : t.Sound) :
    t.runningJobs + jobsToFetchCapacity t.runningJobs ≤ maxConcurrentJobs := by
  have hle := h.le
  unfold jobsToFetchCapacity
  omega

end JobTracker

section Ticks

open Stateful

variable {q : QueueCalls} {env : TickEnv} {α : Type} {P : JobTracker → Prop}
variable {f : Database → Except DatabaseError α × Database}

/-- The worker is sound, and an error that it met is none of its own. -/
def Fails (e : QueueRunnerError) (w : QueueWorker) : Prop :=
  w.tracker.Sound ∧ ∀ message, e ≠ .panic message

/-- A call to the database does not touch the tracker. -/
theorem triple_query {R : α → Prop}
    (hsound : ∀ t, P t → t.Sound) (hf : ∀ db a, (f db).1 = .ok a → R a) :
    Triple (fun w => P w.tracker) (query f) (fun a w => P w.tracker ∧ R a) Fails := by
  refine triple_call (fun w hw a w' hrun => ?_) (fun w hw e w' hrun => ?_)
  · obtain ⟨hres, rfl⟩ := Prod.mk.inj hrun
    exact ⟨hw, hf _ a (Fallible.mapError_eq_ok_iff.mp hres)⟩
  · obtain ⟨hres, rfl⟩ := Prod.mk.inj hrun
    refine ⟨hsound _ hw, fun message hpanic => ?_⟩
    rw [hpanic] at hres
    cases hcall : (f w.database).1 <;> simp [hcall, Except.mapError] at hres

theorem keeps_query (hsound : ∀ t, P t → t.Sound) :
    Triple (fun w => P w.tracker) (query f) (fun _ w => P w.tracker) Fails := by
  intro w hw
  obtain ⟨hok, herr⟩ := triple_query (R := fun _ => True) hsound (fun _ _ _ => trivial) w hw
  exact ⟨fun a w' hrun => (hok a w' hrun).1, herr⟩

theorem triple_track {Q : JobTracker → Prop} {f : JobTracker → JobTracker}
    (hf : ∀ t, P t → Q (f t)) :
    Triple (fun w => P w.tracker) (track f) (fun _ w => Q w.tracker) Fails := by
  refine triple_call (fun w hw a w' hrun => ?_) (fun w hw e w' hrun => ?_)
  · obtain ⟨-, rfl⟩ := Prod.mk.inj hrun
    exact hf _ hw
  · cases (Prod.mk.inj hrun).1

theorem triple_read {f : QueueWorker → α} :
    Triple (fun w => P w.tracker) (call fun w => (.ok (f w), w))
      (fun a w => P w.tracker ∧ a = f w) Fails := by
  refine triple_call (fun w hw a w' hrun => ?_) (fun w hw e w' hrun => ?_)
  · cases hrun
    exact ⟨hw, rfl⟩
  · cases (Prod.mk.inj hrun).1

theorem keeps_getConnection :
    Triple (fun w => w.tracker.Sound) (getConnection q) (fun _ w => w.tracker.Sound) Fails := by
  refine triple_call (fun w hw a w' hrun => ?_) (fun w hw e w' hrun => ?_)
  · obtain ⟨-, rfl⟩ := Prod.mk.inj hrun
    exact hw
  · obtain ⟨hres, rfl⟩ := Prod.mk.inj hrun
    refine ⟨hw, fun message hpanic => ?_⟩
    rw [hpanic] at hres
    cases hcall : (q.getConnection w.database).1 <;> simp [hcall, Except.mapError] at hres

theorem keeps_sendHeartbeat :
    Triple (fun w => w.tracker.Sound) (sendHeartbeat q env) (fun _ w => w.tracker.Sound) Fails := by
  refine Triple.bind triple_read fun lastHeartbeat => ?_
  refine Triple.of_imp ?_ (P := fun w => w.tracker.Sound) fun w hw => hw.1
  split_ifs
  · refine Triple.bind (keeps_query fun t ht => ht) fun _ => ?_
    refine triple_call (fun w hw a w' hrun => ?_) (fun w hw e w' hrun => ?_)
    · cases hrun
      exact hw
    · cases (Prod.mk.inj hrun).1
  · exact triple_pure fun w hw => hw

theorem keeps_recordFailure {now : Time} {context : JobContext} {reason : String}
    {decision : JobErrorDecision} (hsound : ∀ t, P t → t.Sound) :
    Triple (fun w => P w.tracker) (recordFailure q now context reason decision)
      (fun _ w => P w.tracker) Fails := by
  refine Triple.bind (keeps_query hsound) fun _ => ?_
  split_ifs
  · exact keeps_query hsound
  · exact triple_pure fun w hw => hw

/-- The context of a task that is not tracked any more. -/
theorem triple_removeContext {id : TaskId} {n : ℕ} :
    Triple (fun w => w.tracker.Sound ∧ w.tracker.runningJobs ≤ n ∧
        w.tracker.jobContexts.contains id ∧ id ∉ w.tracker.taskIds) (removeContext id)
      (fun _ w => w.tracker.Sound ∧ w.tracker.runningJobs ≤ n) Fails := by
  refine triple_call (fun w hw context w' hrun => ?_) (fun w hw e w' hrun => ?_)
  all_goals
    obtain ⟨hsound, hle, hthere, hnot⟩ := hw
    obtain ⟨context', hcontext⟩ := contains_iff_exists.mp hthere
    rw [hcontext] at hrun
  · obtain ⟨-, rfl⟩ := Prod.mk.inj hrun
    refine ⟨⟨hsound.le, hsound.nodup, fun k hk => ?_⟩, hle⟩
    obtain ⟨context₁, hk₁⟩ := contains_iff_exists.mp (hsound.context k hk)
    have hne : k ≠ id := fun heq => hnot (heq ▸ hk)
    exact contains_iff_exists.mpr
      ⟨context₁, get?_delete_eq_some.mpr ⟨hk₁, decide_eq_false hne⟩⟩
  · cases (Prod.mk.inj hrun).1

theorem triple_processResult {result : TaskId × JoinResult} {n : ℕ} :
    Triple (fun w => w.tracker.Sound ∧ w.tracker.runningJobs ≤ n ∧
        w.tracker.jobContexts.contains result.1 ∧ result.1 ∉ w.tracker.taskIds)
      (processResult q env result)
      (fun _ w => w.tracker.Sound ∧ w.tracker.runningJobs ≤ n) Fails := by
  have hsound : ∀ t : JobTracker, t.Sound ∧ t.runningJobs ≤ n → t.Sound := fun t ht => ht.1
  refine Triple.bind triple_removeContext fun context => ?_
  rcases result with ⟨id, (e | ⟨⟩) | reason⟩
  · exact keeps_recordFailure hsound
  · exact keeps_query hsound
  · exact keeps_recordFailure hsound

/-- With a round for each job that is tracked, the loop ends when no result is left. -/
theorem triple_processLoop (rounds : ℕ) :
    Triple (fun w => w.tracker.Sound ∧ w.tracker.runningJobs ≤ rounds) (processLoop q env rounds)
      (fun _ w => w.tracker.Sound ∧ w.tracker.lastJoinResult = none) Fails := by
  induction rounds with
  | zero =>
    refine triple_pure fun w hw => ⟨hw.1, ?_⟩
    have hzero := hw.2
    unfold JobTracker.runningJobs at hzero
    cases hwaiting : w.tracker.lastJoinResult with
    | none => rfl
    | some result => simp [hwaiting] at hzero
  | succ rounds ih =>
    have htake : Triple (fun w => w.tracker.Sound ∧ w.tracker.runningJobs ≤ rounds + 1) takeResult
        (fun result w => match result with
          | none => w.tracker.Sound ∧ w.tracker.lastJoinResult = none
          | some result => w.tracker.Sound ∧ w.tracker.runningJobs ≤ rounds ∧
              w.tracker.jobContexts.contains result.1 ∧ result.1 ∉ w.tracker.taskIds) Fails := by
      refine triple_call (fun w hw waiting w' hrun => ?_) (fun w hw e w' hrun => ?_)
      · obtain ⟨hwaiting, rfl⟩ := Prod.mk.inj hrun
        cases hwaiting
        cases hresult : w.tracker.lastJoinResult with
        | none =>
          have hsame : w.tracker.withoutResult = w.tracker := by
            unfold JobTracker.withoutResult
            rw [← hresult]
          exact ⟨hsame ▸ hw.1, rfl⟩
        | some result =>
          obtain ⟨hsound, hone, hcontext, hnot⟩ := hw.1.withoutResult hresult
          have hle := hw.2
          exact ⟨hsound, by change w.tracker.withoutResult.runningJobs ≤ rounds; omega, hcontext,
            hnot⟩
      · cases (Prod.mk.inj hrun).1
    refine Triple.bind htake fun waiting => ?_
    cases waiting with
    | none => exact triple_pure fun w hw => hw
    | some result =>
      refine Triple.bind triple_processResult fun _ => ?_
      refine Triple.bind (triple_track (P := fun t => t.Sound ∧ t.runningJobs ≤ rounds)
        (Q := fun t => t.Sound ∧ t.runningJobs ≤ rounds) fun t ht => ?_) fun _ => ih
      have hsame : (((env.meanwhile rounds).foldl JobTracker.finish t).joinNext).runningJobs =
          t.runningJobs := by
        rw [JobTracker.runningJobs_joinNext, ← JobTracker.length_taskIds,
          (JobTracker.taskIds_foldl_finish _).length_eq, JobTracker.length_taskIds]
      exact ⟨(ht.1.foldl_finish _).joinNext, hsame ▸ ht.2⟩

theorem triple_processJobs : Triple (fun w => w.tracker.Sound) (processJobs q env)
      (fun _ w => w.tracker.Sound ∧ w.tracker.lastJoinResult = none) Fails := by
  refine Triple.bind (triple_track fun t ht => JobTracker.Sound.joinNext ht) fun _ => ?_
  refine Triple.bind triple_read fun rounds => ?_
  exact (triple_processLoop rounds).of_imp fun w hw => ⟨hw.1, Nat.le_of_eq hw.2.symm⟩

/-- What is reserved finds room. -/
theorem keeps_fetchJobs :
    Triple (fun w => w.tracker.Sound ∧ w.tracker.lastJoinResult = none) (fetchJobs env)
      (fun _ w => w.tracker.Sound) Fails := by
  refine Triple.bind (triple_read (P := fun t => t.Sound ∧ t.lastJoinResult = none))
    fun tracker => ?_
  split_ifs
  · exact triple_pure fun w hw => hw.1.1
  have hreserve : Triple (fun w => (w.tracker.Sound ∧ w.tracker.lastJoinResult = none) ∧
        tracker = w.tracker)
      (reserve env tracker.queues (jobsToFetchCapacity tracker.runningJobs))
      (fun jobs w => ((w.tracker.Sound ∧ w.tracker.lastJoinResult = none) ∧ tracker = w.tracker) ∧
        jobs.length ≤ jobsToFetchCapacity tracker.runningJobs) Fails := by
    refine triple_query (P := fun t => (t.Sound ∧ t.lastJoinResult = none) ∧ tracker = t)
      (fun t ht => ht.1.1) fun db jobs hjobs => ?_
    cases hlost : env.lost with
    | some e => simp [hlost] at hjobs
    | none =>
      simp only [hlost, autocommit] at hjobs
      split at hjobs
      · next jobs' db' hexec =>
        cases hjobs
        exact QueueJobRepository.length_reserve hexec
      · cases hjobs
      · cases hjobs
  refine Triple.bind hreserve fun jobs => ?_
  refine triple_track (P := fun t => ((t.Sound ∧ t.lastJoinResult = none) ∧ tracker = t) ∧
    jobs.length ≤ jobsToFetchCapacity tracker.runningJobs) fun t ht => ?_
  obtain ⟨⟨⟨hsound, hnone⟩, rfl⟩, hlength⟩ := ht
  have hcapacity := hsound.add_capacity_le
  exact hsound.spawnReservedJobs hnone (by omega)

theorem keeps_tickWorker :
    Triple (fun w => w.tracker.Sound) (tickWorker q env) (fun _ w => w.tracker.Sound) Fails := by
  refine Triple.bind keeps_getConnection fun _ => ?_
  refine Triple.bind keeps_sendHeartbeat fun _ => ?_
  refine Triple.bind (keeps_query fun t ht => ht) fun _ => ?_
  refine Triple.bind (keeps_query fun t ht => ht) fun leader => ?_
  refine Triple.bind triple_processJobs fun _ => ?_
  refine Triple.bind keeps_fetchJobs fun _ => ?_
  exact triple_pure fun w hw => hw

theorem keeps_drainRound : Triple (fun w => w.tracker.Sound) (drainRound q env)
      (fun _ w => w.tracker.Sound ∧ w.tracker.lastJoinResult = none) Fails := by
  refine Triple.bind (triple_track fun t ht => JobTracker.Sound.joinNext ht) fun _ => ?_
  exact Triple.bind keeps_getConnection fun _ => triple_processJobs

theorem sound_step (w : QueueWorker) (hw : w.tracker.Sound) (event : Event) :
    (step q w event).tracker.Sound := by
  cases event with
  | ended result => exact hw.foldl_finish [result]
  | joined =>
    unfold step
    split_ifs
    · exact hw.joinNext
    · exact hw
  | tick env => exact keeps_tickWorker.state hw (fun _ _ h => h) fun _ _ h => h.1
  | drain env => exact keeps_drainRound.state hw (fun _ _ h => h.1) fun _ _ h => h.1

theorem sound_run (factories : List String) (lastHeartbeat : Time) (db : Database)
    (events : List Event) :
    (Sequential.run (step q) ⟨.new factories, lastHeartbeat, db⟩ events).tracker.Sound :=
  Sequential.run_invariant (fun w event _ hw => sound_step w hw event)
    (JobTracker.sound_new factories)

/-- In no run of a worker are more jobs tracked than it may run at a time. -/
theorem running_jobs_bounded (q : QueueCalls) (factories : List String) (lastHeartbeat : Time)
    (db : Database) (events : List Event) :
    (Sequential.run (step q) ⟨.new factories, lastHeartbeat, db⟩ events).tracker.runningJobs ≤
      maxConcurrentJobs :=
  (sound_run factories lastHeartbeat db events).le

/-- A worker never misses the context of a job whose result it processes. -/
theorem tickWorker_ne_panic (factories : List String) (lastHeartbeat : Time) (db : Database)
    (events : List Event) (message : String) :
    ((tickWorker q env).exec
      (Sequential.run (step q) ⟨.new factories, lastHeartbeat, db⟩ events)).1 ≠
        .error (.panic message) := by
  intro hpanic
  have hrun := sound_run (q := q) factories lastHeartbeat db events
  exact ((keeps_tickWorker _ hrun).2 _ _ (Prod.ext hpanic rfl)).2 message rfl

end Ticks

end Pasion.Worker

import Pasion.Pg.Cleanup
import Pasion.Relational.Sequential

/-! The activity tracker: records kept in memory and written in batches. -/
namespace Pasion.ActivityTracker

open Relational Txn Table

inductive SessionKind where
  | oauth2
  | personal
  | browser
  deriving DecidableEq

structure ActivityRecord where
  endTime : Time
  ip : Option IpAddr

abbrev Key := SessionKind × Ulid

abbrev LastActive := Option Time × Option IpAddr

/-- `GREATEST` ignores a null, `COALESCE` skips it. -/
def ActivityRecord.over (record : ActivityRecord) (a : LastActive) : LastActive :=
  (some (max record.endTime (a.1.getD record.endTime)), record.ip.or a.2)

structure SessionTable (R : Type) where
  name : TableName
  table : Database → Table Ulid R
  put : Table Ulid R → Database → Database
  lastActive : R → LastActive
  setLastActive : LastActive → R → R
  table_put : ∀ t db, table (put t db) = t
  lastActive_set : ∀ a r, lastActive (setLastActive a r) = a

def browserSessions : SessionTable UserSessionRow where
  name := .userSessions
  table := (·.userSessions)
  put t db := { db with userSessions := t }
  lastActive r := (r.lastActiveAt, r.lastActiveIp)
  setLastActive a r := { r with lastActiveAt := a.1, lastActiveIp := a.2 }
  table_put _ _ := rfl
  lastActive_set _ _ := rfl

def oauth2Sessions : SessionTable OAuth2SessionRow where
  name := .oauth2Sessions
  table := (·.oauth2Sessions)
  put t db := { db with oauth2Sessions := t }
  lastActive r := (r.lastActiveAt, r.lastActiveIp)
  setLastActive a r := { r with lastActiveAt := a.1, lastActiveIp := a.2 }
  table_put _ _ := rfl
  lastActive_set _ _ := rfl

def personalSessions : SessionTable PersonalSessionRow where
  name := .personalSessions
  table := (·.personalSessions)
  put t db := { db with personalSessions := t }
  lastActive r := (r.lastActiveAt, r.lastActiveIp)
  setLastActive a r := { r with lastActiveAt := a.1, lastActiveIp := a.2 }
  table_put _ _ := rfl
  lastActive_set _ _ := rfl

abbrev Activities := List (Ulid × ActivityRecord)

namespace SessionTable

variable {R : Type} {ε : Type} [FromRepository ε]

def recordRow (t : SessionTable R) (activities : Activities) (id : Ulid) (r : R) : R :=
  match activities.lookup id with
  | some record => t.setLastActive (record.over (t.lastActive r)) r
  | none => r

def record (t : SessionTable R) (activities : Activities) (db : Database) : Database :=
  t.put ((t.table db).mapRows (t.recordRow activities)) db

/-- The rows are locked in the order of their ids. -/
def recordBatchActivity (t : SessionTable R) (activities : Activities) : Repo ε Unit := do
  let matched (db : Database) := (t.table db).select (fun id _ => (activities.lookup id).isSome)
  let rowsAffected ← Repo.statement Repo.unconstrained
    (fun db => ⟨t.record activities, (matched db).map (fun r => .row t.name r.1)⟩)
    (fun db => (matched db).length)
  Repo.ensureAffectedRows rowsAffected activities.length

variable {t : SessionTable R} {activities : Activities} {db db' : Database}

theorem length_matched (hnodup : (activities.map Prod.fst).Nodup) :
    ((t.table db).select (fun id _ => (activities.lookup id).isSome)).length = activities.length ↔
      ∀ a ∈ activities, (t.table db).contains a.1 := by
  have hperm : (((t.table db).select (fun id _ => (activities.lookup id).isSome)).map
      Prod.fst).Perm ((activities.map Prod.fst).filter (t.table db).contains) := by
    refine (List.perm_ext_iff_of_nodup (nodup_keys_select _) (hnodup.filter _)).mpr ?_
    intro id
    simp only [List.mem_map, Prod.exists, exists_and_right, exists_eq_right, mem_select,
      List.lookup_isSome_iff, beq_iff_eq, List.mem_filter, contains_iff_exists]
    constructor
    · rintro ⟨hrow, _, hmem, rfl⟩
      exact ⟨hmem, hrow⟩
    · rintro ⟨hmem, hrow⟩
      exact ⟨hrow, id, hmem, rfl⟩
  have hlength : ((t.table db).select (fun id _ => (activities.lookup id).isSome)).length =
      ((activities.map Prod.fst).filter (t.table db).contains).length := by
    rw [← hperm.length_eq, List.length_map]
  have hactivities : activities.length = (activities.map Prod.fst).length :=
    (List.length_map ..).symm
  rw [hlength, hactivities, List.length_filter_eq_length_iff]
  simp only [List.mem_map, forall_exists_index, and_imp, forall_apply_eq_imp_iff₂]

theorem returns_recordBatchActivity (hnodup : (activities.map Prod.fst).Nodup) {u : Unit} :
    (t.recordBatchActivity activities : Repo ε Unit).Returns db u db' ↔
      (∀ a ∈ activities, (t.table db).contains a.1) ∧ t.record activities db = db' := by
  rw [← length_matched hnodup]
  simp only [recordBatchActivity, Repo.ensureAffectedRows, returns_bind, Repo.returns_statement,
    Repo.unconstrained, returns_require]
  constructor
  · rintro ⟨_, _, ⟨-, rfl, rfl⟩, hlength, rfl⟩
    exact ⟨of_decide_eq_true hlength, rfl⟩
  · rintro ⟨hlength, rfl⟩
    exact ⟨_, _, ⟨trivial, rfl, rfl⟩, decide_eq_true hlength, rfl⟩

theorem lastActive_record (id : Ulid) :
    ((t.table (t.record activities db)).get? id).map t.lastActive =
      (((t.table db).get? id).map t.lastActive).map
        (fun a => (activities.lookup id).elim a (·.over a)) := by
  rw [SessionTable.record, t.table_put, get?_mapRows]
  cases (t.table db).get? id with
  | none => rfl
  | some r => cases hlookup : activities.lookup id <;> simp [recordRow, hlookup, t.lastActive_set]

end SessionTable

/-- The records that wait to be written, one for each session. -/
structure Worker where
  pendingRecords : List (Key × ActivityRecord)
  nodup : (pendingRecords.map Prod.fst).Nodup

namespace Worker

def maxPendingRecords : ℕ := 1000

def empty : Worker := ⟨[], .nil⟩

def ofKind (w : Worker) (kind : SessionKind) : Activities :=
  w.pendingRecords.filterMap (fun r => if r.1.1 = kind then some (r.1.2, r.2) else none)

def tryFlush (w : Worker) : Repo DatabaseError Unit := do
  browserSessions.recordBatchActivity (w.ofKind .browser)
  oauth2Sessions.recordBatchActivity (w.ofKind .oauth2)
  personalSessions.recordBatchActivity (w.ofKind .personal)

/-- The records are kept when they could not be written. -/
def flush (w : Worker) (db : Database) : Worker × Database :=
  if w.pendingRecords.isEmpty then (w, db)
  else
    match w.tryFlush.transact db with
    | (.ok _, db') => (empty, db')
    | (.error _, db') => (w, db')

def moveEnd (key : Key) (dateTime : Time) (r : Key × ActivityRecord) : Key × ActivityRecord :=
  if r.1 = key then (r.1, { r.2 with endTime := max dateTime r.2.endTime }) else r

theorem moveEnd_fst (key : Key) (dateTime : Time) (r : Key × ActivityRecord) :
    (moveEnd key dateTime r).1 = r.1 := by
  unfold moveEnd
  split_ifs <;> rfl

/-- A record of a session that is pending already only moves its end. -/
def record (w : Worker) (key : Key) (dateTime : Time) (ip : Option IpAddr) : Worker :=
  if h : key ∈ w.pendingRecords.map Prod.fst then
    { pendingRecords := w.pendingRecords.map (moveEnd key dateTime)
      nodup := by
        have hkeys : Prod.fst ∘ moveEnd key dateTime = Prod.fst := funext (moveEnd_fst key dateTime)
        rw [List.map_map, hkeys]
        exact w.nodup }
  else
    { pendingRecords := (key, ⟨dateTime, ip⟩) :: w.pendingRecords
      nodup := List.nodup_cons.mpr ⟨h, w.nodup⟩ }

end Worker

inductive Message where
  | record (key : Key) (dateTime : Time) (ip : Option IpAddr)
  | flush

/-- Too many records are flushed before one more, which is dropped if that does not help. -/
def Worker.handle (w : Worker) (db : Database) : Message → Worker × Database
  | .record key dateTime ip =>
    let (w, db) := if maxPendingRecords ≤ w.pendingRecords.length then w.flush db else (w, db)
    if maxPendingRecords ≤ w.pendingRecords.length then (w, db)
    else (w.record key dateTime ip, db)
  | .flush => w.flush db

section Flush

def lastActive? (db : Database) : Key → Option LastActive
  | (.browser, id) => (db.userSessions.get? id).map browserSessions.lastActive
  | (.oauth2, id) => (db.oauth2Sessions.get? id).map oauth2Sessions.lastActive
  | (.personal, id) => (db.personalSessions.get? id).map personalSessions.lastActive

variable {w : Worker} {db db' : Database}

theorem Worker.mem_ofKind {kind : SessionKind} {id : Ulid} {record : ActivityRecord} :
    (id, record) ∈ w.ofKind kind ↔ ((kind, id), record) ∈ w.pendingRecords := by
  simp only [ofKind, List.mem_filterMap, Option.ite_none_right_eq_some, Option.some.injEq,
    Prod.mk.injEq, Prod.exists]
  constructor
  · rintro ⟨_, _, _, hmem, rfl, rfl, rfl⟩
    exact hmem
  · intro hmem
    exact ⟨kind, id, record, hmem, rfl, rfl, rfl⟩

theorem Worker.nodup_ofKind (kind : SessionKind) : ((w.ofKind kind).map Prod.fst).Nodup := by
  have hkeys : (w.ofKind kind).map Prod.fst = (w.pendingRecords.map Prod.fst).filterMap
      (fun key => if key.1 = kind then some key.2 else none) := by
    rw [ofKind, List.map_filterMap, List.filterMap_map]
    refine List.filterMap_congr fun r _ => ?_
    by_cases hkind : r.1.1 = kind <;> simp [hkind]
  rw [hkeys]
  refine w.nodup.filterMap fun key key' id hid hid' => ?_
  simp only [Option.mem_def, Option.ite_none_right_eq_some, Option.some.injEq] at hid hid'
  exact Prod.ext (hid.1.trans hid'.1.symm) (hid.2.trans hid'.2.symm)

def Worker.AllPresent (w : Worker) (db : Database) : Prop :=
  ∀ key record, (key, record) ∈ w.pendingRecords → (lastActive? db key).isSome

/-- Every pending record of a session that is there is written already. -/
def Worker.AllRecorded (w : Worker) (db : Database) : Prop :=
  ∀ key record a, (key, record) ∈ w.pendingRecords → lastActive? db key = some a → record.over a = a

def Worker.written (w : Worker) (db : Database) : Database :=
  personalSessions.record (w.ofKind .personal)
    (oauth2Sessions.record (w.ofKind .oauth2) (browserSessions.record (w.ofKind .browser) db))

theorem Worker.allPresent_iff : w.AllPresent db ↔
      (∀ a ∈ w.ofKind .browser, db.userSessions.contains a.1) ∧
      (∀ a ∈ w.ofKind .oauth2, db.oauth2Sessions.contains a.1) ∧
      ∀ a ∈ w.ofKind .personal, db.personalSessions.contains a.1 := by
  simp only [Prod.forall, mem_ofKind]
  constructor
  · intro h
    refine ⟨fun id record hmem => ?_, fun id record hmem => ?_, fun id record hmem => ?_⟩ <;>
      simpa [lastActive?, Table.contains] using h _ record hmem
  · rintro ⟨hbrowser, hoauth2, hpersonal⟩ ⟨kind, id⟩ record hmem
    cases kind with
    | browser => simpa [lastActive?, Table.contains] using hbrowser id record hmem
    | oauth2 => simpa [lastActive?, Table.contains] using hoauth2 id record hmem
    | personal => simpa [lastActive?, Table.contains] using hpersonal id record hmem

theorem Worker.returns_tryFlush {u : Unit} :
    w.tryFlush.Returns db u db' ↔ w.AllPresent db ∧ w.written db = db' := by
  simp only [tryFlush, returns_bind, SessionTable.returns_recordBatchActivity (nodup_ofKind _),
    allPresent_iff]
  constructor
  · rintro ⟨_, _, ⟨hbrowser, rfl⟩, _, _, ⟨hoauth2, rfl⟩, hpersonal, rfl⟩
    exact ⟨⟨hbrowser, hoauth2, hpersonal⟩, rfl⟩
  · rintro ⟨⟨hbrowser, hoauth2, hpersonal⟩, rfl⟩
    exact ⟨(), _, ⟨hbrowser, rfl⟩, (), _, ⟨hoauth2, rfl⟩, hpersonal, rfl⟩

theorem Worker.savesError_tryFlush {e : DatabaseError} : ¬w.tryFlush.SavesError db e db' := by
  simp [tryFlush, SessionTable.recordBatchActivity, Repo.ensureAffectedRows]

/-- One record without its session holds up all the others. -/
theorem Worker.flush_of_missing (h : ¬w.AllPresent db) : w.flush db = (w, db) := by
  have hnone : ¬w.tryFlush.Succeeds db := fun ⟨_, _, hreturns⟩ => h (returns_tryFlush.mp hreturns).1
  unfold flush
  split_ifs with hempty
  · rfl
  · obtain ⟨e, he⟩ := transact_of_not_succeeds hnone fun _ _ => savesError_tryFlush
    rw [he]

theorem Worker.flush_of_allPresent (h : w.AllPresent db) (hpending : w.pendingRecords ≠ []) :
    w.flush db = (empty, w.written db) := by
  have hreturns : w.tryFlush.Returns db () (w.written db) := returns_tryFlush.mpr ⟨h, rfl⟩
  rw [flush, if_neg (by simpa using hpending), Txn.transact, hreturns]

/-- The last activity of a session, with the record that is pending for it. -/
def Worker.known (w : Worker) (db : Database) (key : Key) : Option LastActive :=
  (lastActive? db key).map (fun a => (w.pendingRecords.lookup key).elim a (·.over a))

theorem Worker.lookup_ofKind (kind : SessionKind) (id : Ulid) :
    (w.ofKind kind).lookup id = w.pendingRecords.lookup (kind, id) := by
  unfold ofKind
  induction w.pendingRecords with
  | nil => rfl
  | cons r rest ih => grind

theorem Worker.lastActive?_written (key : Key) :
    lastActive? (w.written db) key = w.known db key := by
  obtain ⟨kind, id⟩ := key
  rw [known, ← lookup_ofKind]
  cases kind with
  | browser => exact browserSessions.lastActive_record id
  | oauth2 => exact oauth2Sessions.lastActive_record id
  | personal => exact personalSessions.lastActive_record id

theorem Worker.lookup_of_mem {key : Key} {record : ActivityRecord}
    (hmem : (key, record) ∈ w.pendingRecords) : w.pendingRecords.lookup key = some record := by
  obtain ⟨pending, hnodup⟩ := w
  change (key, record) ∈ pending at hmem
  show pending.lookup key = some record
  induction pending with
  | nil => cases hmem
  | cons r rest ih =>
    obtain ⟨hfresh, hrest⟩ := List.nodup_cons.mp hnodup
    rcases List.mem_cons.mp hmem with rfl | hmem
    · simp
    · have hne : key ≠ r.1 := fun heq => hfresh (heq ▸ List.mem_map_of_mem hmem)
      rw [List.lookup_cons, beq_false_of_ne hne]
      exact ih hrest hmem

/-- A flush writes what it should exactly when all the sessions are there, or none need it. -/
theorem persists_iff (w : Worker) (db : Database) :
    (∀ key record a, (key, record) ∈ w.pendingRecords → lastActive? db key = some a →
      lastActive? (w.flush db).2 key = some (record.over a)) ↔
    w.AllPresent db ∨ w.AllRecorded db := by
  constructor
  · intro hpersists
    by_cases hpresent : w.AllPresent db
    · exact .inl hpresent
    · refine .inr fun key record a hmem ha => ?_
      have hwritten := hpersists key record a hmem ha
      rw [Worker.flush_of_missing hpresent, ha] at hwritten
      exact (Option.some.inj hwritten).symm
  · intro h key record a hmem ha
    by_cases hpresent : w.AllPresent db
    · rw [Worker.flush_of_allPresent hpresent (List.ne_nil_of_mem hmem)]
      rw [Worker.lastActive?_written, Worker.known, ha, Worker.lookup_of_mem hmem]
      rfl
    · rw [Worker.flush_of_missing hpresent, h.resolve_left hpresent key record a hmem ha]
      exact ha

def twoSessions : Database := { Database.alice with
  userSessions := (Table.empty.insert 2 ⟨1, 0, some 1, none, none, none⟩).insert 3
    ⟨1, 0, none, none, none, none⟩ }

def bothActive : Worker :=
  ⟨[((.browser, 2), ⟨1, none⟩), ((.browser, 3), ⟨5, some "::1"⟩)], by decide⟩

theorem cleanup_holds_up_flush :
    let cleanup : Repo DatabaseError _ := BrowserSessionRepository.cleanupFinished id none 2 10
    let db := (cleanup.transact twoSessions).2
    cleanup.Succeeds twoSessions ∧ lastActive? db (.browser, 3) = some (none, none) ∧
      lastActive? (bothActive.flush db).2 (.browser, 3) = some (none, none) := by
  decide +kernel

end Flush

section Runs

variable {w : Worker} {db : Database} {key key' : Key} {dateTime : Time} {ip : Option IpAddr}

def Worker.handleAll (w : Worker) (db : Database) (messages : List Message) : Worker × Database :=
  messages.foldl (fun c message => c.1.handle c.2 message) (w, db)

/-- A record is pending for a session that is gone. -/
def Worker.Stuck (key : Key) (w : Worker) (db : Database) : Prop :=
  key ∈ w.pendingRecords.map Prod.fst ∧ lastActive? db key = none

theorem Worker.Stuck.flush (h : w.Stuck key db) : w.flush db = (w, db) := by
  obtain ⟨hkey, hgone⟩ := h
  obtain ⟨⟨_, record⟩, hmem, rfl⟩ := List.mem_map.mp hkey
  refine flush_of_missing fun hpresent => ?_
  have hsome := hpresent _ record hmem
  rw [hgone] at hsome
  cases hsome

theorem Worker.mem_keys_record : key ∈ (w.record key' dateTime ip).pendingRecords.map Prod.fst ↔
    key = key' ∨ key ∈ w.pendingRecords.map Prod.fst := by
  have hkeys : Prod.fst ∘ moveEnd key' dateTime = Prod.fst := funext (moveEnd_fst key' dateTime)
  unfold Worker.record
  split_ifs with hpending
  · rw [List.map_map, hkeys]
    exact ⟨.inr, fun h => h.elim (fun heq => heq ▸ hpending) id⟩
  · exact List.mem_cons

theorem Worker.Stuck.handle (h : w.Stuck key db) (message : Message) :
    (w.handle db message).2 = db ∧ (w.handle db message).1.Stuck key db := by
  cases message with
  | flush =>
    rw [Worker.handle, h.flush]
    exact ⟨rfl, h⟩
  | record key' dateTime ip =>
    simp only [Worker.handle, h.flush, ite_self]
    split_ifs
    · exact ⟨rfl, h⟩
    · exact ⟨rfl, mem_keys_record.mpr (.inr h.1), h.2⟩

/-- Whatever others write meanwhile, a stuck worker writes nothing until the session is back. -/
theorem stuck_worker_writes_nothing (key : Key) (w : Worker) (events : List (Database × Message))
    (hkey : key ∈ w.pendingRecords.map Prod.fst)
    (hgone : ∀ event ∈ events, lastActive? event.1 key = none) :
    Sequential.Along (fun (w : Worker) event => (w.handle event.1 event.2).1)
      (fun w event => (w.handle event.1 event.2).2 = event.1) w events := by
  induction events generalizing w with
  | nil => trivial
  | cons event rest ih =>
    have hstuck : w.Stuck key event.1 := ⟨hkey, hgone event List.mem_cons_self⟩
    obtain ⟨hdb, hafter⟩ := hstuck.handle event.2
    exact ⟨hdb, ih _ hafter.1 fun event' h => hgone event' (List.mem_cons_of_mem _ h)⟩

def secondCleanedUp : Database := { Database.alice with
  userSessions := Table.empty.insert 3 ⟨1, 0, none, none, none, none⟩ }

theorem flush_after_cleanup_writes_nothing :
    lastActive? secondCleanedUp (.browser, 3) = some (none, none) ∧ Sequential.Along
      (fun (w : Worker) event => (w.handle event.1 event.2).1)
      (fun w event => (w.handle event.1 event.2).2 = event.1) bothActive
      [(secondCleanedUp, .flush), (secondCleanedUp, .record (.browser, 3) 9 none),
        (secondCleanedUp, .flush)] :=
  ⟨rfl, stuck_worker_writes_nothing (.browser, 2) bothActive _ (by decide) (by decide)⟩

/-- The time of the last activity of a session after a message, were each one written at once. -/
def latest (key : Key) (time : Option Time) : Message → Option Time
  | .record key' dateTime _ => if key = key' then some (max dateTime (time.getD dateTime)) else time
  | .flush => time

def Worker.time (w : Worker) (db : Database) (key : Key) : Option (Option Time) :=
  (w.known db key).map Prod.fst

/-- A flush moves what is pending into the database. -/
theorem Worker.AllPresent.flush (h : w.AllPresent db) : (w.flush db).1.pendingRecords = [] ∧
    ∀ key, lastActive? (w.flush db).2 key = w.known db key := by
  by_cases hpending : w.pendingRecords = []
  · simp [Worker.flush, known, hpending]
  · rw [flush_of_allPresent h hpending]
    exact ⟨rfl, lastActive?_written⟩

theorem Worker.lookup_map_moveEnd (l : List (Key × ActivityRecord)) : (l.map (moveEnd key' dateTime)).lookup key =
      (l.lookup key).map (fun r => (moveEnd key' dateTime (key, r)).2) := by
  induction l with
  | nil => rfl
  | cons r rest ih => grind [moveEnd]

theorem isSome_lookup_iff {l : List (Key × ActivityRecord)} :
    (l.lookup key).isSome ↔ key ∈ l.map Prod.fst := by
  rw [List.lookup_isSome_iff, List.mem_map]
  simp only [beq_iff_eq, @eq_comm _ key]

theorem Worker.lookup_record : (w.record key' dateTime ip).pendingRecords.lookup key =
      if key = key' then
        some ((w.pendingRecords.lookup key).elim ⟨dateTime, ip⟩
          (fun r => { r with endTime := max dateTime r.endTime }))
      else w.pendingRecords.lookup key := by
  unfold Worker.record
  split_ifs with hpending hkey hkey
  · subst hkey
    obtain ⟨r, hr⟩ := Option.isSome_iff_exists.mp (isSome_lookup_iff.mpr hpending)
    simp [lookup_map_moveEnd, moveEnd, hr]
  · simp [lookup_map_moveEnd, moveEnd, hkey]
  · subst hkey
    simp [Option.not_isSome_iff_eq_none.mp (mt isSome_lookup_iff.mp hpending)]
  · rw [List.lookup_cons, beq_false_of_ne hkey]

theorem Worker.time_record : (w.record key' dateTime ip).time db key =
      (w.time db key).map (latest key · (.record key' dateTime ip)) := by
  rw [time, time, known, known, lookup_record]
  rcases lastActive? db key with _ | ⟨time, _⟩
  · rfl
  · by_cases hkey : key = key' <;> cases w.pendingRecords.lookup key <;> cases time <;>
      simp [latest, ActivityRecord.over, hkey, max_assoc]

theorem Worker.AllPresent.record (h : w.AllPresent db) (hkey : (lastActive? db key).isSome) :
    (w.record key dateTime ip).AllPresent db := by
  intro key' r hmem
  rcases mem_keys_record.mp (List.mem_map_of_mem hmem) with rfl | hold
  · exact hkey
  · obtain ⟨⟨_, r'⟩, hmem', rfl⟩ := List.mem_map.mp hold
    exact h _ r' hmem'

theorem Worker.AllPresent.handle (h : w.AllPresent db) (message : Message)
    (hpresent : ∀ key dateTime ip, message = .record key dateTime ip → (lastActive? db key).isSome) :
    (w.handle db message).1.AllPresent (w.handle db message).2 ∧ ∀ key,
      (w.handle db message).1.time (w.handle db message).2 key =
        (w.time db key).map (latest key · message) := by
  obtain ⟨hnil, hflushed⟩ := h.flush
  have hnone : (w.flush db).1.AllPresent (w.flush db).2 := fun _ _ hmem => by simp [hnil] at hmem
  have htime : ∀ key, (w.flush db).1.time (w.flush db).2 key = w.time db key := fun key => by
    rw [time, time, ← hflushed, known, hnil]
    cases lastActive? (w.flush db).2 key <;> rfl
  cases message with
  | flush =>
    refine ⟨hnone, fun key => (htime key).trans ?_⟩
    cases w.time db key <;> rfl
  | record key' dateTime ip =>
    have hkey' := hpresent key' dateTime ip rfl
    unfold Worker.handle
    by_cases hfull : maxPendingRecords ≤ w.pendingRecords.length
    · simp only [hfull, if_true, hnil]
      refine ⟨hnone.record (by simpa [hflushed, known] using hkey'), fun key => ?_⟩
      rw [← htime]
      exact time_record
    · simp only [hfull, if_false]
      exact ⟨h.record hkey', fun key => time_record⟩

theorem Worker.AllPresent.handleAll (h : w.AllPresent db) (messages : List Message)
    (hpresent : ∀ key dateTime ip, .record key dateTime ip ∈ messages →
      (lastActive? db key).isSome) :
    (w.handleAll db messages).1.AllPresent (w.handleAll db messages).2 ∧ ∀ key,
      (w.handleAll db messages).1.time (w.handleAll db messages).2 key =
        (w.time db key).map (messages.foldl (latest key)) := by
  induction messages generalizing w db with
  | nil => exact ⟨h, fun key => Option.map_id'.symm⟩
  | cons message rest ih =>
    obtain ⟨hstep, htime⟩ := h.handle message fun key t ip heq =>
      hpresent key t ip (heq ▸ List.mem_cons_self)
    have hstill : ∀ key, (lastActive? (w.handle db message).2 key).isSome =
        (lastActive? db key).isSome := fun key => by
      simpa [time, known] using congrArg Option.isSome (htime key)
    obtain ⟨hrest, htimes⟩ := ih hstep fun key t ip hmem =>
      (hstill key).trans (hpresent key t ip (List.mem_cons_of_mem _ hmem))
    refine ⟨hrest, fun key => (htimes key).trans ?_⟩
    rw [htime, Option.map_map]
    rfl

/-- While no session is deleted, a run that ends with a flush leaves each session with the time it
would have if every message were written at once. -/
theorem last_active_is_latest (db : Database) (messages : List Message)
    (hpresent : ∀ key dateTime ip, .record key dateTime ip ∈ messages →
      (lastActive? db key).isSome) (key : Key) :
    let c := Worker.empty.handleAll db messages
    (lastActive? (c.1.flush c.2).2 key).map Prod.fst =
      (lastActive? db key).map (fun a => messages.foldl (latest key) a.1) := by
  have hempty : Worker.empty.AllPresent db := fun _ _ hmem => nomatch hmem
  obtain ⟨hall, htime⟩ := hempty.handleAll messages hpresent
  refine (congrArg _ (hall.flush.2 key)).trans ((htime key).trans ?_)
  simp [Worker.time, Worker.known, Worker.empty, Function.comp_def]

theorem both_sessions_latest :
    let messages : List Message := [.record (.browser, 2) 7 none, .flush,
      .record (.browser, 3) 5 (some "::1"), .record (.browser, 2) 9 none, .record (.browser, 2) 8 none]
    let c := Worker.empty.handleAll twoSessions messages
    (lastActive? (c.1.flush c.2).2 (.browser, 2)).map Prod.fst = some (some 9) ∧
      (lastActive? (c.1.flush c.2).2 (.browser, 3)).map Prod.fst = some (some 5) := by
  intro messages
  have hpresent : ∀ key dateTime ip, .record key dateTime ip ∈ messages →
      (lastActive? twoSessions key).isSome := by
    intro key dateTime ip hmem
    simp only [messages, List.mem_cons, List.not_mem_nil, or_false, Message.record.injEq, reduceCtorEq,
      false_or] at hmem
    rcases hmem with ⟨rfl, -⟩ | ⟨rfl, -⟩ | ⟨rfl, -⟩ | ⟨rfl, -⟩ <;> rfl
  exact ⟨last_active_is_latest twoSessions messages hpresent (.browser, 2),
    last_active_is_latest twoSessions messages hpresent (.browser, 3)⟩

end Runs

end Pasion.ActivityTracker

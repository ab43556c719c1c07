import Pasion.Pg.Users

/-! Account recovery: a ticket is traded for a new password, once per recovery session. -/
namespace Pasion.Recovery

open Relational Txn Table

inductive CompleteAccountRecoveryError where
  | passwordDisabled
  | passwordTooWeak
  | ticketNotFound
  | sessionNotFound
  | alreadyConsumed
  | ticketExpired
  | emailNotFound
  | userNotFound
  | accountLocked
  | password (message : String)
  | repository (e : DatabaseError)

instance : FromRepository CompleteAccountRecoveryError := ⟨.repository⟩

/-- The strength estimate and the hashing of passwords, with the randomness of one request. -/
structure PasswordManager where
  isEnabled : Bool
  isPasswordComplexEnough : String → Except String Bool
  hash : String → Except String (ℕ × String)

structure Request where
  passwordManager : PasswordManager
  now : Time
  passwordId : Ulid
  (ticketString newPassword : String)
  recoveryAllowed : Bool

def loadAccountRecoveryTicket (ticketString : String) :
    Repo CompleteAccountRecoveryError (UserRecoveryTicket × UserRecoverySession) := do
  let found ← UserRecoveryRepository.findTicket ticketString
  let ticket ← Txn.ofOption found .ticketNotFound
  let found ← UserRecoveryRepository.lookupSession ticket.userRecoverySessionId
  let session ← Txn.ofOption found .sessionNotFound
  pure (ticket, session)

def completeAccountRecovery (request : Request) : Repo CompleteAccountRecoveryError Unit := do
  Txn.require (request.passwordManager.isEnabled && request.recoveryAllowed) .passwordDisabled
  let complex ← Txn.ofExcept
    (request.passwordManager.isPasswordComplexEnough request.newPassword) .password
  Txn.require complex .passwordTooWeak
  let (ticket, session) ← loadAccountRecoveryTicket request.ticketString
  Txn.require session.consumedAt.isNone .alreadyConsumed
  Txn.require (ticket.active request.now) .ticketExpired
  let found ← UserEmailRepository.lookup ticket.userEmailId
  let userEmail ← Txn.ofOption found .emailNotFound
  let found ← UserRepository.lookup userEmail.userId
  let user ← Txn.ofOption found .userNotFound
  Txn.require user.isValid .accountLocked
  let (version, hash) ← Txn.ofExcept (request.passwordManager.hash request.newPassword) .password
  let _ ← UserPasswordRepository.add request.now request.passwordId user version hash none
  let _ ← UserRecoveryRepository.consumeTicket request.now session

section Guarantees

variable {db₀ : Database} {g : Ulid}

/-- The tickets of `db₀`, and recovery sessions with the same ids. -/
structure SameTickets (db₀ db : Database) : Prop where
  tickets : db.userRecoveryTickets = db₀.userRecoveryTickets
  sessions : ∀ id, db.userRecoverySessions.contains id = db₀.userRecoverySessions.contains id

def Consumed (g : Ulid) (db : Database) : Prop :=
  ∃ r, db.userRecoverySessions.get? g = some r ∧ r.consumedAt.isSome

/-- Tickets stay, recoveries are not undone, and `g` is consumed only under the lock of its row. -/
abbrev Guards (db₀ : Database) (g : Ulid) (e : Effect Database LockKey) : Prop :=
  e.Guards (SameTickets db₀) (Consumed g) (.row .userRecoverySessions g)

def consumeEffect (id : Ulid) (now : Time) : Effect Database LockKey :=
  ⟨fun db => { db with
      userRecoverySessions := db.userRecoverySessions.update id
        (fun r => { r with consumedAt := some now }) },
    [.row .userRecoverySessions id]⟩

theorem guards_consumeEffect (id : Ulid) (now : Time) : Guards db₀ g (consumeEffect id now) where
  keeps db hdb := by
    refine ⟨hdb.tickets, fun id' => ?_⟩
    rw [← hdb.sessions id']
    simp only [consumeEffect, Table.contains, get?_update]
    split_ifs
    · rw [Option.isSome_map]
    · rfl
  persists db _ hm := by
    obtain ⟨r, hr, hconsumed⟩ := hm
    simp only [Consumed, consumeEffect, get?_update, hr]
    split_ifs
    · exact ⟨_, rfl, rfl⟩
    · exact ⟨r, rfl, hconsumed⟩
  frame hk db _ hm := by
    have hne : g ≠ id := by
      intro heq
      exact hk (by simp [consumeEffect, heq])
    simpa [Consumed, consumeEffect, get?_update, hne] using hm

theorem marks_consumeEffect (hg : db₀.userRecoverySessions.contains g) (now : Time) :
    (consumeEffect g now).Marks (SameTickets db₀) (Consumed g) (.row .userRecoverySessions g) := by
  refine ⟨by simp [consumeEffect], fun db hdb => ?_⟩
  rw [← hdb.sessions g] at hg
  obtain ⟨r, hr⟩ := Option.isSome_iff_exists.mp hg
  exact ⟨{ r with consumedAt := some now }, by simp [consumeEffect, get?_update, hr], rfl⟩

/-- The recovery session that a ticket belongs to. -/
def ticketSession? (db : Database) (ticketString : String) : Option Ulid :=
  (db.userRecoveryTickets.find? (fun _ r => r.ticket = ticketString)).map
    (fun r => r.2.userRecoverySessionId)

theorem guards_addPassword {id : Ulid} {row : UserPasswordRow} {locks : List LockKey} :
    Guards db₀ g ⟨fun db => { db with userPasswords := db.userPasswords.insert id row }, locks⟩ where
  keeps _ hdb := ⟨hdb.tickets, hdb.sessions⟩
  persists _ _ hm := hm
  frame _ _ _ hm := hm

theorem session_of_ticket {db db' : Database} {ticketString : String} {ticket : UserRecoveryTicket}
    {session : UserRecoverySession} (hdb : SameTickets db₀ db) (hdb' : SameTickets db₀ db')
    (hticket : (db.userRecoveryTickets.find? (fun _ r => r.ticket = ticketString)).map
      (fun r => r.2.toUserRecoveryTicket r.1) = some ticket)
    (hsession : (db'.userRecoverySessions.get? ticket.userRecoverySessionId).map
      (·.toUserRecoverySession ticket.userRecoverySessionId) = some session)
    (hg : ticketSession? db₀ ticketString = some g) :
    session.id = g ∧ db₀.userRecoverySessions.contains g := by
  obtain ⟨found, hfound, rfl⟩ := Option.map_eq_some_iff.mp hticket
  obtain ⟨r, hr, rfl⟩ := Option.map_eq_some_iff.mp hsession
  unfold ticketSession? at hg
  rw [← hdb.tickets, hfound] at hg
  cases hg
  refine ⟨rfl, ?_⟩
  rw [← hdb'.sessions]
  exact Option.isSome_iff_exists.mpr ⟨r, hr⟩

/-- A transaction with a ticket of the session `g` commits a password only after consuming `g`. -/
theorem satisfies_completeAccountRecovery (request : Request) :
    (completeAccountRecovery request).Satisfies (SameTickets db₀) (fun _ => Guards db₀ g)
      (fun _ w => ticketSession? db₀ request.ticketString = some g →
        w.Marks (SameTickets db₀) (Consumed g) (.row .userRecoverySessions g)) .idle := by
  simp only [completeAccountRecovery, loadAccountRecoveryTicket, UserRecoveryRepository.findTicket,
    UserRecoveryRepository.lookupSession, UserEmailRepository.lookup, UserRepository.lookup,
    satisfies_bind, satisfies_require, satisfies_ofExcept, satisfies_query,
    satisfies_ofOption, satisfies_pure]
  intro _ complex _ _ db hdb ticket hticket db₁ hdb₁ session hsession _ _ db₂ _ userEmail _ db₃ _
    user _ _ hash _
  simp only [UserPasswordRepository.add, UserRecoveryRepository.consumeTicket, satisfies_bind,
    Repo.satisfies_insert, satisfies_pure, satisfies_require, Repo.satisfies_updateRow]
  intro db₄ _
  refine ⟨fun _ => Effect.guards_idle, fun _ => ⟨guards_addPassword, fun _ db₅ _ => ?_⟩⟩
  refine ⟨fun _ => Effect.guards_idle, fun _ _ => ⟨guards_consumeEffect session.id _, fun hg => ?_⟩⟩
  obtain ⟨hid, hpresent⟩ := session_of_ticket hdb hdb₁ hticket hsession hg
  rw [hid]
  exact (marks_consumeEffect hpresent request.now).seq_right
    (Effect.guards_idle.seq guards_addPassword)

end Guarantees

section Runs

variable {ι : Type} [DecidableEq ι]

abbrev State (ι : Type) := Config ι Database LockKey CompleteAccountRecoveryError Unit

def start (db : Database) (requests : ι → Request) : State ι :=
  Config.start db (fun i => completeAccountRecovery (requests i))

/-- No two transactions with tickets of one recovery session have committed a new password. -/
def RecoveredOnce (db : Database) (requests : ι → Request) (c : State ι) : Prop :=
  ∀ i j g, ticketSession? db (requests i).ticketString = some g →
    ticketSession? db (requests j).ticketString = some g →
    (c.threads i).phase = .committed (.ok ()) → (c.threads j).phase = .committed (.ok ()) → i = j

def unconsumedRow : LockKey → Database → Bool
  | .row .userRecoverySessions id, db => (db.userRecoverySessions.get? id).all (·.consumedAt.isNone)
  | _, _ => true

theorem not_consumed_of_unconsumedRow {g : Ulid} {db : Database}
    (h : unconsumedRow (.row .userRecoverySessions g) db) : ¬Consumed g db := by
  rintro ⟨r, hr, hconsumed⟩
  have hnone : r.consumedAt = none := by simpa [unconsumedRow, hr] using h
  rw [hnone] at hconsumed
  cases hconsumed

/-- Where each update finds its row unconsumed, a recovery session leads to one new password. -/
theorem recoveredOnce_of_unconsumedRow (db : Database) (requests : ι → Request)
    (xs : List (ι × Action)) (c : State ι) (hrun : (start db requests).run xs = some c)
    (hfree : (start db requests).along (Config.writesWhere unconsumedRow) xs) :
    RecoveredOnce db requests c := by
  intro i j g hi hj hci hcj
  exact Config.race_unique (V := SameTickets db)
    (W := fun l => ticketSession? db (requests l).ticketString = some g)
    ⟨rfl, fun _ => rfl⟩ (fun l => satisfies_completeAccountRecovery (requests l))
    (fun _ _ => Config.takesUnmarked_of_writesWhere fun _ => not_consumed_of_unconsumedRow)
    hfree hrun hi hj hci hcj

end Runs

section Race

def twoTickets : Database := { Database.alice with
  userEmails := Table.empty.insert 2 ⟨1, "alice@example.com", 0, 0, some 0, true⟩
  userRecoverySessions := Table.empty.insert 3 ⟨"alice@example.com", "agent", none, "en", 0, none⟩
  userRecoveryTickets := (Table.empty.insert 4 ⟨3, 2, "first", 0, 100⟩).insert 5
    ⟨3, 2, "second", 0, 100⟩ }

def anyPassword : PasswordManager := ⟨true, fun _ => .ok true, fun password => .ok (1, password)⟩

def twoRecoveries (i : Bool) : Request :=
  if i then ⟨anyPassword, 1, 10, "first", "one", true⟩
  else ⟨anyPassword, 1, 11, "second", "two", true⟩

/-- Both transactions load the session unconsumed; the second updates it after the first commits. -/
theorem recovered_twice : ∃ (db : Database) (requests : Bool → Request)
    (xs : List (Bool × Action)) (c : State Bool),
    (start db requests).run xs = some c ∧ ¬RecoveredOnce db requests c := by
  let xs : List (Bool × Action) := List.replicate 4 (true, .advance) ++
    List.replicate 4 (false, .advance) ++ List.replicate 3 (true, .advance) ++
    List.replicate 3 (false, .advance)
  have hboth : ((start twoTickets twoRecoveries).run xs).any
      (fun c => c.hasCommitted true && c.hasCommitted false) := by decide +kernel
  obtain ⟨c, ⟨⟩, ⟨⟩, hc, ht, hf⟩ := Config.exists_both_committed hboth
  refine ⟨twoTickets, twoRecoveries, xs, c, hc, fun honce => ?_⟩
  have heq := honce true false 3 (by decide +kernel) (by decide +kernel) ht hf
  cases heq

/-- One after the other, the first ticket is good for a password and the second is not. -/
theorem recoveredOnce_one_after_the_other : ∃ c,
    (start twoTickets twoRecoveries).run
      (List.replicate 7 (true, .advance) ++ List.replicate 3 (false, .advance)) = some c ∧
    c.hasCommitted true ∧ RecoveredOnce twoTickets twoRecoveries c := by
  let xs : List (Bool × Action) := List.replicate 7 (true, .advance) ++
    List.replicate 3 (false, .advance)
  have hfirst : ((start twoTickets twoRecoveries).run xs).any (·.hasCommitted true) := by
    decide +kernel
  obtain ⟨c, hc, hrecovered⟩ := (Option.any_eq_true _ _).mp hfirst
  exact ⟨c, hc, hrecovered, recoveredOnce_of_unconsumedRow _ _ xs c hc (by decide +kernel)⟩

end Race

end Pasion.Recovery

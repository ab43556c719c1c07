import Pasion.Pg.Registration

/-! Addresses and numbers of users, and the codes that are sent to verify them. -/
namespace Pasion

open Relational

variable {ε : Type} [FromRepository ε]

structure UserEmailPatch where
  email : Option String
  (confirmed isPrimary : Option Bool)

namespace UserEmailPatch

def isEmpty (p : UserEmailPatch) : Bool :=
  p.email.isNone && p.confirmed.isNone && p.isPrimary.isNone

/-- An address that is confirmed already keeps its time. -/
def nextConfirmedAt (p : UserEmailPatch) (now : Time) (e : UserEmail) : Option Time :=
  match p.confirmed with
  | some true => e.confirmedAt.or (some now)
  | some false => none
  | none => e.confirmedAt

/-- Naming the address counts as a change, whatever its value. -/
def changed (p : UserEmailPatch) (now : Time) (e : UserEmail) : Bool :=
  p.email.isSome || e.confirmedAt ≠ p.nextConfirmedAt now e || p.isPrimary.any (e.isPrimary ≠ ·)

def apply (p : UserEmailPatch) (now : Time) (e : UserEmail) : UserEmail := { e with
    email := p.email.getD e.email
    confirmedAt := p.nextConfirmedAt now e
    isPrimary := p.isPrimary.getD e.isPrimary }

end UserEmailPatch

namespace UserEmailRepository

def find (lower toLowercase : String → String) (user : User) (email : String) :
    Repo ε (Option UserEmail) :=
  Txn.query (fun db => (db.userEmails.find? (fun _ r =>
    r.userId = user.id ∧ lower r.email = toLowercase email)).map (fun r => r.2.toUserEmail r.1))

/-- A primary address takes that place from the others of its user. -/
def demoteOthers (now : Time) (e : UserEmail) : Repo ε Unit :=
  let others : Ulid → UserEmailRow → Bool := fun id r => r.userId = e.userId ∧ id ≠ e.id
  if e.isPrimary then
    Txn.execute
      (fun db => ⟨fun db' => { db' with
          userEmails := db'.userEmails.mapRows (fun id r =>
            if others id r then { r with isPrimary := false, updatedAt := now } else r) },
        (db.userEmails.select others).map (fun r => .row .userEmails r.1)⟩)
      (fun _ => ())
  else pure ()

def patch (now : Time) (userEmail : UserEmail) (patch : UserEmailPatch) : Repo ε UserEmail :=
  if patch.isEmpty || !patch.changed now userEmail then pure userEmail
  else do
    let e := { patch.apply now userEmail with updatedAt := now }
    demoteOthers now e
    Repo.updateRow (·.userEmails.contains e.id) Repo.unconstrained (.row .userEmails e.id)
      (fun db => { db with
        userEmails := db.userEmails.update e.id (fun r => { r with
          email := e.email
          updatedAt := now
          confirmedAt := e.confirmedAt
          isPrimary := e.isPrimary }) })
    pure e

/-- A code that the authentication has already gets a new id and a new lifetime. -/
def addAuthenticationCode (now : Time) (id : Ulid) (duration : Duration)
    (authentication : UserEmailAuthentication) (code : String) :
    Repo ε UserEmailAuthenticationCode := do
  let same : UserEmailAuthenticationCodeRow → Bool := fun r =>
    r.userEmailAuthenticationId = authentication.id ∧ r.code = code
  Repo.insert
    (fun db =>
      if (db.userEmailAuthenticationCodes.get? id).any (!same ·) then some .uniqueViolation
      else if !db.userEmailAuthentications.contains authentication.id then
        some .foreignKeyViolation
      else none)
    [.row .userEmailAuthenticationCodes id,
      .unique .userEmailAuthenticationCodes (Ulid.toString authentication.id ++ code)]
    (fun db => { db with
      userEmailAuthenticationCodes :=
        (db.userEmailAuthenticationCodes.delete (fun _ r => same r)).insert id
          ⟨authentication.id, code, now, now + duration⟩ })
  pure ⟨id, authentication.id, code, now, now + duration⟩

end UserEmailRepository

def Database.phoneAuthenticationCodes (db : Database) (authenticationId : Ulid) (code : String) :
    List (Ulid × UserPhoneAuthenticationCodeRow) :=
  db.userPhoneAuthenticationCodes.select (fun _ r =>
    r.userPhoneAuthenticationId = authenticationId ∧ r.code = code)

def Database.phoneAuthenticationCode? (db : Database) (authenticationId : Ulid) (code : String) :
    Option UserPhoneAuthenticationCode :=
  (maxBy (fun r => r.2.createdAt) (db.phoneAuthenticationCodes authenticationId code).reverse).map
    (fun r => ⟨r.1, r.2.userPhoneAuthenticationId, r.2.code, r.2.createdAt, r.2.expiresAt⟩)

namespace UserPhoneRepository

def addAuthenticationForRegistration (now : Time) (id : Ulid) (phone : String)
    (registration : UserRegistration) : Repo ε UserPhoneAuthentication := do
  Repo.insert
    (fun db =>
      if db.userPhoneAuthentications.contains id then some .uniqueViolation
      else if !db.userRegistrations.contains registration.id then some .foreignKeyViolation
      else none)
    [.row .userPhoneAuthentications id]
    (fun db => { db with
      userPhoneAuthentications := db.userPhoneAuthentications.insert id
        ⟨phone, now, none, some registration.id⟩ })
  pure ⟨id, some registration.id, phone, now, none⟩

/-- An authentication may have one code several times. -/
def addAuthenticationCode (now : Time) (id : Ulid) (duration : Duration)
    (authentication : UserPhoneAuthentication) (code : String) :
    Repo ε UserPhoneAuthenticationCode := do
  Repo.insert
    (fun db =>
      if db.userPhoneAuthenticationCodes.contains id then some .uniqueViolation
      else if !db.userPhoneAuthentications.contains authentication.id then
        some .foreignKeyViolation
      else none)
    [.row .userPhoneAuthenticationCodes id]
    (fun db => { db with
      userPhoneAuthenticationCodes := db.userPhoneAuthenticationCodes.insert id
        ⟨authentication.id, code, now, now + duration⟩ })
  pure ⟨id, authentication.id, code, now, now + duration⟩

/-- The latest, and of those created together the one with the greatest id. -/
def findAuthenticationCode (authentication : UserPhoneAuthentication) (code : String) :
    Repo ε (Option UserPhoneAuthenticationCode) :=
  Txn.query (·.phoneAuthenticationCode? authentication.id code)

/-- The update is keyed on the id and on the row being incomplete. -/
def completeAuthenticationWithCode (now : Time) (authentication : UserPhoneAuthentication) :
    Repo ε UserPhoneAuthentication := do
  Repo.updateRow
    (fun db => (db.userPhoneAuthentications.get? authentication.id).any (·.completedAt.isNone))
    Repo.unconstrained (.row .userPhoneAuthentications authentication.id)
    (fun db => { db with
      userPhoneAuthentications := db.userPhoneAuthentications.update authentication.id
        (fun r => { r with completedAt := some now }) })
  pure { authentication with completedAt := some now }

end UserPhoneRepository

end Pasion

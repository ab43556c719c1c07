import Pasion.Pg.Contacts

/-! The steps of a registration: its contacts are verified and its user is named, in any order. -/
namespace Pasion

open Relational Txn

def Database.userRegistration? (db : Database) (id : Ulid) : Option UserRegistration :=
  (db.userRegistrations.get? id).bind (fun r => (r.toUserRegistration id).toOption)

def Database.userEmailAuthentication? (db : Database) (id : Ulid) :
    Option UserEmailAuthentication :=
  (db.userEmailAuthentications.get? id).map
    (fun r => ⟨id, r.userSessionId, r.userRegistrationId, r.email, r.createdAt, r.completedAt⟩)

def Database.userPhoneAuthentication? (db : Database) (id : Ulid) :
    Option UserPhoneAuthentication :=
  (db.userPhoneAuthentications.get? id).map
    (fun r => ⟨id, r.userRegistrationId, r.phone, r.createdAt, r.completedAt⟩)

namespace Registration

variable {db db' : Database}

/-- The source has the names of these, in snake case. -/
inductive RegistrationStep where
  | verifyEmail
  | verifyPhone
  | displayName
  | finish
  deriving DecidableEq

structure RegistrationProgress where
  registration : UserRegistration
  emailAuthentication : Option UserEmailAuthentication
  phoneAuthentication : Option UserPhoneAuthentication

def nextRegistrationStep (registration : UserRegistration) (emailVerified phoneVerified : Bool) :
    RegistrationStep :=
  if registration.emailAuthenticationId.isSome && !emailVerified then .verifyEmail
  else if registration.phoneAuthenticationId.isSome && !phoneVerified then .verifyPhone
  else if registration.displayName.isNone then .displayName
  else .finish

namespace RegistrationProgress

/-- An address whose row is gone is not verified. -/
def emailVerified (p : RegistrationProgress) : Bool :=
  p.emailAuthentication.elim p.registration.emailAuthenticationId.isNone (·.completedAt.isSome)

def phoneVerified (p : RegistrationProgress) : Bool :=
  p.phoneAuthentication.elim p.registration.phoneAuthenticationId.isNone (·.completedAt.isSome)

def nextStep (p : RegistrationProgress) : RegistrationStep :=
  nextRegistrationStep p.registration p.emailVerified p.phoneVerified

/-- No contact that is attached to the registration waits for its code. -/
def ContactsVerified (p : RegistrationProgress) : Prop :=
  (p.registration.emailAuthenticationId.isSome → p.emailVerified) ∧
    (p.registration.phoneAuthenticationId.isSome → p.phoneVerified)

instance (p : RegistrationProgress) : Decidable p.ContactsVerified :=
  inferInstanceAs (Decidable (_ ∧ _))

theorem nextStep_eq_finish_iff {p : RegistrationProgress} :
    p.nextStep = .finish ↔ p.ContactsVerified ∧ p.registration.displayName.isSome := by
  unfold nextStep nextRegistrationStep ContactsVerified
  cases p.registration.emailAuthenticationId.isSome <;>
    cases p.registration.phoneAuthenticationId.isSome <;> cases p.emailVerified <;>
      cases p.phoneVerified <;> cases p.registration.displayName <;> simp

end RegistrationProgress

/-- The rows of a registration and of the contacts attached to it. -/
def progressOf (db : Database) (registration : UserRegistration) : RegistrationProgress :=
  ⟨registration, registration.emailAuthenticationId.bind db.userEmailAuthentication?,
    registration.phoneAuthenticationId.bind db.userPhoneAuthentication?⟩

def registrationProgress? (db : Database) (id : Ulid) : Option RegistrationProgress :=
  (db.userRegistration? id).map (progressOf db)

inductive LoadRegistrationProgressError where
  | notFound
  | repository (e : DatabaseError)

instance : FromRepository LoadRegistrationProgressError := ⟨.repository⟩

def attachedEmail : Option Ulid →
    Repo LoadRegistrationProgressError (Option UserEmailAuthentication)
  | some id => UserEmailRepository.lookupAuthentication id
  | none => pure none

def attachedPhone : Option Ulid →
    Repo LoadRegistrationProgressError (Option UserPhoneAuthentication)
  | some id => UserPhoneRepository.lookupAuthentication id
  | none => pure none

def loadRegistrationProgress (registrationId : Ulid) :
    Repo LoadRegistrationProgressError RegistrationProgress := do
  let registration ← UserRegistrationRepository.lookup registrationId
  let registration ← Txn.ofOption registration .notFound
  let emailAuthentication ← attachedEmail registration.emailAuthenticationId
  let phoneAuthentication ← attachedPhone registration.phoneAuthenticationId
  pure ⟨registration, emailAuthentication, phoneAuthentication⟩

theorem returns_lookup {ε : Type} [FromRepository ε] {id : Ulid} {registration : UserRegistration} :
    (UserRegistrationRepository.lookup id : Repo ε _).Returns db (some registration) db' ↔
      db.userRegistration? id = some registration ∧ db = db' := by
  unfold UserRegistrationRepository.lookup Database.userRegistration?
  rw [Repo.returns_fetch, mapM_eq_ok_some]

theorem returns_attachedEmail {o : Option Ulid} {a : Option UserEmailAuthentication} :
    (attachedEmail o).Returns db a db' ↔ o.bind db.userEmailAuthentication? = a ∧ db = db' := by
  cases o with
  | none => simp [attachedEmail]
  | some id => exact returns_query

theorem returns_attachedPhone {o : Option Ulid} {a : Option UserPhoneAuthentication} :
    (attachedPhone o).Returns db a db' ↔ o.bind db.userPhoneAuthentication? = a ∧ db = db' := by
  cases o with
  | none => simp [attachedPhone]
  | some id => exact returns_query

theorem returns_loadRegistrationProgress {id : Ulid} {p : RegistrationProgress} :
    (loadRegistrationProgress id).Returns db p db' ↔
      registrationProgress? db id = some p ∧ db = db' := by
  constructor
  · intro h
    obtain ⟨found, db₁, hlookup, hfound⟩ := returns_bind.mp h
    obtain ⟨registration, rfl, hattached⟩ := returns_ofOption_bind.mp hfound
    obtain ⟨hregistration, rfl⟩ := returns_lookup.mp hlookup
    obtain ⟨email, db₂, he, hphone⟩ := returns_bind.mp hattached
    obtain ⟨rfl, rfl⟩ := returns_attachedEmail.mp he
    obtain ⟨phone, db₃, hp, hpure⟩ := returns_bind.mp hphone
    obtain ⟨rfl, rfl⟩ := returns_attachedPhone.mp hp
    obtain ⟨rfl, rfl⟩ := returns_pure.mp hpure
    refine ⟨?_, rfl⟩
    rw [registrationProgress?, hregistration]
    rfl
  · rintro ⟨h, rfl⟩
    obtain ⟨registration, hregistration, rfl⟩ := Option.map_eq_some_iff.mp h
    refine returns_bind.mpr ⟨_, db, returns_lookup.mpr ⟨hregistration, rfl⟩, ?_⟩
    refine returns_ofOption_bind.mpr ⟨_, rfl, ?_⟩
    refine returns_bind.mpr ⟨_, db, returns_attachedEmail.mpr ⟨rfl, rfl⟩, ?_⟩
    refine returns_bind.mpr ⟨_, db, returns_attachedPhone.mpr ⟨rfl, rfl⟩, ?_⟩
    exact returns_pure.mpr ⟨rfl, rfl⟩

/-- The source has one such type for emails and one for phones. -/
inductive VerifyRegistrationCodeError where
  | notFound
  | registrationCompleted
  | noAuthentication
  | authenticationMissing
  | alreadyVerified
  | rateLimited
  | invalidCode
  | repository (e : DatabaseError)

instance : FromRepository VerifyRegistrationCodeError := ⟨.repository⟩

def VerifyRegistrationCodeError.ofLoad : LoadRegistrationProgressError → VerifyRegistrationCodeError
  | .notFound => .notFound
  | .repository e => .repository e

/-- What verifying an email and verifying a phone have in common. -/
structure Channel (A C : Type) where
  authenticationId : UserRegistration → Option Ulid
  authentication : RegistrationProgress → Option A
  completedAt : A → Option Time
  findAuthenticationCode : A → String → Repo VerifyRegistrationCodeError (Option C)
  completeAuthenticationWithCode : Time → A → Repo VerifyRegistrationCodeError A
  attach : RegistrationProgress → A → RegistrationProgress

def emailChannel : Channel UserEmailAuthentication UserEmailAuthenticationCode where
  authenticationId := (·.emailAuthenticationId)
  authentication := (·.emailAuthentication)
  completedAt := (·.completedAt)
  findAuthenticationCode := UserEmailRepository.findAuthenticationCode
  completeAuthenticationWithCode := UserEmailRepository.completeAuthenticationWithCode
  attach p a := { p with emailAuthentication := some a }

def phoneChannel : Channel UserPhoneAuthentication UserPhoneAuthenticationCode where
  authenticationId := (·.phoneAuthenticationId)
  authentication := (·.phoneAuthentication)
  completedAt := (·.completedAt)
  findAuthenticationCode := UserPhoneRepository.findAuthenticationCode
  completeAuthenticationWithCode := UserPhoneRepository.completeAuthenticationWithCode
  attach p a := { p with phoneAuthentication := some a }

/-- When a code expires is not looked at. -/
def verifyCode {A C : Type} (ch : Channel A C) (checkAttempt : A → Bool) (now : Time)
    (registrationId : Ulid) (code : String) :
    Repo VerifyRegistrationCodeError RegistrationProgress := do
  let progress ← (loadRegistrationProgress registrationId).mapError .ofLoad
  Txn.require progress.registration.completedAt.isNone .registrationCompleted
  Txn.require (ch.authenticationId progress.registration).isSome .noAuthentication
  let authentication ← Txn.ofOption (ch.authentication progress) .authenticationMissing
  Txn.require (ch.completedAt authentication).isNone .alreadyVerified
  Txn.require (checkAttempt authentication) .rateLimited
  let found ← ch.findAuthenticationCode authentication code
  let _ ← Txn.ofOption found .invalidCode
  let authentication ← ch.completeAuthenticationWithCode now authentication
  pure (ch.attach progress authentication)

structure AttemptLimiter where
  checkEmailAuthenticationAttempt : UserEmailAuthentication → Bool
  checkPhoneAuthenticationAttempt : UserPhoneAuthentication → Bool

def verifyRegistrationEmailCode (limiter : AttemptLimiter) (now : Time) (registrationId : Ulid)
    (code : String) : Repo VerifyRegistrationCodeError RegistrationProgress :=
  verifyCode emailChannel limiter.checkEmailAuthenticationAttempt now registrationId code

def verifyRegistrationPhoneCode (limiter : AttemptLimiter) (now : Time) (registrationId : Ulid)
    (code : String) : Repo VerifyRegistrationCodeError RegistrationProgress :=
  verifyCode phoneChannel limiter.checkPhoneAuthenticationAttempt now registrationId code

inductive SetRegistrationDisplayNameError where
  | notFound
  | registrationCompleted
  | invalidDisplayName
  | repository (e : DatabaseError)

instance : FromRepository SetRegistrationDisplayNameError := ⟨.repository⟩

/-- The length of a name counts bytes. -/
def chosenDisplayName (registration : UserRegistration) (displayName : Option String)
    (skip : Bool) : Option String :=
  if skip then some registration.username
  else
    let name := String.ofList (Str.trim (displayName.getD "").toList)
    if name.isEmpty || name.utf8ByteSize > 255 then none else some name

def setRegistrationDisplayName (registrationId : Ulid) (displayName : Option String)
    (skip : Bool) : Repo SetRegistrationDisplayNameError UserRegistration := do
  let registration ← UserRegistrationRepository.lookup registrationId
  let registration ← Txn.ofOption registration .notFound
  Txn.require registration.completedAt.isNone .registrationCompleted
  let name ← Txn.ofOption (chosenDisplayName registration displayName skip) .invalidDisplayName
  UserRegistrationRepository.setDisplayName registration name

inductive RegistrationVerificationOutcome where
  | advanced (nextStep : RegistrationStep)
  | registrationCompleted
  | alreadyVerified
  | invalidCode
  | rateLimited

inductive RegistrationVerificationError where
  | notFound
  | notAvailable
  | repository (e : DatabaseError)

def VerifyRegistrationCodeError.report : VerifyRegistrationCodeError →
    Except RegistrationVerificationError RegistrationVerificationOutcome
  | .notFound | .authenticationMissing => .error .notFound
  | .noAuthentication => .error .notAvailable
  | .registrationCompleted => .ok .registrationCompleted
  | .alreadyVerified => .ok .alreadyVerified
  | .rateLimited => .ok .rateLimited
  | .invalidCode => .ok .invalidCode
  | .repository e => .error (.repository e)

inductive RegistrationDisplayNameOutcome where
  | advanced (nextStep : RegistrationStep)
  | registrationCompleted
  | invalidDisplayName
  deriving DecidableEq

inductive RegistrationDisplayNameWorkflowError where
  | notFound
  | repository (e : DatabaseError)
  deriving DecidableEq

def SetRegistrationDisplayNameError.report : SetRegistrationDisplayNameError →
    Except RegistrationDisplayNameWorkflowError RegistrationDisplayNameOutcome
  | .notFound => .error .notFound
  | .registrationCompleted => .ok .registrationCompleted
  | .invalidDisplayName => .ok .invalidDisplayName
  | .repository e => .error (.repository e)

def answer {ε δ α β : Type} (p : Repo ε α) (ok : α → β) (report : ε → Except δ β)
    (db : Database) : Except δ β × Database :=
  match p.transact db with
  | (.ok a, db') => (.ok (ok a), db')
  | (.error e, db') => (report e, db')

def submitRegistrationEmailCode (limiter : AttemptLimiter) (now : Time) (registrationId : Ulid)
    (code : String) :
    Database → Except RegistrationVerificationError RegistrationVerificationOutcome × Database :=
  answer (verifyRegistrationEmailCode limiter now registrationId code) (.advanced ·.nextStep)
    VerifyRegistrationCodeError.report

def submitRegistrationPhoneCode (limiter : AttemptLimiter) (now : Time) (registrationId : Ulid)
    (code : String) :
    Database → Except RegistrationVerificationError RegistrationVerificationOutcome × Database :=
  answer (verifyRegistrationPhoneCode limiter now registrationId code) (.advanced ·.nextStep)
    VerifyRegistrationCodeError.report

/-- The step reported does not depend on the registration. -/
def submitRegistrationDisplayName (registrationId : Ulid) (displayName : Option String)
    (skip : Bool) : Database →
      Except RegistrationDisplayNameWorkflowError RegistrationDisplayNameOutcome × Database :=
  answer (setRegistrationDisplayName registrationId displayName skip) (fun _ => .advanced .finish)
    SetRegistrationDisplayNameError.report

/-- An answer that no error is reported as comes from a transaction that returned. -/
theorem returns_of_answer {ε δ α β : Type} {p : Repo ε α} {ok : α → β}
    {report : ε → Except δ β} {b : β} (hreport : ∀ e, report e ≠ .ok b)
    (h : answer p ok report db = (.ok b, db')) : ∃ a, p.Returns db a db' ∧ ok a = b := by
  unfold answer at h
  rcases hp : p.transact db with ⟨e | a, db₁⟩
  · rw [hp] at h
    exact absurd (congrArg Prod.fst h) (hreport e)
  · rw [hp] at h
    obtain ⟨hok, rfl⟩ := Prod.mk.inj h
    exact ⟨a, transact_ok.mp hp, Except.ok.inj hok⟩

/-- Everything a successful verification went through. -/
theorem verifyCode_cases {A C : Type} {ch : Channel A C} {checkAttempt : A → Bool} {now : Time}
    {id : Ulid} {code : String} {p' : RegistrationProgress}
    (h : (verifyCode ch checkAttempt now id code).Returns db p' db') :
    ∃ p a c a' db₁, registrationProgress? db id = some p ∧ ch.authentication p = some a ∧
      (ch.findAuthenticationCode a code).Returns db (some c) db₁ ∧
      (ch.completeAuthenticationWithCode now a).Returns db₁ a' db' ∧ ch.attach p a' = p' := by
  obtain ⟨p, db₀, hload, h₁⟩ := returns_bind.mp h
  obtain ⟨hp, rfl⟩ := returns_loadRegistrationProgress.mp (returns_mapError.mp hload)
  obtain ⟨-, h₂⟩ := returns_require_bind.mp h₁
  obtain ⟨-, h₃⟩ := returns_require_bind.mp h₂
  obtain ⟨a, ha, h₄⟩ := returns_ofOption_bind.mp h₃
  obtain ⟨-, h₅⟩ := returns_require_bind.mp h₄
  obtain ⟨-, h₆⟩ := returns_require_bind.mp h₅
  obtain ⟨found, db₁, hfind, h₇⟩ := returns_bind.mp h₆
  obtain ⟨c, rfl, h₈⟩ := returns_ofOption_bind.mp h₇
  obtain ⟨a', db₂, hcomplete, h₉⟩ := returns_bind.mp h₈
  obtain ⟨hattach, rfl⟩ := returns_pure.mp h₉
  exact ⟨p, a, c, a', db₁, hp, ha, hfind, hcomplete, hattach⟩

/-- Codes are only read, and what is completed is attached as completed; nothing else changes. -/
structure Channel.Lawful {A C : Type} (ch : Channel A C) (idOf : A → Ulid) : Prop where
  reads : ∀ {a code o db db'}, (ch.findAuthenticationCode a code).Returns db o db' → db = db'
  attached : ∀ {db registration a}, ch.authentication (progressOf db registration) = some a →
    ch.authenticationId registration = some (idOf a)
  completed : ∀ {now db db' registration a a'},
    ch.authentication (progressOf db registration) = some a →
    (ch.completeAuthenticationWithCode now a).Returns db a' db' →
      idOf a' = idOf a ∧ db'.userRegistrations = db.userRegistrations ∧
      progressOf db' registration = ch.attach (progressOf db registration) a'
  authentication_attach : ∀ p a, ch.authentication (ch.attach p a) = some a

theorem emailChannel_lawful : emailChannel.Lawful (·.id) where
  reads h := (returns_query.mp h).2
  attached ha := by
    obtain ⟨emailId, hemailId, hrow⟩ := Option.bind_eq_some_iff.mp ha
    obtain ⟨row, -, rfl⟩ := Option.map_eq_some_iff.mp hrow
    exact hemailId
  completed ha h := by
    obtain ⟨-, -, hpure⟩ := Repo.returns_updateRow_bind.mp h
    obtain ⟨rfl, rfl⟩ := returns_pure.mp hpure
    obtain ⟨emailId, hemailId, hrow⟩ := Option.bind_eq_some_iff.mp ha
    obtain ⟨row, hget, rfl⟩ := Option.map_eq_some_iff.mp hrow
    refine ⟨rfl, rfl, ?_⟩
    simp only [progressOf, hemailId, Option.bind_some, Database.userEmailAuthentication?,
      Table.get?_update, if_true, hget, Option.map_some]
    rfl
  authentication_attach _ _ := rfl

theorem phoneChannel_lawful : phoneChannel.Lawful (·.id) where
  reads h := (returns_query.mp h).2
  attached ha := by
    obtain ⟨phoneId, hphoneId, hrow⟩ := Option.bind_eq_some_iff.mp ha
    obtain ⟨row, -, rfl⟩ := Option.map_eq_some_iff.mp hrow
    exact hphoneId
  completed ha h := by
    obtain ⟨-, -, hpure⟩ := Repo.returns_updateRow_bind.mp h
    obtain ⟨rfl, rfl⟩ := returns_pure.mp hpure
    obtain ⟨phoneId, hphoneId, hrow⟩ := Option.bind_eq_some_iff.mp ha
    obtain ⟨row, hget, rfl⟩ := Option.map_eq_some_iff.mp hrow
    refine ⟨rfl, rfl, ?_⟩
    simp only [progressOf, hphoneId, Option.bind_some, Database.userPhoneAuthentication?,
      Table.get?_update, if_true, hget, Option.map_some]
    rfl
  authentication_attach _ _ := rfl

section Verified

variable {A C : Type} {ch : Channel A C} {idOf : A → Ulid} {checkAttempt : A → Bool} {now : Time}
  {id : Ulid} {code : String} {p : RegistrationProgress}

theorem registrationProgress?_of_verifyCode (hch : ch.Lawful idOf)
    (h : (verifyCode ch checkAttempt now id code).Returns db p db') :
    registrationProgress? db' id = some p := by
  obtain ⟨p₀, a, c, a', db₁, hp, ha, hfind, hcomplete, rfl⟩ := verifyCode_cases h
  obtain rfl := hch.reads hfind
  obtain ⟨registration, hregistration, rfl⟩ := Option.map_eq_some_iff.mp hp
  obtain ⟨-, hkept, hprogress⟩ := hch.completed ha hcomplete
  rw [registrationProgress?, Database.userRegistration?, hkept, ← hprogress]
  exact congrArg (Option.map _) hregistration

/-- What a registration verifies is attached to it. -/
theorem attached_of_verifyCode (hch : ch.Lawful idOf) {a : A}
    (h : (verifyCode ch checkAttempt now id code).Returns db p db')
    (ha : ch.authentication p = some a) :
    ∃ registration ∈ db.userRegistration? id, idOf a ∈ ch.authenticationId registration := by
  obtain ⟨p₀, a₀, c, a', db₁, hp, ha₀, hfind, hcomplete, rfl⟩ := verifyCode_cases h
  obtain rfl := hch.reads hfind
  obtain ⟨registration, hregistration, rfl⟩ := Option.map_eq_some_iff.mp hp
  cases (hch.authentication_attach _ _).symm.trans ha
  obtain ⟨hid, -, -⟩ := hch.completed ha₀ hcomplete
  exact ⟨registration, hregistration, hid ▸ hch.attached ha₀⟩

end Verified

end Registration
end Pasion

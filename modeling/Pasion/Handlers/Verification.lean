import Pasion.Handlers.Registration
import Pasion.Relational.Sequential

/-! Codes are sent by the workers and entered later, in a registration or by a user who adds an
address. -/
namespace Pasion.Verification

open Relational Registration Txn

inductive JobError where
  | retry (e : DatabaseError)
  | fail

instance : FromRepository JobError := ⟨.retry⟩

def codeDuration : Duration := 5 * 60 * 1000 * 1000

/-- The notification that carries the code is left out. -/
def sendEmailAuthenticationCode (now : Time) (codeId authenticationId : Ulid) (code : String) :
    Repo JobError Unit := do
  let found ← UserEmailRepository.lookupAuthentication authenticationId
  let authentication ← Txn.ofOption found .fail
  if authentication.completedAt.isSome then pure ()
  else
    let _ ← UserEmailRepository.addAuthenticationCode now codeId codeDuration authentication code
    pure ()

def sendSmsAuthenticationCode (now : Time) (codeId authenticationId : Ulid) (code : String) :
    Repo JobError Unit := do
  let found ← UserPhoneRepository.lookupAuthentication authenticationId
  let authentication ← Txn.ofOption found .fail
  if authentication.completedAt.isSome then pure ()
  else
    let _ ← UserPhoneRepository.addAuthenticationCode now codeId codeDuration authentication code
    pure ()

inductive CompleteEmailVerificationError where
  | unauthorized
  | notFound
  | notOwned
  | alreadyCompleted
  | rateLimited
  | invalidCode
  | codeExpired
  | repository (e : DatabaseError)

instance : FromRepository CompleteEmailVerificationError := ⟨.repository⟩

structure Lowercase where
  (lower toLowercase : String → String)

def addIfAbsent (case : Lowercase) (now : Time) (emailId : Ulid) (user : User) (email : String) :
    Repo CompleteEmailVerificationError Unit := do
  let existing ← UserEmailRepository.find case.lower case.toLowercase user email
  if existing.isSome then pure ()
  else
    let _ ← UserEmailRepository.add now emailId user email
    pure ()

def completeEmailVerification (limiter : AttemptLimiter) (case : Lowercase) (now : Time)
    (emailId authenticationId : Ulid) (browserSession : Option BrowserSession) (code : String) :
    Repo CompleteEmailVerificationError Unit := do
  let browserSession ← Txn.ofOption browserSession .unauthorized
  let found ← UserEmailRepository.lookupAuthentication authenticationId
  let auth ← Txn.ofOption found .notFound
  Txn.require (auth.userSessionId = some browserSession.id) .notOwned
  Txn.require auth.completedAt.isNone .alreadyCompleted
  Txn.require (limiter.checkEmailAuthenticationAttempt auth) .rateLimited
  let foundCode ← UserEmailRepository.findAuthenticationCode auth code
  let foundCode ← Txn.ofOption foundCode .invalidCode
  Txn.require (!decide (foundCode.expiresAt < now)) .codeExpired
  let _ ← UserEmailRepository.completeAuthenticationWithCode now auth
  addIfAbsent case now emailId browserSession.user auth.email

inductive Call where
  | sendEmailCode (codeId authenticationId : Ulid) (code : String)
  | sendSmsCode (codeId authenticationId : Ulid) (code : String)
  | registrationEmailCode (registrationId : Ulid) (code : String)
  | registrationPhoneCode (registrationId : Ulid) (code : String)
  | contactEmailCode (emailId authenticationId : Ulid) (browserSession : Option BrowserSession)
      (code : String)

/-- A call, with the time and the limits that it meets. -/
structure Event where
  now : Time
  limiter : AttemptLimiter
  case : Lowercase
  call : Call

def step (db : Database) (e : Event) : Database :=
  match e.call with
  | .sendEmailCode codeId authenticationId code =>
    ((sendEmailAuthenticationCode e.now codeId authenticationId code).transact db).2
  | .sendSmsCode codeId authenticationId code =>
    ((sendSmsAuthenticationCode e.now codeId authenticationId code).transact db).2
  | .registrationEmailCode id code =>
    ((verifyRegistrationEmailCode e.limiter e.now id code).transact db).2
  | .registrationPhoneCode id code =>
    ((verifyRegistrationPhoneCode e.limiter e.now id code).transact db).2
  | .contactEmailCode emailId authenticationId session code =>
    ((completeEmailVerification e.limiter e.case e.now emailId authenticationId session
      code).transact db).2

/-- The call verifies an address or a number with a code that expires at `expiresAt`. -/
def Event.Uses (e : Event) (db : Database) (expiresAt : Time) : Prop :=
  match e.call with
  | .registrationEmailCode id code => ∃ p db' a r,
    (verifyRegistrationEmailCode e.limiter e.now id code).Returns db p db' ∧
      p.emailAuthentication = some a ∧ db.emailAuthenticationCode? a.id code = some r ∧
      r.expiresAt = expiresAt
  | .registrationPhoneCode id code => ∃ p db' a r,
    (verifyRegistrationPhoneCode e.limiter e.now id code).Returns db p db' ∧
      p.phoneAuthentication = some a ∧ db.phoneAuthenticationCode? a.id code = some r ∧
      r.expiresAt = expiresAt
  | .contactEmailCode emailId authenticationId session code => ∃ db' r,
    (completeEmailVerification e.limiter e.case e.now emailId authenticationId session
      code).Returns db () db' ∧
      db.emailAuthenticationCode? authenticationId code = some r ∧ r.expiresAt = expiresAt
  | _ => False

/-- A verification uses a code that has not expired. -/
def UsesUnexpired (db : Database) (e : Event) : Prop :=
  ∀ expiresAt, e.Uses db expiresAt → e.now < expiresAt

/-- No expired code for a registration, and none that expires right then for a user. -/
def Timely (db : Database) (e : Event) : Prop :=
  match e.call with
  | .registrationEmailCode id code => ∀ registration ∈ db.userRegistration? id,
    ∀ authenticationId ∈ registration.emailAuthenticationId,
      ∀ r ∈ db.emailAuthenticationCodes authenticationId code, e.now < r.2.expiresAt
  | .registrationPhoneCode id code => ∀ registration ∈ db.userRegistration? id,
    ∀ authenticationId ∈ registration.phoneAuthenticationId,
      ∀ r ∈ db.phoneAuthenticationCodes authenticationId code, e.now < r.2.expiresAt
  | .contactEmailCode _ authenticationId _ code =>
    ∀ r ∈ db.emailAuthenticationCodes authenticationId code, r.2.expiresAt ≠ e.now
  | _ => True

instance (db : Database) : (e : Event) → Decidable (Timely db e)
  | ⟨_, _, _, .sendEmailCode _ _ _⟩ => .isTrue trivial
  | ⟨_, _, _, .sendSmsCode _ _ _⟩ => .isTrue trivial
  | ⟨now, _, _, .registrationEmailCode id code⟩ =>
    inferInstanceAs (Decidable (∀ registration ∈ db.userRegistration? id,
      ∀ authenticationId ∈ registration.emailAuthenticationId,
        ∀ r ∈ db.emailAuthenticationCodes authenticationId code, now < r.2.expiresAt))
  | ⟨now, _, _, .registrationPhoneCode id code⟩ =>
    inferInstanceAs (Decidable (∀ registration ∈ db.userRegistration? id,
      ∀ authenticationId ∈ registration.phoneAuthenticationId,
        ∀ r ∈ db.phoneAuthenticationCodes authenticationId code, now < r.2.expiresAt))
  | ⟨now, _, _, .contactEmailCode _ authenticationId _ code⟩ =>
    inferInstanceAs (Decidable (∀ r ∈ db.emailAuthenticationCodes authenticationId code, r.2.expiresAt ≠ now))

section Found

variable {db : Database} {authenticationId : Ulid} {code : String}

theorem exists_of_emailCode? {c : UserEmailAuthenticationCode}
    (h : db.emailAuthenticationCode? authenticationId code = some c) :
    ∃ r ∈ db.emailAuthenticationCodes authenticationId code, r.2.expiresAt = c.expiresAt := by
  obtain ⟨r, hhead, rfl⟩ := Option.map_eq_some_iff.mp h
  exact ⟨r, List.mem_of_head? hhead, rfl⟩

theorem exists_of_phoneCode? {c : UserPhoneAuthenticationCode}
    (h : db.phoneAuthenticationCode? authenticationId code = some c) :
    ∃ r ∈ db.phoneAuthenticationCodes authenticationId code, r.2.expiresAt = c.expiresAt := by
  obtain ⟨r, hmax, rfl⟩ := Option.map_eq_some_iff.mp h
  exact ⟨r, List.mem_reverse.mp (mem_of_maxBy hmax), rfl⟩

end Found

variable {limiter : AttemptLimiter} {case : Lowercase} {now : Time} {db db' : Database}
  {id : Ulid} {code : String} {p : RegistrationProgress}

/-- A user who adds an address may still use a code at the time it expires, but not after. -/
theorem le_expiresAt_of_completed {emailId authenticationId : Ulid}
    {session : Option BrowserSession} {r : UserEmailAuthenticationCode}
    (h : (completeEmailVerification limiter case now emailId authenticationId session
      code).Returns db () db')
    (hr : db.emailAuthenticationCode? authenticationId code = some r) : now ≤ r.expiresAt := by
  obtain ⟨browserSession, -, h₁⟩ := returns_ofOption_bind.mp h
  have h₂ := returns_query_bind.mp h₁
  obtain ⟨auth, hauth, h₃⟩ := returns_ofOption_bind.mp h₂
  obtain ⟨row, -, rfl⟩ := Option.map_eq_some_iff.mp hauth
  obtain ⟨-, h₄⟩ := returns_require_bind.mp h₃
  obtain ⟨-, h₅⟩ := returns_require_bind.mp h₄
  obtain ⟨-, h₆⟩ := returns_require_bind.mp h₅
  have h₇ := returns_query_bind.mp h₆
  obtain ⟨foundCode, hfound, h₈⟩ := returns_ofOption_bind.mp h₇
  obtain ⟨hfresh, -⟩ := returns_require_bind.mp h₈
  cases Option.some.inj (hfound.symm.trans hr)
  exact not_lt.mp (of_decide_eq_false (Bool.not_eq_true' _ |>.mp hfresh))

theorem usesUnexpired_of_timely {e : Event} (h : Timely db e) : UsesUnexpired db e := by
  obtain ⟨now, limiter, case, call⟩ := e
  intro expiresAt huses
  cases call with
  | sendEmailCode codeId authenticationId code => exact huses.elim
  | sendSmsCode codeId authenticationId code => exact huses.elim
  | registrationEmailCode id code =>
    obtain ⟨p, db', a, r, hverify, ha, hr, rfl⟩ := huses
    obtain ⟨registration, hregistration, hattached⟩ := attached_of_verifyCode emailChannel_lawful hverify ha
    obtain ⟨stored, hmem, hexpires⟩ := exists_of_emailCode? hr
    exact hexpires ▸ h registration hregistration a.id hattached stored hmem
  | registrationPhoneCode id code =>
    obtain ⟨p, db', a, r, hverify, ha, hr, rfl⟩ := huses
    obtain ⟨registration, hregistration, hattached⟩ := attached_of_verifyCode phoneChannel_lawful hverify ha
    obtain ⟨stored, hmem, hexpires⟩ := exists_of_phoneCode? hr
    exact hexpires ▸ h registration hregistration a.id hattached stored hmem
  | contactEmailCode emailId authenticationId session code =>
    obtain ⟨db', r, hverify, hr, rfl⟩ := huses
    obtain ⟨stored, hmem, hexpires⟩ := exists_of_emailCode? hr
    have hle := le_expiresAt_of_completed hverify hr
    exact lt_of_le_of_ne hle (hexpires ▸ h stored hmem).symm

/-- In a run whose calls are all timely, every verification uses a code that expires later. -/
theorem run_uses_unexpired_codes {events : List Event}
    (h : Sequential.Along step Timely db events) : Sequential.Along step UsesUnexpired db events :=
  h.of_invariant (I := fun _ => True) (fun _ _ _ _ => trivial)
    (fun _ _ _ htimely => usesUnexpired_of_timely htimely) trivial

def user : User := ⟨6, "u", 0, 0, none, none, false, false, none, none, none⟩

def session : BrowserSession := ⟨5, user, 0, none, none, none, none⟩

def awaitingCodes : Database := { Database.empty with
  users := Table.empty.insert 6 ⟨"u", 0, 0, none, none, false, false, none, none, none⟩
  userSessions := Table.empty.insert 5 ⟨6, 0, none, none, none, none⟩
  userRegistrations := Table.empty.insert 1
    ⟨none, none, none, "v", none, none, none, true, some 2, none, none, none, none, none, 0, none⟩
  userEmailAuthentications := (Table.empty.insert 2 ⟨"a", 0, none, none, some 1⟩).insert 7
    ⟨"b", 0, none, some 5, none⟩ }

def calledAt (now : Time) (call : Call) : Event :=
  ⟨now, ⟨fun _ => true, fun _ => true⟩, ⟨fun s => s, fun s => s⟩, call⟩

def codesSent (authenticationId : Ulid) : List Event :=
  [calledAt 0 (.sendEmailCode 3 authenticationId "c"),
    calledAt 1 (.sendEmailCode 4 authenticationId "d")]

theorem second_code_used_in_time : Sequential.Along step UsesUnexpired awaitingCodes
      (codesSent 2 ++ [calledAt 2 (.registrationEmailCode 1 "d")]) :=
  run_uses_unexpired_codes (by decide +kernel)

/-- Six minutes after it was sent, and one after it expired. -/
def sixMinutes : Time := 6 * 60 * 1000 * 1000

/-- A registration takes an expired code, and a user one that expires right then. -/
theorem expired_codes_accepted : ¬Sequential.Along step UsesUnexpired awaitingCodes
        (codesSent 2 ++ [calledAt sixMinutes (.registrationEmailCode 1 "c")]) ∧
      ¬Sequential.Along step UsesUnexpired awaitingCodes
        (codesSent 7 ++ [calledAt codeDuration (.contactEmailCode 8 7 (some session) "c")]) := by
  constructor
  · intro halong
    have hused := halong.of_append.1
    obtain ⟨p, hreturns, hp⟩ := exists_returns
      (verifyRegistrationEmailCode ⟨fun _ => true, fun _ => true⟩ sixMinutes 1 "c")
      (Sequential.run step awaitingCodes (codesSent 2))
      (fun p => p.emailAuthentication.any (·.id = 2)) (by decide +kernel)
    cases ha : p.emailAuthentication with
    | none => simp [ha] at hp
    | some a =>
      have hid : a.id = 2 := by simpa [ha] using hp
      have hcode : (Sequential.run step awaitingCodes (codesSent 2)).emailAuthenticationCode? a.id
          "c" = some ⟨3, 2, "c", 0, codeDuration⟩ := by
        rw [hid]
        decide +kernel
      have hlt := hused codeDuration ⟨p, _, a, _, hreturns, ha, hcode, rfl⟩
      exact absurd hlt (by decide)
  · intro halong
    have hused := halong.of_append.1
    obtain ⟨⟨⟩, hreturns, -⟩ := exists_returns
      (completeEmailVerification ⟨fun _ => true, fun _ => true⟩ ⟨fun s => s, fun s => s⟩
        codeDuration 8 7 (some session) "c")
      (Sequential.run step awaitingCodes (codesSent 7)) (fun _ => true) (by decide +kernel)
    have hcode : (Sequential.run step awaitingCodes (codesSent 7)).emailAuthenticationCode? 7 "c" =
        some ⟨3, 7, "c", 0, codeDuration⟩ := by decide +kernel
    have hlt := hused codeDuration ⟨_, _, hreturns, hcode, rfl⟩
    exact absurd hlt (by decide)

end Pasion.Verification

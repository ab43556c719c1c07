import Pasion.Handlers.Registration

/-! The step that a submission reports, and the step that the stored rows call for. -/
namespace Pasion.Registration

open Relational Txn Table

/-- The three calls that move a registration on. -/
inductive Submission where
  | emailCode (code : String)
  | phoneCode (code : String)
  | displayName (displayName : Option String) (skip : Bool)

/-- The call succeeds, reports `step` and leaves `db'`. -/
def Submission.Reports (s : Submission) (limiter : AttemptLimiter) (now : Time) (id : Ulid)
    (db : Database) (step : RegistrationStep) (db' : Database) : Prop :=
  match s with
  | .emailCode code =>
    submitRegistrationEmailCode limiter now id code db = (.ok (.advanced step), db')
  | .phoneCode code =>
    submitRegistrationPhoneCode limiter now id code db = (.ok (.advanced step), db')
  | .displayName name skip =>
    submitRegistrationDisplayName id name skip db = (.ok (.advanced step), db')

/-- A name is submitted last. -/
def Submission.InOrder (s : Submission) (id : Ulid) (db : Database) : Prop :=
  match s with
  | .displayName _ _ => ∀ p ∈ registrationProgress? db id, p.ContactsVerified
  | _ => True

section Stored

variable {ε : Type} [FromRepository ε] {db db' : Database} {id : Ulid}

theorem userRegistration?_of_setDisplayName {registration registration' : UserRegistration}
    {name : String} (hregistration : db.userRegistration? id = some registration)
    (h : (UserRegistrationRepository.setDisplayName registration name : Repo ε _).Returns db
      registration' db') :
    db' = { db with userRegistrations := db'.userRegistrations } ∧
      db'.userRegistration? id = some { registration with displayName := some name } := by
  obtain ⟨-, -, hpure⟩ := Repo.returns_updateRow_bind.mp h
  obtain ⟨-, rfl⟩ := returns_pure.mp hpure
  refine ⟨rfl, ?_⟩
  obtain ⟨row, hget, hdecode⟩ := Option.bind_eq_some_iff.mp hregistration
  have hrow := toOption_eq_some.mp hdecode
  have hid : registration.id = id := by
    unfold UserRegistrationRow.toUserRegistration at hrow
    split at hrow
    · cases hrow
    · split_ifs at hrow
      · cases hrow
      · rw [← Except.ok.inj hrow]
  refine Option.bind_eq_some_iff.mpr ⟨{ row with displayName := some name }, ?_, ?_⟩
  · simp [get?_update, hid, hget]
  · refine toOption_eq_some.mpr ?_
    unfold UserRegistrationRow.toUserRegistration at hrow ⊢
    split at hrow
    · cases hrow
    · next password hpassword =>
      have hpassword' : ({ row with displayName := some name } : UserRegistrationRow).password? id
          = .ok password := hpassword
      rw [hpassword']
      split_ifs at hrow with hterms
      · cases hrow
      · dsimp only
        rw [if_neg hterms, ← Except.ok.inj hrow]

end Stored

variable {limiter : AttemptLimiter} {now : Time} {id : Ulid} {db db' : Database}
  {step : RegistrationStep}

theorem report_ne_advanced (e : VerifyRegistrationCodeError) : e.report ≠ .ok (.advanced step) := by
  cases e <;> simp [VerifyRegistrationCodeError.report]

theorem displayName_report_ne_advanced (e : SetRegistrationDisplayNameError) :
    e.report ≠ .ok (.advanced step) := by
  cases e <;> simp [SetRegistrationDisplayNameError.report]

/-- A submitted code reports the step of the rows it leaves. -/
theorem nextStep_of_code {A C : Type} {ch : Channel A C} {idOf : A → Ulid} (hch : ch.Lawful idOf)
    {checkAttempt : A → Bool} {code : String}
    (h : answer (verifyCode ch checkAttempt now id code) (.advanced ·.nextStep)
      VerifyRegistrationCodeError.report db = (.ok (.advanced step), db')) :
    (registrationProgress? db' id).map (·.nextStep) = some step := by
  obtain ⟨p, hreturns, hstep⟩ := returns_of_answer report_ne_advanced h
  rw [registrationProgress?_of_verifyCode hch hreturns]
  exact congrArg some (RegistrationVerificationOutcome.advanced.inj hstep)

/-- A submitted name reports the last step, which the rows call for if the contacts are done. -/
theorem nextStep_of_displayName {displayName : Option String} {skip : Bool}
    (h : submitRegistrationDisplayName id displayName skip db = (.ok (.advanced step), db')) :
    (registrationProgress? db' id).map (·.nextStep) = some step ↔
      ∀ p ∈ registrationProgress? db id, p.ContactsVerified := by
  obtain ⟨registration', hreturns, hstep⟩ := returns_of_answer displayName_report_ne_advanced h
  obtain ⟨found, db₁, hlookup, h₁⟩ := returns_bind.mp hreturns
  obtain ⟨registration, rfl, h₂⟩ := returns_ofOption_bind.mp h₁
  obtain ⟨hregistration, rfl⟩ := returns_lookup.mp hlookup
  obtain ⟨-, h₃⟩ := returns_require_bind.mp h₂
  obtain ⟨name, -, hset⟩ := returns_ofOption_bind.mp h₃
  obtain ⟨hframe, hstored⟩ := userRegistration?_of_setDisplayName hregistration hset
  cases RegistrationDisplayNameOutcome.advanced.inj hstep
  have hbefore : registrationProgress? db id = some (progressOf db registration) := by
    rw [registrationProgress?, hregistration]
    rfl
  have hafter : registrationProgress? db' id = some { progressOf db registration with
        registration := { registration with displayName := some name } } := by
    rw [registrationProgress?, hstored, hframe]
    rfl
  rw [hbefore, hafter]
  simp only [Option.map_some, Option.some.injEq, Option.mem_def, forall_eq',
    RegistrationProgress.nextStep_eq_finish_iff, Option.isSome_some, and_true]
  exact Iff.rfl

/-- The reported step is the stored one, except that a name before the contacts reports the end. -/
theorem reported_step_is_stored_iff {s : Submission} (h : s.Reports limiter now id db step db') :
    (registrationProgress? db' id).map (·.nextStep) = some step ↔ s.InOrder id db := by
  cases s with
  | emailCode code => exact iff_of_true (nextStep_of_code emailChannel_lawful h) trivial
  | phoneCode code => exact iff_of_true (nextStep_of_code phoneChannel_lawful h) trivial
  | displayName displayName skip => exact nextStep_of_displayName h

def pendingEmail : Database := { Database.empty with
  userRegistrations := Table.empty.insert 1
    ⟨none, none, none, "u", none, none, none, true, some 2, none, none, none, none, none, 0, none⟩
  userEmailAuthentications := Table.empty.insert 2 ⟨"a", 0, none, none, some 1⟩
  userEmailAuthenticationCodes := Table.empty.insert 3 ⟨2, "c", 0, 5⟩ }

def unlimited : AttemptLimiter := ⟨fun _ => true, fun _ => true⟩

def verifiedEmail : Database := (submitRegistrationEmailCode unlimited 1 1 "c" pendingEmail).2

theorem name_after_code_reports_stored :
    ∃ db', (Submission.displayName (some "n") false).Reports unlimited 2 1 verifiedEmail .finish
      db' ∧
      (registrationProgress? db' 1).map (·.nextStep) = some .finish := by
  have hreports : (Submission.displayName (some "n") false).Reports unlimited 2 1 verifiedEmail
      .finish (submitRegistrationDisplayName 1 (some "n") false verifiedEmail).2 :=
    Prod.ext (by decide +kernel) rfl
  refine ⟨_, hreports, (reported_step_is_stored_iff hreports).mpr ?_⟩
  have hall : (registrationProgress? verifiedEmail 1).all (fun p => decide p.ContactsVerified) := by
    decide +kernel
  intro p hp
  rw [Option.mem_def.mp hp] at hall
  exact of_decide_eq_true hall

theorem name_before_code_reports_finish :
    ∃ db', (Submission.displayName (some "n") false).Reports unlimited 1 1 pendingEmail .finish
      db' ∧
      (registrationProgress? db' 1).map (·.nextStep) = some .verifyEmail :=
  ⟨(submitRegistrationDisplayName 1 (some "n") false pendingEmail).2,
    Prod.ext (by decide +kernel) rfl, by decide +kernel⟩

end Pasion.Registration

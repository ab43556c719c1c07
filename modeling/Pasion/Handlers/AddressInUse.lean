import Pasion.Handlers.RegistrationStart
import Pasion.Relational.Reports

/-! Whether an address is in use, as four calls decide it. -/
namespace Pasion

open Relational Txn Table

section Reports

variable {ε α : Type} [FromRepository ε] {e : ε}
variable {violation : Database → Option DatabaseError}

theorem Repo.neverReports_fetch {f : Database → Except DatabaseError α}
    (he : ∀ d, repository d ≠ e) : (Repo.fetch f : Repo ε α).NeverReports e :=
  neverReports_query.bind fun _ => neverReports_ofExcept he

theorem Repo.neverReports_statement {effect : Database → Effect Database LockKey} {f : Database → α}
    (he : ∀ d, repository d ≠ e) : (Repo.statement violation effect f : Repo ε α).NeverReports e :=
  neverReports_execute.bind fun _ => neverReports_ofExcept he

theorem Repo.neverReports_updateRow {present : Database → Bool} {lock : LockKey} {write : Database → Database}
    (he : ∀ d, repository d ≠ e) :
    (Repo.updateRow present violation lock write : Repo ε Unit).NeverReports e :=
  (Repo.neverReports_statement he).bind fun _ => neverReports_require (he _)

end Reports

namespace Registration

inductive UserAdminServiceError where
  | userEmailNotFound (id : Ulid)
  | invalidEmail (email : String)
  | emailAlreadyInUse (email : String)
  | repository (e : DatabaseError)

instance : FromRepository UserAdminServiceError := ⟨.repository⟩

/-- The operation is stored as a JSON string, with its quotes. -/
def recordUserEmailUpdated (now : Time) (logId userEmailId : Ulid) :
    Option User → Repo UserAdminServiceError Unit
  | some admin => AuditRepository.addAdminOperation now logId admin.id "\"user_email_updated\""
      "user_email" (some userEmailId)
  | none => pure ()

def applyEmailPatch (now : Time) (logId : Ulid) (adminUser : Option User) (userEmail : UserEmail)
    (patch : UserEmailPatch) : Repo UserAdminServiceError UserEmail := do
  let updated ← UserEmailRepository.patch now userEmail patch
  recordUserEmailUpdated now logId updated.id adminUser
  pure updated

def checkNewAddress (x : Services) (userEmailId : Ulid) :
    Option String → Repo UserAdminServiceError Unit
  | some email => do
    Txn.require (x.isAddress email) (.invalidEmail email)
    let existing ← UserEmailRepository.findByEmail x.lower x.toLowercase email
    Txn.require (existing.all (·.id = userEmailId)) (.emailAlreadyInUse email)
  | none => pure ()

def patchUserEmail (x : Services) (now : Time) (logId : Ulid) (adminUser : Option User)
    (userEmailId : Ulid) (patch : UserEmailPatch) : Repo UserAdminServiceError UserEmail := do
  let found ← UserEmailRepository.lookup userEmailId
  let userEmail ← Txn.ofOption found (.userEmailNotFound userEmailId)
  if patch.isEmpty then pure userEmail
  else do
    checkNewAddress x userEmailId patch.email
    applyEmailPatch now logId adminUser userEmail patch

/-- The rows that have an address, as the repository compares addresses. -/
def addressRows (x : Services) (db : Database) (address : String) : List (Ulid × UserEmailRow) :=
  db.userEmails.select (fun _ r => x.lower r.email = x.toLowercase address)

/-- Some row other than the one excepted has the address. -/
def InUse (x : Services) (db : Database) (address : String) (excepted : Option Ulid) : Prop :=
  ∃ id r, db.userEmails.get? id = some r ∧ x.lower r.email = x.toLowercase address ∧
    some id ≠ excepted

/-- An address that several rows have is not found. -/
def soleRow? : List (Ulid × UserEmailRow) → Option UserEmail
  | [r] => some (r.2.toUserEmail r.1)
  | _ => none

variable {x : Services} {db : Database} {address : String}

theorem returns_findByEmail (ε : Type) [FromRepository ε] (x : Services) (db : Database)
    (address : String) :
    (UserEmailRepository.findByEmail x.lower x.toLowercase address : Repo ε _).Returns db
      (soleRow? (addressRows x db address)) db :=
  returns_query.mpr ⟨rfl, rfl⟩

theorem inUse_iff {excepted : Option Ulid} :
    InUse x db address excepted ↔ ∃ r ∈ addressRows x db address, some r.1 ≠ excepted := by
  constructor
  · rintro ⟨id, r, hget, hmatch, hne⟩
    exact ⟨(id, r), mem_select.mpr ⟨hget, decide_eq_true hmatch⟩, hne⟩
  · rintro ⟨⟨id, r⟩, hmem, hne⟩
    obtain ⟨hget, hmatch⟩ := mem_select.mp hmem
    exact ⟨id, r, hget, of_decide_eq_true hmatch, hne⟩

theorem inUse_none_iff : InUse x db address none ↔ addressRows x db address ≠ [] := by
  rw [inUse_iff]
  constructor
  · rintro ⟨r, hmem, -⟩ hnil
    rw [hnil] at hmem
    cases hmem
  · intro hne
    obtain ⟨r, hmem⟩ := List.exists_mem_of_ne_nil _ hne
    exact ⟨r, hmem, nofun⟩

theorem count_eq : (db.userEmails.select (fun _ r =>
    (UserEmailFilter.new.forEmail address).selects x.lower x.toLowercase r)).length =
      (addressRows x db address).length := by
  simp [addressRows, UserEmailFilter.selects, UserEmailFilter.new, UserEmailFilter.forEmail]

section Decisions

variable {now : Time}
variable {request : BeginPasswordRegistrationRequest} {email phone : Option String}
  {issues : List BeginPasswordRegistrationIssue} {authenticationId jobId logId : Ulid}
  {requester : Option IpAddr} {registration : UserRegistration} {progress : RegistrationProgress}

/-- A password registration that gets as far as looking at the address. -/
structure BeginLooks (x : Services) (request : BeginPasswordRegistrationRequest)
    (address : String) : Prop where
  enabled : request.passwordRegistrationEnabled
  email : request.email = some address
  nonempty : address.isEmpty = false
  valid : x.isAddress address

def BeginRefuses (x : Services) (now : Time) (ids : StartIds)
    (request : BeginPasswordRegistrationRequest) (db : Database) : Prop :=
  ∃ issues, ((beginPasswordRegistration x now ids request).transact db).1 = .ok (.rejected issues) ∧
    .emailInUse ∈ issues

theorem returns_checkUsername (x : Services) (db : Database) (username : String) : ∃ issues,
    (checkUsername x username).Returns db issues db ∧ .emailInUse ∉ issues := by
  unfold checkUsername
  split_ifs
  · exact ⟨_, returns_pure.mpr ⟨rfl, rfl⟩, by simp⟩
  · refine ⟨_, returns_query_bind.mpr (returns_pure.mpr ⟨rfl, rfl⟩), ?_⟩
    split_ifs <;> simp

theorem returns_checkPhone (db : Database) (phone : String) : ∃ result,
    (checkPhone phone).Returns db result db ∧ .emailInUse ∉ result.1 := by
  unfold checkPhone
  split_ifs
  · exact ⟨_, returns_pure.mpr ⟨rfl, rfl⟩, by simp⟩
  · refine ⟨_, returns_query_bind.mpr (returns_pure.mpr ⟨rfl, rfl⟩), ?_⟩
    split_ifs <;> simp

theorem returns_checkEmail (db : Database) (hne : address.isEmpty = false)
    (hvalid : x.isAddress address) :
    (checkEmail x address).Returns db
      (if (addressRows x db address).length > 0 then ([.emailInUse], none)
        else ([], some address)) db := by
  unfold checkEmail
  rw [hne, hvalid]
  refine returns_query_bind.mpr (returns_pure.mpr ⟨?_, rfl⟩)
  rw [count_eq]

theorem emailInUse_not_mem_checkContact : .emailInUse ∉ checkContact request := by
  unfold checkContact
  split_ifs <;> simp

theorem emailInUse_not_mem_checkPasswords : .emailInUse ∉ checkPasswords request := by
  unfold checkPasswords
  split_ifs <;> simp

/-- What is found before is all that is reported. -/
theorem checkRest_of_ne_nil
    (h : issues ≠ []) : checkRest x request email phone issues = .ok issues := by
  have hunless : ∀ check, unlessIssues issues check = .ok issues := by simp [unlessIssues, h]
  unfold checkRest
  rw [hunless]
  change (unlessIssues issues _ >>= _) = _
  rw [hunless]
  exact hunless _

/-- The checks outside of the database find no address in use. -/
theorem emailInUse_not_mem_checkRest
    (h : checkRest x request email phone [] = .ok issues) : .emailInUse ∉ issues := by
  have hstrength : ∀ l, checkStrength x request = .ok l → .emailInUse ∉ l := by
    intro l hl
    obtain ⟨ok, -, rfl⟩ := Fallible.map_eq_ok_iff.mp hl
    split_ifs <;> simp
  have hpolicy : ∀ l, checkPolicy x request email = .ok l → .emailInUse ∉ l := by
    intro l hl
    obtain ⟨violations, -, rfl⟩ := Fallible.map_eq_ok_iff.mp hl
    simp
  have hlimits : .emailInUse ∉ checkLimits x request email phone := by
    unfold checkLimits
    split_ifs <;> simp
  unfold checkRest at h
  obtain ⟨l₁, h₁, hrest⟩ := Fallible.bind_eq_ok_iff.mp h
  obtain ⟨l₂, h₂, h₃⟩ := Fallible.bind_eq_ok_iff.mp hrest
  have hl₁ : .emailInUse ∉ l₁ := hstrength l₁ h₁
  have hl₂ : .emailInUse ∉ l₂ := by
    unfold unlessIssues at h₂
    split_ifs at h₂
    · exact hpolicy l₂ h₂
    · rwa [← Except.ok.inj h₂]
  unfold unlessIssues at h₃
  split_ifs at h₃
  · rwa [← Except.ok.inj h₃]
  · rwa [← Except.ok.inj h₃]

theorem beginRefuses_iff {ids : StartIds} (h : BeginLooks x request address) :
    BeginRefuses x now ids request db ↔ addressRows x db address ≠ [] := by
  obtain ⟨usernameIssues, husername, hnoUsername⟩ := returns_checkUsername x db request.username
  obtain ⟨phone, hphone, hnoPhone⟩ := returns_checkPhone db (request.phone.getD "")
  have hemail := returns_checkEmail db h.nonempty h.valid
  unfold BeginRefuses beginPasswordRegistration
  rw [h.enabled, h.email]
  simp only [Bool.not_true, Bool.false_eq_true, if_false, Option.getD_some]
  rw [transact_bind_of_returns husername, transact_bind_of_returns hemail,
    transact_bind_of_returns hphone]
  constructor
  · rintro ⟨issues, hissues, hmem⟩ hnil
    simp only [hnil, List.length_nil, gt_iff_lt, lt_self_iff_false, if_false] at hissues
    obtain ⟨db', hreturns⟩ := returns_of_transact hissues
    obtain ⟨found, hfound, hrest⟩ := returns_ofExcept_bind.mp hreturns
    split_ifs at hrest
    · obtain ⟨started, db₁, -, hstarted⟩ := returns_bind.mp hrest
      cases (returns_pure.mp hstarted).1
    · cases (returns_pure.mp hrest).1
      by_cases hl : usernameIssues ++ checkContact request ++ [] ++ phone.1 ++
          checkPasswords request = []
      · rw [hl] at hfound
        exact emailInUse_not_mem_checkRest hfound hmem
      · rw [checkRest_of_ne_nil hl] at hfound
        cases Except.ok.inj hfound
        simp only [List.append_nil, List.mem_append] at hmem
        rcases hmem with ((hmem | hmem) | hmem) | hmem
        · exact hnoUsername hmem
        · exact emailInUse_not_mem_checkContact hmem
        · exact hnoPhone hmem
        · exact emailInUse_not_mem_checkPasswords hmem
  · intro hne
    have hpos : (addressRows x db address).length > 0 := List.length_pos_iff.mpr hne
    simp only [hpos, if_true]
    have hmem : BeginPasswordRegistrationIssue.emailInUse ∈ usernameIssues ++
        checkContact request ++ [.emailInUse] ++ phone.1 ++ checkPasswords request := by simp
    have hl := List.ne_nil_of_mem hmem
    rw [checkRest_of_ne_nil hl]
    refine ⟨_, ?_, hmem⟩
    rw [transact_bind_of_returns (returns_ofExcept.mpr ⟨rfl, rfl⟩),
      if_neg (by simpa only [List.isEmpty_iff] using hl)]
    rfl

/-- A change of address that gets as far as looking at it. -/
structure ChangeLooks (x : Services) (now : Time) (registrationId : Ulid) (email : String)
    (db : Database) (address : String) : Prop where
  progress : ∃ p a, registrationProgress? db registrationId = some p ∧
    p.registration.completedAt = none ∧
    registrationHasExpired p.registration.createdAt now = false ∧
    p.registration.emailAuthenticationId.isSome ∧ p.emailAuthentication = some a ∧
    a.completedAt = none
  email : String.ofList (Str.trim email.toList) = address
  valid : x.isAddress address

def ChangeRefuses (x : Services) (now : Time) (authenticationId jobId : Ulid)
    (requester : Option IpAddr) (registrationId : Ulid) (email language : String)
    (db : Database) : Prop :=
  ((changeRegistrationEmail x now authenticationId jobId requester registrationId email
    language).transact db).1 = .ok .emailInUse

structure PrepareLooks (now : Time) (progress : RegistrationProgress) (tokenRequired : Bool)
    (db : Database) (address : String) : Prop where
  token : (prepareToken now progress.registration tokenRequired).Succeeds db
  attached : progress.registration.emailAuthenticationId.isSome
  email : ∃ a, progress.emailAuthentication = some a ∧ a.completedAt.isSome ∧ a.email = address

def PrepareRefuses (x : Services) (now : Time) (progress : RegistrationProgress)
    (tokenRequired : Bool) (db : Database) (address : String) : Prop :=
  ((prepareRegistrationCompletion x now progress tokenRequired).transact db).1 =
    .error (.emailInUse address)

/-- A patch of an address that gets as far as looking at the new one. -/
structure PatchLooks (x : Services) (userEmailId : Ulid) (patch : UserEmailPatch) (db : Database)
    (address : String) : Prop where
  found : db.userEmails.contains userEmailId
  email : patch.email = some address
  valid : x.isAddress address

def PatchRefuses (x : Services) (now : Time) (logId : Ulid) (adminUser : Option User)
    (userEmailId : Ulid) (patch : UserEmailPatch) (db : Database) (address : String) : Prop :=
  ((patchUserEmail x now logId adminUser userEmailId patch).transact db).1 =
    .error (.emailAlreadyInUse address)

/-- The address is one that exactly one row has. -/
theorem changeTo_refuses_iff {language : String} {current : UserEmailAuthentication}
    (hvalid : x.isAddress address) :
    ((changeTo x now authenticationId jobId requester language address registration
      current).transact db).1 = .ok .emailInUse ↔ ∃ r, addressRows x db address = [r] := by
  have hrest : ((if !x.checkEmailAuthenticationEmail requester address then pure .rateLimited
      else if now < current.createdAt + resendDelay ||
        !x.checkRegistrationEmailResendCooldown registration.id then pure .rateLimited
      else replaceEmail now authenticationId jobId language address registration).transact db).1 ≠
        .ok .emailInUse := by
    intro h
    obtain ⟨db', hreturns⟩ := returns_of_transact h
    split_ifs at hreturns
    · cases (returns_pure.mp hreturns).1
    · cases (returns_pure.mp hreturns).1
    · obtain ⟨a, db₁, -, h₁⟩ := returns_bind.mp hreturns
      obtain ⟨_, db₂, -, h₂⟩ := returns_bind.mp h₁
      obtain ⟨r, db₃, -, h₃⟩ := returns_bind.mp h₂
      cases (returns_pure.mp h₃).1
  unfold changeTo
  rw [hvalid]
  simp only [Bool.not_true, Bool.false_eq_true, if_false]
  rw [transact_bind_of_returns (returns_findByEmail _ x db address)]
  rcases addressRows x db address with _ | ⟨r, _ | ⟨r', rest⟩⟩
  · exact iff_of_false hrest (by simp)
  · exact iff_of_true rfl ⟨r, rfl⟩
  · exact iff_of_false hrest (by simp)

theorem changeRefuses_iff {registrationId : Ulid} {email language : String}
    (h : ChangeLooks x now registrationId email db address) :
    ChangeRefuses x now authenticationId jobId requester registrationId email language db ↔
      ∃ r, addressRows x db address = [r] := by
  obtain ⟨⟨p, a, hp, hopen, hfresh, hattached, ha, hpending⟩, rfl, hvalid⟩ := h
  have hload : ((loadRegistrationProgress registrationId).mapError
      RegistrationEmailChangeError.ofLoad).Returns db p db :=
    returns_mapError.mpr (returns_loadRegistrationProgress.mpr ⟨hp, rfl⟩)
  unfold ChangeRefuses changeRegistrationEmail
  rw [transact_bind_of_returns hload]
  simp only [hopen, hfresh, Option.isSome_none, Bool.false_eq_true, if_false]
  rw [transact_require_bind hattached, transact_ofOption_bind ha]
  simp only [hpending, Option.isSome_none, Bool.false_eq_true, if_false]
  exact changeTo_refuses_iff hvalid

theorem prepareToken_frame {required : Bool} {token : Option UserRegistrationToken} {db' : Database}
    (h : (prepareToken now registration required).Returns db token db') : db' = db := by
  unfold prepareToken at h
  split_ifs at h
  · obtain ⟨id, -, h₁⟩ := returns_ofOption_bind.mp h
    obtain ⟨found, -, h₂⟩ := Repo.returns_fetch_bind.mp h₁
    obtain ⟨token, -, h₃⟩ := returns_ofOption_bind.mp h₂
    obtain ⟨-, h₄⟩ := returns_require_bind.mp h₃
    exact (returns_pure.mp h₄).2.symm
  · exact (returns_pure.mp h).2.symm

theorem preparePhone_neverReports : (preparePhone progress).NeverReports (.emailInUse address) := by
  unfold preparePhone
  split_ifs
  · refine (neverReports_ofOption (by nofun)).bind fun a => ?_
    refine (neverReports_require (by nofun)).bind fun _ => ?_
    refine neverReports_query.bind fun found => ?_
    exact (neverReports_require (by nofun)).bind fun _ => neverReports_pure
  · exact neverReports_pure

theorem prepareUpstream_neverReports {sessionId : Option Ulid} :
    (prepareUpstream sessionId).NeverReports (.emailInUse address) := by
  cases sessionId with
  | none => exact neverReports_pure
  | some id =>
    refine (Repo.neverReports_fetch (by nofun)).bind fun found => ?_
    refine (neverReports_ofOption (by nofun)).bind fun session => ?_
    refine (neverReports_ofOption (by nofun)).bind fun linkId => ?_
    refine neverReports_query.bind fun found => ?_
    refine (neverReports_ofOption (by nofun)).bind fun link => ?_
    exact (neverReports_require (by nofun)).bind fun _ => neverReports_pure

theorem prepareRefuses_iff {tokenRequired : Bool}
    (h : PrepareLooks now progress tokenRequired db address) :
    PrepareRefuses x now progress tokenRequired db address ↔ addressRows x db address ≠ [] := by
  obtain ⟨⟨token, db', htoken⟩, hattached, a, ha, hcompleted, rfl⟩ := h
  obtain rfl := prepareToken_frame htoken
  unfold PrepareRefuses prepareRegistrationCompletion
  rw [transact_bind_of_returns htoken]
  have hcount : (UserEmailRepository.count x.lower x.toLowercase
      (UserEmailFilter.new.forEmail a.email) : Repo PrepareRegistrationCompletionError _).Returns
        db' (addressRows x db' a.email).length db' := returns_query.mpr ⟨count_eq, rfl⟩
  by_cases hne : addressRows x db' a.email = []
  · refine iff_of_false ?_ (fun h => h hne)
    have hemail : (prepareEmail x progress).Returns db' (some a) db' := by
      unfold prepareEmail
      rw [if_pos hattached]
      refine returns_ofOption_bind.mpr ⟨a, ha, ?_⟩
      refine returns_require_bind.mpr ⟨hcompleted, ?_⟩
      refine returns_bind.mpr ⟨_, db', hcount, ?_⟩
      exact returns_require_bind.mpr ⟨by simp [hne], returns_pure.mpr ⟨rfl, rfl⟩⟩
    rw [transact_bind_of_returns hemail]
    refine preparePhone_neverReports.bind (fun phone => ?_) db'
    refine prepareUpstream_neverReports.bind fun upstream => ?_
    exact (neverReports_require (by nofun)).bind fun _ => neverReports_pure
  · refine iff_of_true (transact_bind_of_error ?_) hne
    have hpos : (addressRows x db' a.email).length > 0 := List.length_pos_iff.mpr hne
    unfold prepareEmail
    rw [if_pos hattached, transact_ofOption_bind ha, transact_require_bind hcompleted,
      transact_bind_of_returns hcount]
    simp only [hpos, decide_true, Bool.not_true]
    rfl

theorem applyEmailPatch_neverReports {adminUser : Option User}
    {userEmail : UserEmail} {patch : UserEmailPatch} :
    (applyEmailPatch now logId adminUser userEmail patch).NeverReports
      (.emailAlreadyInUse address) := by
  refine Txn.NeverReports.bind ?_ fun updated => ?_
  · unfold UserEmailRepository.patch
    split_ifs
    · exact neverReports_pure
    · refine Txn.NeverReports.bind ?_ fun _ => ?_
      · unfold UserEmailRepository.demoteOthers
        dsimp only
        split_ifs
        · exact neverReports_execute
        · exact neverReports_pure
      · exact (Repo.neverReports_updateRow (by nofun)).bind fun _ => neverReports_pure
  · refine Txn.NeverReports.bind ?_ fun _ => neverReports_pure
    cases adminUser with
    | none => exact neverReports_pure
    | some admin => exact Repo.neverReports_statement (by nofun)

theorem patchRefuses_iff {userEmailId : Ulid} {adminUser : Option User}
    {patch : UserEmailPatch} (h : PatchLooks x userEmailId patch db address) :
    PatchRefuses x now logId adminUser userEmailId patch db address ↔
      ∃ r, addressRows x db address = [r] ∧ r.1 ≠ userEmailId := by
  obtain ⟨row, hrow⟩ := contains_iff_exists.mp h.found
  have hlookup : (UserEmailRepository.lookup userEmailId : Repo UserAdminServiceError _).Returns db
      (some (row.toUserEmail userEmailId)) db := by
    refine returns_query.mpr ⟨?_, rfl⟩
    rw [hrow]
    rfl
  have hempty : patch.isEmpty = false := by simp [UserEmailPatch.isEmpty, h.email]
  unfold PatchRefuses patchUserEmail
  rw [transact_bind_of_returns hlookup, transact_ofOption_bind rfl, hempty, h.email]
  simp only [Bool.false_eq_true, if_false]
  have hexisting := returns_findByEmail UserAdminServiceError x db address
  by_cases hsame : (soleRow? (addressRows x db address)).all (·.id = userEmailId)
  · have hcheck : (checkNewAddress x userEmailId (some address)).Returns db () db := by
      refine returns_require_bind.mpr ⟨h.valid, ?_⟩
      exact returns_bind.mpr ⟨_, db, hexisting, returns_require.mpr ⟨hsame, rfl⟩⟩
    rw [transact_bind_of_returns hcheck]
    refine iff_of_false (applyEmailPatch_neverReports db) ?_
    rintro ⟨r, hr, hne⟩
    rw [hr] at hsame
    exact hne (of_decide_eq_true hsame)
  · refine iff_of_true (transact_bind_of_error ?_) ?_
    · unfold checkNewAddress
      rw [transact_require_bind h.valid, transact_bind_of_returns hexisting,
        Bool.eq_false_iff.mpr hsame]
      rfl
    · rcases hrows : addressRows x db address with _ | ⟨r, _ | ⟨r', rest⟩⟩
      · simp [hrows, soleRow?] at hsame
      · refine ⟨r, rfl, fun heq => hsame ?_⟩
        rw [hrows]
        exact decide_eq_true heq
      · simp [hrows, soleRow?] at hsame

end Decisions

/-- The four decisions agree if at most one row has the address; two do not see a shared one. -/
theorem address_decisions_agree_iff {now : Time} {ids : StartIds}
    {request : BeginPasswordRegistrationRequest} {authenticationId jobId registrationId : Ulid}
    {requester : Option IpAddr} {email language : String} {progress : RegistrationProgress}
    {tokenRequired : Bool} {logId userEmailId : Ulid} {adminUser : Option User}
    {patch : UserEmailPatch} (hbegin : BeginLooks x request address)
    (hchange : ChangeLooks x now registrationId email db address)
    (hprepare : PrepareLooks now progress tokenRequired db address)
    (hpatch : PatchLooks x userEmailId patch db address) :
    ((BeginRefuses x now ids request db ↔ InUse x db address none) ∧
      (ChangeRefuses x now authenticationId jobId requester registrationId email language db ↔
        InUse x db address none) ∧
      (PrepareRefuses x now progress tokenRequired db address ↔ InUse x db address none) ∧
      (PatchRefuses x now logId adminUser userEmailId patch db address ↔
        InUse x db address (some userEmailId))) ↔ (addressRows x db address).length ≤ 1 := by
  rw [beginRefuses_iff hbegin, changeRefuses_iff hchange, prepareRefuses_iff hprepare,
    patchRefuses_iff hpatch, inUse_none_iff, inUse_iff]
  rcases addressRows x db address with _ | ⟨r, _ | ⟨r', rest⟩⟩
  · simp
  · simp
  · simp

def lenient : Services where
  toNames := anyName
  isAddress _ := true
  isPasswordComplexEnough _ := .ok true
  hash s := .ok (1, s)
  evaluateRegister _ := .ok []
  checkRegistration _ := true
  checkEmailAuthenticationEmail _ _ := true
  checkPhoneAuthenticationPhone _ _ := true
  checkRegistrationEmailResendCooldown _ := true

def withEmails (userEmails : Table Ulid UserEmailRow) : Database := { Database.empty with
    userRegistrations := Table.empty.insert 1
      ⟨none, none, none, "u", none, none, none, true, some 2, none, none, none, none, none, 0, none⟩
    userEmailAuthentications := Table.empty.insert 2 ⟨"b", 0, none, none, some 1⟩
    userEmails }

def oneRow : Database :=
  withEmails ((Table.empty.insert 3 ⟨9, "z", 0, 0, none, true⟩).insert 4 ⟨8, "a", 0, 0, none, true⟩)

def twoRows : Database :=
  withEmails (oneRow.userEmails.insert 5 ⟨7, "a", 0, 0, none, true⟩)

def registering : BeginPasswordRegistrationRequest :=
  ⟨"v", some "a", none, "p", "p", none, none, none, "en", none, true, false, none⟩

def verified : RegistrationProgress := ⟨{ registeredAt 0 with emailAuthenticationId := some 6 },
    some ⟨6, none, some 1, "a", 0, some 0⟩, none⟩

def renamed : UserEmailPatch := ⟨some "a", none, none⟩

theorem registering_looks : BeginLooks lenient registering "a" :=
  ⟨rfl, rfl, by decide +kernel, rfl⟩

theorem verified_looks (db : Database) : PrepareLooks 0 verified false db "a" :=
  ⟨succeeds_pure, rfl, _, rfl, rfl, rfl⟩

theorem change_looks (userEmails : Table Ulid UserEmailRow) :
    ChangeLooks lenient 0 1 "a" (withEmails userEmails) "a" :=
  have hfresh : registrationHasExpired 0 0 = false := by decide
  ⟨⟨_, _, rfl, rfl, hfresh, rfl, rfl, rfl⟩, by decide +kernel, rfl⟩

theorem renamed_looks {userEmails : Table Ulid UserEmailRow} (h : userEmails.contains 3) :
    PatchLooks lenient 3 renamed (withEmails userEmails) "a" :=
  ⟨h, rfl, rfl⟩

theorem sole_address_seen :
    (addressRows lenient oneRow "a").length ≤ 1 ∧
      BeginRefuses lenient 0 ⟨10, 11, 12, 13, 14⟩ registering oneRow ∧
      ChangeRefuses lenient 0 10 11 none 1 "a" "en" oneRow ∧
      PrepareRefuses lenient 0 verified false oneRow "a" ∧
      PatchRefuses lenient 0 10 none 3 renamed oneRow "a" := by
  have hrows : (addressRows lenient oneRow "a").length ≤ 1 := by decide +kernel
  have hused : InUse lenient oneRow "a" none ∧ InUse lenient oneRow "a" (some 3) :=
    ⟨⟨4, _, rfl, rfl, nofun⟩, ⟨4, _, rfl, rfl, by decide⟩⟩
  obtain ⟨hbegin, hchange, hprepare, hpatch⟩ := (address_decisions_agree_iff registering_looks
    (change_looks _) (verified_looks _) (renamed_looks (by decide +kernel))).mpr hrows
  exact ⟨hrows, hbegin.mpr hused.1, hchange.mpr hused.1, hprepare.mpr hused.1, hpatch.mpr hused.2⟩

/-- The address of two users can be taken by a third. -/
theorem shared_address_not_seen :
    ChangeLooks lenient 0 1 "a" twoRows "a" ∧ PatchLooks lenient 3 renamed twoRows "a" ∧
      InUse lenient twoRows "a" none ∧ InUse lenient twoRows "a" (some 3) ∧
      ¬ChangeRefuses lenient 0 10 11 none 1 "a" "en" twoRows ∧
      ¬PatchRefuses lenient 0 10 none 3 renamed twoRows "a" := by
  have hchange : ChangeLooks lenient 0 1 "a" twoRows "a" := change_looks _
  have hpatch : PatchLooks lenient 3 renamed twoRows "a" := renamed_looks (by decide +kernel)
  have hlength : (addressRows lenient twoRows "a").length = 2 := by decide +kernel
  have hsole : ¬∃ r, addressRows lenient twoRows "a" = [r] := by
    rintro ⟨r, hr⟩
    simp [hr] at hlength
  refine ⟨hchange, hpatch, ⟨4, _, rfl, rfl, nofun⟩, ⟨4, _, rfl, rfl, by decide⟩, ?_, ?_⟩
  · rw [changeRefuses_iff hchange]
    exact hsole
  · rw [patchRefuses_iff hpatch]
    rintro ⟨r, hr, -⟩
    exact hsole ⟨r, hr⟩

end Registration
end Pasion

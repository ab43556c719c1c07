import Pasion.Handlers.RegistrationAge

/-! How a registration begins, how its address is replaced, and what must hold before it is
completed. -/
namespace Pasion.Registration

open Relational

inductive BeginPasswordRegistrationIssue where
  | registrationDisabled
  | usernameRequired
  | usernameExists
  | emailOrPhoneRequired
  | emailInvalid
  | emailInUse
  | phoneInUse
  | passwordRequired
  | passwordConfirmRequired
  | passwordMismatch
  | passwordTooWeak
  | rateLimited
  | policy (field code : Option String) (message : String)

structure Violation where
  msg : String
  (field code : Option String)

structure RegisterInput where
  username : String
  email : Option String
  ipAddress : Option IpAddr
  userAgent : Option String

structure Services extends Names where
  isAddress : String → Bool
  isPasswordComplexEnough : String → Except String Bool
  hash : String → Except String (ℕ × String)
  evaluateRegister : RegisterInput → Except String (List Violation)
  checkRegistration : Option IpAddr → Bool
  (checkEmailAuthenticationEmail checkPhoneAuthenticationPhone : Option IpAddr → String → Bool)
  checkRegistrationEmailResendCooldown : Ulid → Bool

structure BeginPasswordRegistrationRequest where
  username : String
  (email phone : Option String)
  (password passwordConfirm : String)
  userAgent : Option String
  (ipAddress requester : Option IpAddr)
  notificationLanguage : String
  postAuthAction : Option String
  (passwordRegistrationEnabled passwordRegistrationContactRequired : Bool)
  termsUrl : Option String

inductive BeginPasswordRegistrationError where
  | repository (e : DatabaseError)
  | internal (message : String)

instance : FromRepository BeginPasswordRegistrationError := ⟨.repository⟩

structure StartedPasswordRegistration where
  registration : UserRegistration
  (emailVerified phoneVerified : Bool)

inductive BeginPasswordRegistrationResult where
  | started (started : StartedPasswordRegistration)
  | rejected (issues : List BeginPasswordRegistrationIssue)

structure StartIds where
  (registration emailAuthentication emailJob phoneAuthentication phoneJob : Ulid)

def attachTerms (registration : UserRegistration) :
    Option String → Repo BeginPasswordRegistrationError UserRegistration
  | some termsUrl => UserRegistrationRepository.setTermsUrl registration termsUrl
  | none => pure registration

def attachEmail (now : Time) (ids : StartIds) (language : String)
    (registration : UserRegistration) :
    Option String → Repo BeginPasswordRegistrationError (UserRegistration × Bool)
  | some email => do
    let authentication ← UserEmailRepository.addAuthenticationForRegistration now
      ids.emailAuthentication email registration
    QueueJobRepository.scheduleJob now ids.emailJob
      (.contactVerification (.email authentication.id) language)
    let registration ← UserRegistrationRepository.setEmailAuthentication registration authentication
    pure (registration, false)
  | none => pure (registration, true)

def attachPhone (now : Time) (ids : StartIds) (language : String)
    (registration : UserRegistration) :
    Option String → Repo BeginPasswordRegistrationError (UserRegistration × Bool)
  | some phone => do
    let authentication ← UserPhoneRepository.addAuthenticationForRegistration now
      ids.phoneAuthentication phone registration
    QueueJobRepository.scheduleJob now ids.phoneJob
      (.contactVerification (.phone authentication.id) language)
    let registration ← UserRegistrationRepository.setPhoneAuthentication registration authentication
    pure (registration, false)
  | none => pure (registration, true)

/-- The password is hashed last. -/
def startPasswordRegistration (x : Services) (now : Time) (ids : StartIds)
    (request : BeginPasswordRegistrationRequest) (email phone : Option String) :
    Repo BeginPasswordRegistrationError StartedPasswordRegistration := do
  let registration ← UserRegistrationRepository.add now ids.registration request.username
    request.ipAddress request.userAgent request.postAuthAction
  let registration ← attachTerms registration request.termsUrl
  let (registration, emailVerified) ←
    attachEmail now ids request.notificationLanguage registration email
  let (registration, phoneVerified) ←
    attachPhone now ids request.notificationLanguage registration phone
  let (version, hashedPassword) ← Txn.ofExcept (x.hash request.password) .internal
  let registration ← UserRegistrationRepository.setPassword registration hashedPassword version
  pure ⟨registration, emailVerified, phoneVerified⟩

/-- A homeserver that does not answer is passed over. -/
def checkUsername (x : Services) (username : String) :
    Repo BeginPasswordRegistrationError (List BeginPasswordRegistrationIssue) :=
  if username.isEmpty then pure [.usernameRequired]
  else do
    let taken ← UserRepository.existsUser x.lower x.toLowercase username
    pure (if taken || !(x.isLocalpartAvailable username).toOption.getD true then
      [.usernameExists] else [])

def checkContact (request : BeginPasswordRegistrationRequest) :
    List BeginPasswordRegistrationIssue :=
  if request.passwordRegistrationContactRequired && (request.email.getD "").isEmpty &&
      (request.phone.getD "").isEmpty then [.emailOrPhoneRequired]
  else []

def checkEmail (x : Services) (email : String) : Repo BeginPasswordRegistrationError
    (List BeginPasswordRegistrationIssue × Option String) :=
  if email.isEmpty then pure ([], none)
  else if !x.isAddress email then pure ([.emailInvalid], none)
  else do
    let count ← UserEmailRepository.count x.lower x.toLowercase (UserEmailFilter.new.forEmail email)
    pure (if count > 0 then ([.emailInUse], none) else ([], some email))

def checkPhone (phone : String) : Repo BeginPasswordRegistrationError
    (List BeginPasswordRegistrationIssue × Option String) :=
  if phone.isEmpty then pure ([], none)
  else do
    let found ← UserPhoneRepository.findByPhone phone
    pure (if found.isSome then ([.phoneInUse], none) else ([], some phone))

def checkPasswords (request : BeginPasswordRegistrationRequest) :
    List BeginPasswordRegistrationIssue :=
  (if request.password.isEmpty then [.passwordRequired] else []) ++
  (if request.passwordConfirm.isEmpty then [.passwordConfirmRequired] else []) ++
  (if request.password ≠ request.passwordConfirm then [.passwordMismatch] else [])

/-- A check that is made only if nothing was found before it. -/
def unlessIssues (issues : List BeginPasswordRegistrationIssue)
    (check : Except String (List BeginPasswordRegistrationIssue)) :
    Except String (List BeginPasswordRegistrationIssue) :=
  if issues.isEmpty then check else .ok issues

def checkStrength (x : Services) (request : BeginPasswordRegistrationRequest) :
    Except String (List BeginPasswordRegistrationIssue) :=
  (x.isPasswordComplexEnough request.password).map (fun ok => if ok then [] else [.passwordTooWeak])

def checkPolicy (x : Services) (request : BeginPasswordRegistrationRequest)
    (email : Option String) : Except String (List BeginPasswordRegistrationIssue) :=
  (x.evaluateRegister ⟨request.username, email, request.ipAddress, request.userAgent⟩).map
    (List.map (fun v => .policy v.field v.code v.msg))

def checkLimits (x : Services) (request : BeginPasswordRegistrationRequest)
    (email phone : Option String) : List BeginPasswordRegistrationIssue :=
  if x.checkRegistration request.requester &&
      email.all (x.checkEmailAuthenticationEmail request.requester) &&
      phone.all (x.checkPhoneAuthenticationPhone request.requester) then []
  else [.rateLimited]

/-- Everything that is checked outside of the database. -/
def checkRest (x : Services) (request : BeginPasswordRegistrationRequest)
    (email phone : Option String) (issues : List BeginPasswordRegistrationIssue) :
    Except String (List BeginPasswordRegistrationIssue) := do
  let issues ← unlessIssues issues (checkStrength x request)
  let issues ← unlessIssues issues (checkPolicy x request email)
  unlessIssues issues (.ok (checkLimits x request email phone))

def beginPasswordRegistration (x : Services) (now : Time) (ids : StartIds)
    (request : BeginPasswordRegistrationRequest) :
    Repo BeginPasswordRegistrationError BeginPasswordRegistrationResult :=
  if !request.passwordRegistrationEnabled then pure (.rejected [.registrationDisabled])
  else do
    let usernameIssues ← checkUsername x request.username
    let email ← checkEmail x (request.email.getD "")
    let phone ← checkPhone (request.phone.getD "")
    let issues ← Txn.ofExcept (checkRest x request email.2 phone.2
      (usernameIssues ++ checkContact request ++ email.1 ++ phone.1 ++ checkPasswords request))
      .internal
    if issues.isEmpty then do
      let started ← startPasswordRegistration x now ids request email.2 phone.2
      pure (.started started)
    else pure (.rejected issues)

inductive RegistrationEmailChangeOutcome where
  | updated
  | alreadyVerified
  | registrationCompleted
  | registrationExpired
  | invalidEmail
  | emailInUse
  | rateLimited

inductive RegistrationEmailChangeError where
  | notFound
  | notAvailable
  | repository (e : DatabaseError)

instance : FromRepository RegistrationEmailChangeError := ⟨.repository⟩

def RegistrationEmailChangeError.ofLoad :
    LoadRegistrationProgressError → RegistrationEmailChangeError
  | .notFound => .notFound
  | .repository e => .repository e

def resendDelay : Duration := 60 * 1000 * 1000

def replaceEmail (now : Time) (authenticationId jobId : Ulid) (language email : String)
    (registration : UserRegistration) :
    Repo RegistrationEmailChangeError RegistrationEmailChangeOutcome := do
  let authentication ← UserEmailRepository.addAuthenticationForRegistration now authenticationId
    email registration
  QueueJobRepository.scheduleJob now jobId
    (.contactVerification (.email authentication.id) language)
  let _ ← UserRegistrationRepository.setEmailAuthentication registration authentication
  pure .updated

def changeTo (x : Services) (now : Time) (authenticationId jobId : Ulid)
    (requester : Option IpAddr) (language email : String) (registration : UserRegistration)
    (current : UserEmailAuthentication) :
    Repo RegistrationEmailChangeError RegistrationEmailChangeOutcome :=
  if !x.isAddress email then pure .invalidEmail
  else do
    let found ← UserEmailRepository.findByEmail x.lower x.toLowercase email
    if found.isSome then pure .emailInUse
    else if !x.checkEmailAuthenticationEmail requester email then pure .rateLimited
    else if now < current.createdAt + resendDelay ||
        !x.checkRegistrationEmailResendCooldown registration.id then pure .rateLimited
    else replaceEmail now authenticationId jobId language email registration

def changeRegistrationEmail (x : Services) (now : Time) (authenticationId jobId : Ulid)
    (requester : Option IpAddr) (registrationId : Ulid) (email language : String) :
    Repo RegistrationEmailChangeError RegistrationEmailChangeOutcome := do
  let progress ← (loadRegistrationProgress registrationId).mapError .ofLoad
  if progress.registration.completedAt.isSome then pure .registrationCompleted
  else if registrationHasExpired progress.registration.createdAt now then pure .registrationExpired
  else do
    Txn.require progress.registration.emailAuthenticationId.isSome .notAvailable
    let current ← Txn.ofOption progress.emailAuthentication .notFound
    if current.completedAt.isSome then pure .alreadyVerified
    else
      changeTo x now authenticationId jobId requester language
        (String.ofList (Str.trim email.toList)) progress.registration current

inductive PrepareRegistrationCompletionError where
  | registrationTokenRequired
  | registrationTokenMissing
  | registrationTokenInvalid
  | emailAuthenticationMissing
  | emailNotVerified
  | emailInUse (email : String)
  | phoneAuthenticationMissing
  | phoneNotVerified
  | phoneInUse
  | upstreamOAuthSessionMissing
  | upstreamOAuthLinkMissing
  | upstreamOAuthLinkAlreadyUsed
  | displayNameRequired
  | repository (e : DatabaseError)

instance : FromRepository PrepareRegistrationCompletionError := ⟨.repository⟩

structure PreparedRegistrationCompletion where
  registration : UserRegistration
  registrationToken : Option UserRegistrationToken
  emailAuthentication : Option UserEmailAuthentication
  phoneAuthentication : Option UserPhoneAuthentication
  upstreamOAuth : Option (UpstreamOAuthAuthorizationSession × UpstreamOAuthLink)

def prepareToken (now : Time) (registration : UserRegistration) (required : Bool) :
    Repo PrepareRegistrationCompletionError (Option UserRegistrationToken) :=
  if required then do
    let id ← Txn.ofOption registration.userRegistrationTokenId .registrationTokenRequired
    let found ← UserRegistrationTokenRepository.lookup id
    let token ← Txn.ofOption found .registrationTokenMissing
    Txn.require (token.isValid now) .registrationTokenInvalid
    pure (some token)
  else pure none

def prepareEmail (x : Services) (progress : RegistrationProgress) :
    Repo PrepareRegistrationCompletionError (Option UserEmailAuthentication) :=
  if progress.registration.emailAuthenticationId.isSome then do
    let authentication ← Txn.ofOption progress.emailAuthentication .emailAuthenticationMissing
    Txn.require authentication.completedAt.isSome .emailNotVerified
    let count ← UserEmailRepository.count x.lower x.toLowercase
      (UserEmailFilter.new.forEmail authentication.email)
    Txn.require (!decide (count > 0)) (.emailInUse authentication.email)
    pure (some authentication)
  else pure none

def preparePhone (progress : RegistrationProgress) :
    Repo PrepareRegistrationCompletionError (Option UserPhoneAuthentication) :=
  if progress.registration.phoneAuthenticationId.isSome then do
    let authentication ← Txn.ofOption progress.phoneAuthentication .phoneAuthenticationMissing
    Txn.require authentication.completedAt.isSome .phoneNotVerified
    let found ← UserPhoneRepository.findByPhone authentication.phone
    Txn.require found.isNone .phoneInUse
    pure (some authentication)
  else pure none

def prepareUpstream : Option Ulid → Repo PrepareRegistrationCompletionError
    (Option (UpstreamOAuthAuthorizationSession × UpstreamOAuthLink))
  | some id => do
    let found ← UpstreamOAuthSessionRepository.lookup id
    let session ← Txn.ofOption found .upstreamOAuthSessionMissing
    let linkId ← Txn.ofOption session.state.linkId .upstreamOAuthLinkMissing
    let found ← UpstreamOAuthLinkRepository.lookup linkId
    let link ← Txn.ofOption found .upstreamOAuthLinkMissing
    Txn.require link.userId.isNone .upstreamOAuthLinkAlreadyUsed
    pure (some (session, link))
  | none => pure none

def prepareRegistrationCompletion (x : Services) (now : Time) (progress : RegistrationProgress)
    (registrationTokenRequired : Bool) :
    Repo PrepareRegistrationCompletionError PreparedRegistrationCompletion := do
  let registration := progress.registration
  let registrationToken ← prepareToken now registration registrationTokenRequired
  let emailAuthentication ← prepareEmail x progress
  let phoneAuthentication ← preparePhone progress
  let upstreamOAuth ← prepareUpstream registration.upstreamOAuthAuthorizationSessionId
  Txn.require registration.displayName.isSome .displayNameRequired
  pure ⟨registration, registrationToken, emailAuthentication, phoneAuthentication, upstreamOAuth⟩

end Pasion.Registration

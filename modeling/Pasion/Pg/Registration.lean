import Pasion.Data.Registration
import Pasion.Pg.Upstream

/-! Repositories of registrations and their tokens, of phone numbers, upstream links, accepted
terms and the audit log. -/
namespace Pasion

open Relational

variable {ε : Type} [FromRepository ε]

namespace UserRegistrationRow

def inconsistency {α : Type} (column : String) (id : Ulid) : Except DatabaseError α :=
  .error (.inconsistency "user_registrations" (some column) id)

def password? (r : UserRegistrationRow) (id : Ulid) :
    Except DatabaseError (Option UserRegistrationPassword) :=
  match r.hashedPassword, r.hashedPasswordVersion with
  | some hashedPassword, some version =>
    if 0 ≤ version ∧ version < 2 ^ 16 then .ok (some ⟨hashedPassword, version.toNat⟩)
    else inconsistency "hashed_password_version" id
  | none, none => .ok none
  | _, _ => inconsistency "hashed_password" id

def toUserRegistration (r : UserRegistrationRow) (id : Ulid) :
    Except DatabaseError UserRegistration :=
  match r.password? id with
  | .error e => .error e
  | .ok password =>
    if r.termsUrl.isSome && !r.termsUrlIsUrl then inconsistency "terms_url" id
    else .ok {
      id
      ipAddress := r.ipAddress
      userAgent := r.userAgent
      postAuthAction := r.postAuthAction
      username := r.username
      displayName := r.displayName
      avatarUrl := r.avatarUrl
      termsUrl := r.termsUrl
      emailAuthenticationId := r.emailAuthenticationId
      phoneAuthenticationId := r.phoneAuthenticationId
      userRegistrationTokenId := r.userRegistrationTokenId
      password
      upstreamOAuthAuthorizationSessionId := r.upstreamOAuthAuthorizationSessionId
      createdAt := r.createdAt
      completedAt := r.completedAt }

end UserRegistrationRow

namespace UserRegistrationRepository

def lookup (id : Ulid) : Repo ε (Option UserRegistration) :=
  Repo.fetch (fun db => (db.userRegistrations.get? id).mapM (·.toUserRegistration id))

def add (now : Time) (id : Ulid) (username : String) (ipAddress : Option IpAddr)
    (userAgent postAuthAction : Option String) : Repo ε UserRegistration := do
  Repo.insert
    (fun db => if db.userRegistrations.contains id then some .uniqueViolation else none)
    [.row .userRegistrations id]
    (fun db => { db with
      userRegistrations := db.userRegistrations.insert id
        ⟨ipAddress, userAgent, postAuthAction, username, none, none, none, true, none, none, none,
          none, none, none, now, none⟩ })
  pure ⟨id, ipAddress, userAgent, postAuthAction, username, none, none, none, none, none, none,
    none, none, now, none⟩

/-- The update is keyed on the id and on the registration being open. -/
def updateOpen (registration : UserRegistration) (violation : Database → Bool)
    (f : UserRegistrationRow → UserRegistrationRow) : Repo ε Unit :=
  Repo.updateRow
    (fun db => (db.userRegistrations.get? registration.id).any (·.completedAt.isNone))
    (fun db => if violation db then some .foreignKeyViolation else none)
    (.row .userRegistrations registration.id)
    (fun db => { db with
      userRegistrations := db.userRegistrations.update registration.id f })

def setDisplayName (registration : UserRegistration) (displayName : String) :
    Repo ε UserRegistration := do
  updateOpen registration (fun _ => false) ({ · with displayName := some displayName })
  pure { registration with displayName := some displayName }

def setTermsUrl (registration : UserRegistration) (termsUrl : String) :
    Repo ε UserRegistration := do
  updateOpen registration (fun _ => false)
    ({ · with termsUrl := some termsUrl, termsUrlIsUrl := true })
  pure { registration with termsUrl := some termsUrl }

def setEmailAuthentication (registration : UserRegistration)
    (authentication : UserEmailAuthentication) : Repo ε UserRegistration := do
  updateOpen registration (!·.userEmailAuthentications.contains authentication.id)
    ({ · with emailAuthenticationId := some authentication.id })
  pure { registration with emailAuthenticationId := some authentication.id }

def setPhoneAuthentication (registration : UserRegistration)
    (authentication : UserPhoneAuthentication) : Repo ε UserRegistration := do
  updateOpen registration (!·.userPhoneAuthentications.contains authentication.id)
    ({ · with phoneAuthenticationId := some authentication.id })
  pure { registration with phoneAuthenticationId := some authentication.id }

def setPassword (registration : UserRegistration) (hashedPassword : String) (version : ℕ) :
    Repo ε UserRegistration := do
  updateOpen registration (fun _ => false)
    ({ · with hashedPassword := some hashedPassword, hashedPasswordVersion := some version })
  pure { registration with password := some ⟨hashedPassword, version⟩ }

end UserRegistrationRepository

namespace UserEmailRepository

def addAuthenticationForRegistration (now : Time) (id : Ulid) (email : String)
    (registration : UserRegistration) : Repo ε UserEmailAuthentication := do
  Repo.insert
    (fun db =>
      if db.userEmailAuthentications.contains id then some .uniqueViolation
      else if !db.userRegistrations.contains registration.id then some .foreignKeyViolation
      else none)
    [.row .userEmailAuthentications id]
    (fun db => { db with
      userEmailAuthentications := db.userEmailAuthentications.insert id
        ⟨email, now, none, none, some registration.id⟩ })
  pure ⟨id, none, some registration.id, email, now, none⟩

end UserEmailRepository

def UserRegistrationTokenRow.toUserRegistrationToken (r : UserRegistrationTokenRow) (id : Ulid) :
    Except DatabaseError UserRegistrationToken :=
  if r.usageLimit.any (· < 0) then
    .error (.inconsistency "user_registration_tokens" (some "usage_limit") id)
  else if r.timesUsed < 0 then
    .error (.inconsistency "user_registration_tokens" (some "times_used") id)
  else .ok ⟨id, r.token, r.usageLimit.map Int.toNat, r.timesUsed.toNat, r.createdAt, r.lastUsedAt,
    r.expiresAt, r.revokedAt⟩

namespace UserRegistrationTokenRepository

def lookup (id : Ulid) : Repo ε (Option UserRegistrationToken) :=
  Repo.fetch (fun db => (db.userRegistrationTokens.get? id).mapM (·.toUserRegistrationToken id))

end UserRegistrationTokenRepository

namespace UserPhoneRepository

def lookupAuthentication (id : Ulid) : Repo ε (Option UserPhoneAuthentication) :=
  Txn.query (fun db => (db.userPhoneAuthentications.get? id).map
    (fun r => ⟨id, r.userRegistrationId, r.phone, r.createdAt, r.completedAt⟩))

/-- A number that several rows have is not found. -/
def findByPhone (phone : String) : Repo ε (Option UserPhone) := Txn.query (fun db =>
    match db.userPhones.select (fun _ r => r.phone = phone) with
    | [r] => some ⟨r.1, r.2.userId, r.2.phone, r.2.createdAt⟩
    | _ => none)

end UserPhoneRepository

namespace UpstreamOAuthAuthorizationSessionRow

def state? (r : UpstreamOAuthAuthorizationSessionRow) :
    Option UpstreamOAuthAuthorizationSessionState :=
  match r.upstreamOAuthLinkId, r.completedAt, r.consumedAt, r.unlinkedAt with
  | none, none, none, none =>
    if r.idToken.isNone && r.idTokenClaims.isNone && r.extraCallbackParameters.isNone &&
      r.userinfo.isNone then some .pending else none
  | some linkId, some completedAt, none, none => some (.completed completedAt linkId)
  | some linkId, some completedAt, some consumedAt, none =>
    some (.consumed completedAt consumedAt linkId)
  | _, some completedAt, consumedAt, some unlinkedAt =>
    some (.unlinked completedAt consumedAt unlinkedAt)
  | _, _, _, _ => none

def toUpstreamOAuthAuthorizationSession (r : UpstreamOAuthAuthorizationSessionRow) (id : Ulid) :
    Except DatabaseError UpstreamOAuthAuthorizationSession :=
  match r.state? with
  | none => .error (.inconsistency "upstream_oauth_authorization_sessions" none id)
  | some state => .ok ⟨id, r.upstreamOAuthProviderId, state, r.stateStr⟩

end UpstreamOAuthAuthorizationSessionRow

namespace UpstreamOAuthSessionRepository

def lookup (id : Ulid) : Repo ε (Option UpstreamOAuthAuthorizationSession) :=
  Repo.fetch (fun db => (db.upstreamOAuthAuthorizationSessions.get? id).mapM
    (·.toUpstreamOAuthAuthorizationSession id))

/-- Whether a row was there to update is not looked at. -/
def consume (now : Time) (session : UpstreamOAuthAuthorizationSession)
    (browserSession : BrowserSession) : Repo ε UpstreamOAuthAuthorizationSession := do
  Repo.statement
    (fun db =>
      if db.upstreamOAuthAuthorizationSessions.contains session.id &&
        !db.userSessions.contains browserSession.id then some .foreignKeyViolation else none)
    (fun db =>
      if db.upstreamOAuthAuthorizationSessions.contains session.id then
        ⟨fun db' => { db' with
            upstreamOAuthAuthorizationSessions :=
              db'.upstreamOAuthAuthorizationSessions.update session.id (fun r => { r with
                consumedAt := some now
                userSessionId := some browserSession.id }) },
          [.row .upstreamOAuthAuthorizationSessions session.id]⟩
      else .idle)
    (fun _ => ())
  let state ← Repo.transition (session.state.consume now)
  pure { session with state }

end UpstreamOAuthSessionRepository

def UpstreamOAuthLinkRow.toUpstreamOAuthLink (r : UpstreamOAuthLinkRow) (id : Ulid) :
    UpstreamOAuthLink :=
  ⟨id, r.upstreamOAuthProviderId, r.userId, r.subject, r.humanAccountName, r.createdAt, r.updatedAt⟩

namespace UpstreamOAuthLinkRepository

def lookup (id : Ulid) : Repo ε (Option UpstreamOAuthLink) :=
  Txn.query (fun db => (db.upstreamOAuthLinks.get? id).map (·.toUpstreamOAuthLink id))

end UpstreamOAuthLinkRepository

namespace AuditRepository

def addAdminOperation (now : Time) (id adminUserId : Ulid) (operation resourceType : String)
    (resourceId : Option Ulid) : Repo ε Unit :=
  Repo.insert
    (fun db => if db.adminOperationLogs.contains id then some .uniqueViolation else none)
    [.row .adminOperationLogs id]
    (fun db => { db with
      adminOperationLogs := db.adminOperationLogs.insert id
        ⟨adminUserId, operation, resourceType, resourceId, now⟩ })

end AuditRepository

end Pasion

import Pasion.Data.Basic

/-! Users, their browser sessions and their recovery sessions. -/
namespace Pasion

structure User where
  id : Ulid
  username : String
  (createdAt updatedAt : Time)
  (lockedAt deactivatedAt : Option Time)
  (canRequestAdmin isGuest : Bool)
  (displayName avatarUrl preferredLocale : Option String)
  deriving DecidableEq

namespace User

/-- The subject identifier is the text of the id. -/
def sub (u : User) : String := Ulid.toString u.id

def isValid (u : User) : Bool := u.lockedAt.isNone && u.deactivatedAt.isNone

/-- A locked user may still act in a personal session. -/
def isValidActor (u : User) : Bool := u.deactivatedAt.isNone

theorem isValidActor_of_isValid {u : User} (h : u.isValid) : u.isValidActor :=
  (Bool.and_eq_true_iff.mp h).2

end User

/-- A column that a patch leaves out is `none`; a name or URL is removed by `some none`. -/
structure UserProfilePatch where
  (displayName avatarUrl preferredLocale : Option (Option String))

structure UserPatch where
  (displayName avatarUrl preferredLocale : Option (Option String))
  (canRequestAdmin locked deactivated : Option Bool)

namespace UserPatch

def default : UserPatch := ⟨none, none, none, none, none, none⟩

def isEmpty (p : UserPatch) : Bool :=
  p.displayName.isNone && p.avatarUrl.isNone && p.preferredLocale.isNone &&
    p.canRequestAdmin.isNone && p.locked.isNone && p.deactivated.isNone

def ofProfile (p : UserProfilePatch) : UserPatch :=
  ⟨p.displayName, p.avatarUrl, p.preferredLocale, none, none, none⟩

/-- Setting a mark that is there keeps its time. -/
def nextMark (now : Time) (mark : Option Time) : Option Bool → Option Time
  | some true => mark.or (some now)
  | some false => none
  | none => mark

def nextLockedAt (p : UserPatch) (now : Time) (u : User) : Option Time :=
  nextMark now u.lockedAt p.locked

def nextDeactivatedAt (p : UserPatch) (now : Time) (u : User) : Option Time :=
  nextMark now u.deactivatedAt p.deactivated

/-- Naming one of the first four columns counts as a change, whatever its value. -/
def changed (p : UserPatch) (now : Time) (u : User) : Bool :=
  p.displayName.isSome || p.avatarUrl.isSome || p.preferredLocale.isSome ||
    p.canRequestAdmin.isSome || u.lockedAt ≠ p.nextLockedAt now u ||
    u.deactivatedAt ≠ p.nextDeactivatedAt now u

def apply (p : UserPatch) (now : Time) (u : User) : User := { u with
  displayName := p.displayName.getD u.displayName
  avatarUrl := p.avatarUrl.getD u.avatarUrl
  preferredLocale := p.preferredLocale.getD u.preferredLocale
  canRequestAdmin := p.canRequestAdmin.getD u.canRequestAdmin
  lockedAt := p.nextLockedAt now u
  deactivatedAt := p.nextDeactivatedAt now u }

end UserPatch

structure BrowserSession where
  id : Ulid
  user : User
  createdAt : Time
  finishedAt : Option Time
  userAgent : Option String
  lastActiveAt : Option Time
  lastActiveIp : Option IpAddr

inductive AuthenticationMethod where
  | password (userPasswordId : Ulid)
  | upstreamOAuth2 (upstreamOAuth2SessionId : Ulid)
  | unknown

structure Authentication where
  id : Ulid
  createdAt : Time
  authenticationMethod : AuthenticationMethod

structure Password where
  id : Ulid
  hashedPassword : String
  version : ℕ
  upgradedFromId : Option Ulid
  createdAt : Time
  deriving DecidableEq

structure UserEmail where
  (id userId : Ulid)
  email : String
  (createdAt updatedAt : Time)
  confirmedAt : Option Time
  isPrimary : Bool

structure UserEmailAuthentication where
  id : Ulid
  (userSessionId userRegistrationId : Option Ulid)
  email : String
  createdAt : Time
  completedAt : Option Time

structure UserEmailAuthenticationCode where
  (id userEmailAuthenticationId : Ulid)
  code : String
  (createdAt expiresAt : Time)
  deriving DecidableEq

structure UserTotpConfig where
  (id userId : Ulid)
  secret : String
  (digits period : ℤ)
  confirmedAt : Option Time

structure UserRecoverySession where
  id : Ulid
  (email userAgent : String)
  ipAddress : Option IpAddr
  locale : String
  createdAt : Time
  consumedAt : Option Time

structure UserRecoveryTicket where
  (id userRecoverySessionId userEmailId : Ulid)
  ticket : String
  (createdAt expiresAt : Time)

def UserRecoveryTicket.active (t : UserRecoveryTicket) (now : Time) : Bool := now < t.expiresAt

end Pasion

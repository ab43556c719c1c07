import Pasion.Data.Users

/-! Registrations, and what can be attached to one: a token, addresses to verify, an upstream
identity. -/
namespace Pasion

structure UserRegistrationPassword where
  hashedPassword : String
  version : ℕ

structure UserRegistration where
  id : Ulid
  ipAddress : Option IpAddr
  (userAgent postAuthAction : Option String)
  username : String
  (displayName avatarUrl termsUrl : Option String)
  (emailAuthenticationId phoneAuthenticationId userRegistrationTokenId : Option Ulid)
  password : Option UserRegistrationPassword
  upstreamOAuthAuthorizationSessionId : Option Ulid
  createdAt : Time
  completedAt : Option Time

structure UserRegistrationToken where
  id : Ulid
  token : String
  usageLimit : Option ℕ
  timesUsed : ℕ
  createdAt : Time
  (lastUsedAt expiresAt revokedAt : Option Time)

def UserRegistrationToken.isValid (t : UserRegistrationToken) (now : Time) : Bool :=
  if t.revokedAt.isSome then false
  else if t.expiresAt.any (· ≤ now) then false
  else if t.usageLimit.any (· ≤ t.timesUsed) then false
  else true

structure UserPhone where
  (id userId : Ulid)
  phone : String
  createdAt : Time

structure UserPhoneAuthentication where
  id : Ulid
  userRegistrationId : Option Ulid
  phone : String
  createdAt : Time
  completedAt : Option Time

structure UserPhoneAuthenticationCode where
  (id userPhoneAuthenticationId : Ulid)
  code : String
  (createdAt expiresAt : Time)

structure UpstreamOAuthLink where
  (id providerId : Ulid)
  userId : Option Ulid
  subject : String
  humanAccountName : Option String
  (createdAt updatedAt : Time)

inductive UpstreamOAuthAuthorizationSessionState where
  | pending
  | completed (completedAt : Time) (linkId : Ulid)
  | consumed (completedAt consumedAt : Time) (linkId : Ulid)
  | unlinked (completedAt : Time) (consumedAt : Option Time) (unlinkedAt : Time)

namespace UpstreamOAuthAuthorizationSessionState

def linkId : UpstreamOAuthAuthorizationSessionState → Option Ulid
  | pending => none
  | completed _ linkId => some linkId
  | consumed _ _ linkId => some linkId
  | unlinked _ _ _ => none

def consume (s : UpstreamOAuthAuthorizationSessionState) (consumedAt : Time) :
    Except InvalidTransitionError UpstreamOAuthAuthorizationSessionState :=
  match s with
  | completed completedAt linkId => .ok (consumed completedAt consumedAt linkId)
  | _ => .error .mk

end UpstreamOAuthAuthorizationSessionState

structure UpstreamOAuthAuthorizationSession where
  (id providerId : Ulid)
  state : UpstreamOAuthAuthorizationSessionState
  stateStr : String

end Pasion

import Pasion.Data.Scope
import Pasion.Data.Users

/-! Clients, sessions and grants of the OAuth 2.0 server, and personal sessions. -/
namespace Pasion

inductive GrantType where
  | authorizationCode
  | refreshToken
  | implicit
  | clientCredentials
  | password
  | deviceCode
  | jwtBearer
  | clientInitiatedBackchannelAuthentication
  | unknown (value : String)
  deriving DecidableEq

structure Client where
  id : Ulid
  clientId : String
  grantTypes : List GrantType
  userinfoSignedResponseAlg : Option String
  deriving DecidableEq

inductive SessionState where
  | valid
  | finished (finishedAt : Time)

namespace SessionState

def isValid : SessionState → Bool
  | valid => true
  | finished _ => false

def finish (s : SessionState) (finishedAt : Time) : Except InvalidTransitionError SessionState :=
  match s with
  | valid => .ok (finished finishedAt)
  | finished _ => .error .mk

end SessionState

structure Session where
  id : Ulid
  state : SessionState
  createdAt : Time
  (userId userSessionId : Option Ulid)
  clientId : Ulid
  scope : Scope
  userAgent : Option String
  lastActiveAt : Option Time
  lastActiveIp : Option IpAddr
  humanName : Option String

namespace Session

def isValid (s : Session) : Bool := s.state.isValid

def finish (s : Session) (finishedAt : Time) : Except InvalidTransitionError Session :=
  (s.state.finish finishedAt).map ({ s with state := · })

end Session

inductive PkceCodeChallengeMethod where
  | plain
  | s256

inductive CodeChallengeError where
  | tooShort
  | tooLong
  | invalidCharacters
  | verificationFailed
  deriving DecidableEq

structure Pkce where
  challengeMethod : PkceCodeChallengeMethod
  challenge : String

/-- The characters a code verifier may have. -/
def isUnreserved (c : Char) : Bool :=
  ('A' ≤ c && c ≤ 'Z') || ('a' ≤ c && c ≤ 'z') || ('0' ≤ c && c ≤ '9') ||
    c = '-' || c = '.' || c = '_' || c = '~'

def checkVerifier (verifier : String) : Except CodeChallengeError Unit :=
  if verifier.utf8ByteSize < 43 then .error .tooShort
  else if verifier.utf8ByteSize > 128 then .error .tooLong
  else if !verifier.toList.all isUnreserved then .error .invalidCharacters
  else .ok ()

/-- `s256` stands for the base64url text of the SHA-256 digest. -/
def PkceCodeChallengeMethod.computeChallenge (s256 : String → String) (verifier : String) :
    PkceCodeChallengeMethod → Except CodeChallengeError String
  | plain => (checkVerifier verifier).map (fun _ => verifier)
  | .s256 => (checkVerifier verifier).map (fun _ => s256 verifier)

def Pkce.verify (s256 : String → String) (p : Pkce) (verifier : String) :
    Except CodeChallengeError Unit :=
  (p.challengeMethod.computeChallenge s256 verifier).bind
    (fun computed => if computed = p.challenge then .ok () else .error .verificationFailed)

structure AuthorizationCode where
  code : String
  pkce : Option Pkce

inductive AuthorizationGrantStage where
  | pending
  | fulfilled (sessionId : Ulid) (fulfilledAt : Time)
  | exchanged (sessionId : Ulid) (fulfilledAt exchangedAt : Time)
  | cancelled (cancelledAt : Time)
  deriving DecidableEq

namespace AuthorizationGrantStage

def fulfill (s : AuthorizationGrantStage) (fulfilledAt : Time) (session : Session) :
    Except InvalidTransitionError AuthorizationGrantStage :=
  match s with
  | pending => .ok (fulfilled session.id fulfilledAt)
  | _ => .error .mk

def exchange (s : AuthorizationGrantStage) (exchangedAt : Time) :
    Except InvalidTransitionError AuthorizationGrantStage :=
  match s with
  | fulfilled sessionId fulfilledAt => .ok (exchanged sessionId fulfilledAt exchangedAt)
  | _ => .error .mk

end AuthorizationGrantStage

structure AuthorizationGrant where
  id : Ulid
  stage : AuthorizationGrantStage
  code : Option AuthorizationCode
  clientId : Ulid
  rawRedirectUri : String
  scope : Scope
  (state nonce : Option String)
  responseMode : String
  responseTypeIdToken : Bool
  createdAt : Time
  (loginHint locale : Option String)

inductive DeviceCodeGrantState where
  | pending
  | fulfilled (browserSessionId : Ulid) (fulfilledAt : Time)
  | rejected (browserSessionId : Ulid) (rejectedAt : Time)
  | exchanged (browserSessionId : Ulid) (fulfilledAt exchangedAt : Time) (sessionId : Ulid)

def DeviceCodeGrantState.exchange (s : DeviceCodeGrantState) (session : Session)
    (exchangedAt : Time) : Except InvalidTransitionError DeviceCodeGrantState :=
  match s with
  | fulfilled browserSessionId fulfilledAt =>
    .ok (exchanged browserSessionId fulfilledAt exchangedAt session.id)
  | _ => .error .mk

structure DeviceCodeGrant where
  id : Ulid
  state : DeviceCodeGrantState
  clientId : Ulid
  scope : Scope
  (userCode deviceCode : String)
  (createdAt expiresAt : Time)
  ipAddress : Option IpAddr
  userAgent : Option String

inductive PersonalSessionOwner where
  | user (id : Ulid)
  | oauth2Client (id : Ulid)
  deriving DecidableEq

inductive PersonalSessionState where
  | valid
  | revoked (revokedAt : Time)

def PersonalSessionState.isValid : PersonalSessionState → Bool
  | valid => true
  | revoked _ => false

def PersonalSessionState.revoke (s : PersonalSessionState) (revokedAt : Time) :
    Except InvalidTransitionError PersonalSessionState :=
  match s with
  | valid => .ok (revoked revokedAt)
  | revoked _ => .error .mk

structure PersonalSession where
  id : Ulid
  state : PersonalSessionState
  owner : PersonalSessionOwner
  actorUserId : Ulid
  humanName : String
  scope : Scope
  createdAt : Time
  lastActiveAt : Option Time
  lastActiveIp : Option IpAddr

namespace PersonalSession

def isValid (s : PersonalSession) : Bool := s.state.isValid

def finish (s : PersonalSession) (revokedAt : Time) :
    Except InvalidTransitionError PersonalSession :=
  (s.state.revoke revokedAt).map ({ s with state := · })

end PersonalSession

structure PersonalAccessToken where
  (id sessionId : Ulid)
  createdAt : Time
  (expiresAt revokedAt : Option Time)

def PersonalAccessToken.isValid (t : PersonalAccessToken) (now : Time) : Bool :=
  if t.revokedAt.isSome then false
  else
    match t.expiresAt with
    | some deadline => now < deadline
    | none => true

end Pasion

import Pasion.Data.ClientMetadata
import Pasion.Data.Tokens
import Pasion.Data.Upstream
import Pasion.Relational.ReadCommitted

/-! The tables of the PostgreSQL schema, with the columns that the modelled queries touch. -/
namespace Pasion

open Relational

structure UserRow where
  username : String
  (createdAt updatedAt : Time)
  (lockedAt deactivatedAt : Option Time)
  (canRequestAdmin isGuest : Bool)
  (displayName avatarUrl preferredLocale : Option String)
  deriving DecidableEq

structure UserSessionRow where
  userId : Ulid
  createdAt : Time
  finishedAt : Option Time
  userAgent : Option String
  lastActiveAt : Option Time
  lastActiveIp : Option IpAddr
  deriving DecidableEq

structure UserSessionAuthenticationRow where
  userSessionId : Ulid
  createdAt : Time
  (userPasswordId upstreamOAuthAuthorizationSessionId : Option Ulid)
  deriving DecidableEq

/-- The columns that registration alone reads back, each with the value that its text stands for. -/
structure ClientMetadataColumns where
  (metadataDigest encryptedClientSecret : Option String)
  applicationType : Option ApplicationType
  redirectUris : List Url
  clientName : Option String
  (logoUri clientUri policyUri tosUri : Option Url)
  idTokenSignedResponseAlg : Option JsonWebSignatureAlg
  tokenEndpointAuthMethod : Option OAuthClientAuthenticationMethod
  tokenEndpointAuthSigningAlg : Option JsonWebSignatureAlg
  initiateLoginUri : Option Url
  deriving DecidableEq

def ClientMetadataColumns.empty : ClientMetadataColumns :=
  ⟨none, none, none, [], none, none, none, none, none, none, none, none, none⟩

/-- `badColumn` and `badKeptColumn` are the first columns that do not parse. -/
structure OAuth2ClientRow where
  (grantTypeAuthorizationCode grantTypeRefreshToken grantTypeClientCredentials : Bool)
  grantTypeDeviceCode : Option Bool
  userinfoSignedResponseAlg : Option String
  isStatic : Option Bool
  (badColumn badKeptColumn jwks jwksUri : Option String)
  metadata : ClientMetadataColumns
  deriving DecidableEq

structure LocalizedMetadataRow where
  clientId : Ulid
  (locale field value : String)
  deriving DecidableEq

structure OAuth2SessionRow where
  (userId userSessionId : Option Ulid)
  oauth2ClientId : Ulid
  scopeList : List String
  createdAt : Time
  finishedAt : Option Time
  userAgent : Option String
  lastActiveAt : Option Time
  lastActiveIp : Option IpAddr
  humanName : Option String
  deriving DecidableEq

structure OAuth2AccessTokenRow where
  oauth2SessionId : Ulid
  accessToken : String
  createdAt : Time
  (expiresAt revokedAt firstUsedAt : Option Time)
  deriving DecidableEq

structure OAuth2RefreshTokenRow where
  refreshToken : String
  createdAt : Time
  (consumedAt revokedAt : Option Time)
  oauth2AccessTokenId : Option Ulid
  oauth2SessionId : Ulid
  nextOAuth2RefreshTokenId : Option Ulid
  deriving DecidableEq

structure AuthorizationGrantRow where
  createdAt : Time
  (cancelledAt fulfilledAt exchangedAt : Option Time)
  scope : String
  (state nonce : Option String)
  redirectUri : String
  redirectUriIsUrl : Bool
  responseMode : String
  (responseTypeCode responseTypeIdToken : Bool)
  (authorizationCode codeChallenge codeChallengeMethod loginHint locale : Option String)
  oauth2ClientId : Ulid
  oauth2SessionId : Option Ulid
  deriving DecidableEq

structure DeviceCodeGrantRow where
  oauth2ClientId : Ulid
  (scope deviceCode userCode : String)
  (createdAt expiresAt : Time)
  (fulfilledAt rejectedAt exchangedAt : Option Time)
  (userSessionId oauth2SessionId : Option Ulid)
  ipAddress : Option IpAddr
  userAgent : Option String
  deriving DecidableEq

structure PersonalSessionRow where
  (ownerUserId ownerOAuth2ClientId : Option Ulid)
  actorUserId : Ulid
  humanName : String
  scopeList : List String
  createdAt : Time
  (revokedAt lastActiveAt : Option Time)
  lastActiveIp : Option IpAddr
  deriving DecidableEq

structure PersonalAccessTokenRow where
  personalSessionId : Ulid
  accessTokenSha256 : List ℕ
  createdAt : Time
  (expiresAt revokedAt : Option Time)
  deriving DecidableEq

/-- `badColumn` names the first column before these whose text does not parse. -/
structure UpstreamOAuthProviderRow where
  onBackchannelLogout : Option String
  disabledAt : Option Time
  badColumn : Option String
  source : String
  createdAt : Time
  uiOrder : ℤ
  humanName : Option String
  responseMode : Option ResponseMode
  claimsImports : ClaimsImports
  deriving DecidableEq

/-- A JSON value: of an object only its keys count; `text` is what `->>` gives. -/
inductive ClaimValue where
  | string (s : String)
  | null
  | number (n : ℤ)
  | object (members : List (String × Bool)) (text : String)
  | other (text : String)
  deriving DecidableEq

def ClaimValue.asText : ClaimValue → Option String
  | string s => some s
  | null => none
  | number n => some (toString n)
  | object _ text => some text
  | other text => some text

abbrev Claims := List (String × ClaimValue)

def Claims.get? (claims : Claims) (key : String) : Option ClaimValue :=
  (claims.find? (fun c => c.1 = key)).map Prod.snd

structure UpstreamOAuthAuthorizationSessionRow where
  upstreamOAuthProviderId : Ulid
  upstreamOAuthLinkId : Option Ulid
  idToken : Option String
  idTokenClaims : Option Claims
  (extraCallbackParameters userinfo : Option String)
  (completedAt consumedAt unlinkedAt : Option Time)
  userSessionId : Option Ulid
  stateStr : String
  deriving DecidableEq

structure UpstreamOAuthLinkRow where
  upstreamOAuthProviderId : Ulid
  userId : Option Ulid
  subject : String
  humanAccountName : Option String
  (createdAt updatedAt : Time)
  deriving DecidableEq

structure UserEmailRow where
  userId : Ulid
  email : String
  (createdAt updatedAt : Time)
  confirmedAt : Option Time
  isPrimary : Bool
  deriving DecidableEq

structure UserPhoneRow where
  userId : Ulid
  phone : String
  createdAt : Time
  deriving DecidableEq

structure UserTermsRow where
  userId : Ulid
  termsUrl : String
  createdAt : Time
  deriving DecidableEq

structure UserRecoverySessionRow where
  (email userAgent : String)
  ipAddress : Option IpAddr
  locale : String
  createdAt : Time
  consumedAt : Option Time
  deriving DecidableEq

structure UserRecoveryTicketRow where
  (userRecoverySessionId userEmailId : Ulid)
  ticket : String
  (createdAt expiresAt : Time)
  deriving DecidableEq

structure UserPasswordRow where
  userId : Ulid
  hashedPassword : String
  version : ℤ
  upgradedFromId : Option Ulid
  createdAt : Time
  deriving DecidableEq

structure UserTotpConfigRow where
  userId : Ulid
  secret : String
  (digits period : ℤ)
  confirmedAt : Option Time
  deriving DecidableEq

structure UserEmailAuthenticationRow where
  email : String
  createdAt : Time
  completedAt : Option Time
  (userSessionId userRegistrationId : Option Ulid)
  deriving DecidableEq

structure UserEmailAuthenticationCodeRow where
  userEmailAuthenticationId : Ulid
  code : String
  (createdAt expiresAt : Time)
  deriving DecidableEq

structure UserPhoneAuthenticationRow where
  phone : String
  createdAt : Time
  completedAt : Option Time
  userRegistrationId : Option Ulid
  deriving DecidableEq

structure UserPhoneAuthenticationCodeRow where
  userPhoneAuthenticationId : Ulid
  code : String
  (createdAt expiresAt : Time)
  deriving DecidableEq

/-- `termsUrlIsUrl` tells whether the text in `termsUrl` parses. -/
structure UserRegistrationRow where
  ipAddress : Option IpAddr
  (userAgent postAuthAction : Option String)
  username : String
  (displayName avatarUrl termsUrl : Option String)
  termsUrlIsUrl : Bool
  (emailAuthenticationId phoneAuthenticationId userRegistrationTokenId : Option Ulid)
  hashedPassword : Option String
  hashedPasswordVersion : Option ℤ
  upstreamOAuthAuthorizationSessionId : Option Ulid
  createdAt : Time
  completedAt : Option Time
  deriving DecidableEq

structure UserRegistrationTokenRow where
  token : String
  usageLimit : Option ℤ
  timesUsed : ℤ
  createdAt : Time
  (lastUsedAt expiresAt revokedAt : Option Time)
  deriving DecidableEq

structure AdminOperationLogRow where
  adminUserId : Ulid
  (operation resourceType : String)
  resourceId : Option Ulid
  createdAt : Time
  deriving DecidableEq

inductive ContactVerificationTarget where
  | email (userEmailAuthenticationId : Ulid)
  | phone (userPhoneAuthenticationId : Ulid)
  deriving DecidableEq

/-- The payload of a job, which also names its queue. -/
inductive Job where
  | syncDevices (userId : Ulid)
  | provisionUser (userId : Ulid) (setDisplayName setAvatarUrl : Option String)
  | deactivateUser (userId : Ulid) (hsErase : Bool)
  | contactVerification (target : ContactVerificationTarget) (language : String)
  | other (queueName payload : String)
  deriving DecidableEq

inductive JobStatus where
  | scheduled
  | available
  | running
  | completed
  | failed
  deriving DecidableEq

/-- `badMetadata` tells whether the metadata does not decode. -/
structure QueueJobRow where
  status : JobStatus
  createdAt : Time
  startedAt : Option Time
  startedBy : Option Ulid
  completedAt : Option Time
  job : Job
  badMetadata : Bool
  failedAt : Option Time
  failedReason : Option String
  attempt : ℤ
  nextAttemptId : Option Ulid
  scheduledAt : Option Time
  scheduleName : Option String
  deriving DecidableEq

structure QueueWorkerRow where
  (registeredAt lastSeenAt : Time)
  shutdownAt : Option Time
  deriving DecidableEq

structure QueueScheduleRow where
  lastScheduledAt : Option Time
  lastScheduledJobId : Option Ulid
  deriving DecidableEq

/-- The key of a localized metadata row is the text of its client, locale and field. -/
structure Database where
  users : Table Ulid UserRow
  userSessions : Table Ulid UserSessionRow
  userSessionAuthentications : Table Ulid UserSessionAuthenticationRow
  oauth2Clients : Table Ulid OAuth2ClientRow
  oauth2ClientLocalizedMetadata : Table String LocalizedMetadataRow
  oauth2Sessions : Table Ulid OAuth2SessionRow
  oauth2AccessTokens : Table Ulid OAuth2AccessTokenRow
  oauth2RefreshTokens : Table Ulid OAuth2RefreshTokenRow
  oauth2AuthorizationGrants : Table Ulid AuthorizationGrantRow
  oauth2DeviceCodeGrant : Table Ulid DeviceCodeGrantRow
  personalSessions : Table Ulid PersonalSessionRow
  personalAccessTokens : Table Ulid PersonalAccessTokenRow
  upstreamOAuthProviders : Table Ulid UpstreamOAuthProviderRow
  upstreamOAuthAuthorizationSessions : Table Ulid UpstreamOAuthAuthorizationSessionRow
  userEmails : Table Ulid UserEmailRow
  userRecoverySessions : Table Ulid UserRecoverySessionRow
  userRecoveryTickets : Table Ulid UserRecoveryTicketRow
  userPasswords : Table Ulid UserPasswordRow
  userTotpConfigs : Table Ulid UserTotpConfigRow
  userEmailAuthentications : Table Ulid UserEmailAuthenticationRow
  userEmailAuthenticationCodes : Table Ulid UserEmailAuthenticationCodeRow
  userPhones : Table Ulid UserPhoneRow
  userPhoneAuthentications : Table Ulid UserPhoneAuthenticationRow
  userPhoneAuthenticationCodes : Table Ulid UserPhoneAuthenticationCodeRow
  userRegistrations : Table Ulid UserRegistrationRow
  userRegistrationTokens : Table Ulid UserRegistrationTokenRow
  userTerms : Table Ulid UserTermsRow
  upstreamOAuthLinks : Table Ulid UpstreamOAuthLinkRow
  adminOperationLogs : Table Ulid AdminOperationLogRow
  queueJobs : Table Ulid QueueJobRow
  queueWorkers : Table Ulid QueueWorkerRow
  queueSchedules : Table String QueueScheduleRow

def Database.empty : Database :=
  ⟨.empty, .empty, .empty, .empty, .empty, .empty, .empty, .empty, .empty, .empty, .empty, .empty,
    .empty, .empty, .empty, .empty, .empty, .empty, .empty, .empty, .empty, .empty, .empty, .empty,
    .empty, .empty, .empty, .empty, .empty, .empty, .empty, .empty⟩

/-- One user, and nothing else. -/
def Database.alice : Database := { Database.empty with
  users := Table.empty.insert 1 ⟨"alice", 0, 0, none, none, false, false, none, none, none⟩ }

def OAuth2ClientRow.codeFlow : OAuth2ClientRow :=
  ⟨true, true, false, none, none, none, none, none, none, none, .empty⟩

inductive TableName where
  | users
  | userSessions
  | userSessionAuthentications
  | oauth2Clients
  | oauth2Sessions
  | oauth2AccessTokens
  | oauth2RefreshTokens
  | oauth2AuthorizationGrants
  | oauth2DeviceCodeGrant
  | personalSessions
  | personalAccessTokens
  | userRecoverySessions
  | userPasswords
  | userEmails
  | userEmailAuthentications
  | userEmailAuthenticationCodes
  | userPhones
  | userPhoneAuthentications
  | userPhoneAuthenticationCodes
  | userRegistrations
  | userRegistrationTokens
  | userTerms
  | upstreamOAuthProviders
  | upstreamOAuthAuthorizationSessions
  | upstreamOAuthLinks
  | adminOperationLogs
  | queueJobs
  deriving DecidableEq

/-- A row, a value in a unique index, or an advisory lock. -/
inductive LockKey where
  | row (table : TableName) (id : Ulid)
  | unique (table : TableName) (value : String)
  | advisory (id : ℕ)
  deriving DecidableEq

end Pasion

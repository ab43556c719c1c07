import Pasion.Data.Basic
import Pasion.Text.Json

/-! Flows: a sequence of stages, and the session that a user takes through it. -/
namespace Pasion

inductive IdentificationField where
  | username
  | email
  | phone

inductive AuthenticatorType where
  | totp
  | webAuthn

inductive PromptFieldType where
  | text
  | email
  | password
  | checkbox
  | hidden
  | select

structure PromptField where
  (fieldKey label : String)
  fieldType : PromptFieldType
  required : Bool
  placeholder : Option String
  order : ℤ

inductive StageKind where
  | identification (userFields : List IdentificationField) (passwordStage : Bool)
  | emailVerification (purpose templateKey : String) (codeExpirySeconds maxAttempts : ℕ)
  | passwordWrite (requireCurrent : Bool)
  | userWrite (createUsersAsInactive : Bool)
  | captcha
  | consent
  | prompt (fields : List PromptField)
  | authenticatorValidate (allowedTypes : List AuthenticatorType)
  | enrollmentToken (required : Bool)

structure FlowDefinition where
  id : Ulid
  slug : String

structure FlowStageBinding where
  stage : StageKind
  order : ℤ

inductive FlowSessionStatus where
  | inProgress
  | completed
  | cancelled
  | expired
  deriving DecidableEq

def FlowSessionStatus.isTerminal : FlowSessionStatus → Bool
  | inProgress => false
  | completed => true
  | cancelled => true
  | expired => true

structure FlowSession where
  (id flowId : Ulid)
  currentStageIndex : ℕ
  status : FlowSessionStatus
  context : Json.Value
  (createdAt updatedAt expiresAt : Time)
  completedAt : Option Time

inductive StageChallenge where
  | identification (userFields : List IdentificationField) (passwordStage : Bool)
  | emailVerification (email purpose : String)
  | passwordWrite (requireCurrent : Bool)
  | userWrite (suggestedUsername : Option String)
  | captcha (siteKey : String)
  | consent (scope : String) (clientName : Option String)
  | prompt (fields : List PromptField)
  | authenticatorValidate (allowedTypes : List AuthenticatorType)
  | enrollmentToken (required : Bool)
  | flowDone (redirectTo : Option String)

inductive StageResponse where
  | identification (uidField : String) (password : Option String)
  | emailVerification (code : String)
  | passwordWrite (currentPassword : Option String) (newPassword : String)
  | userWrite (username : String) (displayName : Option String)
  | captcha (token : String)
  | consent (granted : Bool)
  | prompt (data : Json.Value)
  | authenticatorValidate (authenticatorType : AuthenticatorType) (code : String)
  | enrollmentToken (token : String)

structure StageValidationError where
  field : Option String
  (message code : String)

inductive StageOutcome where
  | «continue»
  | retry (errors : List StageValidationError)
  | done (redirectTo : Option String)

end Pasion

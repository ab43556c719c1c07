import Mathlib.Data.List.Sort
import Pasion.Data.Flow
import Pasion.Text.Str

/-! The executor of flows: which stage is next, what it asks for and which responses it accepts. -/
namespace Pasion

inductive FlowPlannerError where
  | flowNotFound (slug : String)
  | sessionExpired
  | alreadyCompleted
  | noMoreStages

structure FlowPlan where
  flow : FlowDefinition
  stages : List FlowStageBinding

inductive CaptchaService where
  | recaptchaV2
  | cloudflareTurnstile
  | hCaptcha

structure CaptchaConfig where
  service : CaptchaService
  secretKey : String

structure CaptchaApiRequest where
  (secret response : String)
  remoteip : Option IpAddr

/-- What the provider answers: nothing, no JSON of the expected shape, or a verdict. -/
inductive CaptchaReply where
  | unreachable
  | malformed
  | response (success : Bool) (hostname : Option String)

structure CaptchaVerifyContext where
  post : (url : String) → CaptchaApiRequest → CaptchaReply
  captchaConfig : Option CaptchaConfig
  remoteIp : Option IpAddr

def CaptchaService.verifyUrl : CaptchaService → String
  | recaptchaV2 => "https://www.google.com/recaptcha/api/siteverify"
  | hCaptcha => "https://api.hcaptcha.com/siteverify"
  | cloudflareTurnstile => "https://challenges.cloudflare.com/turnstile/v0/siteverify"

def StageOutcome.retryField (field message code : String) : StageOutcome :=
  .retry [⟨some field, message, code⟩]

namespace FlowExecutor

def plan (flow : FlowDefinition) (bindings : List FlowStageBinding) : FlowPlan :=
  ⟨flow, bindings.insertionSort (fun a b => a.order ≤ b.order)⟩

def text (context : Json.Value) (key : String) : Option String := (context.get? key).bind (·.asStr)

def flag (context : Json.Value) (key : String) : Bool := (context.get? key).any (·.isTrue)

def isStageSatisfied (stage : StageKind) (context : Json.Value) : Bool :=
  match stage with
  | .identification _ _ => (context.get? "user_id").isSome
  | .emailVerification _ _ _ _ => flag context "email_verified"
  | .passwordWrite _ => flag context "password_set"
  | .userWrite _ => flag context "user_created"
  | .authenticatorValidate _ => flag context "mfa_validated"
  | .captcha => flag context "captcha_verified"
  | .enrollmentToken _ => (context.get? "enrollment_token_id").isSome
  | _ => false

def challengeForStage (stage : StageKind) (context : Json.Value) : StageChallenge :=
  match stage with
  | .identification userFields passwordStage => .identification userFields passwordStage
  | .emailVerification purpose _ _ _ =>
    .emailVerification ((text context "email").getD "") purpose
  | .passwordWrite requireCurrent => .passwordWrite requireCurrent
  | .userWrite _ => .userWrite (text context "username")
  | .captcha => .captcha ((text context "captcha_site_key").getD "")
  | .consent => .consent ((text context "scope").getD "") (text context "client_name")
  | .prompt fields => .prompt fields
  | .authenticatorValidate allowedTypes => .authenticatorValidate allowedTypes
  | .enrollmentToken required => .enrollmentToken required

/-- The index of the first stage, from `index` on, that the context does not satisfy. -/
def skipSatisfied (context : Json.Value) : List FlowStageBinding → (index : ℕ) → ℕ
  | [], index => index
  | binding :: rest, index =>
    if isStageSatisfied binding.stage context then skipSatisfied context rest (index + 1) else index

/-- The index stays past satisfied stages even if no stage is left. -/
def currentChallenge (plan : FlowPlan) (session : FlowSession) :
    Except FlowPlannerError StageChallenge × FlowSession :=
  if session.status.isTerminal then (.error .alreadyCompleted, session)
  else
    let index := skipSatisfied session.context (plan.stages.drop session.currentStageIndex)
      session.currentStageIndex
    let session := { session with currentStageIndex := index }
    match plan.stages[index]? with
    | none => (.error .noMoreStages, session)
    | some binding => (.ok (challengeForStage binding.stage session.context), session)

/-- A context without a configured provider lets every token pass. -/
def verifyCaptcha (captchaCtx : Option CaptchaVerifyContext) (token : String) : StageOutcome :=
  match captchaCtx with
  | none => .continue
  | some ctx =>
    match ctx.captchaConfig with
    | none => .continue
    | some config =>
      match ctx.post config.service.verifyUrl ⟨config.secretKey, token, ctx.remoteIp⟩ with
      | .response true _ => .continue
      | .response false _ => .retryField "token" "CAPTCHA verification failed" "captcha_failed"
      | .malformed => .retryField "token" "CAPTCHA verification error" "captcha_error"
      | .unreachable => .retryField "token" "CAPTCHA verification error" "captcha_error"

def isMissing : Option Json.Value → Bool
  | none => true
  | some .null => true
  | some (.string s) => s.isEmpty
  | some _ => false

def promptErrors (fields : List PromptField) (data : Json.Value) : List StageValidationError :=
  (fields.filter (fun f => f.required && isMissing (data.get? f.fieldKey))).map
    (fun f => ⟨some f.fieldKey, f.label ++ " is required", "required"⟩)

def passwordErrors (requireCurrent : Bool) (currentPassword : Option String)
    (newPassword : String) : List StageValidationError :=
  (if requireCurrent && currentPassword.isNone then
    [⟨some "current_password", "Current password is required", "required"⟩] else []) ++
  (if newPassword.isEmpty then
    [⟨some "new_password", "New password is required", "required"⟩] else [])

def isTotpCode (code : String) : Bool :=
  (Str.bytes code).length = 6 && code.toList.all (fun c => '0' ≤ c && c ≤ '9')

def validateIdentification (uidField : String) (password : Option String) (context : Json.Value) :
    StageOutcome × Json.Value :=
  let context := context.insert "uid_field" (.string uidField)
  (.continue,
    if password.isSome then context.insert "password_provided" (.bool true) else context)

def validateUserWrite (username : String) (displayName : Option String) (context : Json.Value) :
    StageOutcome × Json.Value :=
  let context := context.insert "username" (.string username)
  (.continue,
    match displayName with
    | some name => context.insert "display_name" (.string name)
    | none => context)

/-- The outcome and the new context; of a code only the shape is looked at, or that there is one. -/
def validateResponse (captchaCtx : Option CaptchaVerifyContext) (stage : StageKind)
    (response : StageResponse) (context : Json.Value) : StageOutcome × Json.Value :=
  match stage, response with
  | .identification _ _, .identification uidField password =>
    validateIdentification uidField password context
  | .emailVerification _ _ _ _, .emailVerification code =>
    (if code.isEmpty then .retryField "code" "Verification code is required" "required"
      else .continue, context)
  | .passwordWrite requireCurrent, .passwordWrite currentPassword newPassword =>
    match passwordErrors requireCurrent currentPassword newPassword with
    | [] => (.continue, context)
    | errors => (.retry errors, context)
  | .userWrite _, .userWrite username displayName => validateUserWrite username displayName context
  | .consent, .consent granted => (if granted then .continue else .done none, context)
  | .captcha, .captcha token =>
    (if token.isEmpty then .retryField "token" "CAPTCHA token is required" "required"
      else verifyCaptcha captchaCtx token, context)
  | .prompt fields, .prompt data =>
    match promptErrors fields data with
    | [] => (.continue, context.insert "prompt_data" data)
    | errors => (.retry errors, context)
  | .authenticatorValidate _, .authenticatorValidate _ code =>
    if isTotpCode code then (.continue, context.insert "mfa_validated" (.bool true))
    else (.retryField "code" "Code must be exactly 6 digits" "invalid_totp_code", context)
  | .enrollmentToken required, .enrollmentToken token =>
    (if token.isEmpty && required then
      .retryField "token" "Enrollment token is required" "required" else .continue, context)
  | _, _ => (.retry [⟨none, "Invalid response for this stage", "invalid_response"⟩], context)

def processResponse (plan : FlowPlan) (session : FlowSession) (response : StageResponse)
    (captchaCtx : Option CaptchaVerifyContext) :
    Except FlowPlannerError (StageOutcome × Json.Value) :=
  if session.status.isTerminal then .error .alreadyCompleted
  else
    match plan.stages[session.currentStageIndex]? with
    | none => .error .noMoreStages
    | some binding => .ok (validateResponse captchaCtx binding.stage response session.context)

def hasNextStage (plan : FlowPlan) (session : FlowSession) : Bool :=
  session.currentStageIndex + 1 < plan.stages.length

theorem isTerminal_eq_false {status : FlowSessionStatus} :
    status.isTerminal = false ↔ status = .inProgress := by
  cases status <;> simp [FlowSessionStatus.isTerminal]

variable {context : Json.Value} {plan : FlowPlan} {session : FlowSession}

theorem le_skipSatisfied (stages : List FlowStageBinding) (index : ℕ) :
    index ≤ skipSatisfied context stages index := by
  induction stages generalizing index with
  | nil => exact le_rfl
  | cons binding rest ih =>
    unfold skipSatisfied
    split_ifs
    · have := ih (index + 1)
      omega
    · exact le_rfl

theorem satisfied_of_skipped {stages : List FlowStageBinding} {index i : ℕ}
    (hle : index ≤ i) (hlt : i < skipSatisfied context stages index) :
    ∃ binding, stages[i - index]? = some binding ∧ isStageSatisfied binding.stage context := by
  induction stages generalizing index with
  | nil => exact absurd hlt (Nat.not_lt.mpr hle)
  | cons binding rest ih =>
    unfold skipSatisfied at hlt
    split_ifs at hlt with hsat
    · rcases Nat.eq_or_lt_of_le hle with rfl | hgt
      · exact ⟨binding, by simp, hsat⟩
      · obtain ⟨b, hb, hbsat⟩ := ih hgt hlt
        refine ⟨b, ?_, hbsat⟩
        have hsucc : i - index = i - (index + 1) + 1 := by omega
        rw [hsucc, List.getElem?_cons_succ, hb]
    · exact absurd hlt (Nat.not_lt.mpr hle)

/-- Looking at the challenge moves the index over satisfied stages, and nothing else. -/
theorem currentChallenge_snd (plan : FlowPlan) (session : FlowSession) :
    ∃ index, (currentChallenge plan session).2 = { session with currentStageIndex := index } ∧
      session.currentStageIndex ≤ index ∧
      ∀ i, session.currentStageIndex ≤ i → i < index → ∃ binding, plan.stages[i]? = some binding ∧
          isStageSatisfied binding.stage session.context := by
  by_cases hterm : session.status.isTerminal
  · refine ⟨session.currentStageIndex, by simp [currentChallenge, hterm], le_rfl, ?_⟩
    intro i hle hlt
    omega
  · let index := skipSatisfied session.context (plan.stages.drop session.currentStageIndex)
      session.currentStageIndex
    refine ⟨index, ?_, le_skipSatisfied _ _, ?_⟩
    · simp only [currentChallenge, hterm, Bool.false_eq_true, if_false]
      split <;> rfl
    · intro i hle hlt
      obtain ⟨binding, hb, hsat⟩ := satisfied_of_skipped hle hlt
      refine ⟨binding, ?_, hsat⟩
      have hi : session.currentStageIndex + (i - session.currentStageIndex) = i := by omega
      rw [List.getElem?_drop, hi] at hb
      exact hb

/-- The members that a response may write into the context. -/
def writtenKeys : List String :=
  ["uid_field", "password_provided", "username", "display_name", "prompt_data", "mfa_validated"]

section ValidateResponse

variable {captchaCtx : Option CaptchaVerifyContext} {stage : StageKind} {response : StageResponse}
  {outcome : StageOutcome} {context' : Json.Value}

/-- The one way in which `mfa_validated` gets written. -/
theorem validateResponse_context
    (h : validateResponse captchaCtx stage response context = (outcome, context')) :
    (∀ key, key ∉ writtenKeys → context'.get? key = context.get? key) ∧
      (context'.get? "mfa_validated" = context.get? "mfa_validated" ∨
        ∃ types type code, stage = .authenticatorValidate types ∧
          response = .authenticatorValidate type code ∧ isTotpCode code) := by
  unfold validateResponse at h
  split at h
  case h_1 uidField password =>
    obtain ⟨-, rfl⟩ := Prod.mk.inj h
    have hget : ∀ key, key ≠ "uid_field" → key ≠ "password_provided" →
        (validateIdentification uidField password context).2.get? key = context.get? key := by
      intro key huid hpassword
      unfold validateIdentification
      split_ifs
      · rw [Json.Value.get?_insert_ne (Ne.symm hpassword), Json.Value.get?_insert_ne (Ne.symm huid)]
      · rw [Json.Value.get?_insert_ne (Ne.symm huid)]
    refine ⟨fun key hkey => ?_, .inl (hget _ (by decide) (by decide))⟩
    simp only [writtenKeys, List.mem_cons, not_or] at hkey
    exact hget key hkey.1 hkey.2.1
  case h_4 username displayName =>
    obtain ⟨-, rfl⟩ := Prod.mk.inj h
    have hget : ∀ key, key ≠ "username" → key ≠ "display_name" →
        (validateUserWrite username displayName context).2.get? key = context.get? key := by
      intro key husername hname
      unfold validateUserWrite
      cases displayName with
      | none => rw [Json.Value.get?_insert_ne (Ne.symm husername)]
      | some name =>
        rw [Json.Value.get?_insert_ne (Ne.symm hname), Json.Value.get?_insert_ne (Ne.symm husername)]
    refine ⟨fun key hkey => ?_, .inl (hget _ (by decide) (by decide))⟩
    simp only [writtenKeys, List.mem_cons, not_or] at hkey
    exact hget key hkey.2.2.1 hkey.2.2.2.1
  case h_7 =>
    split at h
    · obtain ⟨-, rfl⟩ := Prod.mk.inj h
      refine ⟨fun key hkey => Json.Value.get?_insert_ne ?_ _ _,
        .inl (Json.Value.get?_insert_ne (by decide) _ _)⟩
      rintro rfl
      exact hkey (by decide)
    · obtain ⟨-, rfl⟩ := Prod.mk.inj h
      exact ⟨fun _ _ => rfl, .inl rfl⟩
  case h_8 types type code =>
    split_ifs at h with hcode
    · obtain ⟨-, rfl⟩ := Prod.mk.inj h
      refine ⟨fun key hkey => Json.Value.get?_insert_ne ?_ _ _,
        .inr ⟨types, type, code, rfl, rfl, hcode⟩⟩
      rintro rfl
      exact hkey (by decide)
    · obtain ⟨-, rfl⟩ := Prod.mk.inj h
      exact ⟨fun _ _ => rfl, .inl rfl⟩
  case h_3 =>
    split at h <;> obtain ⟨-, rfl⟩ := Prod.mk.inj h <;> exact ⟨fun _ _ => rfl, .inl rfl⟩
  all_goals
    obtain ⟨-, rfl⟩ := Prod.mk.inj h
    exact ⟨fun _ _ => rfl, .inl rfl⟩

theorem authenticatorValidate_accepts {types : List AuthenticatorType}
    (h : validateResponse captchaCtx (.authenticatorValidate types) response context =
      (outcome, context')) (hout : ∀ errors, outcome ≠ .retry errors) :
    ∃ type code, response = .authenticatorValidate type code ∧ isTotpCode code := by
  cases response with
  | authenticatorValidate type code =>
    refine ⟨type, code, rfl, ?_⟩
    by_contra hcode
    simp only [validateResponse, hcode, if_false] at h
    exact hout _ (Prod.mk.inj h).1.symm
  | _ => exact absurd (Prod.mk.inj h).1.symm (hout _)

theorem emailVerification_accepts {purpose templateKey : String} {expiry attempts : ℕ}
    (h : validateResponse captchaCtx (.emailVerification purpose templateKey expiry attempts)
      response context = (outcome, context')) (hout : ∀ errors, outcome ≠ .retry errors) :
    ∃ code, response = .emailVerification code ∧ code.isEmpty = false := by
  cases response with
  | emailVerification code =>
    refine ⟨code, rfl, ?_⟩
    by_contra hcode
    simp only [validateResponse, Bool.of_not_eq_false hcode, if_true] at h
    exact hout _ (Prod.mk.inj h).1.symm
  | _ => exact absurd (Prod.mk.inj h).1.symm (hout _)

end ValidateResponse

end FlowExecutor

end Pasion

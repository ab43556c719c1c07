import Pasion.Handlers.FlowStages
import Pasion.Relational.Sequential

/-! The endpoints of the flow engine over the store of sessions, and what a session that moves past
a second factor or an email code has been through. -/
namespace Pasion.Flow

open Relational FlowStages Table

inductive RouteError where
  | badRequest (message : String)
  | notFound
  | internal (e : FlowPlannerError)

structure FlowResponse where
  (sessionId flowSlug : String)
  challenge : StageChallenge
  (stageIndex totalStages : ℕ)
  errors : Option (List StageValidationError)

abbrev FlowStore := Table Ulid (FlowPlan × FlowSession)

def defaultRegistrationFlow (flowId : Ulid) : FlowDefinition × List FlowStageBinding :=
  (⟨flowId, "default-registration"⟩,
    [⟨.userWrite false, 10⟩, ⟨.emailVerification "registration" "verification" 300 5, 20⟩])

def defaultRecoveryFlow (flowId : Ulid) : FlowDefinition × List FlowStageBinding :=
  (⟨flowId, "default-recovery"⟩,
    [⟨.identification [.email] false, 10⟩, ⟨.emailVerification "recovery" "recovery" 600 5, 20⟩,
      ⟨.passwordWrite false, 30⟩])

def defaultPasswordChangeFlow (flowId : Ulid) : FlowDefinition × List FlowStageBinding :=
  (⟨flowId, "default-password-change"⟩, [⟨.passwordWrite true, 10⟩])

def defaultAuthenticationFlow (flowId : Ulid) : FlowDefinition × List FlowStageBinding :=
  (⟨flowId, "default-authentication"⟩, [⟨.identification [.username, .email] true, 10⟩])

def defaultAuthorizationFlow (flowId : Ulid) : FlowDefinition × List FlowStageBinding :=
  (⟨flowId, "default-authorization"⟩, [⟨.consent, 10⟩])

def defaultEnrollmentFlow (flowId : Ulid) : FlowDefinition × List FlowStageBinding :=
  (⟨flowId, "default-enrollment"⟩,
    [⟨.enrollmentToken true, 10⟩, ⟨.userWrite false, 20⟩,
      ⟨.emailVerification "registration" "verification" 300 5, 30⟩])

abbrev Resolver := (flowId : Ulid) → (slug : String) → Option (FlowDefinition × List FlowStageBinding)

def resolveFlowBySlug : Resolver := fun flowId slug =>
  if slug = "default-registration" then some (defaultRegistrationFlow flowId)
  else if slug = "default-recovery" then some (defaultRecoveryFlow flowId)
  else if slug = "default-password-change" then some (defaultPasswordChangeFlow flowId)
  else if slug = "default-authentication" then some (defaultAuthenticationFlow flowId)
  else if slug = "default-authorization" then some (defaultAuthorizationFlow flowId)
  else if slug = "default-enrollment" then some (defaultEnrollmentFlow flowId)
  else none

def buildResponse (plan : FlowPlan) (session : FlowSession) (challenge : StageChallenge)
    (errors : Option (List StageValidationError)) : FlowResponse where
  sessionId := Ulid.toString session.id
  flowSlug := plan.flow.slug
  challenge
  stageIndex := session.currentStageIndex
  totalStages := plan.stages.length
  errors

def parseFlowSessionId (x : Services) (id : Option String) : Except RouteError Ulid :=
  match id with
  | none => .error (.badRequest "missing session id")
  | some s =>
    match x.parseUlid s with
    | .ok id => .ok id
    | .error _ => .error (.badRequest "invalid session id")

/-- The identifiers that the call draws are part of the request. -/
structure StartRequest where
  slug : Option String
  now : Time
  (flowId sessionId : Ulid)

def oneHour : Duration := 3600000000

def newSession (req : StartRequest) (flow : FlowDefinition) : FlowSession where
  id := req.sessionId
  flowId := flow.id
  currentStageIndex := 0
  status := .inProgress
  context := .object []
  createdAt := req.now
  updatedAt := req.now
  expiresAt := req.now + oneHour
  completedAt := none

def startFlow (resolve : Resolver) (req : StartRequest) (store : FlowStore) :
    Except RouteError FlowResponse × FlowStore :=
  match req.slug with
  | none => (.error (.badRequest "missing flow slug"), store)
  | some slug =>
    match resolve req.flowId slug with
    | none => (.error .notFound, store)
    | some (flow, bindings) =>
      let plan := FlowExecutor.plan flow bindings
      match FlowExecutor.currentChallenge plan (newSession req flow) with
      | (.error e, _) => (.error (.internal e), store)
      | (.ok challenge, session) =>
        (.ok (buildResponse plan session challenge none), store.insert req.sessionId (plan, session))

def withChallenge (plan : FlowPlan) (session : FlowSession)
    (errors : Option (List StageValidationError)) : Except RouteError FlowResponse × FlowSession :=
  match FlowExecutor.currentChallenge plan session with
  | (.error e, session) => (.error (.internal e), session)
  | (.ok challenge, session) => (.ok (buildResponse plan session challenge errors), session)

def getSession (plan : FlowPlan) (session : FlowSession) :
    Except RouteError FlowResponse × FlowSession :=
  if session.status.isTerminal then
    (.ok (buildResponse plan session (.flowDone (some "/account")) none), session)
  else withChallenge plan session none

/-- The store keeps what the call did to the session even where the call fails. -/
def getFlowSession (x : Services) (id : Option String) (store : FlowStore) :
    Except RouteError FlowResponse × FlowStore :=
  match parseFlowSessionId x id with
  | .error e => (.error e, store)
  | .ok id =>
    match store.get? id with
    | none => (.error .notFound, store)
    | some (plan, session) =>
      let res := getSession plan session
      (res.1, store.insert id (plan, res.2))

/-- The clock is read when the session is updated and once more when it completes. -/
structure RespondRequest where
  id : Option String
  body : Option StageResponse
  captchaCtx : Option CaptchaVerifyContext
  (now completedNow : Time)

/-- The stage index of a completed session points past the last stage. -/
def completeSession (plan : FlowPlan) (session : FlowSession) (now : Time)
    (redirectTo : Option String) : Except RouteError FlowResponse × FlowSession :=
  let session := { session with
    status := .completed
    completedAt := some now
    currentStageIndex := plan.stages.length }
  (.ok (buildResponse plan session (.flowDone redirectTo) none), session)

def applyOutcome (plan : FlowPlan) (session : FlowSession) (now : Time) :
    StageOutcome → Except RouteError FlowResponse × FlowSession
  | .continue =>
    if FlowExecutor.hasNextStage plan session then
      withChallenge plan { session with currentStageIndex := session.currentStageIndex + 1 } none
    else completeSession plan session now (some "/account")
  | .retry errors => withChallenge plan session (some errors)
  | .done redirectTo => completeSession plan session now redirectTo

def respondSession (req : RespondRequest) (response : StageResponse) (plan : FlowPlan)
    (session : FlowSession) : Except RouteError FlowResponse × FlowSession :=
  if session.status.isTerminal then
    (.error (.badRequest "flow session is no longer active"), session)
  else
    match FlowExecutor.processResponse plan session response req.captchaCtx with
    | .error e => (.error (.internal e), session)
    | .ok (outcome, context) =>
      applyOutcome plan { session with context, updatedAt := req.now } req.completedNow outcome

def respondFlow (x : Services) (req : RespondRequest) (store : FlowStore) :
    Except RouteError FlowResponse × FlowStore :=
  match parseFlowSessionId x req.id with
  | .error e => (.error e, store)
  | .ok id =>
    match req.body with
    | none => (.error (.badRequest "invalid json body"), store)
    | some response =>
      match store.get? id with
      | none => (.error .notFound, store)
      | some (plan, session) =>
        let res := respondSession req response plan session
        (res.1, store.insert id (plan, res.2))

/-- One call of a run, with the database and the clock of the host as they are at that moment. -/
inductive Call where
  | start (req : StartRequest)
  | get (id : Option String)
  | respond (req : RespondRequest)

structure Event where
  call : Call
  db : Database
  unixNow : ℕ

def handle (x : Services) (resolve : Resolver) (store : FlowStore) :
    Call → Except RouteError FlowResponse × FlowStore
  | .start req => startFlow resolve req store
  | .get id => getFlowSession x id store
  | .respond req => respondFlow x req store

def submitted (x : Services) : Call → Option (Ulid × StageResponse)
  | .respond req => do
    let id ← (parseFlowSessionId x req.id).toOption
    let response ← req.body
    pure (id, response)
  | _ => none

def identifiedUser (x : Services) (db : Database) (context : Json.Value) : Option User :=
  (FlowExecutor.text context "uid_field").bind (fun uidField =>
    match ((findUser x uidField : Repo DatabaseError _).exec db).1 with
    | .committed user => user
    | _ => none)

def passesSecondFactor (x : Services) (ev : Event) (context : Json.Value) (code : String) : Bool :=
  (identifiedUser x ev.db context).any (fun user => passesTotp x ev.db ev.unixNow user.id code)

def passesEmailCode (x : Services) (ev : Event) (context : Json.Value) (code : String) : Bool :=
  (contextId x context "email_authentication_id").any (fun authId => isIssued ev.db authId code)

/-- The store and, as history, the sessions in which a code has passed the check. -/
structure State where
  store : FlowStore
  checked : List Ulid

def State.init : State := ⟨.empty, []⟩

def State.context (st : State) (id : Ulid) : Json.Value :=
  (st.store.get? id).elim .null (fun entry => entry.2.context)

def checkedNow (x : Services) (st : State) (ev : Event) : List Ulid :=
  match submitted x ev.call with
  | some (id, .authenticatorValidate _ code) =>
    if passesSecondFactor x ev (st.context id) code then [id] else []
  | _ => []

def startedNow (resolve : Resolver) (st : State) (ev : Event) : List Ulid :=
  match ev.call with
  | .start req =>
    match (startFlow resolve req st.store).1 with
    | .ok _ => [req.sessionId]
    | .error _ => []
  | _ => []

def step (x : Services) (resolve : Resolver) (st : State) (ev : Event) : State where
  store := (handle x resolve st.store ev.call).2
  checked := checkedNow x st ev ++ st.checked.filter (· ∉ startedNow resolve st ev)

/-- Where the session stands when the call begins to move it. -/
def indexBefore (resolve : Resolver) (st : State) (ev : Event) (id : Ulid) : ℕ :=
  if id ∈ startedNow resolve st ev then 0
  else (st.store.get? id).elim 0 (fun entry => entry.2.currentStageIndex)

/-- Past the stage that was answered, and past those skipped while in progress. -/
def AdvancesPast (index : ℕ) (session : FlowSession) (i : ℕ) : Prop :=
  index ≤ i ∧ i < session.currentStageIndex ∧ (i = index ∨ session.status = .inProgress)

/-- What must have happened for a session to go past a stage. -/
def Earned (x : Services) (st : State) (ev : Event) (checked : List Ulid) (id : Ulid) :
    StageKind → Prop
  | .authenticatorValidate _ => id ∈ checked
  | .emailVerification _ _ _ _ => ∃ code, submitted x ev.call = some (id, .emailVerification code) ∧
      passesEmailCode x ev (st.context id) code
  | _ => True

/-- Past a second factor only once a code was checked, and past an email only on a code for it. -/
def Verified (x : Services) (resolve : Resolver) (st : State) (ev : Event) : Prop :=
  ∀ id plan session, (step x resolve st ev).store.get? id = some (plan, session) →
    ∀ i binding, AdvancesPast (indexBefore resolve st ev id) session i →
      plan.stages[i]? = some binding →
        Earned x st ev (step x resolve st ev).checked id binding.stage

def codeChecks (x : Services) (ev : Event) (context : Json.Value) : StageKind → StageResponse → Bool
  | .authenticatorValidate _, .authenticatorValidate _ code =>
    !FlowExecutor.isTotpCode code || passesSecondFactor x ev context code
  | .emailVerification _ _ _ _, .emailVerification code =>
    code.isEmpty || passesEmailCode x ev context code
  | _, _ => true

/-- No second factor or email code that is wrong but of the right shape is submitted. -/
def Honest (x : Services) (st : State) (ev : Event) : Bool :=
  (submitted x ev.call).all (fun answer =>
    (st.store.get? answer.1).all (fun entry => entry.2.status.isTerminal ||
      (entry.1.stages[entry.2.currentStageIndex]?).all
        (fun binding => codeChecks x ev entry.2.context binding.stage answer.2)))

section Session

variable {plan : FlowPlan} {session session' : FlowSession}
variable {errors : Option (List StageValidationError)}

theorem withChallenge_snd (plan : FlowPlan) (session : FlowSession)
    (errors : Option (List StageValidationError)) :
    (withChallenge plan session errors).2 = (FlowExecutor.currentChallenge plan session).2 := by
  unfold withChallenge
  split <;> simp_all

theorem satisfied_of_currentChallenge (session : FlowSession) {i : ℕ}
    (hle : session.currentStageIndex ≤ i)
    (hlt : i < (FlowExecutor.currentChallenge plan session).2.currentStageIndex) :
    ∃ binding, plan.stages[i]? = some binding ∧
      FlowExecutor.isStageSatisfied binding.stage session.context := by
  obtain ⟨index, heq, -, hskip⟩ := FlowExecutor.currentChallenge_snd plan session
  rw [heq] at hlt
  exact hskip i hle hlt

@[simp]
theorem context_currentChallenge :
    (FlowExecutor.currentChallenge plan session).2.context = session.context := by
  obtain ⟨index, heq, -, -⟩ := FlowExecutor.currentChallenge_snd plan session
  rw [heq]

theorem getSession_snd (plan : FlowPlan) (session : FlowSession) :
    (getSession plan session).2.context = session.context ∧
      ∀ i, AdvancesPast session.currentStageIndex (getSession plan session).2 i →
        ∃ binding, plan.stages[i]? = some binding ∧
          FlowExecutor.isStageSatisfied binding.stage session.context := by
  by_cases hterm : session.status.isTerminal
  · simp only [getSession, hterm, if_true, true_and]
    intro i hpast
    exact absurd hpast.2.1 (Nat.not_lt.mpr hpast.1)
  · simp only [getSession, hterm, Bool.false_eq_true, if_false, withChallenge_snd,
      context_currentChallenge, true_and]
    intro i hpast
    exact satisfied_of_currentChallenge session hpast.1 hpast.2.1

/-- An answer does nothing, completes the session, or looks for the next challenge. -/
theorem respondSession_cases (req : RespondRequest) (response : StageResponse) (plan : FlowPlan)
    (session : FlowSession) :
    (respondSession req response plan session).2 = session ∧
        (session.status.isTerminal ∨ plan.stages[session.currentStageIndex]? = none) ∨
      ∃ binding outcome context, session.status = .inProgress ∧
        plan.stages[session.currentStageIndex]? = some binding ∧
        FlowExecutor.validateResponse req.captchaCtx binding.stage response session.context =
          (outcome, context) ∧
        ((outcome = .continue → plan.stages.length ≤ session.currentStageIndex + 1) ∧
            (∀ errors, outcome ≠ .retry errors) ∧
            (respondSession req response plan session).2 = { session with
              context, updatedAt := req.now
              status := .completed
              completedAt := some req.completedNow
              currentStageIndex := plan.stages.length } ∨
          (∃ errors, outcome = .retry errors) ∧ (respondSession req response plan session).2 =
            (FlowExecutor.currentChallenge plan { session with context, updatedAt := req.now }).2 ∨
          outcome = .continue ∧ session.currentStageIndex + 1 < plan.stages.length ∧
            (respondSession req response plan session).2 =
              (FlowExecutor.currentChallenge plan { session with
                context, updatedAt := req.now
                currentStageIndex := session.currentStageIndex + 1 }).2) := by
  cases hstatus : session.status.isTerminal with
  | true => exact .inl ⟨by simp [respondSession, hstatus], .inl rfl⟩
  | false =>
    cases hbinding : plan.stages[session.currentStageIndex]? with
    | none =>
      refine .inl ⟨?_, .inr rfl⟩
      simp [respondSession, FlowExecutor.processResponse, hstatus, hbinding]
    | some binding =>
      obtain ⟨outcome, context, hval⟩ : ∃ outcome context, FlowExecutor.validateResponse
          req.captchaCtx binding.stage response session.context = (outcome, context) := ⟨_, _, rfl⟩
      have hactive := FlowExecutor.isTerminal_eq_false.mp hstatus
      refine .inr ⟨binding, outcome, context, hactive, rfl, hval, ?_⟩
      have hrespond : respondSession req response plan session =
          applyOutcome plan { session with context, updatedAt := req.now } req.completedNow
            outcome := by
        simp [respondSession, FlowExecutor.processResponse, hstatus, hbinding, hval]
      rw [hrespond]
      cases outcome with
      | «continue» =>
        by_cases hnext : session.currentStageIndex + 1 < plan.stages.length
        · refine .inr (.inr ⟨rfl, hnext, ?_⟩)
          rw [applyOutcome, if_pos (by simpa [FlowExecutor.hasNextStage] using hnext), withChallenge_snd]
        · refine .inl ⟨fun _ => Nat.not_lt.mp hnext, by simp, ?_⟩
          rw [applyOutcome, if_neg (by simpa [FlowExecutor.hasNextStage] using hnext)]
          rfl
      | retry errors => exact .inr (.inl ⟨⟨errors, rfl⟩, withChallenge_snd _ _ _⟩)
      | done redirectTo => exact .inl ⟨by simp, by simp, rfl⟩

/-- An answer leaves the session, or goes past its stage and satisfied ones. -/
theorem respondSession_snd (req : RespondRequest) (response : StageResponse) (plan : FlowPlan)
    (session : FlowSession) :
    (respondSession req response plan session).2 = session ∨
      ∃ binding outcome context, session.status = .inProgress ∧
        plan.stages[session.currentStageIndex]? = some binding ∧
        FlowExecutor.validateResponse req.captchaCtx binding.stage response session.context =
          (outcome, context) ∧
        (respondSession req response plan session).2.context = context ∧
        ∀ i, AdvancesPast session.currentStageIndex (respondSession req response plan session).2 i →
          (i = session.currentStageIndex ∧ ∀ errors, outcome ≠ .retry errors) ∨
          ∃ b, plan.stages[i]? = some b ∧ FlowExecutor.isStageSatisfied b.stage context := by
  rcases respondSession_cases req response plan session with
    ⟨hsame, -⟩ | ⟨binding, outcome, context, hstatus, hbinding, hval, hafter⟩
  · exact .inl hsame
  · refine .inr ⟨binding, outcome, context, hstatus, hbinding, hval, ?_⟩
    rcases hafter with ⟨-, hretry, hafter⟩ | ⟨-, hafter⟩ | ⟨rfl, -, hafter⟩ <;> rw [hafter]
    · refine ⟨rfl, fun i hpast => .inl ⟨?_, hretry⟩⟩
      exact hpast.2.2.resolve_right (by simp)
    · refine ⟨context_currentChallenge, fun i hpast => .inr ?_⟩
      exact satisfied_of_currentChallenge { session with context, updatedAt := req.now }
        hpast.1 hpast.2.1
    · refine ⟨context_currentChallenge, fun i hpast => ?_⟩
      rcases Nat.eq_or_lt_of_le hpast.1 with heq | hlt
      · exact .inl ⟨heq.symm, fun errors => StageOutcome.noConfusion⟩
      · exact .inr (satisfied_of_currentChallenge { session with
          context, updatedAt := req.now
          currentStageIndex := session.currentStageIndex + 1 } hlt hpast.2.1)

end Session

section Step

variable {x : Services} {resolve : Resolver} {st : State} {ev : Event} {id : Ulid} {plan : FlowPlan}
  {session session' : FlowSession} {response : StageResponse} {binding : FlowStageBinding}
variable {store store' : FlowStore}

theorem isStageSatisfied_newContext (stage : StageKind) :
    FlowExecutor.isStageSatisfied stage (.object []) = false := by
  cases stage <;> rfl

/-- No stage of a new session is satisfied, so the session waits at its first one. -/
theorem currentChallenge_newSession (plan : FlowPlan) (req : StartRequest) (flow : FlowDefinition) :
    (FlowExecutor.currentChallenge plan (newSession req flow)).2 = newSession req flow := by
  obtain ⟨index, heq, -, hskip⟩ := FlowExecutor.currentChallenge_snd plan (newSession req flow)
  have hindex : index = 0 := by
    by_contra hindex
    obtain ⟨binding, -, hsat⟩ := hskip 0 (Nat.zero_le _) (Nat.pos_of_ne_zero hindex)
    exact absurd hsat (by simp [newSession, isStageSatisfied_newContext])
  rw [heq, hindex]
  rfl

theorem startFlow_ok {req : StartRequest} {response : FlowResponse}
    (h : startFlow resolve req store = (.ok response, store')) :
    ∃ slug flow bindings, resolve req.flowId slug = some (flow, bindings) ∧
      store' = store.insert req.sessionId (FlowExecutor.plan flow bindings, newSession req flow) ∧
      ∃ challenge, (FlowExecutor.currentChallenge (FlowExecutor.plan flow bindings)
        (newSession req flow)).1 = .ok challenge := by
  unfold startFlow at h
  split at h
  · simp at h
  · rename_i slug _
    split at h
    · simp at h
    · rename_i flow bindings hresolve
      dsimp only at h
      split at h
      · simp at h
      · rename_i challenge session hchallenge
        simp only [Prod.mk.injEq] at h
        have hsession := currentChallenge_newSession (FlowExecutor.plan flow bindings) req flow
        rw [hchallenge] at hsession
        refine ⟨slug, flow, bindings, hresolve, ?_, challenge, by rw [hchallenge]⟩
        rw [← h.2, ← hsession]

theorem startFlow_error {req : StartRequest} {e : RouteError}
    (h : startFlow resolve req store = (.error e, store')) : store' = store := by
  unfold startFlow at h
  split at h
  · exact (Prod.mk.inj h).2.symm
  · split at h
    · exact (Prod.mk.inj h).2.symm
    · dsimp only at h
      split at h
      · exact (Prod.mk.inj h).2.symm
      · simp at h

/-- How one call changes one session. -/
inductive Change (x : Services) (ev : Event) (id : Ulid) (plan : FlowPlan) (session : FlowSession) :
    FlowSession → Prop where
  | same : Change x ev id plan session session
  | looked : Change x ev id plan session (getSession plan session).2
  | answered {req : RespondRequest} {response : StageResponse} (hcall : ev.call = .respond req)
      (hsubmitted : submitted x ev.call = some (id, response)) :
      Change x ev id plan session (respondSession req response plan session).2

theorem step_get? (h : (step x resolve st ev).store.get? id = some (plan, session')) :
    (id ∈ startedNow resolve st ev ∧ session'.context = .object [] ∧
      session'.currentStageIndex = 0) ∨
    (id ∉ startedNow resolve st ev ∧ ∃ session, st.store.get? id = some (plan, session) ∧
      Change x ev id plan session session') := by
  obtain ⟨call, db, unixNow⟩ := ev
  cases call with
  | start req =>
    simp only [step, handle] at h
    cases hstart : startFlow resolve req st.store with
    | mk res store' =>
      rw [hstart] at h
      cases res with
      | error e =>
        rw [startFlow_error hstart] at h
        exact .inr ⟨by simp [startedNow, hstart], session', h, .same⟩
      | ok response =>
        obtain ⟨slug, flow, bindings, -, rfl, -⟩ := startFlow_ok hstart
        rw [get?_insert] at h
        split_ifs at h with hid
        · obtain ⟨-, rfl⟩ := Prod.mk.inj (Option.some.inj h)
          exact .inl ⟨by simp [startedNow, hstart, hid], rfl, rfl⟩
        · exact .inr ⟨by simp [startedNow, hstart, hid], session', h, .same⟩
  | get idParam =>
    refine .inr ⟨by simp [startedNow], ?_⟩
    simp only [step, handle, getFlowSession] at h
    split at h
    · exact ⟨session', h, .same⟩
    · split at h
      · exact ⟨session', h, .same⟩
      · rename_i plan₀ session₀ hget
        rw [get?_insert] at h
        split_ifs at h with hid
        · obtain ⟨rfl, rfl⟩ := Prod.mk.inj (Option.some.inj h)
          exact ⟨session₀, hid ▸ hget, .looked⟩
        · exact ⟨session', h, .same⟩
  | respond req =>
    refine .inr ⟨by simp [startedNow], ?_⟩
    simp only [step, handle, respondFlow] at h
    split at h
    · exact ⟨session', h, .same⟩
    · rename_i parsed hparsed
      split at h
      · exact ⟨session', h, .same⟩
      · rename_i response hbody
        split at h
        · exact ⟨session', h, .same⟩
        · rename_i plan₀ session₀ hget
          rw [get?_insert] at h
          split_ifs at h with hid
          · obtain ⟨rfl, rfl⟩ := Prod.mk.inj (Option.some.inj h)
            refine ⟨session₀, hid ▸ hget, .answered rfl ?_⟩
            simp [submitted, hparsed, hbody, Except.toOption, hid]
          · exact ⟨session', h, .same⟩

theorem mem_checked_of_mem (hstarted : id ∉ startedNow resolve st ev) (h : id ∈ st.checked) :
    id ∈ (step x resolve st ev).checked :=
  List.mem_append_right _ (List.mem_filter.mpr ⟨h, by simpa using hstarted⟩)

theorem mem_checked_of_passes {type : AuthenticatorType} {code : String}
    (hsubmitted : submitted x ev.call = some (id, .authenticatorValidate type code))
    (hpasses : passesSecondFactor x ev (st.context id) code) :
    id ∈ (step x resolve st ev).checked := by
  refine List.mem_append_left _ ?_
  simp [checkedNow, hsubmitted, hpasses]

theorem State.context_of_get? (hget : st.store.get? id = some (plan, session)) :
    st.context id = session.context := by
  simp [State.context, hget]

theorem codeChecks_of_honest (h : Honest x st ev)
    (hsubmitted : submitted x ev.call = some (id, response))
    (hget : st.store.get? id = some (plan, session)) (hstatus : session.status = .inProgress)
    (hbinding : plan.stages[session.currentStageIndex]? = some binding) :
    codeChecks x ev (st.context id) binding.stage response := by
  have hterm : session.status.isTerminal = false := by rw [hstatus]; rfl
  rw [State.context_of_get? hget]
  simpa [Honest, hsubmitted, hget, hterm, hbinding] using h

/-- A second factor that counts as validated has had a code checked; no email counts so. -/
def Sound (st : State) : Prop := ∀ id plan session, st.store.get? id = some (plan, session) →
    (FlowExecutor.flag session.context "mfa_validated" → id ∈ st.checked) ∧
      session.context.get? "email_verified" = none

/-- A stage that the context satisfies has been earned. -/
theorem earned_of_satisfied {context : Json.Value} {checked : List Ulid} {stage : StageKind}
    (hmfa : FlowExecutor.flag context "mfa_validated" → id ∈ checked)
    (hemail : context.get? "email_verified" = none)
    (hsat : FlowExecutor.isStageSatisfied stage context) : Earned x st ev checked id stage := by
  cases stage with
  | authenticatorValidate types => exact hmfa hsat
  | emailVerification purpose templateKey expiry attempts =>
    simp [FlowExecutor.isStageSatisfied, FlowExecutor.flag, hemail] at hsat
  | _ => trivial

/-- A stage whose answer need not be repeated has been earned. -/
theorem earned_of_accepted {captchaCtx : Option CaptchaVerifyContext} {stage : StageKind}
    {outcome : StageOutcome} {context context' : Json.Value}
    (hsubmitted : submitted x ev.call = some (id, response))
    (hchecks : codeChecks x ev (st.context id) stage response)
    (hval : FlowExecutor.validateResponse captchaCtx stage response context = (outcome, context'))
    (hout : ∀ errors, outcome ≠ .retry errors) :
    Earned x st ev (step x resolve st ev).checked id stage := by
  cases stage with
  | authenticatorValidate types =>
    obtain ⟨type, code, rfl, hcode⟩ := FlowExecutor.authenticatorValidate_accepts hval hout
    refine mem_checked_of_passes hsubmitted ?_
    simpa [codeChecks, hcode] using hchecks
  | emailVerification purpose templateKey expiry attempts =>
    obtain ⟨code, rfl, hcode⟩ := FlowExecutor.emailVerification_accepts hval hout
    refine ⟨code, hsubmitted, ?_⟩
    simpa [codeChecks, hcode] using hchecks
  | _ => trivial

/-- A call keeps the context sound, and every stage that the session goes past has been earned. -/
theorem change_sound (hhonest : Honest x st ev) (hstarted : id ∉ startedNow resolve st ev)
    (hget : st.store.get? id = some (plan, session)) (hchange : Change x ev id plan session session')
    (hmfa : FlowExecutor.flag session.context "mfa_validated" → id ∈ st.checked)
    (hemail : session.context.get? "email_verified" = none) :
    ((FlowExecutor.flag session'.context "mfa_validated" → id ∈ (step x resolve st ev).checked) ∧
      session'.context.get? "email_verified" = none) ∧
    ∀ i binding, AdvancesPast session.currentStageIndex session' i →
      plan.stages[i]? = some binding →
        Earned x st ev (step x resolve st ev).checked id binding.stage := by
  have hkept : FlowExecutor.flag session.context "mfa_validated" →
      id ∈ (step x resolve st ev).checked := fun hflag => mem_checked_of_mem hstarted (hmfa hflag)
  cases hchange with
  | same =>
    refine ⟨⟨hkept, hemail⟩, fun i binding hpast _ => ?_⟩
    exact absurd hpast.2.1 (Nat.not_lt.mpr hpast.1)
  | looked =>
    obtain ⟨hcontext, hskip⟩ := getSession_snd plan session
    refine ⟨by rw [hcontext]; exact ⟨hkept, hemail⟩, fun i binding hpast hbinding => ?_⟩
    obtain ⟨b, hb, hsat⟩ := hskip i hpast
    cases hb.symm.trans hbinding
    exact earned_of_satisfied hkept hemail hsat
  | @answered req response hcall hsubmitted =>
    rcases respondSession_snd req response plan session with
      hsame | ⟨binding, outcome, context, hstatus, hbinding, hval, hcontext, hpasses⟩
    · rw [hsame]
      refine ⟨⟨hkept, hemail⟩, fun i binding hpast _ => ?_⟩
      exact absurd hpast.2.1 (Nat.not_lt.mpr hpast.1)
    · have hchecks := codeChecks_of_honest hhonest hsubmitted hget hstatus hbinding
      obtain ⟨hother, hwritten⟩ := FlowExecutor.validateResponse_context hval
      have hmfa' : FlowExecutor.flag context "mfa_validated" →
          id ∈ (step x resolve st ev).checked := by
        rcases hwritten with hsame | ⟨types, type, code, hstage, rfl, hcode⟩
        · intro hflag
          refine hkept ?_
          unfold FlowExecutor.flag at hflag ⊢
          rwa [hsame] at hflag
        · intro _
          refine mem_checked_of_passes hsubmitted ?_
          simpa [hstage, codeChecks, hcode] using hchecks
      have hemail' : context.get? "email_verified" = none :=
        (hother _ (by decide)).trans hemail
      refine ⟨by rw [hcontext]; exact ⟨hmfa', hemail'⟩, fun i b hpast hb => ?_⟩
      rcases hpasses i hpast with ⟨rfl, hout⟩ | ⟨b', hb', hsat⟩
      · cases hbinding.symm.trans hb
        exact earned_of_accepted hsubmitted hchecks hval hout
      · cases hb'.symm.trans hb
        exact earned_of_satisfied hmfa' hemail' hsat

theorem sound_step (hsound : Sound st) (hhonest : Honest x st ev) : Sound (step x resolve st ev) := by
  intro id plan session' hget'
  rcases step_get? hget' with ⟨-, hcontext, -⟩ | ⟨hstarted, session, hget, hchange⟩
  · rw [hcontext]
    exact ⟨fun hflag => absurd hflag (by decide), rfl⟩
  · obtain ⟨hmfa, hemail⟩ := hsound id plan session hget
    exact (change_sound hhonest hstarted hget hchange hmfa hemail).1

theorem verified_step (hsound : Sound st) (hhonest : Honest x st ev) : Verified x resolve st ev := by
  intro id plan session' hget' i binding hpast hbinding
  rcases step_get? hget' with ⟨-, -, hindex⟩ | ⟨hstarted, session, hget, hchange⟩
  · exact absurd hpast.2.1 (by simp [hindex])
  · obtain ⟨hmfa, hemail⟩ := hsound id plan session hget
    refine (change_sound hhonest hstarted hget hchange hmfa hemail).2 i binding ?_ hbinding
    simpa [indexBefore, hstarted, hget] using hpast

end Step

/-- Where no wrong code of the right shape is submitted, every session has earned its stages. -/
theorem verified_of_honest (x : Services) (resolve : Resolver) (events : List Event)
    (h : Sequential.Along (step x resolve) (fun st ev => Honest x st ev) .init events) :
    Sequential.Along (step x resolve) (Verified x resolve) .init events := by
  have hinit : Sound .init := by
    intro id plan session hget
    cases hget
  exact h.of_invariant (fun _ _ => sound_step) (fun _ _ => verified_step) hinit

section Fixtures

def zeroServices : Services where
  lower := id
  toLowercase := id
  parseUlid s := (Str.parseUnsigned (2 ^ 128) s).elim (.error "invalid length") .ok
  totp := ⟨fun _ => none, fun s => some (Str.bytes s), fun _ _ => List.replicate 20 0⟩

def aliceDb : Database := { Database.alice with
    userTotpConfigs := Table.empty.insert 2 ⟨1, "secret", 6, 30, some 0⟩ }

/-- A login with a second factor. -/
def secondFactorFlow : Resolver := fun flowId slug =>
  some (⟨flowId, slug⟩,
    [⟨.identification [.username] false, 10⟩, ⟨.authenticatorValidate [.totp], 20⟩])

def startEvent (slug : String) : Event := ⟨.start ⟨some slug, 0, 6, 7⟩, aliceDb, 0⟩

def respondEvent (response : StageResponse) : Event :=
  ⟨.respond ⟨some "7", some response, none, 1, 1⟩, aliceDb, 0⟩

def identified (resolve : Resolver) (slug : String) : State :=
  Sequential.run (step zeroServices resolve) .init
    [startEvent slug, respondEvent (.identification "alice" none)]

/-- Any six digits pass for a second factor, and any text for the code of an email. -/
theorem wrong_codes_pass :
    ¬Sequential.Along (step zeroServices secondFactorFlow) (Verified zeroServices secondFactorFlow)
      .init [startEvent "login", respondEvent (.identification "alice" none),
        respondEvent (.authenticatorValidate .totp "111111")] ∧
    ¬Sequential.Along (step zeroServices resolveFlowBySlug)
      (Verified zeroServices resolveFlowBySlug) .init
      [startEvent "default-recovery", respondEvent (.identification "alice" none),
        respondEvent (.emailVerification "guess")] := by
  constructor
  · intro h
    have hmem : 7 ∈ (step zeroServices secondFactorFlow (identified secondFactorFlow "login")
        (respondEvent (.authenticatorValidate .totp "111111"))).checked :=
      h.2.2.1 7 _ _ rfl 1 _
        ⟨by decide +kernel, by decide +kernel, .inl (by decide +kernel)⟩ rfl
    exact absurd hmem (by decide +kernel)
  · intro h
    obtain ⟨code, -, hcode⟩ := h.2.2.1 7 _ _ rfl 1 _
      ⟨by decide +kernel, by decide +kernel, .inl (by decide +kernel)⟩ rfl
    have hpending : contextId zeroServices
        ((identified resolveFlowBySlug "default-recovery").context 7)
        "email_authentication_id" = none := by decide +kernel
    have hnone := Option.any_none (p := fun authId => isIssued aliceDb authId code)
    rw [← hpending] at hnone
    exact absurd hcode (Bool.eq_false_iff.mp hnone)

theorem verified_right_code :
    Sequential.Along (step zeroServices secondFactorFlow) (Verified zeroServices secondFactorFlow)
      .init [startEvent "login", respondEvent (.identification "alice" none),
        respondEvent (.authenticatorValidate .totp "000000")] ∧
    ((Sequential.run (step zeroServices secondFactorFlow) .init
      [startEvent "login", respondEvent (.identification "alice" none),
        respondEvent (.authenticatorValidate .totp "000000")]).store.get? 7).any
          (fun entry => entry.2.status = .completed) :=
  ⟨verified_of_honest zeroServices secondFactorFlow _ (by decide +kernel), by decide +kernel⟩

end Fixtures

end Pasion.Flow

import Pasion.Handlers.Flow

/-! Whether a session in progress has a stage left to answer. -/
namespace Pasion

def StageKind.isAuthenticator : StageKind → Bool
  | authenticatorValidate _ => true
  | _ => false

namespace FlowExecutor

variable {context context' : Json.Value} {plan : FlowPlan} {session : FlowSession}
  {stage : StageKind}

/-- Skipping ends at the first stage that is not satisfied, or behind the last one. -/
theorem getElem?_skipSatisfied (stages : List FlowStageBinding) (index : ℕ) :
    stages[skipSatisfied context stages index - index]? =
      stages.find? (fun b => !isStageSatisfied b.stage context) := by
  induction stages generalizing index with
  | nil => simp
  | cons binding rest ih =>
    unfold skipSatisfied
    by_cases hsat : isStageSatisfied binding.stage context
    · have hle : index + 1 ≤ skipSatisfied context rest (index + 1) := le_skipSatisfied _ _
      have hsub : skipSatisfied context rest (index + 1) - index =
          skipSatisfied context rest (index + 1) - (index + 1) + 1 := by omega
      rw [if_pos hsat, hsub, List.getElem?_cons_succ, ih]
      simp [hsat]
    · simp [hsat]

/-- There is a challenge as long as some stage from the current one on is not satisfied. -/
theorem currentChallenge_ok_iff (hstatus : session.status = .inProgress) :
    (∃ challenge, (currentChallenge plan session).1 = .ok challenge) ↔
      ∃ b ∈ plan.stages.drop session.currentStageIndex,
        isStageSatisfied b.stage session.context = false := by
  have hterm : session.status.isTerminal = false := isTerminal_eq_false.mpr hstatus
  have hget : plan.stages[skipSatisfied session.context
      (plan.stages.drop session.currentStageIndex) session.currentStageIndex]? =
        (plan.stages.drop session.currentStageIndex).find?
          (fun b => !isStageSatisfied b.stage session.context) := by
    rw [← getElem?_skipSatisfied _ session.currentStageIndex, List.getElem?_drop,
      Nat.add_sub_cancel' (le_skipSatisfied _ _)]
  unfold currentChallenge
  simp only [hterm, Bool.false_eq_true, if_false, hget]
  cases hfind : (plan.stages.drop session.currentStageIndex).find?
      (fun b => !isStageSatisfied b.stage session.context) with
  | none =>
    have hall := List.find?_eq_none.mp hfind
    simp only [reduceCtorEq, exists_false, false_iff, not_exists, not_and]
    intro b hb hunsat
    exact hall b hb (by simp [hunsat])
  | some b =>
    have hb := List.find?_some hfind
    simp only [Except.ok.injEq, exists_eq', true_iff]
    exact ⟨b, List.mem_of_find?_eq_some hfind, by simpa using hb⟩

theorem isStageSatisfied_authenticator (h : stage.isAuthenticator) :
    isStageSatisfied stage context = flag context "mfa_validated" := by
  cases stage <;> first | rfl | cases h

/-- Of what satisfies a stage, a response may write only that a second factor was validated. -/
theorem isStageSatisfied_congr (hstage : stage.isAuthenticator = false)
    (h : ∀ key, key ∉ writtenKeys → context'.get? key = context.get? key) :
    isStageSatisfied stage context' = isStageSatisfied stage context := by
  cases stage with
  | authenticatorValidate types => cases hstage
  | identification _ _ => simp only [isStageSatisfied, h "user_id" (by decide)]
  | emailVerification _ _ _ _ => simp only [isStageSatisfied, flag, h "email_verified" (by decide)]
  | passwordWrite _ => simp only [isStageSatisfied, flag, h "password_set" (by decide)]
  | userWrite _ => simp only [isStageSatisfied, flag, h "user_created" (by decide)]
  | captcha => simp only [isStageSatisfied, flag, h "captcha_verified" (by decide)]
  | enrollmentToken _ => simp only [isStageSatisfied, h "enrollment_token_id" (by decide)]
  | consent => rfl
  | prompt _ => rfl

section ValidateResponse

variable {captchaCtx : Option CaptchaVerifyContext} {response : StageResponse}
  {outcome : StageOutcome}

theorem validateResponse_authenticator (hstage : stage.isAuthenticator)
    (h : validateResponse captchaCtx stage response context = (outcome, context')) :
    (outcome = .continue ∧ context' = context.insert "mfa_validated" (.bool true)) ∨
      ((∃ errors, outcome = .retry errors) ∧ context' = context) := by
  cases stage with
  | authenticatorValidate types =>
    cases response with
    | authenticatorValidate type code =>
      simp only [validateResponse] at h
      split_ifs at h <;> obtain ⟨rfl, rfl⟩ := Prod.mk.inj h
      · exact .inl ⟨rfl, rfl⟩
      · exact .inr ⟨⟨_, rfl⟩, rfl⟩
    | _ =>
      obtain ⟨rfl, rfl⟩ := Prod.mk.inj h
      exact .inr ⟨⟨_, rfl⟩, rfl⟩
  | _ => cases hstage

theorem validateResponse_flag (hstage : stage.isAuthenticator = false)
    (h : validateResponse captchaCtx stage response context = (outcome, context')) :
    flag context' "mfa_validated" = flag context "mfa_validated" := by
  rcases (validateResponse_context h).2 with hsame | ⟨types, -, -, rfl, -⟩
  · simp only [flag, hsame]
  · cases hstage

def accepted : StageKind → StageResponse
  | .identification _ _ => .identification "" none
  | .emailVerification _ _ _ _ => .emailVerification "0"
  | .passwordWrite _ => .passwordWrite (some "") "0"
  | .userWrite _ => .userWrite "" none
  | .captcha => .captcha "0"
  | .consent => .consent true
  | .prompt fields => .prompt (.object (fields.map (fun f => (f.fieldKey, .bool true))))
  | .authenticatorValidate _ => .authenticatorValidate .totp "000000"
  | .enrollmentToken _ => .enrollmentToken "0"

theorem lookup_filledFields {fields : List PromptField} {f : PromptField} (hf : f ∈ fields) :
    Json.Value.lookup f.fieldKey (fields.map (fun f => (f.fieldKey, .bool true))) =
      some (.bool true) := by
  induction fields with
  | nil => cases hf
  | cons g rest ih =>
    simp only [List.map_cons, Json.Value.lookup]
    split_ifs with hkey
    · rfl
    · refine ih ((List.mem_cons.mp hf).resolve_left ?_)
      rintro rfl
      exact hkey rfl

theorem promptErrors_filled (fields : List PromptField) :
    promptErrors fields (.object (fields.map (fun f => (f.fieldKey, .bool true)))) = [] := by
  unfold promptErrors
  rw [List.map_eq_nil_iff, List.filter_eq_nil_iff]
  intro f hf
  simp [Json.Value.get?, lookup_filledFields hf, isMissing]

theorem validateResponse_accepted (stage : StageKind) (context : Json.Value) :
    (validateResponse none stage (accepted stage) context).1 = .continue := by
  cases stage with
  | prompt fields => simp only [validateResponse, accepted, promptErrors_filled]
  | authenticatorValidate types =>
    have hcode : isTotpCode "000000" = true := by decide +kernel
    simp only [validateResponse, accepted, hcode, if_true]
  | passwordWrite requireCurrent => cases requireCurrent <;> rfl
  | enrollmentToken required => cases required <;> rfl
  | _ => rfl

theorem validateResponse_accepted_object (stage : StageKind)
    (h : ∃ members, context = .object members) :
    ∃ members, (validateResponse none stage (accepted stage) context).2 = .object members := by
  obtain ⟨members, rfl⟩ := h
  cases stage with
  | prompt fields =>
    simp only [validateResponse, accepted, promptErrors_filled]
    exact ⟨_, rfl⟩
  | authenticatorValidate types =>
    have hcode : isTotpCode "000000" = true := by decide +kernel
    simp only [validateResponse, accepted, hcode, if_true]
    exact ⟨_, rfl⟩
  | passwordWrite requireCurrent => cases requireCurrent <;> exact ⟨_, rfl⟩
  | enrollmentToken required => cases required <;> exact ⟨_, rfl⟩
  | _ => exact ⟨_, rfl⟩

theorem flag_accepted (h : ∃ members, context = .object members)
    (hval : validateResponse none stage (accepted stage) context = (.continue, context'))
    (hstage : stage.isAuthenticator ∨ flag context "mfa_validated") :
    flag context' "mfa_validated" := by
  by_cases hauth : stage.isAuthenticator
  · obtain ⟨members, rfl⟩ := h
    rcases validateResponse_authenticator hauth hval with ⟨-, rfl⟩ | ⟨⟨_, hretry⟩, -⟩
    · simp only [flag, Json.Value.insert, Json.Value.get?, Json.Value.lookup_insertMember_self]
      rfl
    · cases hretry
  · rw [validateResponse_flag (Bool.eq_false_iff.mpr hauth) hval]
    exact hstage.resolve_left hauth

end ValidateResponse

end FlowExecutor

namespace Flow

open Relational FlowStages FlowExecutor Table

variable {x : Services} {resolve : Resolver} {plan : FlowPlan} {session : FlowSession}
  {store : FlowStore} {id : Ulid}
variable {flow : FlowDefinition} {bindings : List FlowStageBinding}

/-- The session is over, or there is a stage to answer. -/
def Answerable (plan : FlowPlan) (session : FlowSession) : Prop :=
  session.status.isTerminal ∨ ∃ challenge, (currentChallenge plan session).1 = .ok challenge

/-- The last stage validates a second factor, and so does one before it. -/
def RepeatsLastFactor (stages : List FlowStageBinding) : Prop :=
  ∃ front last, stages = front ++ [last] ∧ last.stage.isAuthenticator ∧
    ∃ b ∈ front, b.stage.isAuthenticator

def serve (x : Services) (resolve : Resolver) (store : FlowStore) (call : Call) : FlowStore :=
  (handle x resolve store call).2

/-- A session in the store is new, of a flow that the call found, or was there before. -/
theorem serve_get? {call : Call} {session' : FlowSession}
    (h : (serve x resolve store call).get? id = some (plan, session')) :
    (∃ req slug flow bindings, resolve req.flowId slug = some (flow, bindings) ∧
      plan = FlowExecutor.plan flow bindings ∧ session' = newSession req flow ∧
      ∃ challenge, (currentChallenge plan session').1 = .ok challenge) ∨
    ∃ session, store.get? id = some (plan, session) ∧ (session' = session ∨
      session' = (getSession plan session).2 ∨
      ∃ req response, session' = (respondSession req response plan session).2) := by
  have hstep : (step x resolve ⟨store, []⟩ ⟨call, .empty, 0⟩).store.get? id =
    some (plan, session') := h
  rcases step_get? hstep with ⟨hstarted, -⟩ | ⟨-, session, hget, hchange⟩
  · cases call with
    | start req =>
      cases hstart : startFlow resolve req store with
      | mk res store' =>
        cases res with
        | error e => simp [startedNow, hstart] at hstarted
        | ok response =>
          obtain ⟨slug, flow, bindings, hresolve, rfl, hchallenge⟩ := startFlow_ok hstart
          obtain rfl : id = req.sessionId := by simpa [startedNow, hstart] using hstarted
          simp only [serve, handle, hstart, get?_insert, if_true] at h
          obtain ⟨rfl, rfl⟩ := Prod.mk.inj (Option.some.inj h)
          exact .inl ⟨req, slug, flow, bindings, hresolve, rfl, rfl, hchallenge⟩
    | get _ => simp [startedNow] at hstarted
    | respond _ => simp [startedNow] at hstarted
  · refine .inr ⟨session, hget, ?_⟩
    cases hchange with
    | same => exact .inl rfl
    | looked => exact .inr (.inl rfl)
    | answered _ _ => exact .inr (.inr ⟨_, _, rfl⟩)

/-- A session whose last stage is still to be answered. -/
structure Open (plan : FlowPlan) (session : FlowSession) : Prop where
  plain : ∀ stage : StageKind, stage.isAuthenticator = false →
    isStageSatisfied stage session.context = false
  last : session.status.isTerminal ∨ ∃ front last, plan.stages = front ++ [last] ∧
    session.currentStageIndex ≤ front.length ∧
    isStageSatisfied last.stage session.context = false

theorem Open.answerable (h : Open plan session) : Answerable plan session := by
  by_cases hterm : session.status.isTerminal
  · exact .inl hterm
  · obtain ⟨front, last, hstages, hle, hunsat⟩ := h.last.resolve_left hterm
    have hstatus := isTerminal_eq_false.mp (Bool.eq_false_iff.mpr hterm)
    refine .inr ((currentChallenge_ok_iff hstatus).mpr ⟨last, ?_, hunsat⟩)
    rw [hstages, List.drop_append_of_le_length hle]
    exact List.mem_append_right _ (List.mem_singleton_self last)

theorem Open.currentChallenge (h : Open plan session) :
    Open plan (currentChallenge plan session).2 := by
  obtain ⟨index, heq, -, hskip⟩ := currentChallenge_snd plan session
  rw [heq]
  refine ⟨h.plain, h.last.imp_right ?_⟩
  rintro ⟨front, last, hstages, hle, hunsat⟩
  refine ⟨front, last, hstages, ?_, hunsat⟩
  by_contra hpast
  obtain ⟨b, hb, hsat⟩ := hskip front.length hle (Nat.not_le.mp hpast)
  rw [hstages] at hb
  simp only [List.getElem?_concat_length, Option.some.injEq] at hb
  rw [← hb, hunsat] at hsat
  cases hsat

/-- The last stage stays open, unless it and the answered one validate a second factor. -/
theorem Open.respondSession (h : Open plan session) (hplan : ¬RepeatsLastFactor plan.stages)
    (req : RespondRequest) (response : StageResponse) :
    Open plan (respondSession req response plan session).2 := by
  rcases respondSession_cases req response plan session with
    ⟨hsame, -⟩ | ⟨binding, outcome, context, hstatus, hbinding, hval, hresult⟩
  · rwa [hsame]
  have hother := (validateResponse_context hval).1
  have hplain : ∀ stage : StageKind, stage.isAuthenticator = false →
      isStageSatisfied stage context = false := fun stage hstage =>
    (isStageSatisfied_congr hstage hother).trans (h.plain stage hstage)
  obtain ⟨front, last, hstages, hle, hunsat⟩ := h.last.resolve_left (by rw [hstatus]; nofun)
  have hkept : (∃ errors, outcome = .retry errors) ∨ session.currentStageIndex < front.length →
      isStageSatisfied last.stage context = false := by
    intro hcase
    by_cases hlast : last.stage.isAuthenticator
    · rw [isStageSatisfied_authenticator hlast] at hunsat ⊢
      by_cases hauth : binding.stage.isAuthenticator
      · rcases validateResponse_authenticator hauth hval with ⟨rfl, -⟩ | ⟨-, rfl⟩
        · obtain ⟨_, hretry⟩ | hlt := hcase
          · cases hretry
          · refine absurd ⟨front, last, hstages, hlast, binding, ?_, hauth⟩ hplan
            rw [hstages, List.getElem?_append_left hlt] at hbinding
            exact List.mem_of_getElem? hbinding
        · exact hunsat
      · rw [validateResponse_flag (Bool.eq_false_iff.mpr hauth) hval]
        exact hunsat
    · exact hplain _ (Bool.eq_false_iff.mpr hlast)
  rcases hresult with ⟨-, -, hres⟩ | ⟨hretry, hres⟩ | ⟨-, hnext, hres⟩
  · rw [hres]
    exact ⟨hplain, .inl rfl⟩
  · rw [hres]
    exact Open.currentChallenge ⟨hplain, .inr ⟨front, last, hstages, hle, hkept (.inl hretry)⟩⟩
  · have hlt : session.currentStageIndex < front.length := by
      rw [hstages, List.length_append, List.length_singleton] at hnext
      omega
    rw [hres]
    exact Open.currentChallenge ⟨hplain, .inr ⟨front, last, hstages, hlt, hkept (.inr hlt)⟩⟩

theorem Open.getSession (h : Open plan session) : Open plan (getSession plan session).2 := by
  unfold Flow.getSession
  split_ifs
  · exact h
  · rw [withChallenge_snd]
    exact h.currentChallenge

theorem open_newSession {req : StartRequest}
    (h : ∃ challenge, (currentChallenge plan (newSession req flow)).1 = .ok challenge) :
    Open plan (newSession req flow) := by
  obtain ⟨b, hb, -⟩ := (currentChallenge_ok_iff rfl).mp h
  have hne : plan.stages ≠ [] := List.ne_nil_of_mem (List.mem_of_mem_drop hb)
  refine ⟨fun stage _ => isStageSatisfied_newContext stage, .inr ?_⟩
  exact ⟨plan.stages.dropLast, plan.stages.getLast hne, (List.dropLast_append_getLast hne).symm,
    Nat.zero_le _, isStageSatisfied_newContext _⟩

def acceptedRequest (text : String) (time : Time) (stage : StageKind) : RespondRequest :=
  ⟨some text, some (accepted stage), none, time, time⟩

theorem serve_accepted {text : String} (htext : x.parseUlid text = .ok id)
    (hget : store.get? id = some (plan, session)) (time : Time) (stage : StageKind) :
    serve x resolve store (.respond (acceptedRequest text time stage)) =
      store.insert id (plan, (respondSession (acceptedRequest text time stage) (accepted stage)
        plan session).2) := by
  simp only [serve, handle, respondFlow, acceptedRequest, parseFlowSessionId, htext, hget]

theorem respondSession_accepted {binding : FlowStageBinding} (text : String) (time : Time)
    (hstatus : session.status = .inProgress)
    (hbinding : plan.stages[session.currentStageIndex]? = some binding) :
    ∃ context, validateResponse none binding.stage (accepted binding.stage) session.context =
        (.continue, context) ∧
      ((respondSession (acceptedRequest text time binding.stage) (accepted binding.stage) plan
          session).2.status = .completed ∧
          plan.stages.length ≤ session.currentStageIndex + 1 ∨
        session.currentStageIndex + 1 < plan.stages.length ∧
          (respondSession (acceptedRequest text time binding.stage) (accepted binding.stage) plan
            session).2 = (currentChallenge plan { session with
              context, updatedAt := time
              currentStageIndex := session.currentStageIndex + 1 }).2) := by
  rcases respondSession_cases (acceptedRequest text time binding.stage) (accepted binding.stage)
    plan session with ⟨-, hnone⟩ | ⟨binding', outcome, context, -, hbinding', hval, hresult⟩
  · rw [hstatus, hbinding] at hnone
    rcases hnone with h | h <;> cases h
  · obtain rfl : binding' = binding := Option.some.inj (hbinding'.symm.trans hbinding)
    have hcontinue := validateResponse_accepted binding'.stage session.context
    have hval' : validateResponse none binding'.stage (accepted binding'.stage) session.context =
      (outcome, context) := hval
    rw [hval'] at hcontinue
    obtain rfl : outcome = .continue := hcontinue
    refine ⟨context, hval', ?_⟩
    rcases hresult with ⟨hlength, -, hres⟩ | ⟨⟨_, hretry⟩, -⟩ | ⟨-, hnext, hres⟩
    · exact .inl ⟨by rw [hres], hlength rfl⟩
    · cases hretry
    · exact .inr ⟨hnext, hres⟩

/-- A second factor satisfies later stages that ask for one; if the last does, no stage is left. -/
theorem exists_stuck {text : String} (htext : x.parseUlid text = .ok id)
    {front : List FlowStageBinding} {last : FlowStageBinding}
    (hstages : plan.stages = front ++ [last]) (hlast : last.stage.isAuthenticator)
    (hget : store.get? id = some (plan, session)) (hstatus : session.status = .inProgress)
    (hobject : ∃ members, session.context = .object members)
    (hfactor : flag session.context "mfa_validated" ∨ ∃ k b, session.currentStageIndex ≤ k ∧
      front[k]? = some b ∧ b.stage.isAuthenticator) :
    ∃ reqs : List RespondRequest, ∃ session',
      (Sequential.run (serve x resolve) store (reqs.map .respond)).get? id =
        some (plan, session') ∧ ¬Answerable plan session' := by
  -- the answers go on while there is a stage, and the index grows with each
  induction hn : front.length + 1 - session.currentStageIndex using Nat.strong_induction_on
    generalizing session store with
  | _ n ih =>
    by_cases hanswer : Answerable plan session
    · have hterm : ¬session.status.isTerminal := by rw [hstatus]; nofun
      obtain ⟨b, hb, hunsat⟩ := (currentChallenge_ok_iff hstatus).mp (hanswer.resolve_left hterm)
      have hlt : session.currentStageIndex < front.length := by
        by_contra hge
        rw [hstages, List.drop_append, List.drop_of_length_le (Nat.not_lt.mp hge),
          List.nil_append] at hb
        obtain rfl : b = last := List.mem_singleton.mp (List.mem_of_mem_drop hb)
        rw [isStageSatisfied_authenticator hlast] at hunsat
        rcases hfactor with hflag | ⟨k, b', hk, hb', -⟩
        · rw [hunsat] at hflag
          cases hflag
        · have := (List.getElem?_eq_some_iff.mp hb').1
          omega
      obtain ⟨binding, hbinding⟩ : ∃ binding, front[session.currentStageIndex]? = some binding :=
        ⟨_, List.getElem?_eq_getElem hlt⟩
      have hplan : plan.stages[session.currentStageIndex]? = some binding := by
        rw [hstages, List.getElem?_append_left hlt, hbinding]
      obtain ⟨context, hval, hresult⟩ := respondSession_accepted text 0 hstatus hplan
      have hlength : plan.stages.length = front.length + 1 := by
        rw [hstages, List.length_append, List.length_singleton]
      obtain ⟨-, hres⟩ := hresult.resolve_left fun hdone => by omega
      obtain ⟨index, heq, hindex, hskip⟩ := currentChallenge_snd plan { session with
        context, updatedAt := 0
        currentStageIndex := session.currentStageIndex + 1 }
      rw [heq] at hres
      dsimp only at hindex hskip
      have hget₁ : (serve x resolve store
          (.respond (acceptedRequest text 0 binding.stage))).get? id = some (plan, { session with
            context, updatedAt := 0
            currentStageIndex := index }) := by
        rw [serve_accepted htext hget, get?_insert, if_pos rfl, hres]
      have hobject₁ : ∃ members, context = .object members := by
        have hmembers := validateResponse_accepted_object binding.stage hobject
        rwa [hval] at hmembers
      have hfactor₁ : flag context "mfa_validated" ∨
          ∃ k b, index ≤ k ∧ front[k]? = some b ∧ b.stage.isAuthenticator := by
        rcases hfactor with hflag | ⟨k, b', hk, hb', hauth⟩
        · exact .inl (flag_accepted hobject hval (.inr hflag))
        rcases Nat.eq_or_lt_of_le hk with rfl | hgt
        · cases hbinding.symm.trans hb'
          exact .inl (flag_accepted hobject hval (.inl hauth))
        by_cases hpast : index ≤ k
        · exact .inr ⟨k, b', hpast, hb', hauth⟩
        · obtain ⟨b'', hb'', hsat⟩ := hskip k hgt (Nat.not_le.mp hpast)
          have hin := (List.getElem?_eq_some_iff.mp hb').1
          rw [hstages, List.getElem?_append_left hin, hb'] at hb''
          cases hb''
          rw [isStageSatisfied_authenticator hauth] at hsat
          exact .inl hsat
      obtain ⟨reqs, session', hget', hstuck⟩ :=
        ih (front.length + 1 - index) (by omega) hget₁ hstatus hobject₁ hfactor₁ rfl
      exact ⟨acceptedRequest text 0 binding.stage :: reqs, session', hget', hstuck⟩
    · exact ⟨[], session, hget, hanswer⟩

theorem open_run (hflows : ∀ flowId slug flow bindings,
      resolve flowId slug = some (flow, bindings) →
        ¬RepeatsLastFactor (FlowExecutor.plan flow bindings).stages) (calls : List Call) :
    ∀ id plan session, (Sequential.run (serve x resolve) .empty calls).get? id =
      some (plan, session) → Open plan session ∧ ¬RepeatsLastFactor plan.stages := by
  refine Sequential.run_invariant (I := fun store : FlowStore => ∀ id plan session,
    store.get? id = some (plan, session) → Open plan session ∧ ¬RepeatsLastFactor plan.stages)
    (fun store call _ hstore id plan session' hget => ?_) (fun _ _ _ hget => by cases hget)
  rcases serve_get? hget with ⟨req, slug, flow, bindings, hresolve, rfl, rfl, hchallenge⟩ |
    ⟨session, hold, hchange⟩
  · exact ⟨open_newSession hchallenge, hflows _ _ _ _ hresolve⟩
  · obtain ⟨hopen, hplan⟩ := hstore id plan session hold
    rcases hchange with rfl | rfl | ⟨req, response, rfl⟩
    · exact ⟨hopen, hplan⟩
    · exact ⟨hopen.getSession, hplan⟩
    · exact ⟨hopen.respondSession hplan req response, hplan⟩

theorem serve_start {req : StartRequest} {slug : String} {b : FlowStageBinding} (hslug : req.slug = some slug)
    (hresolve : resolve req.flowId slug = some (flow, bindings))
    (hb : b ∈ (FlowExecutor.plan flow bindings).stages) :
    serve x resolve store (.start req) =
      store.insert req.sessionId (FlowExecutor.plan flow bindings, newSession req flow) := by
  obtain ⟨challenge, hchallenge⟩ : ∃ challenge, (currentChallenge
      (FlowExecutor.plan flow bindings) (newSession req flow)).1 = .ok challenge :=
    (currentChallenge_ok_iff rfl).mpr ⟨b, hb, isStageSatisfied_newContext _⟩
  have hsession := currentChallenge_newSession (FlowExecutor.plan flow bindings) req flow
  have hpair : currentChallenge (FlowExecutor.plan flow bindings) (newSession req flow) =
      (.ok challenge, newSession req flow) := Prod.ext hchallenge hsession
  simp only [serve, handle, startFlow, hslug, hresolve, hpair]

/-- Sessions have a stage just when no flow ends with a second factor asked for before. -/
theorem sessions_answerable_iff (x : Services) (resolve : Resolver)
    (hnamed : ∃ text id, x.parseUlid text = .ok id) :
    (∀ calls id plan session, (Sequential.run (serve x resolve) .empty calls).get? id =
      some (plan, session) → Answerable plan session) ↔
    ∀ flowId slug flow bindings, resolve flowId slug = some (flow, bindings) →
      ¬RepeatsLastFactor (FlowExecutor.plan flow bindings).stages := by
  constructor
  · rintro h flowId slug flow bindings hresolve ⟨front, last, hstages, hlast, b, hb, hauth⟩
    obtain ⟨text, id, htext⟩ := hnamed
    have hserve : serve x resolve .empty (.start ⟨some slug, 0, flowId, id⟩) = _ :=
      serve_start rfl hresolve (hstages ▸ List.mem_append_right front (List.mem_singleton_self last))
    have hstarted : (serve x resolve .empty (.start ⟨some slug, 0, flowId, id⟩)).get? id =
        some (FlowExecutor.plan flow bindings, newSession ⟨some slug, 0, flowId, id⟩ flow) := by
      rw [hserve, get?_insert, if_pos rfl]
    obtain ⟨k, hk⟩ := List.getElem?_of_mem hb
    obtain ⟨reqs, session, hget, hstuck⟩ := exists_stuck htext hstages hlast hstarted rfl
      ⟨[], rfl⟩ (.inr ⟨k, b, Nat.zero_le k, hk, hauth⟩)
    exact hstuck (h (.start ⟨some slug, 0, flowId, id⟩ :: reqs.map .respond) id _ session hget)
  · intro hflows calls id plan session hget
    exact (open_run hflows calls id plan session hget).1.answerable

/-- None of the built-in flows asks for a second factor. -/
theorem not_repeatsLastFactor_resolveFlowBySlug {flowId : Ulid} {slug : String}
    (h : resolveFlowBySlug flowId slug = some (flow, bindings)) :
    ¬RepeatsLastFactor (FlowExecutor.plan flow bindings).stages := by
  rintro ⟨front, last, hstages, -, b, hb, hauth⟩
  have hmem : b ∈ bindings := by
    refine (List.mem_insertionSort _).mp (?_ : b ∈ (FlowExecutor.plan flow bindings).stages)
    exact hstages ▸ List.mem_append_left _ hb
  unfold resolveFlowBySlug at h
  split_ifs at h <;> obtain ⟨-, rfl⟩ := Prod.mk.inj (Option.some.inj h) <;>
    simp only [List.mem_cons, List.not_mem_nil, or_false] at hmem
  · rcases hmem with rfl | rfl <;> cases hauth
  · rcases hmem with rfl | rfl | rfl <;> cases hauth
  · subst hmem; cases hauth
  · subst hmem; cases hauth
  · subst hmem; cases hauth
  · rcases hmem with rfl | rfl | rfl <;> cases hauth

def recoveryCalls : List Call :=
  [.start ⟨some "default-recovery", 0, 6, 7⟩,
    .respond ⟨some "7", some (.identification "alice" none), none, 1, 1⟩]

theorem recovery_session_answerable :
    ∃ plan session, (Sequential.run (serve zeroServices resolveFlowBySlug) .empty
        recoveryCalls).get? 7 = some (plan, session) ∧ session.currentStageIndex = 1 ∧
      Answerable plan session := by
  have hrun : ∃ plan session, (Sequential.run (serve zeroServices resolveFlowBySlug) .empty
      recoveryCalls).get? 7 = some (plan, session) ∧ session.currentStageIndex = 1 :=
    ⟨_, _, rfl, rfl⟩
  obtain ⟨plan, session, hget, hindex⟩ := hrun
  refine ⟨plan, session, hget, hindex, ?_⟩
  exact (sessions_answerable_iff zeroServices resolveFlowBySlug ⟨"7", 7, rfl⟩).mpr
    (fun _ _ _ _ => not_repeatsLastFactor_resolveFlowBySlug) recoveryCalls 7 plan session hget

def twoFactors : Resolver := fun flowId slug =>
  some (⟨flowId, slug⟩,
    [⟨.authenticatorValidate [.totp], 10⟩, ⟨.authenticatorValidate [.webAuthn], 20⟩])

theorem session_without_stage :
    ∃ plan session, (Sequential.run (serve zeroServices twoFactors) .empty
        [.start ⟨some "login", 0, 6, 7⟩,
          .respond ⟨some "7", some (.authenticatorValidate .totp "000000"), none, 1, 1⟩]).get? 7 =
        some (plan, session) ∧
      session.status = .inProgress ∧ (currentChallenge plan session).1 = .error .noMoreStages ∧
      ¬Answerable plan session := by
  refine ⟨_, _, rfl, rfl, rfl, ?_⟩
  rintro (h | ⟨challenge, h⟩)
  · cases h
  · cases h

end Flow
end Pasion

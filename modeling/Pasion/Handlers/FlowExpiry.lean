import Pasion.Handlers.FlowProgress

/-! What becomes of a flow session once it has expired. -/
namespace Pasion.Flow

open Relational FlowStages FlowExecutor

variable {x : Services} {resolve : Resolver} {plan : FlowPlan} {session : FlowSession}
  {store : FlowStore} {id : Ulid}

/-- What a call may not do to a session that has expired. -/
def Untouched (session session' : FlowSession) : Prop :=
  session'.currentStageIndex = session.currentStageIndex ∧ session'.context = session.context ∧
    (session'.status = .completed → session.status = .completed)

/-- The session is over, or it has no stage left. -/
def Settled (plan : FlowPlan) (session : FlowSession) : Prop :=
  session.status.isTerminal ∨ plan.stages.length ≤ session.currentStageIndex

/-- A call about a session that is there, and when it is made. -/
structure TimedCall where
  time : Time
  call : Call
  isAccess : ∀ req, call ≠ .start req

def addressed (x : Services) : Call → Option Ulid
  | .start _ => none
  | .get id => (parseFlowSessionId x id).toOption
  | .respond req => (parseFlowSessionId x req.id).toOption

def serveTimed (x : Services) (resolve : Resolver) (store : FlowStore) (c : TimedCall) : FlowStore :=
  serve x resolve store c.call

/-- No call at or after the end of a session touches it. -/
def KeepsExpired (x : Services) (resolve : Resolver) (store : FlowStore) (c : TimedCall) : Prop :=
  ∀ id plan session session', store.get? id = some (plan, session) →
    (serveTimed x resolve store c).get? id = some (plan, session') →
    session.expiresAt ≤ c.time → Untouched session session'

/-- A call at or after the end of the session it is about finds it settled. -/
def FindsSettled (x : Services) (store : FlowStore) (c : TimedCall) : Prop :=
  ∀ id plan session, addressed x c.call = some id → store.get? id = some (plan, session) →
    session.expiresAt ≤ c.time → Settled plan session

/-- A call changes at most the session it is about. -/
theorem serve_access {call : Call} (hcall : ∀ req, call ≠ .start req) :
    serve x resolve store call = store ∨ ∃ id plan session session', addressed x call = some id ∧
      store.get? id = some (plan, session) ∧
      serve x resolve store call = store.insert id (plan, session') ∧
      (session' = (getSession plan session).2 ∨
        ∃ req response, session' = (respondSession req response plan session).2) := by
  cases call with
  | start req => exact absurd rfl (hcall req)
  | get text =>
    simp only [serve, handle, getFlowSession, addressed]
    cases parseFlowSessionId x text with
    | error e => exact .inl rfl
    | ok id =>
      cases hget : store.get? id with
      | none => exact .inl (by simp [hget])
      | some entry =>
        exact .inr ⟨id, entry.1, entry.2, _, rfl, hget, by simp [hget], .inl rfl⟩
  | respond req =>
    simp only [serve, handle, respondFlow, addressed]
    cases parseFlowSessionId x req.id with
    | error e => exact .inl rfl
    | ok id =>
      cases hbody : req.body with
      | none => exact .inl rfl
      | some response =>
        cases hget : store.get? id with
        | none => exact .inl (by simp [hget])
        | some entry =>
          exact .inr ⟨id, entry.1, entry.2, _, rfl, hget, by simp [hget], .inr ⟨req, response, rfl⟩⟩

theorem Settled.getSession (h : Settled plan session) : (getSession plan session).2 = session := by
  unfold Flow.getSession
  split_ifs with hterm
  · rfl
  · have hdrop := List.drop_of_length_le (h.resolve_left hterm)
    rw [withChallenge_snd]
    simp only [currentChallenge, hterm, Bool.false_eq_true, if_false, hdrop, skipSatisfied]
    split <;> rfl

theorem Settled.respondSession (h : Settled plan session) (req : RespondRequest)
    (response : StageResponse) : (respondSession req response plan session).2 = session := by
  rcases respondSession_cases req response plan session with
    ⟨hsame, -⟩ | ⟨binding, outcome, context, hstatus, hbinding, -⟩
  · exact hsame
  · rcases h with hterm | hlength
    · rw [hstatus] at hterm
      cases hterm
    · rw [List.getElem?_eq_none hlength] at hbinding
      cases hbinding

theorem untouched_of_settled {c : TimedCall} {session' : FlowSession}
    (h : addressed x c.call = some id → Settled plan session)
    (hget : store.get? id = some (plan, session))
    (hget' : (serveTimed x resolve store c).get? id = some (plan, session')) :
    Untouched session session' := by
  have hsame : session' = session := by
    unfold serveTimed at hget'
    rcases (serve_access c.isAccess : serve x resolve store c.call = store ∨ _) with
      hsame | ⟨id₁, plan₁, session₁, session₁', haddressed, hget₁, hserve, hchange⟩
    · rw [hsame, hget] at hget'
      exact (Prod.mk.inj (Option.some.inj hget')).2.symm
    · rw [hserve, Table.get?_insert] at hget'
      split_ifs at hget' with hid
      · subst hid
        obtain ⟨rfl, rfl⟩ := Prod.mk.inj (Option.some.inj (hget₁.symm.trans hget))
        obtain ⟨-, rfl⟩ := Prod.mk.inj (Option.some.inj hget')
        rcases hchange with rfl | ⟨req, response, rfl⟩
        · exact (h haddressed).getSession
        · exact (h haddressed).respondSession req response
      · rw [hget] at hget'
        exact (Prod.mk.inj (Option.some.inj hget')).2.symm
  subst hsame
  exact ⟨rfl, rfl, fun hstatus => hstatus⟩

/-- An unsettled session goes on with the answer that its stage takes, whatever the time. -/
theorem settled_of_untouched {text : String} (htext : x.parseUlid text = .ok id)
    (hget : store.get? id = some (plan, session))
    (h : ∀ c : TimedCall, session.expiresAt ≤ c.time → ∀ session',
      (serveTimed x resolve store c).get? id = some (plan, session') →
        Untouched session session') : Settled plan session := by
  by_contra hopen
  obtain ⟨hterm, hlt⟩ := not_or.mp hopen
  have hstatus := isTerminal_eq_false.mp (Bool.eq_false_iff.mpr hterm)
  obtain ⟨binding, hbinding⟩ : ∃ binding,
      plan.stages[session.currentStageIndex]? = some binding :=
    ⟨_, List.getElem?_eq_getElem (Nat.not_le.mp hlt)⟩
  let req := acceptedRequest text session.expiresAt binding.stage
  have hserve : (serveTimed x resolve store ⟨session.expiresAt, .respond req, by nofun⟩).get? id =
        some (plan, (respondSession req (accepted binding.stage) plan session).2) := by
    unfold serveTimed
    rw [serve_accepted htext hget, Table.get?_insert, if_pos rfl]
  obtain ⟨hindex, -, hcompleted⟩ := h _ le_rfl _ hserve
  obtain ⟨context, -, hdone | ⟨-, hres⟩⟩ :=
    respondSession_accepted text session.expiresAt hstatus hbinding
  · rw [hcompleted hdone.1] at hstatus
    cases hstatus
  · obtain ⟨index, heq, hle, -⟩ := currentChallenge_snd plan { session with
      context, updatedAt := session.expiresAt
      currentStageIndex := session.currentStageIndex + 1 }
    rw [hres, heq] at hindex
    dsimp only at hle hindex
    omega

/-- A run leaves expired sessions alone if it finds them settled, and no others stay alone. -/
theorem expired_sessions_untouched (x : Services) (resolve : Resolver) (store : FlowStore) :
    (∀ calls, Sequential.Along (serveTimed x resolve) (FindsSettled x) store calls →
      Sequential.Along (serveTimed x resolve) (KeepsExpired x resolve) store calls) ∧
    ∀ id plan session, (∃ text, x.parseUlid text = .ok id) → store.get? id = some (plan, session) →
      ((∀ c : TimedCall, session.expiresAt ≤ c.time → ∀ session',
        (serveTimed x resolve store c).get? id = some (plan, session') →
          Untouched session session') ↔ Settled plan session) := by
  refine ⟨fun calls h => ?_, fun id plan session hnamed hget => ⟨fun h => ?_, fun h c hlate => ?_⟩⟩
  · refine h.of_invariant (I := fun _ => True) (fun _ _ _ _ => trivial)
      (fun store c _ hfinds id plan session session' hget hget' hlate => ?_) trivial
    exact untouched_of_settled (fun haddressed => hfinds id plan session haddressed hget hlate)
      hget hget'
  · obtain ⟨text, htext⟩ := hnamed
    exact settled_of_untouched htext hget h
  · exact fun session' hget' => untouched_of_settled (fun _ => h) hget hget'

def oneSession : FlowStore :=
  serve zeroServices resolveFlowBySlug .empty (.start ⟨some "default-authorization", 0, 6, 7⟩)

def lateConsent : TimedCall :=
  ⟨2 * oneHour, .respond ⟨some "7", some (.consent true), none, 2 * oneHour, 2 * oneHour⟩, by nofun⟩

/-- An answer an hour after the end completes the session. -/
theorem late_answer_completes : ∃ plan session session', oneSession.get? 7 = some (plan, session) ∧
      session.status = .inProgress ∧ session.expiresAt ≤ lateConsent.time ∧
      (serveTimed zeroServices resolveFlowBySlug oneSession lateConsent).get? 7 =
        some (plan, session') ∧
      session'.status = .completed ∧
      ¬KeepsExpired zeroServices resolveFlowBySlug oneSession lateConsent := by
  have hlate : ∃ plan session session', oneSession.get? 7 = some (plan, session) ∧
      session.status = .inProgress ∧ session.expiresAt = oneHour ∧
      (serveTimed zeroServices resolveFlowBySlug oneSession lateConsent).get? 7 =
        some (plan, session') ∧ session'.status = .completed := ⟨_, _, _, rfl, rfl, rfl, rfl, rfl⟩
  obtain ⟨plan, session, session', hget, hstatus, hexpires, hget', hdone⟩ := hlate
  have htime : session.expiresAt ≤ lateConsent.time := by
    rw [hexpires]
    decide
  refine ⟨plan, session, session', hget, hstatus, htime, hget', hdone, fun h => ?_⟩
  have hcompleted := (h 7 plan session session' hget hget' htime).2.2 hdone
  rw [hstatus] at hcompleted
  cases hcompleted

theorem completed_session_untouched :
    ∃ plan session, ((serve zeroServices resolveFlowBySlug oneSession
        (.respond ⟨some "7", some (.consent true), none, 1, 1⟩)).get? 7 = some (plan, session)) ∧
      ∀ session', (serveTimed zeroServices resolveFlowBySlug (serve zeroServices resolveFlowBySlug
        oneSession (.respond ⟨some "7", some (.consent true), none, 1, 1⟩)) lateConsent).get? 7 =
          some (plan, session') → Untouched session session' := by
  have hdone : ∃ plan session, ((serve zeroServices resolveFlowBySlug oneSession
      (.respond ⟨some "7", some (.consent true), none, 1, 1⟩)).get? 7 = some (plan, session)) ∧
      session.status = .completed ∧ session.expiresAt = oneHour := ⟨_, _, rfl, rfl, rfl⟩
  obtain ⟨plan, session, hget, hstatus, hexpires⟩ := hdone
  refine ⟨plan, session, hget, ?_⟩
  refine ((expired_sessions_untouched zeroServices resolveFlowBySlug _).2 7 plan session
    ⟨"7", rfl⟩ hget).mpr (.inl (by rw [hstatus]; rfl)) lateConsent ?_
  rw [hexpires]
  decide

end Pasion.Flow

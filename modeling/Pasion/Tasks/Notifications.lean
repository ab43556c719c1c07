import Pasion.Handlers.EmailWebhook
import Pasion.Pg.Registration
import Pasion.Relational.Sequential

/-! Deliveries of notifications: one is reserved, handed to a provider, and planned again when the
provider fails. -/
namespace Pasion.NotificationDeliveries

open Relational Table
open EmailWebhook (NotificationDelivery NotificationDeliveryFailure Error)

inductive NotificationRequestSource where
  | userEmailAuthentication (userEmailAuthenticationId : Ulid)
  | userPhoneAuthentication (userPhoneAuthenticationId : Ulid)
  | userRecoverySession (userRecoverySessionId : Ulid)

inductive NotificationDestination where
  | email (email : String)
  | sms (phoneNumber : String)

/-- The payload is JSON. The status, which no delivery depends on, is left out. -/
structure Request (J : Type) where
  templateKey : String
  source : NotificationRequestSource
  payload : J
  createdAt : Time

structure Delivery extends NotificationDelivery where
  destination : NotificationDestination
  attemptCount : ℕ
  createdAt : Time
  reservedAt : Option Time

abbrev Deliveries := Table Ulid Delivery

inductive OutboundRequest where
  | emailVerification (username : Option String) (address : String)
    (code : UserEmailAuthenticationCode) (browserSession : Option BrowserSession)
    (registration : Option UserRegistration) (language : String)
  | smsVerificationCode (phoneNumber code language : String)
  | emailRecovery (address : String) (user : User) (session : UserRecoverySession)
    (url language : String)

inductive PreparedDelivery where
  | ready (outbound : OutboundRequest)
  | cancelled

/-- The readers of payloads, addresses and locales, and the texts of links and errors. -/
structure Libraries (J : Type) where
  verificationPayload : J → Option (String × String)
  recoveryPayload : J → Option (Ulid × String)
  (parseAddress parseLocale : String → Except String String)
  accountRecoveryLink : String → String
  databaseError : DatabaseError → String

def templateEmailVerification : String := "email_verification"

def templateSmsVerification : String := "sms_verification_code"

def templateEmailRecovery : String := "email_recovery"

variable {J : Type}

def Request.isVerification (request : Request J) : Bool :=
  request.templateKey = templateEmailVerification || request.templateKey = templateSmsVerification

def seconds (n : ℕ) : Time := n * 1000000

section Repository

def reservable (now : Time) (d : Delivery) : Bool :=
  d.status = .pending || d.status = .failed && d.nextRetryAt.any (· ≤ now)

/-- `reserve_deliveries` with a limit of one. -/
def reserveDelivery (now : Time) (t : Deliveries) : Option (Ulid × Delivery) :=
  (orderLimit (fun r => r.2.nextRetryAt.getD r.2.createdAt) Prod.fst 1
    (t.select (fun _ d => reservable now d))).head?.map
      (fun r => (r.1, { r.2 with
        status := .reserved, reservedAt := some now, attemptCount := r.2.attemptCount + 1 }))

def markDeliverySending (now : Time) (d : Delivery) : Delivery := { d with
  status := .sending
  sentAt := some (d.sentAt.getD now)
  lastFailure := none
  failedAt := none
  nextRetryAt := none }

def markDeliveryDelivered (now : Time) (d : Delivery) (providerMessageId : Option String) :
    Delivery :=
  { d with toNotificationDelivery :=
      EmailWebhook.markDeliveryDelivered now d.toNotificationDelivery providerMessageId }

def markDeliveryFailed (now : Time) (d : Delivery) (failure : NotificationDeliveryFailure)
    (nextRetryAt : Option Time) : Delivery :=
  { d with toNotificationDelivery :=
      EmailWebhook.markDeliveryFailed now d.toNotificationDelivery failure none nextRetryAt }

def cancelDelivery (now : Time) (d : Delivery) : Delivery := { d with
  status := .cancelled
  failedAt := some now
  nextRetryAt := none }

/-- The constraints are those of the table that the callbacks of the providers write. -/
def persistDelivery (id : Ulid) (d : Delivery) (t : Deliveries) : Except Error Deliveries := do
  let _ ← EmailWebhook.persistDelivery id d.toNotificationDelivery
    ⟨.empty, t.mapRows (fun _ d => d.toNotificationDelivery), []⟩
  pure (t.insert id d)

end Repository

section Jobs

def prepareEmailVerification (lib : Libraries J) (payload : String × String) (d : Delivery)
    (auth : UserEmailAuthentication) : Repo String PreparedDelivery := do
  let browserSession ← auth.userSessionId.mapM (fun id => do
    Txn.ofOption (← BrowserSessionRepository.lookup id) "Failed to load browser session")
  let registration ← auth.userRegistrationId.mapM (fun id => do
    Txn.ofOption (← (UserRegistrationRepository.lookup id).mapError lib.databaseError)
      "Failed to load registration")
  let username := (registration.map (·.username)).or (browserSession.map (·.user.username))
  let code ← Txn.ofOption (← UserEmailRepository.findAuthenticationCode auth payload.1)
    "User email authentication code not found"
  match d.destination with
  | .email email =>
    let address ← Txn.ofExcept (lib.parseAddress email) id
    let language ← Txn.ofExcept (lib.parseLocale payload.2) id
    pure (.ready (.emailVerification username address code browserSession registration language))
  | .sms _ => Txn.rollback "Email verification delivery is not an email destination"

def prepareRecovery (lib : Libraries J) (payload : Ulid × String) (d : Delivery)
    (session : UserRecoverySession) : Repo String PreparedDelivery := do
  let user ← Txn.ofOption (← UserRepository.lookup payload.1) "Recovery email user not found"
  let language ← Txn.ofExcept (lib.parseLocale session.locale) id
  match d.destination with
  | .email email =>
    let address ← Txn.ofExcept (lib.parseAddress email) id
    pure (.ready (.emailRecovery address user session (lib.accountRecoveryLink payload.2) language))
  | .sms _ => Txn.rollback "Recovery delivery is not an email destination"

def prepareDelivery (lib : Libraries J) (request : Request J) (d : Delivery) :
    Repo String PreparedDelivery := do
  let unreadable := "Failed to deserialize payload for notification request " ++
    Ulid.toString d.notificationRequestId
  if request.templateKey = templateEmailVerification then
    let payload ← Txn.ofOption (lib.verificationPayload request.payload) unreadable
    match request.source with
    | .userEmailAuthentication id =>
      let auth ← Txn.ofOption (← UserEmailRepository.lookupAuthentication id)
        "User email authentication not found"
      if auth.completedAt.isSome then pure .cancelled
      else prepareEmailVerification lib payload d auth
    | _ => Txn.rollback "Notification source does not match email verification payload"
  else if request.templateKey = templateSmsVerification then
    let payload ← Txn.ofOption (lib.verificationPayload request.payload) unreadable
    match request.source with
    | .userPhoneAuthentication id =>
      let auth ← Txn.ofOption (← UserPhoneRepository.lookupAuthentication id)
        "User phone authentication not found"
      if auth.completedAt.isSome then pure .cancelled
      else
        match d.destination with
        | .sms phoneNumber => pure (.ready (.smsVerificationCode phoneNumber payload.1 payload.2))
        | .email _ => Txn.rollback "SMS verification delivery is not an SMS destination"
    | _ => Txn.rollback "Notification source does not match SMS verification payload"
  else if request.templateKey = templateEmailRecovery then
    let payload ← Txn.ofOption (lib.recoveryPayload request.payload) unreadable
    match request.source with
    | .userRecoverySession id =>
      let session ← Txn.ofOption (← UserRecoveryRepository.lookupSession id)
        "User recovery session not found"
      if session.consumedAt.isSome then pure .cancelled
      else prepareRecovery lib payload d session
    | _ => Txn.rollback "Notification source does not match recovery payload"
  else Txn.rollback ("Unsupported notification template key: " ++ request.templateKey)

/-- The retry rule reads the wall clock and not the clock of the job. -/
def nextRetryDelay (utcNow : Time) (request : Request J) (attemptCount : ℕ)
    (failure : NotificationDeliveryFailure) : Option Time := do
  guard failure.retryable
  let delay ← match attemptCount with
    | 1 => some (seconds 30)
    | 2 => some (seconds 120)
    | 3 => if request.templateKey = templateEmailRecovery then some (seconds 600) else none
    | _ => none
  guard (!(request.isVerification && request.createdAt + seconds 300 ≤ utcNow + delay))
  pure delay

/-- What a call of the job meets: the clock each time that it is read or a provider is called, the
wall clock, the other tables and the answers of the providers. -/
structure Call where
  (now sendingAt dispatchedAt plannedAt settledAt utcNow : Time)
  db : Database
  dispatch : OutboundRequest → Except NotificationDeliveryFailure (Option String)

def completeDeliveryWithFailure (call : Call) (request : Request J) (id : Ulid) (d : Delivery)
    (failure : NotificationDeliveryFailure) : Deliveries → Except Error Deliveries :=
  persistDelivery id (markDeliveryFailed call.settledAt d failure
    ((nextRetryDelay call.utcNow request d.attemptCount failure).map (call.plannedAt + ·)))

structure Dispatch (J : Type) where
  deliveryId : Ulid
  request : Request J
  outbound : OutboundRequest

/-- What was handed to a provider, which a rollback does not undo, and the deliveries committed. -/
def processSingleDelivery (lib : Libraries J) (requests : Table Ulid (Request J)) (call : Call)
    (t : Deliveries) : Option (Dispatch J) × Except Error Deliveries :=
  match reserveDelivery call.now t with
  | none => (none, .ok t)
  | some (id, d) =>
    match requests.get? d.notificationRequestId with
    | none => (none, .error (.requestNotFound d.notificationRequestId id))
    | some request =>
      match ((prepareDelivery lib request d).exec call.db).1 with
      | .committed .cancelled => (none, persistDelivery id (cancelDelivery call.settledAt d) t)
      | .committed (.ready outbound) =>
        let d := markDeliverySending call.sendingAt d
        match persistDelivery id d t with
        | .error e => (none, .error e)
        | .ok t => (some ⟨id, request, outbound⟩,
            match call.dispatch outbound with
            | .ok messageId => persistDelivery id (markDeliveryDelivered call.settledAt d messageId) t
            | .error failure => completeDeliveryWithFailure call request id d failure t)
      | .rolledBack message | .committedError message =>
        (none, completeDeliveryWithFailure call request id d
          ⟨some "notification_prepare_failed", some message, false⟩ t)

end Jobs

section Runs

variable (lib : Libraries J) (requests : Table Ulid (Request J))

def step (t : Deliveries) (call : Call) : Deliveries :=
  match (processSingleDelivery lib requests call t).2 with
  | .ok t => t
  | .error _ => t

def commits (t : Deliveries) (call : Call) : Bool :=
  (processSingleDelivery lib requests call t).2.toOption.isSome

def reserves (id : Ulid) (t : Deliveries) (call : Call) : Bool :=
  (reserveDelivery call.now t).any (·.1 = id)

def dispatches (id : Ulid) (t : Deliveries) (call : Call) : Bool :=
  (processSingleDelivery lib requests call t).1.any (·.deliveryId = id)

/-- The calls of a run of which `p` holds where they are made. -/
def count (p : Deliveries → Call → Bool) : Deliveries → List Call → ℕ
  | _, [] => 0
  | t, call :: rest => (p t call).toNat + count p (step lib requests t call) rest

def Delivery.waits (d : Delivery) : Bool :=
  d.status = .pending || d.status = .failed && d.nextRetryAt.isSome

/-- The call reserves the delivery and hands it to no provider. -/
def reservesOnly (id : Ulid) (t : Deliveries) (call : Call) : Bool :=
  reserves id t call && !dispatches lib requests id t call

def attempts (templateKey : String) : ℕ := if templateKey = templateEmailRecovery then 4 else 3

/-- How often the delivery may still be reserved. -/
def budget (id : Ulid) (t : Deliveries) : ℕ := (t.get? id).elim 0 fun d =>
    if d.waits then
      max 1 ((requests.get? d.notificationRequestId).elim 0 (attempts ·.templateKey) - d.attemptCount)
    else 0

/-- What a call leaves of the delivery `d` that it reserved. -/
structure Settles (request : Request J) (t : Deliveries) (id : Ulid) (d d' : Delivery)
    (t' : Deliveries) : Prop where
  deliveries : ∀ k, t'.get? k = if k = id then some d' else t.get? k
  attemptCount : d'.attemptCount = d.attemptCount
  requestId : d'.notificationRequestId = d.notificationRequestId
  waits : d'.waits → d.attemptCount < attempts request.templateKey

variable {lib requests} {t t' : Deliveries} {call : Call} {calls : List Call} {id : Ulid}
  {d : Delivery} {request : Request J} {now : Time} {failure : NotificationDeliveryFailure}

theorem persistDelivery_ok (h : persistDelivery id d t = .ok t') : t' = t.insert id d := by
  obtain ⟨_, -, hpure⟩ := Fallible.bind_eq_ok_iff.mp h
  cases hpure
  rfl

theorem lt_attempts_of_retry {utcNow : Time} {n : ℕ}
    (h : (nextRetryDelay utcNow request n failure).isSome) : n < attempts request.templateKey := by
  unfold nextRetryDelay at h
  unfold attempts
  match n with
  | 0 | 1 | 2 => split_ifs <;> omega
  | 3 =>
    split_ifs at h ⊢ with hrecovery
    · omega
    · simp at h
  | n + 4 => simp at h

/-- Only a failure that may be tried again leaves the delivery waiting. -/
theorem settles_of_failure (h : completeDeliveryWithFailure call request id d failure t = .ok t') :
    ∃ d', Settles request t id d d' t' ∧ (d'.waits → failure.retryable) := by
  cases persistDelivery_ok h
  have hretry : ∀ hwaits : (markDeliveryFailed call.settledAt d failure ((nextRetryDelay call.utcNow
      request d.attemptCount failure).map (call.plannedAt + ·))).waits,
      (nextRetryDelay call.utcNow request d.attemptCount failure).isSome := fun hwaits => by
    simpa [Delivery.waits, markDeliveryFailed, EmailWebhook.markDeliveryFailed] using hwaits
  refine ⟨_, ⟨fun k => get?_insert .., rfl, rfl, fun hwaits => lt_attempts_of_retry (hretry hwaits)⟩,
    fun hwaits => ?_⟩
  by_contra hterminal
  simpa [nextRetryDelay, hterminal] using hretry hwaits

/-- A delivery that is left waiting was handed to a provider. -/
theorem settles_of_commit (h : (processSingleDelivery lib requests call t).2 = .ok t')
    (hreserve : reserveDelivery call.now t = some (id, d))
    (hrequest : requests.get? d.notificationRequestId = some request) :
    ∃ d', Settles request t id d d' t' ∧ (d'.waits → dispatches lib requests id t call) := by
  simp only [dispatches, processSingleDelivery, hreserve, hrequest] at h ⊢
  split at h
  · cases persistDelivery_ok h
    have hdone : ¬(cancelDelivery call.settledAt d).waits := by simp [Delivery.waits, cancelDelivery]
    exact ⟨_, ⟨fun k => get?_insert .., rfl, rfl, (absurd · hdone)⟩, (absurd · hdone)⟩
  · split at h
    · cases h
    · rename_i t₁ hsending
      cases persistDelivery_ok hsending
      have ⟨d', hd', hcount, hrequestId, hwaits⟩ : ∃ d', Settles request
          (t.insert id (markDeliverySending call.sendingAt d)) id
          (markDeliverySending call.sendingAt d) d' t' := by
        dsimp only at h
        split at h
        · cases persistDelivery_ok h
          exact ⟨_, fun k => get?_insert .., rfl, rfl, by
            simp [Delivery.waits, markDeliveryDelivered, EmailWebhook.markDeliveryDelivered]⟩
        · obtain ⟨d', hsettles, -⟩ := settles_of_failure h
          exact ⟨d', hsettles⟩
      refine ⟨d', ⟨fun k => ?_, hcount, hrequestId, hwaits⟩, fun _ => ?_⟩
      · rw [hd', get?_insert]
        split_ifs <;> rfl
      · simp
  all_goals
    obtain ⟨d', hsettles, hretryable⟩ := settles_of_failure h
    exact ⟨d', hsettles, fun hwaits => absurd (hretryable hwaits) Bool.false_ne_true⟩

theorem waits_of_reservable (h : reservable now d) : d.waits := by
  simp only [reservable, Bool.or_eq_true, Bool.and_eq_true, decide_eq_true_eq] at h
  rcases h with hpending | ⟨hfailed, hdue⟩
  · simp [Delivery.waits, hpending]
  · cases hretry : d.nextRetryAt with
    | none => simp [hretry] at hdue
    | some at_ => simp [Delivery.waits, hfailed, hretry]

theorem of_reserveDelivery (h : reserveDelivery now t = some (id, d)) :
    ∃ d₀, t.get? id = some d₀ ∧ reservable now d₀ ∧ d.attemptCount = d₀.attemptCount + 1 ∧
      d.notificationRequestId = d₀.notificationRequestId := by
  obtain ⟨⟨_, d₀⟩, hhead, heq⟩ := Option.map_eq_some_iff.mp h
  obtain ⟨hd₀, hreservable⟩ := mem_select.mp (mem_of_mem_orderLimit (List.mem_of_mem_head? hhead))
  cases heq
  exact ⟨d₀, hd₀, hreservable, rfl, rfl⟩

theorem of_dispatch {dispatch : Dispatch J}
    (h : (processSingleDelivery lib requests call t).1 = some dispatch) :
    ∃ d, reserveDelivery call.now t = some (dispatch.deliveryId, d) ∧
      requests.get? d.notificationRequestId = some dispatch.request := by
  unfold processSingleDelivery at h
  split at h
  · cases h
  · split at h
    · cases h
    · split at h
      · cases h
      · dsimp only at h
        split at h
        · cases h
        · cases h
          exact ⟨_, ‹_›, ‹_›⟩
      · cases h
      · cases h

/-- A call that commits leaves the delivery as it is, or reserves and settles it. -/
theorem step_cases (id : Ulid) (h : commits lib requests t call) :
    (reserves id t call = false ∧ (step lib requests t call).get? id = t.get? id) ∨
    ∃ d₀ d d' request, reserves id t call = true ∧ t.get? id = some d₀ ∧ d₀.waits ∧
      d.attemptCount = d₀.attemptCount + 1 ∧ d.notificationRequestId = d₀.notificationRequestId ∧
      requests.get? d.notificationRequestId = some request ∧
      Settles request t id d d' (step lib requests t call) ∧
      (d'.waits → dispatches lib requests id t call) := by
  obtain ⟨t', hresult⟩ := Option.isSome_iff_exists.mp h
  have hok : (processSingleDelivery lib requests call t).2 = .ok t' := toOption_eq_some.mp hresult
  have hstep : step lib requests t call = t' := by rw [step, hok]
  rw [hstep]
  cases hreserve : reserveDelivery call.now t with
  | none =>
    have hsame : t' = t := by simpa [processSingleDelivery, hreserve, eq_comm] using hok
    exact .inl ⟨by simp [reserves, hreserve], by rw [hsame]⟩
  | some r =>
    obtain ⟨id', d⟩ := r
    obtain ⟨d₀, hd₀, hreservable, hcount, hrequestId⟩ := of_reserveDelivery hreserve
    cases hrequest : requests.get? d.notificationRequestId with
    | none => simp [processSingleDelivery, hreserve, hrequest] at hok
    | some request =>
      obtain ⟨d', hsettles, hdispatches⟩ := settles_of_commit hok hreserve hrequest
      by_cases hid : id' = id
      · subst hid
        exact .inr ⟨d₀, d, d', request, by simp [reserves, hreserve], hd₀,
          waits_of_reservable hreservable, hcount, hrequestId, hrequest, hsettles, hdispatches⟩
      · refine .inl ⟨by simp [reserves, hreserve, hid], ?_⟩
        rw [hsettles.deliveries, if_neg (Ne.symm hid)]

/-- Each reservation uses up one of those that are left. -/
theorem budget_step (id : Ulid) (h : commits lib requests t call) :
    budget requests id (step lib requests t call) + (reserves id t call).toNat ≤
      budget requests id t := by
  rcases step_cases id h with ⟨hreserves, hsame⟩ |
    ⟨d₀, d, d', request, hreserves, hd₀, hwaits, hcount, hrequestId, hrequest, hsettles, -⟩
  · rw [hreserves, budget, hsame]
    exact le_rfl
  · have hbefore : budget requests id t =
        max 1 (attempts request.templateKey - d₀.attemptCount) := by
      rw [budget, hd₀, Option.elim_some, if_pos hwaits, ← hrequestId, hrequest]
      rfl
    have hafter : budget requests id (step lib requests t call) =
        if d'.waits then max 1 (attempts request.templateKey - d'.attemptCount) else 0 := by
      rw [budget, hsettles.deliveries, if_pos rfl, Option.elim_some, hsettles.requestId, hrequest]
      rfl
    have hcount' := hsettles.attemptCount
    rw [hbefore, hafter, hreserves]
    split_ifs with hagain
    · have hlt := hsettles.waits hagain
      simp only [Bool.toNat_true]
      omega
    · simp

/-- The delivery still waits for a call. -/
def isOpen (id : Ulid) (t : Deliveries) : Bool := (t.get? id).any (·.waits)

/-- A reservation without a dispatch is the last one. -/
theorem isOpen_step (id : Ulid) (h : commits lib requests t call) :
    (isOpen id (step lib requests t call)).toNat + (reservesOnly lib requests id t call).toNat ≤
      (isOpen id t).toNat := by
  rcases step_cases id h with ⟨hreserves, hsame⟩ |
    ⟨d₀, d, d', request, hreserves, hd₀, hwaits, -, -, -, hsettles, hdispatches⟩
  · rw [isOpen, hsame, reservesOnly, hreserves]
    exact le_rfl
  · have hbefore : isOpen id t = true := by rw [isOpen, hd₀, Option.any_some, hwaits]
    have hafter : isOpen id (step lib requests t call) = d'.waits := by
      rw [isOpen, hsettles.deliveries, if_pos rfl, Option.any_some]
    rw [hbefore, hafter, reservesOnly, hreserves]
    cases hagain : d'.waits with
    | false => cases dispatches lib requests id t call <;> decide
    | true => rw [hdispatches hagain]; decide

theorem count_le_budget (id : Ulid)
    (h : Sequential.Along (step lib requests) (commits lib requests · ·) t calls) :
    count lib requests (reserves id) t calls ≤ budget requests id t := by
  induction calls generalizing t with
  | nil => exact Nat.zero_le _
  | cons call rest ih =>
    have hrest := ih h.2
    have hstep := budget_step id h.1
    unfold count
    omega

theorem count_reservesOnly_le (id : Ulid)
    (h : Sequential.Along (step lib requests) (commits lib requests · ·) t calls) :
    count lib requests (reservesOnly lib requests id) t calls ≤ (isOpen id t).toNat := by
  induction calls generalizing t with
  | nil => exact Nat.zero_le _
  | cons call rest ih =>
    have hrest := ih h.2
    have hstep := isOpen_step id h.1
    unfold count
    omega

theorem count_reserves_le (id : Ulid) (t : Deliveries) (calls : List Call) :
    count lib requests (reserves id) t calls ≤
      count lib requests (dispatches lib requests id) t calls +
        count lib requests (reservesOnly lib requests id) t calls := by
  induction calls generalizing t with
  | nil => exact le_rfl
  | cons call rest ih =>
    have hone : (reserves id t call).toNat ≤ (dispatches lib requests id t call).toNat +
        (reservesOnly lib requests id t call).toNat := by
      unfold reservesOnly
      cases reserves id t call <;> cases dispatches lib requests id t call <;> decide
    have hrest := ih (step lib requests t call)
    unfold count
    omega

theorem count_dispatches_le (id : Ulid) (t : Deliveries) (calls : List Call) :
    count lib requests (dispatches lib requests id) t calls ≤
      count lib requests (reserves id) t calls := by
  induction calls generalizing t with
  | nil => exact le_rfl
  | cons call rest ih =>
    refine Nat.add_le_add (Bool.toNat_le_toNat fun hdispatches => ?_) (ih _)
    obtain ⟨dispatch, hdispatch, hid⟩ := (Option.any_eq_true ..).mp hdispatches
    obtain ⟨d, hreserve, -⟩ := of_dispatch hdispatch
    simpa [reserves, hreserve] using hid

/-- A new delivery is dispatched, and even reserved, at most three times, or four times for a
recovery. Once no retry is planned it is not reserved again. It is reserved at most once without a
dispatch, so at most once after its last dispatch. -/
theorem dispatched_at_most
    (hcommits : Sequential.Along (step lib requests) (commits lib requests · ·) t calls)
    (hd : t.get? id = some d) (hnew : d.attemptCount = 0)
    (hrequest : requests.get? d.notificationRequestId = some request) :
    count lib requests (dispatches lib requests id) t calls ≤ attempts request.templateKey ∧
      count lib requests (reserves id) t calls ≤ attempts request.templateKey ∧
      (∀ before call after, calls = before ++ call :: after →
        let t' := step lib requests (Sequential.run (step lib requests) t before) call
        (t'.get? id).all (!·.waits) → count lib requests (reserves id) t' after = 0) ∧
      count lib requests (reservesOnly lib requests id) t calls ≤ 1 ∧
      ∀ before after, calls = before ++ after →
        let t' := Sequential.run (step lib requests) t before
        count lib requests (dispatches lib requests id) t' after = 0 →
          count lib requests (reserves id) t' after ≤ 1 := by
  have hbudget : budget requests id t ≤ attempts request.templateKey := by
    rw [budget, hd, Option.elim_some, hrequest, Option.elim_some, hnew]
    unfold attempts
    split_ifs <;> decide
  have hreserves := (count_le_budget id hcommits).trans hbudget
  have hone := (count_reservesOnly_le id hcommits).trans (Bool.toNat_le _)
  refine ⟨(count_dispatches_le id t calls).trans hreserves, hreserves, ?_, hone, ?_⟩
  · rintro before call after rfl t' hdone
    have hnone : budget requests id t' = 0 := by
      unfold budget
      cases hd' : t'.get? id with
      | none => rfl
      | some d' =>
        rw [hd', Option.all_some, Bool.not_eq_true'] at hdone
        simp [hdone]
    exact Nat.le_zero.mp (hnone ▸ count_le_budget id hcommits.of_append.2)
  · rintro before after rfl t' hlast
    have hafter := (count_reservesOnly_le id hcommits.of_append).trans (Bool.toNat_le (isOpen id t'))
    exact (count_reserves_le id t' after).trans (Nat.add_le_add hlast.le hafter)

def inTime (now : Time) (request : Request J) : Bool :=
  !request.isVerification || decide (now < request.createdAt + seconds 300)

/-- The provider is called within `latency` of the reservation, and no code that is due comes so close
to the age of five minutes. -/
def keepsUp (latency : Duration) (requests : Table Ulid (Request J)) (t : Deliveries) (call : Call) :
    Bool :=
  decide (call.dispatchedAt ≤ call.now + latency) &&
    (t.select (fun _ d => reservable call.now d)).all (fun r =>
      (requests.get? r.2.notificationRequestId).all (inTime (call.now + latency)))

theorem inTime_of_le {now' : Time} (h : inTime now' request) (hle : now ≤ now') :
    inTime now request := by
  simp only [inTime, Bool.or_eq_true, decide_eq_true_eq] at h ⊢
  exact h.imp_right hle.trans_lt

/-- Where the calls keep up with the codes that are due, none is handed to a provider too late. Nothing
else looks at the age of a code that is sent. -/
theorem codes_sent_in_time (latency : Duration) (t : Deliveries) (calls : List Call)
    (h : Sequential.Along (step lib requests) (keepsUp latency requests · ·) t calls) :
    Sequential.Along (step lib requests) (fun t call => ∀ dispatch ∈
      (processSingleDelivery lib requests call t).1, inTime call.dispatchedAt dispatch.request)
      t calls := by
  refine h.of_invariant (I := fun _ => True) (fun _ _ _ _ => trivial) ?_ trivial
  intro t call _ hkeeps dispatch hdispatch
  obtain ⟨d, hreserve, hrequest⟩ := of_dispatch hdispatch
  obtain ⟨d₀, hd₀, hreservable, -, hrequestId⟩ := of_reserveDelivery hreserve
  obtain ⟨hlatency, hdue⟩ := (Bool.and_eq_true _ _).mp hkeeps
  have hyoung := List.all_eq_true.mp hdue _ (mem_select.mpr ⟨hd₀, hreservable⟩)
  rw [← hrequestId, hrequest, Option.all_some] at hyoung
  exact inTime_of_le hyoung (of_decide_eq_true hlatency)

def plainLibraries : Libraries (String × String) :=
  ⟨some, fun _ => none, .ok, .ok, fun link => link, fun _ => ""⟩

def codeRequest : Table Ulid (Request (String × String)) := Table.empty.insert 1
  ⟨"sms_verification_code", .userPhoneAuthentication 2, ("123456", "en"), 0⟩

def newDelivery : Deliveries := Table.empty.insert 3
  ⟨⟨1, none, none, .pending, none, none, none, none, none⟩, .sms "+1", 0, 0, none⟩

/-- The provider is called one second after the reservation. -/
def callAt (now : Time) (completedAt : Option Time)
    (answer : Except NotificationDeliveryFailure (Option String)) : Call :=
  ⟨now, now, now + seconds 1, now + seconds 2, now + seconds 2, now + seconds 2,
    { Database.empty with
      userPhoneAuthentications := Table.empty.insert 2 ⟨"+1", 0, completedAt, none⟩ }, fun _ => answer⟩

/-- The provider fails once, and the code is entered before the retry. -/
def failsOnce : List Call :=
  [callAt 0 none (.error ⟨none, none, true⟩), callAt (seconds 40) (some 1) (.ok none)]

theorem failsOnce_commits : Sequential.Along (step plainLibraries codeRequest)
    (commits plainLibraries codeRequest · ·) newDelivery failsOnce := by
  decide +kernel

theorem failsOnce_bounded :
    count plainLibraries codeRequest (dispatches plainLibraries codeRequest 3) newDelivery
      failsOnce ≤ 3 ∧
    count plainLibraries codeRequest (reservesOnly plainLibraries codeRequest 3) newDelivery
      failsOnce ≤ 1 :=
  have hbounds := @dispatched_at_most _ _ _ _ _ 3 _ _ failsOnce_commits rfl rfl rfl
  ⟨hbounds.1, hbounds.2.2.2.1⟩

/-- The retry is planned, reserved and then cancelled without a dispatch. -/
theorem reserved_after_last_dispatch :
    Sequential.Along (step plainLibraries codeRequest) (commits plainLibraries codeRequest · ·)
      newDelivery failsOnce ∧
    failsOnce.head?.all (dispatches plainLibraries codeRequest 3 newDelivery) ∧
    count plainLibraries codeRequest (dispatches plainLibraries codeRequest 3) newDelivery
      failsOnce = 1 ∧ count plainLibraries codeRequest (reserves 3) newDelivery failsOnce = 2 :=
  ⟨failsOnce_commits, by decide +kernel⟩

theorem failsOnce_in_time : Sequential.Along (step plainLibraries codeRequest) (fun t call =>
    ∀ dispatch ∈ (processSingleDelivery plainLibraries codeRequest call t).1,
      inTime call.dispatchedAt dispatch.request) newDelivery failsOnce :=
  codes_sent_in_time (seconds 1) newDelivery failsOnce (by decide +kernel)

/-- The first attempt is made after five minutes, or the code grows too old after its reservation. -/
theorem code_sent_late :
    [callAt (seconds 300) none (.ok none), callAt (seconds 299) none (.ok none)].all (fun call =>
      (processSingleDelivery plainLibraries codeRequest call newDelivery).1.any
        (fun dispatch => !inTime call.dispatchedAt dispatch.request)) := by
  decide +kernel

end Runs

end Pasion.NotificationDeliveries

import Pasion.Data.Basic
import Pasion.Relational.References

/-! Callbacks of email providers, which settle the deliveries of a notification request. -/
namespace Pasion.EmailWebhook

open Relational

inductive NotificationRequestStatus where
  | pending
  | processing
  | succeeded
  | failed
  | cancelled
  deriving DecidableEq

inductive NotificationDeliveryStatus where
  | pending
  | reserved
  | sending
  | delivered
  | failed
  | cancelled
  deriving DecidableEq

def NotificationDeliveryStatus.isTerminal : NotificationDeliveryStatus → Bool
  | delivered | failed | cancelled => true
  | _ => false

structure NotificationDeliveryFailure where
  (code message : Option String)
  retryable : Bool
  deriving DecidableEq

structure NotificationRequest where
  status : NotificationRequestStatus
  (startedAt completedAt cancelledAt : Option Time)

structure NotificationDelivery where
  notificationRequestId : Ulid
  (providerBindingKey providerMessageId : Option String)
  status : NotificationDeliveryStatus
  lastFailure : Option NotificationDeliveryFailure
  (sentAt deliveredAt failedAt nextRetryAt : Option Time)
  deriving DecidableEq

inductive NotificationEventKind where
  | deliveryDelivered
  | deliveryFailed
  | requestCompleted
  | requestFailed

structure NotificationEventLog where
  notificationRequestId : Ulid
  notificationDeliveryId : Option Ulid
  kind : NotificationEventKind
  summary : String
  occurredAt : Time

/-- The tables of the notification subsystem; of the event log, the entries in order. -/
structure Notifications where
  requests : Table Ulid NotificationRequest
  deliveries : Table Ulid NotificationDelivery
  eventLogs : List NotificationEventLog

inductive DeliveryLookup where
  | deliveryId (id : Ulid)
  | providerMessageId (providerMessageId : String)
  deriving DecidableEq

inductive DeliveryTerminalStatus where
  | delivered
  | failed (failure : NotificationDeliveryFailure)

structure DeliveryUpdate where
  lookup : DeliveryLookup
  providerMessageId : Option String
  eventKind : NotificationEventKind
  eventSummary : String
  status : DeliveryTerminalStatus

inductive Error where
  | requestNotFound (requestId deliveryId : Ulid)
  | rowsAffected (expected actual : ℕ)
  | uniqueViolation (index : String)

structure EmailWebhookProcessResult where
  (processed ignored : ℕ)

section Deliveries

def lookupDelivery (bindingKey : String) (s : Notifications) :
    DeliveryLookup → Option (Ulid × NotificationDelivery)
  | .deliveryId id => (s.deliveries.get? id).map (id, ·)
  | .providerMessageId providerMessageId => s.deliveries.find? (fun _ d =>
      d.providerBindingKey = some bindingKey && d.providerMessageId = some providerMessageId)

def shouldApplyDeliveryUpdate (currentStatus : NotificationDeliveryStatus)
    (currentFailure : Option NotificationDeliveryFailure) : DeliveryTerminalStatus → Bool
  | .delivered =>
    !(currentStatus = .delivered || currentStatus = .failed || currentStatus = .cancelled)
  | .failed failure => !(currentStatus = .failed && currentFailure = some failure)

def markDeliveryDelivered (now : Time) (d : NotificationDelivery)
    (providerMessageId : Option String) : NotificationDelivery := { d with
  status := .delivered
  sentAt := some (d.sentAt.getD now)
  deliveredAt := some now
  failedAt := none
  nextRetryAt := none
  lastFailure := none
  providerMessageId := providerMessageId.or d.providerMessageId }

def markDeliveryFailed (now : Time) (d : NotificationDelivery)
    (failure : NotificationDeliveryFailure) (providerMessageId : Option String)
    (nextRetryAt : Option Time) : NotificationDelivery := { d with
  status := .failed
  deliveredAt := none
  failedAt := some now
  lastFailure := some failure
  nextRetryAt := nextRetryAt
  providerMessageId := providerMessageId.or d.providerMessageId }

/-- A message id is unique among the deliveries of one provider. -/
def providerMessageTaken (id : Ulid) (d : NotificationDelivery) (s : Notifications) : Bool :=
  s.deliveries.any (fun id' d' => id' ≠ id && d.providerBindingKey.isSome &&
    d.providerMessageId.isSome && d'.providerBindingKey = d.providerBindingKey &&
    d'.providerMessageId = d.providerMessageId)

def persistDelivery (id : Ulid) (d : NotificationDelivery) (s : Notifications) :
    Except Error Notifications :=
  if !s.deliveries.contains id then .error (.rowsAffected 1 0)
  else if providerMessageTaken id d s then
    .error (.uniqueViolation "notification_deliveries_provider_message_lookup")
  else .ok { s with deliveries := s.deliveries.insert id d }

def DeliveryUpdate.mark (now : Time) (update : DeliveryUpdate) (d : NotificationDelivery) :
    NotificationDelivery :=
  match update.status with
  | .delivered => markDeliveryDelivered now d update.providerMessageId
  | .failed failure => markDeliveryFailed now d failure update.providerMessageId none

def applyDeliveryUpdate (now : Time) (id : Ulid) (d : NotificationDelivery)
    (update : DeliveryUpdate) (s : Notifications) :
    Except Error (Option NotificationDelivery × Notifications) :=
  if !shouldApplyDeliveryUpdate d.status d.lastFailure update.status then .ok (none, s)
  else do
    let s ← persistDelivery id (update.mark now d) s
    pure (some (update.mark now d), s)

end Deliveries

section Requests

def listDeliveries (requestId : Ulid) (s : Notifications) : List NotificationDelivery :=
  (s.deliveries.select (fun _ d => d.notificationRequestId = requestId)).map Prod.snd

def setRequestStatus (now : Time) (request : NotificationRequest) :
    NotificationRequestStatus → NotificationRequest
  | .pending =>
    { status := .pending, startedAt := none, completedAt := none, cancelledAt := none }
  | .processing =>
    { status := .processing, startedAt := some (request.startedAt.getD now), completedAt := none
      cancelledAt := none }
  | .failed =>
    { status := .failed, startedAt := some (request.startedAt.getD now), completedAt := none
      cancelledAt := none }
  | .succeeded =>
    { status := .succeeded, startedAt := some (request.startedAt.getD now)
      completedAt := some now, cancelledAt := none }
  | .cancelled => { request with status := .cancelled, cancelledAt := some now }

def nextStatus (deliveries : List NotificationDelivery) : NotificationRequestStatus :=
  if deliveries.any (fun d => !d.status.isTerminal) then .processing
  else if deliveries.any (fun d => d.status = .delivered) then .succeeded
  else .failed

def completionEvent (requestId : Ulid) (now : Time) :
    NotificationRequestStatus → List NotificationEventLog
  | .succeeded => [⟨requestId, none, .requestCompleted,
      "Notification request completed after provider callback", now⟩]
  | .failed => [⟨requestId, none, .requestFailed,
      "Notification request reached terminal failure after provider callback", now⟩]
  | _ => []

def reconcileRequestStatus (now : Time) (s : Notifications) (requestId : Ulid) : Notifications :=
  match s.requests.get? requestId with
  | none => s
  | some request =>
    if request.status = .cancelled then s
    else
      let next := nextStatus (listDeliveries requestId s)
      if next = request.status then s
      else { s with
        requests := s.requests.insert requestId (setRequestStatus now request next)
        eventLogs := s.eventLogs ++ completionEvent requestId now next }

end Requests

/-- The counts, the requests whose deliveries changed, and the data. -/
structure Progress where
  result : EmailWebhookProcessResult
  touchedRequests : Table Ulid Unit
  store : Notifications

def Progress.ignore (p : Progress) : Progress :=
  { p with result := { p.result with ignored := p.result.ignored + 1 } }

def processUpdate (bindingKey : String) (now : Time) (p : Progress) (update : DeliveryUpdate) :
    Except Error Progress :=
  match lookupDelivery bindingKey p.store update.lookup with
  | none => .ok p.ignore
  | some (id, d) =>
    if d.status = .cancelled then .ok p.ignore
    else if !p.store.requests.contains d.notificationRequestId then
      .error (.requestNotFound d.notificationRequestId id)
    else do
      let (changed, s) ← applyDeliveryUpdate now id d update p.store
      match changed with
      | none => pure p.ignore
      | some _ =>
        pure ⟨{ p.result with processed := p.result.processed + 1 },
          p.touchedRequests.insert d.notificationRequestId (),
          { s with eventLogs := s.eventLogs ++ [⟨d.notificationRequestId, some id,
            update.eventKind, update.eventSummary, now⟩] }⟩

/-- The updates of one callback, and the status of every request that they touched. -/
def process (bindingKey : String) (now : Time) (updates : List DeliveryUpdate)
    (s : Notifications) : Except Error (EmailWebhookProcessResult × Notifications) := do
  let p ← updates.foldlM (processUpdate bindingKey now) ⟨⟨0, 0⟩, .empty, s⟩
  pure (p.result, p.touchedRequests.keys.foldl (reconcileRequestStatus now) p.store)

/-- Callbacks one after the other, each with the time at which it arrives. -/
def processAll (bindingKey : String) (callbacks : List (Time × List DeliveryUpdate))
    (s : Notifications) : Except Error Notifications :=
  callbacks.foldlM (fun s callback => Prod.snd <$> process bindingKey callback.1 callback.2 s) s

end Pasion.EmailWebhook

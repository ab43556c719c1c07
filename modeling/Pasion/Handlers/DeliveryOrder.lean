import Mathlib.Data.List.Induction
import Pasion.Handlers.EmailWebhook

/-! What callbacks leave does not depend on their order or their number. -/
namespace Pasion.EmailWebhook

open Relational Table

def DeliveryTerminalStatus.isFailed : DeliveryTerminalStatus → Bool
  | failed _ => true
  | delivered => false

def DeliveryUpdate.effective (update : DeliveryUpdate) (d : NotificationDelivery) : Bool :=
  d.status ≠ .cancelled && shouldApplyDeliveryUpdate d.status d.lastFailure update.status

/-- Some update for the delivery reports a failure, or a delivery. -/
def reports (failed : Bool) (id : Ulid) (updates : List DeliveryUpdate) : Bool :=
  updates.any (fun u => u.lookup = .deliveryId id && u.status.isFailed = failed)

/-- A failure wins over a delivery, and a cancelled delivery stays so. -/
def settle (start : NotificationDeliveryStatus) (failed delivered : Bool) :
    NotificationDeliveryStatus :=
  if start = .cancelled then .cancelled
  else if failed then .failed
  else if delivered && !start.isTerminal then .delivered
  else start

/-- An invariant that knows the items done so far, along a loop in which no step fails. -/
theorem foldlM_reaches {σ α : Type} {step : σ → α → Except Error σ} {I : List α → σ → Prop}
    {items : List α} {s : σ} (h : I [] s)
    (hstep : ∀ done s a, I done s → done ++ [a] <+: items →
      ∃ s', step s a = .ok s' ∧ I (done ++ [a]) s') :
    ∃ s', items.foldlM step s = .ok s' ∧ I items s' := by
  induction items using List.reverseRec with
  | nil => exact ⟨s, rfl, h⟩
  | append_singleton done a ih =>
    obtain ⟨s₁, hs₁, hI⟩ := ih fun done s b hI hdone =>
      hstep done s b hI (hdone.trans (List.prefix_append ..))
    obtain ⟨s', hs', hend⟩ := hstep done s₁ a hI List.prefix_rfl
    refine ⟨s', ?_, hend⟩
    rw [List.foldlM_append, hs₁]
    exact (bind_pure _).trans hs'

section Delivery

structure Settled (updates : List DeliveryUpdate) (id : Ulid) (d₀ d : NotificationDelivery) :
    Prop where
  request : d.notificationRequestId = d₀.notificationRequestId
  bindingKey : d.providerBindingKey = d₀.providerBindingKey
  status : d.status = settle d₀.status (reports true id updates) (reports false id updates)
  same : (∀ u ∈ updates, u.lookup = .deliveryId id → u.effective d₀ = false) → d = d₀
  messageId : ∀ m, d.providerMessageId = some m → d₀.providerMessageId = some m ∨
    ∃ u ∈ updates, u.lookup = .deliveryId id ∧ u.providerMessageId = some m

variable {updates : List DeliveryUpdate} {id : Ulid} {d₀ d : NotificationDelivery}
  {u : DeliveryUpdate} {now : Time}

theorem Settled.refl (id : Ulid) (d : NotificationDelivery) : Settled [] id d d where
  request := rfl
  bindingKey := rfl
  status := by
    by_cases h : d.status = .cancelled <;> simp [settle, reports, h]
  same _ := rfl
  messageId _ h := .inl h

theorem reports_append_of_ne (failed : Bool) (h : u.lookup ≠ .deliveryId id) :
    reports failed id (updates ++ [u]) = reports failed id updates := by
  simp [reports, h]

theorem reports_append_of_eq (failed : Bool) (h : u.lookup = .deliveryId id) :
    reports failed id (updates ++ [u]) =
      (reports failed id updates || u.status.isFailed = failed) := by
  simp [reports, h]

/-- An update of another delivery changes nothing. -/
theorem Settled.other (h : Settled updates id d₀ d) (hu : u.lookup ≠ .deliveryId id) :
    Settled (updates ++ [u]) id d₀ d where
  request := h.request
  bindingKey := h.bindingKey
  status := by
    rw [reports_append_of_ne true hu, reports_append_of_ne false hu]
    exact h.status
  same hnone := h.same fun u' hu' => hnone u' (List.mem_append_left _ hu')
  messageId m hm := (h.messageId m hm).imp_right fun ⟨u', hu', hrest⟩ =>
    ⟨u', List.mem_append_left _ hu', hrest⟩

theorem DeliveryUpdate.mark_status :
    (u.mark now d).status = if u.status.isFailed then .failed else .delivered := by
  cases h : u.status <;>
    simp [mark, h, markDeliveryDelivered, markDeliveryFailed, DeliveryTerminalStatus.isFailed]

theorem DeliveryUpdate.mark_request :
    (u.mark now d).notificationRequestId = d.notificationRequestId ∧
      (u.mark now d).providerBindingKey = d.providerBindingKey := by
  cases h : u.status <;> simp [mark, h, markDeliveryDelivered, markDeliveryFailed]

theorem DeliveryUpdate.mark_messageId :
    (u.mark now d).providerMessageId = u.providerMessageId.or d.providerMessageId := by
  cases h : u.status <;> simp [mark, h, markDeliveryDelivered, markDeliveryFailed]

/-- An update that applies brings its own status, one that does not finds the delivery settled. -/
theorem settle_update {start : NotificationDeliveryStatus} {failed delivered : Bool}
    (h : d.status = settle start failed delivered) :
    (if u.effective d then (u.mark now d).status else d.status) =
      settle start (failed || u.status.isFailed) (delivered || !u.status.isFailed) := by
  rw [DeliveryUpdate.mark_status]
  cases hu : u.status <;> cases start <;> cases failed <;> cases delivered <;>
    simp [DeliveryUpdate.effective, shouldApplyDeliveryUpdate, settle, h, hu,
      DeliveryTerminalStatus.isFailed, NotificationDeliveryStatus.isTerminal]

theorem Settled.update (now : Time) (h : Settled updates id d₀ d) (hu : u.lookup = .deliveryId id) :
    Settled (updates ++ [u]) id d₀ (if u.effective d then u.mark now d else d) where
  request := by
    rw [← h.request, apply_ite NotificationDelivery.notificationRequestId,
      DeliveryUpdate.mark_request.1, ite_self]
  bindingKey := by
    rw [← h.bindingKey, apply_ite NotificationDelivery.providerBindingKey,
      DeliveryUpdate.mark_request.2, ite_self]
  status := by
    rw [apply_ite NotificationDelivery.status, settle_update h.status,
      reports_append_of_eq true hu, reports_append_of_eq false hu]
    simp
  same hnone := by
    have hd : d = d₀ := h.same fun u' hu' => hnone u' (List.mem_append_left _ hu')
    have heffective : u.effective d = false := by
      rw [hd]
      exact hnone u (by simp) hu
    rw [heffective]
    exact hd
  messageId m hm := by
    have hbefore : ∀ m, d.providerMessageId = some m → d₀.providerMessageId = some m ∨
        ∃ u' ∈ updates ++ [u], u'.lookup = .deliveryId id ∧ u'.providerMessageId = some m :=
      fun m hm => (h.messageId m hm).imp_right fun ⟨u', hu', hrest⟩ =>
        ⟨u', List.mem_append_left _ hu', hrest⟩
    split_ifs at hm with heffective
    · rw [DeliveryUpdate.mark_messageId] at hm
      rcases Option.or_eq_some_iff.mp hm with hown | ⟨-, hkept⟩
      · exact .inr ⟨u, by simp, hu, hown⟩
      · exact hbefore m hkept
    · exact hbefore m hm

end Delivery

section Updates

/-- The deliveries of `s₀` after some updates. -/
structure Follows (s₀ : Notifications) (updates : List DeliveryUpdate) (s : Notifications) :
    Prop where
  absent : ∀ id, s₀.deliveries.get? id = none → s.deliveries.get? id = none
  settled : ∀ id d₀, s₀.deliveries.get? id = some d₀ →
    ∃ d, s.deliveries.get? id = some d ∧ Settled updates id d₀ d

/-- A delivery has the message id, or gets it from an update. -/
def UsesMessageId (s₀ : Notifications) (all : List DeliveryUpdate) (id : Ulid) (m : String) : Prop :=
  (∃ d₀, s₀.deliveries.get? id = some d₀ ∧ d₀.providerMessageId = some m) ∨
    ∃ u ∈ all, u.lookup = .deliveryId id ∧ u.providerMessageId = some m

/-- Updates name deliveries by id, the requests are there, and message ids are not shared. -/
structure Sound (s₀ : Notifications) (all : List DeliveryUpdate) : Prop where
  byId : ∀ u ∈ all, ∃ id, u.lookup = .deliveryId id
  requests : ∀ id d₀, s₀.deliveries.get? id = some d₀ →
    s₀.requests.contains d₀.notificationRequestId
  messageIds : ∀ id id' d d' m, s₀.deliveries.get? id = some d → s₀.deliveries.get? id' = some d' →
    d.providerBindingKey.isSome → d'.providerBindingKey = d.providerBindingKey →
    UsesMessageId s₀ all id m → UsesMessageId s₀ all id' m → id' = id

variable {s₀ s : Notifications} {updates all : List DeliveryUpdate} {u : DeliveryUpdate}
  {id : Ulid} {d₀ d : NotificationDelivery} {bindingKey : String} {now : Time}

theorem Settled.usesMessageId (h : Settled updates id d₀ d) (hall : updates ⊆ all)
    (hd₀ : s₀.deliveries.get? id = some d₀) {m : String} (hm : d.providerMessageId = some m) :
    UsesMessageId s₀ all id m := by
  rcases h.messageId m hm with hstart | ⟨u, hu, hrest⟩
  · exact .inl ⟨d₀, hd₀, hstart⟩
  · exact .inr ⟨u, hall hu, hrest⟩

theorem Follows.of_get? (h : Follows s₀ updates s) (hd : s.deliveries.get? id = some d) :
    ∃ d₀, s₀.deliveries.get? id = some d₀ ∧ Settled updates id d₀ d := by
  cases hd₀ : s₀.deliveries.get? id with
  | none =>
    rw [h.absent id hd₀] at hd
    cases hd
  | some d₀ =>
    obtain ⟨d', hd', hsettled⟩ := h.settled id d₀ hd₀
    cases hd.symm.trans hd'
    exact ⟨d₀, rfl, hsettled⟩

theorem not_taken (now : Time) (hsound : Sound s₀ all) (h : Follows s₀ updates s)
    (hall : updates ++ [u] ⊆ all) (hu : u.lookup = .deliveryId id) (hd : s.deliveries.get? id = some d)
    (heffective : u.effective d) : providerMessageTaken id (u.mark now d) s = false := by
  have hbefore : updates ⊆ all := fun u' hu' => hall (List.mem_append_left _ hu')
  obtain ⟨d₀, hd₀, hsettled⟩ := h.of_get? hd
  have hmarked : Settled (updates ++ [u]) id d₀ (u.mark now d) := by
    simpa [heffective] using hsettled.update now hu
  rw [Bool.eq_false_iff, ne_eq, providerMessageTaken, any_iff]
  rintro ⟨id', d', hd', htaken⟩
  simp only [Bool.and_eq_true, decide_eq_true_eq] at htaken
  obtain ⟨⟨⟨⟨hne, hkey⟩, hsome⟩, hkeys⟩, hids⟩ := htaken
  obtain ⟨m, hm⟩ := Option.isSome_iff_exists.mp hsome
  obtain ⟨d₀', hd₀', hsettled'⟩ := h.of_get? hd'
  refine hne (hsound.messageIds id id' d₀ d₀' m hd₀ hd₀' ?_ ?_ ?_ ?_)
  · rw [← hmarked.bindingKey]
    exact hkey
  · rw [← hmarked.bindingKey, ← hsettled'.bindingKey]
    exact hkeys
  · exact hmarked.usesMessageId hall hd₀ hm
  · exact hsettled'.usesMessageId hbefore hd₀' (hids.trans hm)

/-- An update of a delivery that it does not change is ignored. -/
theorem processUpdate_ignored {p : Progress} (hu : u.lookup = .deliveryId id)
    (hrequest : ∀ d, p.store.deliveries.get? id = some d →
      p.store.requests.contains d.notificationRequestId)
    (hnone : ∀ d, p.store.deliveries.get? id = some d → u.effective d = false) :
    processUpdate bindingKey now p u = .ok p.ignore := by
  unfold processUpdate
  rw [hu, lookupDelivery]
  cases hd : p.store.deliveries.get? id with
  | none => rfl
  | some d =>
    have heffective := hnone d hd
    simp only [Option.map_some]
    by_cases hcancelled : d.status = .cancelled
    · rw [if_pos hcancelled]
    · have hshould : shouldApplyDeliveryUpdate d.status d.lastFailure u.status = false := by
        simpa [DeliveryUpdate.effective, hcancelled] using heffective
      simp [hcancelled, hrequest d hd, applyDeliveryUpdate, hshould, bind, Except.bind, pure,
        Except.pure]

theorem processUpdate_applied (bindingKey : String) {p : Progress}
    (hu : u.lookup = .deliveryId id) (hd : p.store.deliveries.get? id = some d)
    (hrequest : p.store.requests.contains d.notificationRequestId) (heffective : u.effective d)
    (htaken : providerMessageTaken id (u.mark now d) p.store = false) :
    ∃ p', processUpdate bindingKey now p u = .ok p' ∧
      p'.touchedRequests = p.touchedRequests.insert d.notificationRequestId () ∧
      p'.store.requests = p.store.requests ∧
      p'.store.deliveries = p.store.deliveries.insert id (u.mark now d) := by
  obtain ⟨hcancelled, hshould⟩ := Bool.and_eq_true_iff.mp heffective
  have hcontains : p.store.deliveries.contains id := contains_iff_exists.mpr ⟨d, hd⟩
  unfold processUpdate
  rw [hu, lookupDelivery, hd]
  simp only [Option.map_some]
  rw [if_neg (of_decide_eq_true hcancelled)]
  simp [hrequest, applyDeliveryUpdate, hshould, persistDelivery, hcontains, htaken, bind,
    Except.bind, pure, Except.pure]

theorem Follows.ignored (h : Follows s₀ updates s) (hu : u.lookup = .deliveryId id)
    (hnone : ∀ d, s.deliveries.get? id = some d → u.effective d = false) :
    Follows s₀ (updates ++ [u]) s where
  absent := h.absent
  settled id' d₀ hd₀ := by
    obtain ⟨d, hd, hsettled⟩ := h.settled id' d₀ hd₀
    refine ⟨d, hd, ?_⟩
    by_cases hid : id' = id
    · subst hid
      simpa [hnone d hd] using hsettled.update 0 hu
    · exact hsettled.other fun heq => hid (DeliveryLookup.deliveryId.inj (hu.symm.trans heq)).symm

theorem Follows.applied {s' : Notifications} (h : Follows s₀ updates s)
    (hu : u.lookup = .deliveryId id) (hd : s.deliveries.get? id = some d)
    (heffective : u.effective d)
    (hs' : s'.deliveries = s.deliveries.insert id (u.mark now d)) :
    Follows s₀ (updates ++ [u]) s' where
  absent id' hd₀ := by
    have hne : id' ≠ id := by
      rintro rfl
      rw [h.absent id' hd₀] at hd
      cases hd
    rw [hs', get?_insert, if_neg hne]
    exact h.absent id' hd₀
  settled id' d₀ hd₀ := by
    obtain ⟨d', hd', hsettled⟩ := h.settled id' d₀ hd₀
    rw [hs', get?_insert]
    by_cases hid : id' = id
    · subst hid
      cases hd.symm.trans hd'
      rw [if_pos rfl]
      exact ⟨_, rfl, by simpa [heffective] using hsettled.update now hu⟩
    · rw [if_neg hid]
      exact ⟨d', hd',
        hsettled.other fun heq => hid (DeliveryLookup.deliveryId.inj (hu.symm.trans heq)).symm⟩

end Updates

section Callback

/-- Some update changes a delivery of the request as it was at the start. -/
def Moved (s₀ : Notifications) (updates : List DeliveryUpdate) (requestId : Ulid) : Prop :=
  ∃ u ∈ updates, ∃ id d₀, u.lookup = .deliveryId id ∧ s₀.deliveries.get? id = some d₀ ∧
    d₀.notificationRequestId = requestId ∧ u.effective d₀

/-- `before` are the updates of earlier callbacks and `done` those of this one so far. -/
structure Running (s₀ s : Notifications) (before done : List DeliveryUpdate) (p : Progress) :
    Prop where
  follows : Follows s₀ (before ++ done) p.store
  requests : p.store.requests = s.requests
  untouched : ∀ id d, p.store.deliveries.get? id = some d →
    p.touchedRequests.contains d.notificationRequestId = false → s.deliveries.get? id = some d
  touched : ∀ q, p.touchedRequests.contains q → Moved s₀ (before ++ done) q
  moved : ∀ q, Moved s₀ (before ++ done) q → Moved s₀ before q ∨ p.touchedRequests.contains q

variable {s₀ s : Notifications} {before done updates all : List DeliveryUpdate}
  {u : DeliveryUpdate} {bindingKey : String} {now : Time} {p : Progress} {q : Ulid}

theorem Moved.mono (h : Moved s₀ updates q) (hsub : updates ⊆ all) : Moved s₀ all q := by
  obtain ⟨u, hu, hrest⟩ := h
  exact ⟨u, hsub hu, hrest⟩

theorem Settled.moved {id : Ulid} {d₀ d : NotificationDelivery} (h : Settled updates id d₀ d)
    (hd₀ : s₀.deliveries.get? id = some d₀) (hne : d ≠ d₀) :
    Moved s₀ updates d₀.notificationRequestId := by
  by_contra hnot
  refine hne (h.same fun u hu hlookup => ?_)
  rw [Bool.eq_false_iff]
  exact fun heffective => hnot ⟨u, hu, id, d₀, hlookup, hd₀, rfl, heffective⟩

theorem Running.step (bindingKey : String) (now : Time) (hsound : Sound s₀ all)
    (h : Running s₀ s before done p)
    (hrequests : ∀ q, s₀.requests.contains q → s.requests.contains q)
    (hall : before ++ (done ++ [u]) ⊆ all) :
    ∃ p', processUpdate bindingKey now p u = .ok p' ∧ Running s₀ s before (done ++ [u]) p' := by
  rw [← List.append_assoc] at hall
  obtain ⟨id, hu⟩ := hsound.byId u (hall (by simp))
  have hrequest : ∀ d, p.store.deliveries.get? id = some d →
      p.store.requests.contains d.notificationRequestId := by
    intro d hd
    obtain ⟨d₀, hd₀, hsettled⟩ := h.follows.of_get? hd
    rw [h.requests, hsettled.request]
    exact hrequests _ (hsound.requests id d₀ hd₀)
  have hmono : ∀ q, Moved s₀ (before ++ done) q → Moved s₀ (before ++ (done ++ [u])) q := by
    intro q hmoved
    exact hmoved.mono fun u' hu' => by
      rw [← List.append_assoc]
      exact List.mem_append_left _ hu'
  -- Whoever is moved by the last update has been moved before, or the update applies.
  have hlast : ∀ q, Moved s₀ (before ++ (done ++ [u])) q → Moved s₀ (before ++ done) q ∨
      ∃ d, p.store.deliveries.get? id = some d ∧ d.notificationRequestId = q ∧ u.effective d := by
    rintro q ⟨u', hu', id', d₀, hlookup, hd₀, hq, heffective⟩
    rw [← List.append_assoc, List.mem_append, List.mem_singleton] at hu'
    rcases hu' with hu' | rfl
    · exact .inl ⟨u', hu', id', d₀, hlookup, hd₀, hq, heffective⟩
    · obtain rfl : id = id' := DeliveryLookup.deliveryId.inj (hu.symm.trans hlookup)
      obtain ⟨d, hd, hsettled⟩ := h.follows.settled id d₀ hd₀
      by_cases hsame : d = d₀
      · subst hsame
        exact .inr ⟨d, hd, hq, heffective⟩
      · exact .inl (hq ▸ hsettled.moved hd₀ hsame)
  by_cases happlies : ∃ d, p.store.deliveries.get? id = some d ∧ u.effective d
  · obtain ⟨d, hd, heffective⟩ := happlies
    obtain ⟨d₀, hd₀, hsettled⟩ := h.follows.of_get? hd
    obtain ⟨p', hp', htouched, hstore, hdeliveries⟩ := processUpdate_applied
      bindingKey hu hd (hrequest d hd) heffective
      (not_taken now hsound h.follows hall hu hd heffective)
    have hcontains : ∀ q, p'.touchedRequests.contains q =
        (q = d.notificationRequestId || p.touchedRequests.contains q) := by
      intro q
      rw [htouched]
      exact contains_insert
    refine ⟨p', hp', ?_, hstore.trans h.requests, ?_, ?_, ?_⟩
    · rw [← List.append_assoc]
      exact h.follows.applied hu hd heffective hdeliveries
    · intro id' d' hd' huntouched
      rw [hcontains, Bool.or_eq_false_iff, decide_eq_false_iff_not] at huntouched
      rw [hdeliveries, get?_insert] at hd'
      split_ifs at hd' with hid
      · cases hd'
        exact absurd DeliveryUpdate.mark_request.1 huntouched.1
      · exact h.untouched id' d' hd' huntouched.2
    · intro q hq
      rw [hcontains, Bool.or_eq_true, decide_eq_true_eq] at hq
      rcases hq with rfl | hq
      · rw [hsettled.request]
        by_cases hsame : d = d₀
        · exact ⟨u, by simp, id, d₀, hu, hd₀, rfl, hsame ▸ heffective⟩
        · exact hmono _ (hsettled.moved hd₀ hsame)
      · exact hmono q (h.touched q hq)
    · intro q hq
      rw [hcontains, Bool.or_eq_true, decide_eq_true_eq]
      rcases hlast q hq with hbefore | ⟨d', hd', rfl, -⟩
      · exact (h.moved q hbefore).imp_right .inr
      · cases hd.symm.trans hd'
        exact .inr (.inl rfl)
  · have hnone : ∀ d, p.store.deliveries.get? id = some d → u.effective d = false := by
      intro d hd
      rw [Bool.eq_false_iff]
      exact fun heffective => happlies ⟨d, hd, heffective⟩
    refine ⟨p.ignore, processUpdate_ignored hu hrequest hnone, ?_, h.requests, h.untouched,
      fun q hq => hmono q (h.touched q hq), fun q hq => ?_⟩
    · rw [← List.append_assoc]
      exact h.follows.ignored hu hnone
    · rcases hlast q hq with hbefore | ⟨d, hd, -, heffective⟩
      · exact h.moved q hbefore
      · exact absurd ⟨d, hd, heffective⟩ happlies

theorem Running.run (bindingKey : String) (now : Time) (hsound : Sound s₀ all)
    (hrequests : ∀ q, s₀.requests.contains q → s.requests.contains q)
    (h : Running s₀ s before [] p) (hall : before ++ updates ⊆ all) :
    ∃ p', updates.foldlM (processUpdate bindingKey now) p = .ok p' ∧
      Running s₀ s before updates p' :=
  foldlM_reaches h fun _ _ _ h hdone => h.step bindingKey now hsound hrequests fun _ hu =>
    hall (((List.prefix_append_right_inj before).mpr hdone).subset hu)

end Callback

section Reconcile

variable {s s' : Notifications} {now : Time} {q : Ulid}

def deliveryStatus? (s : Notifications) (id : Ulid) : Option NotificationDeliveryStatus :=
  (s.deliveries.get? id).map (·.status)

def requestStatus? (s : Notifications) (q : Ulid) : Option NotificationRequestStatus :=
  (s.requests.get? q).map (·.status)

def reconciled (s : Notifications) (q : Ulid) (status : NotificationRequestStatus) :
    NotificationRequestStatus :=
  if status = .cancelled then .cancelled else nextStatus (listDeliveries q s)

theorem nextStatus_ne_cancelled {deliveries : List NotificationDelivery} :
    nextStatus deliveries ≠ .cancelled := by
  unfold nextStatus
  split_ifs <;> decide

theorem reconciled_reconciled {status : NotificationRequestStatus} :
    reconciled s q (reconciled s' q status) = reconciled s q status := by
  unfold reconciled
  by_cases h : status = .cancelled
  · simp [h]
  · simp [h, nextStatus_ne_cancelled]

theorem reconciled_congr (h : s.deliveries = s'.deliveries) : reconciled s q = reconciled s' q := by
  funext status
  simp only [reconciled, listDeliveries, h]

def SameStatuses (q : Ulid) (s s' : Notifications) : Prop :=
  ∀ status, (∃ id d, s.deliveries.get? id = some d ∧ d.notificationRequestId = q ∧
    d.status = status) ↔
    ∃ id d, s'.deliveries.get? id = some d ∧ d.notificationRequestId = q ∧ d.status = status

theorem any_listDeliveries (test : NotificationDeliveryStatus → Bool) :
    (listDeliveries q s).any (fun d => test d.status) ↔
      ∃ status, (∃ id d, s.deliveries.get? id = some d ∧ d.notificationRequestId = q ∧
        d.status = status) ∧ test status := by
  simp only [listDeliveries, List.any_map, List.any_eq_true, Prod.exists, mem_select,
    Function.comp, decide_eq_true_eq]
  constructor
  · rintro ⟨id, d, ⟨hd, hq⟩, htest⟩
    exact ⟨d.status, ⟨id, d, hd, hq, rfl⟩, htest⟩
  · rintro ⟨_, ⟨id, d, hd, hq, rfl⟩, htest⟩
    exact ⟨id, d, ⟨hd, hq⟩, htest⟩

theorem SameStatuses.reconciled (h : SameStatuses q s s') :
    EmailWebhook.reconciled s q = EmailWebhook.reconciled s' q := by
  have hany : ∀ test : NotificationDeliveryStatus → Bool,
      (listDeliveries q s).any (fun d => test d.status) =
        (listDeliveries q s').any (fun d => test d.status) := by
    intro test
    rw [Bool.eq_iff_iff, any_listDeliveries, any_listDeliveries]
    exact exists_congr fun status => and_congr_left fun _ => h status
  funext status
  simp only [EmailWebhook.reconciled, nextStatus, hany (fun status => !status.isTerminal),
    hany (fun status => status = .delivered)]

theorem reconcile_deliveries : (reconcileRequestStatus now s q).deliveries = s.deliveries := by
  unfold reconcileRequestStatus
  cases s.requests.get? q with
  | none => rfl
  | some request => dsimp only; split_ifs <;> rfl

theorem setRequestStatus_status {request : NotificationRequest} {next : NotificationRequestStatus} :
    (setRequestStatus now request next).status = next := by
  cases next <;> rfl

theorem requestStatus?_reconcile :
    requestStatus? (reconcileRequestStatus now s q) q = (requestStatus? s q).map (reconciled s q) := by
  unfold reconcileRequestStatus requestStatus?
  cases hr : s.requests.get? q with
  | none => simp [hr]
  | some r =>
    dsimp only
    by_cases hcancelled : r.status = .cancelled
    · simp [hcancelled, hr, reconciled]
    · by_cases hsame : nextStatus (listDeliveries q s) = r.status
      · simp [hcancelled, hsame, hr, reconciled]
      · simp [hcancelled, hsame, reconciled, setRequestStatus_status, get?_insert]

theorem requestStatus?_reconcile_of_ne {q' : Ulid} (hq : q' ≠ q) :
    requestStatus? (reconcileRequestStatus now s q) q' = requestStatus? s q' := by
  unfold reconcileRequestStatus requestStatus?
  cases s.requests.get? q with
  | none => rfl
  | some r =>
    dsimp only
    split_ifs
    · rfl
    · rfl
    · rw [get?_insert, if_neg hq]

theorem foldl_reconcile (now : Time) (qs : List Ulid) (s : Notifications) :
    (qs.foldl (reconcileRequestStatus now) s).deliveries = s.deliveries ∧
      ∀ q', requestStatus? (qs.foldl (reconcileRequestStatus now) s) q' = (requestStatus? s q').map
          (fun status => if q' ∈ qs then reconciled s q' status else status) := by
  induction qs generalizing s with
  | nil => simp
  | cons q qs ih =>
    obtain ⟨hdeliveries, hstatus⟩ := ih (reconcileRequestStatus now s q)
    refine ⟨hdeliveries.trans reconcile_deliveries, fun q' => ?_⟩
    rw [List.foldl_cons, hstatus]
    simp only [reconciled_congr reconcile_deliveries, List.mem_cons]
    by_cases hq : q' = q
    · subst hq
      rw [requestStatus?_reconcile, Option.map_map]
      refine congrArg (Option.map · _) (funext fun status => ?_)
      by_cases hmem : q' ∈ qs <;> simp [hmem, reconciled_reconciled]
    · simp only [requestStatus?_reconcile_of_ne hq, hq, false_or]

end Reconcile

section Order

/-- The data reached from `s₀` by callbacks with the given updates. -/
structure Reached (s₀ : Notifications) (updates : List DeliveryUpdate) (s : Notifications) :
    Prop where
  follows : Follows s₀ updates s
  moved : ∀ q, Moved s₀ updates q → requestStatus? s q = (requestStatus? s₀ q).map (reconciled s q)
  unmoved : ∀ q, ¬Moved s₀ updates q → requestStatus? s q = requestStatus? s₀ q

variable {s₀ s : Notifications} {updates before all : List DeliveryUpdate} {bindingKey : String}
  {now : Time}

theorem contains_iff_requestStatus? {q : Ulid} :
    s.requests.contains q ↔ (requestStatus? s q).isSome := by
  simp [Table.contains, requestStatus?]

theorem Reached.refl (s₀ : Notifications) : Reached s₀ [] s₀ where
  follows := ⟨fun _ h => h, fun id d₀ hd₀ => ⟨d₀, hd₀, .refl id d₀⟩⟩
  moved q h := by
    obtain ⟨u, hu, -⟩ := h
    cases hu
  unmoved _ _ := rfl

theorem Reached.requests (h : Reached s₀ before s) (q : Ulid) (hq : s₀.requests.contains q) :
    s.requests.contains q := by
  rw [contains_iff_requestStatus?] at hq ⊢
  by_cases hmoved : Moved s₀ before q
  · rw [h.moved q hmoved]
    simpa using hq
  · rwa [h.unmoved q hmoved]

theorem Follows.congr {s' : Notifications} (h : Follows s₀ updates s)
    (hdeliveries : s'.deliveries = s.deliveries) : Follows s₀ updates s' := by
  obtain ⟨habsent, hsettled⟩ := h
  rw [← hdeliveries] at habsent hsettled
  exact ⟨habsent, hsettled⟩

theorem Running.sameStatuses {p : Progress} (h : Running s₀ s before updates p)
    (hs : Follows s₀ before s) {q : Ulid} (hq : p.touchedRequests.contains q = false) :
    SameStatuses q s p.store := by
  intro status
  constructor
  · rintro ⟨id, d, hd, rfl, hstatus⟩
    obtain ⟨d₀, hd₀, hsettled⟩ := hs.of_get? hd
    obtain ⟨d', hd', hsettled'⟩ := h.follows.settled id d₀ hd₀
    have hrequest : d'.notificationRequestId = d.notificationRequestId :=
      hsettled'.request.trans hsettled.request.symm
    have hkept := h.untouched id d' hd' (by rwa [hrequest])
    cases hd.symm.trans hkept
    exact ⟨id, d, hd', rfl, hstatus⟩
  · rintro ⟨id, d, hd, rfl, hstatus⟩
    exact ⟨id, d, h.untouched id d hd hq, rfl, hstatus⟩

theorem Reached.process (bindingKey : String) (now : Time) (hsound : Sound s₀ all)
    (h : Reached s₀ before s) (hall : before ++ updates ⊆ all) :
    ∃ result s', EmailWebhook.process bindingKey now updates s = .ok (result, s') ∧
      Reached s₀ (before ++ updates) s' := by
  have hstart : Running s₀ s before [] ⟨⟨0, 0⟩, .empty, s⟩ := by
    refine ⟨?_, rfl, fun id d hd _ => hd, fun q hq => ?_, fun q hq => .inl ?_⟩
    · rw [List.append_nil]
      exact h.follows
    · cases hq
    · rwa [List.append_nil] at hq
  obtain ⟨p, hp, hrunning⟩ := hstart.run bindingKey now hsound h.requests hall
  obtain ⟨hdeliveries, hstatus⟩ := foldl_reconcile now p.touchedRequests.keys p.store
  have hrequests : ∀ q, requestStatus? p.store q = requestStatus? s q := by
    intro q
    rw [requestStatus?, hrunning.requests]
    rfl
  refine ⟨p.result, p.touchedRequests.keys.foldl (reconcileRequestStatus now) p.store, ?_,
    hrunning.follows.congr hdeliveries, fun q hmoved => ?_, fun q hunmoved => ?_⟩
  · unfold EmailWebhook.process
    rw [hp]
    rfl
  · rw [hstatus, hrequests, reconciled_congr hdeliveries]
    by_cases htouched : p.touchedRequests.contains q
    · simp only [mem_keys.mpr htouched, if_true]
      by_cases hbefore : Moved s₀ before q
      · rw [h.moved q hbefore, Option.map_map]
        exact congrArg (Option.map · _) (funext fun status => reconciled_reconciled)
      · rw [h.unmoved q hbefore]
    · have hbefore := (hrunning.moved q hmoved).resolve_right htouched
      simp only [mem_keys, htouched, Bool.false_eq_true, if_false, Option.map_id']
      rw [h.moved q hbefore, (hrunning.sameStatuses h.follows (Bool.eq_false_iff.mpr htouched)).reconciled]
  · have htouched : ¬p.touchedRequests.contains q := fun ht => hunmoved (hrunning.touched q ht)
    have hbefore : ¬Moved s₀ before q := fun hm => hunmoved (hm.mono (List.subset_append_left _ _))
    rw [hstatus, hrequests]
    simp only [mem_keys, htouched, Bool.false_eq_true, if_false, Option.map_id']
    exact h.unmoved q hbefore

def updatesOf (callbacks : List (Time × List DeliveryUpdate)) : List DeliveryUpdate :=
  callbacks.flatMap Prod.snd

theorem Reached.processAll (bindingKey : String) (hsound : Sound s₀ all)
    {callbacks : List (Time × List DeliveryUpdate)} (hall : updatesOf callbacks ⊆ all) :
    ∃ s, EmailWebhook.processAll bindingKey callbacks s₀ = .ok s ∧
      Reached s₀ (updatesOf callbacks) s := by
  refine foldlM_reaches (I := fun done => Reached s₀ (updatesOf done)) (.refl s₀)
    fun done s callback h ⟨rest, hrest⟩ => ?_
  have hsplit : updatesOf (done ++ [callback]) = updatesOf done ++ callback.2 := by
    simp [updatesOf]
  rw [hsplit]
  obtain ⟨result, s', hs', hreached⟩ := h.process bindingKey callback.1 hsound
    fun u hu => hall (by
      rw [← hsplit] at hu
      rw [← hrest, updatesOf, List.flatMap_append]
      exact List.mem_append_left _ hu)
  exact ⟨s', by rw [hs']; rfl, hreached⟩

variable {s' : Notifications} {updates' : List DeliveryUpdate}

theorem reports_congr (h : ∀ u, u ∈ updates ↔ u ∈ updates') (failed : Bool) (id : Ulid) :
    reports failed id updates = reports failed id updates' := by
  rw [Bool.eq_iff_iff, reports, reports, List.any_eq_true, List.any_eq_true]
  exact exists_congr fun u => and_congr_left fun _ => h u

/-- The same updates in any order and number leave a delivery with the same status. -/
theorem Follows.deliveryStatus?_congr (h : Follows s₀ updates s) (h' : Follows s₀ updates' s')
    (hsame : ∀ u, u ∈ updates ↔ u ∈ updates') (id : Ulid) :
    deliveryStatus? s id = deliveryStatus? s' id := by
  unfold deliveryStatus?
  cases hd₀ : s₀.deliveries.get? id with
  | none => rw [h.absent id hd₀, h'.absent id hd₀]
  | some d₀ =>
    obtain ⟨d, hd, hsettled⟩ := h.settled id d₀ hd₀
    obtain ⟨d', hd', hsettled'⟩ := h'.settled id d₀ hd₀
    rw [hd, hd', Option.map_some, Option.map_some, hsettled.status, hsettled'.status,
      reports_congr hsame, reports_congr hsame]

theorem Follows.sameStatuses (h : Follows s₀ updates s) (h' : Follows s₀ updates' s')
    (hsame : ∀ u, u ∈ updates ↔ u ∈ updates') (q : Ulid) : SameStatuses q s s' := by
  have hpass : ∀ {s s' : Notifications} {updates updates' : List DeliveryUpdate},
      Follows s₀ updates s → Follows s₀ updates' s' → (∀ u, u ∈ updates ↔ u ∈ updates') →
      ∀ id d, s.deliveries.get? id = some d → ∃ d', s'.deliveries.get? id = some d' ∧
        d'.notificationRequestId = d.notificationRequestId ∧ d'.status = d.status := by
    intro s s' updates updates' h h' hsame id d hd
    obtain ⟨d₀, hd₀, hsettled⟩ := h.of_get? hd
    obtain ⟨d', hd', hsettled'⟩ := h'.settled id d₀ hd₀
    refine ⟨d', hd', hsettled'.request.trans hsettled.request.symm, ?_⟩
    rw [hsettled.status, hsettled'.status, reports_congr hsame, reports_congr hsame]
  intro status
  constructor
  · rintro ⟨id, d, hd, rfl, rfl⟩
    obtain ⟨d', hd', hrest⟩ := hpass h h' hsame id d hd
    exact ⟨id, d', hd', hrest⟩
  · rintro ⟨id, d, hd, rfl, rfl⟩
    obtain ⟨d', hd', hrest⟩ := hpass h' h (fun u => (hsame u).symm) id d hd
    exact ⟨id, d', hd', hrest⟩

theorem Reached.requestStatus?_congr (h : Reached s₀ updates s) (h' : Reached s₀ updates' s')
    (hsame : ∀ u, u ∈ updates ↔ u ∈ updates') (q : Ulid) :
    requestStatus? s q = requestStatus? s' q := by
  have hmoved : Moved s₀ updates q ↔ Moved s₀ updates' q :=
    exists_congr fun u => and_congr_left fun _ => hsame u
  by_cases hm : Moved s₀ updates q
  · rw [h.moved q hm, h'.moved q (hmoved.mp hm),
      (h.follows.sameStatuses h'.follows hsame q).reconciled]
  · rw [h.unmoved q hm, h'.unmoved q fun hm' => hm (hmoved.mpr hm')]

/-- Callbacks with the same updates, in any order, number and grouping, leave the same statuses. A
failure that is reported wins, unless the delivery was cancelled. -/
theorem callbacks_commute {callbacks callbacks' : List (Time × List DeliveryUpdate)}
    (hsound : Sound s₀ (updatesOf callbacks))
    (hsame : ∀ u, u ∈ updatesOf callbacks ↔ u ∈ updatesOf callbacks') :
    ∃ s s', processAll bindingKey callbacks s₀ = .ok s ∧
      processAll bindingKey callbacks' s₀ = .ok s' ∧
      (∀ id, deliveryStatus? s id = deliveryStatus? s' id) ∧
      (∀ q, requestStatus? s q = requestStatus? s' q) ∧
      (∀ id status, deliveryStatus? s₀ id = some status →
        (status = .cancelled → deliveryStatus? s id = some .cancelled) ∧
        (status ≠ .cancelled → (∃ u ∈ updatesOf callbacks, u.lookup = .deliveryId id ∧
          u.status.isFailed) → deliveryStatus? s id = some .failed)) ∧
      ∀ q, requestStatus? s₀ q = some .cancelled → requestStatus? s q = some .cancelled := by
  obtain ⟨s, hs, hreached⟩ := Reached.processAll bindingKey hsound fun _ hu => hu
  obtain ⟨s', hs', hreached'⟩ := Reached.processAll bindingKey hsound fun u hu => (hsame u).mpr hu
  refine ⟨s, s', hs, hs', hreached.follows.deliveryStatus?_congr hreached'.follows hsame,
    hreached.requestStatus?_congr hreached' hsame, fun id status hstatus => ?_, fun q hq => ?_⟩
  · obtain ⟨d₀, hd₀, rfl⟩ := Option.map_eq_some_iff.mp hstatus
    obtain ⟨d, hd, hsettled⟩ := hreached.follows.settled id d₀ hd₀
    have hend : deliveryStatus? s id = some d.status := by rw [deliveryStatus?, hd]; rfl
    rw [hend, hsettled.status]
    refine ⟨fun hcancelled => by rw [settle, if_pos hcancelled], fun hlive hfailed => ?_⟩
    obtain ⟨u, hu, hlookup, hfailed⟩ := hfailed
    have hreports : reports true id (updatesOf callbacks) :=
      List.any_eq_true.mpr ⟨u, hu, by simp [hlookup, hfailed]⟩
    rw [settle, if_neg hlive, if_pos hreports]
  · by_cases hmoved : Moved s₀ (updatesOf callbacks) q
    · rw [hreached.moved q hmoved, hq]
      rfl
    · rw [hreached.unmoved q hmoved, hq]

def twoDeliveries : Notifications where
  requests := Table.empty.insert 1 ⟨.processing, some 0, none, none⟩
  deliveries := (Table.empty.insert 2
    ⟨1, some "email.resend", none, .sending, none, some 0, none, none, none⟩).insert 3
    ⟨1, some "email.resend", none, .cancelled, none, none, none, some 0, none⟩
  eventLogs := []

def bounced (id : Ulid) (messageId : Option String) : DeliveryUpdate :=
  ⟨.deliveryId id, messageId, .deliveryFailed, "bounced", .failed ⟨none, some "bounced", false⟩⟩

def received (id : Ulid) (messageId : Option String) : DeliveryUpdate :=
  ⟨.deliveryId id, messageId, .deliveryDelivered, "delivered", .delivered⟩

def threeDeliveries : Notifications := { twoDeliveries with
  deliveries := twoDeliveries.deliveries.insert 4
    ⟨1, some "email.resend", none, .sending, none, some 0, none, none, none⟩ }

/-- A bounce leaves a cancelled delivery as it is, and one with the message id of another delivery
of the provider is refused. -/
theorem cancelled_stays_shared_id_refused :
    (∃ s, processAll "email.resend" [(1, [bounced 3 none])] twoDeliveries = .ok s ∧
      deliveryStatus? s 3 = some .cancelled) ∧
    processAll "email.resend" [(1, [received 2 (some "m")]), (2, [bounced 4 (some "m")])]
      threeDeliveries =
        .error (.uniqueViolation "notification_deliveries_provider_message_lookup") :=
  ⟨⟨_, rfl, by decide⟩, rfl⟩

theorem bounce_wins_either_way : ∃ s s',
    processAll "email.resend" [(1, [bounced 2 none]), (2, [received 2 none])] twoDeliveries =
      .ok s ∧
    processAll "email.resend" [(1, [received 2 none, bounced 2 none])] twoDeliveries = .ok s' ∧
    deliveryStatus? s 2 = some .failed ∧ deliveryStatus? s 2 = deliveryStatus? s' 2 := by
  have hsound : Sound twoDeliveries
      (updatesOf [(1, [bounced 2 none]), (2, [received 2 none])]) := by
    have hrows : ∀ id d, twoDeliveries.deliveries.get? id = some d →
        d.notificationRequestId = 1 ∧ d.providerMessageId = none := by
      intro id d hd
      obtain ⟨-, rfl⟩ | ⟨-, hd⟩ := of_get?_insert hd
      · exact ⟨rfl, rfl⟩
      · obtain ⟨-, rfl⟩ | ⟨-, hd⟩ := of_get?_insert hd
        · exact ⟨rfl, rfl⟩
        · cases hd
    have hupdates : ∀ u ∈ updatesOf [(1, [bounced 2 none]), (2, [received 2 none])],
        u.lookup = .deliveryId 2 ∧ u.providerMessageId = none := by decide
    refine ⟨fun u hu => ⟨2, (hupdates u hu).1⟩, fun id d hd => ?_, ?_⟩
    · rw [(hrows id d hd).1]
      decide
    · rintro id id' d d' m hd hd' - - (⟨d₀, hd₀, hm⟩ | ⟨u, hu, -, hm⟩) -
      · rw [(hrows id d₀ hd₀).2] at hm
        cases hm
      · rw [(hupdates u hu).2] at hm
        cases hm
  obtain ⟨s, s', hs, hs', hdeliveries, -, hfailed, -⟩ := @callbacks_commute
    twoDeliveries "email.resend" _ [(1, [received 2 none, bounced 2 none])] hsound
    (by simp [updatesOf, or_comm])
  exact ⟨s, s', hs, hs', (hfailed 2 .sending rfl).2 (by decide)
    ⟨bounced 2 none, by simp [updatesOf], rfl, rfl⟩, hdeliveries 2⟩

end Order

end Pasion.EmailWebhook

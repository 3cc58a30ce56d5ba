import Mathlib.Data.Fintype.Defs
import Mathlib.Data.List.Nodup
import Outscan.Library.Datum
import Outscan.Library.Run
import Outscan.Notifications.Idempotency

/-! The state machine of a notification delivery. Its own transitions and the
reports of the provider share one table. -/
namespace Outscan

open Dynamic

inductive NotificationErrorCode where
  | invalidEvent | unknownEventType | scopeMismatch | invalidRecipientContext | crossTenantContext
  | invalidIdempotencyInput | invalidContent | invalidDeliveryTransition
  | invalidTelegramConfiguration
deriving DecidableEq, Repr

inductive NotificationDeliveryStatus where
  | queued | sending | accepted | delivered | retryScheduled | unknown | failedPermanent | bounced
  | complained | suppressed
deriving DecidableEq, Repr

namespace NotificationDeliveryStatus

def text : NotificationDeliveryStatus → String
  | queued => "QUEUED"
  | sending => "SENDING"
  | accepted => "ACCEPTED"
  | delivered => "DELIVERED"
  | retryScheduled => "RETRY_SCHEDULED"
  | unknown => "UNKNOWN"
  | failedPermanent => "FAILED_PERMANENT"
  | bounced => "BOUNCED"
  | complained => "COMPLAINED"
  | suppressed => "SUPPRESSED"

/-- `NOTIFICATION_DELIVERY_STATUSES`. -/
def all : List NotificationDeliveryStatus :=
  [queued, sending, accepted, delivered, retryScheduled, unknown, failedPermanent, bounced,
    complained, suppressed]

instance : Fintype NotificationDeliveryStatus where
  elems := ⟨all, by decide⟩
  complete := by
    intro status
    cases status <;> decide

def ofText? (text : String) : Option NotificationDeliveryStatus := all.find? (·.text == text)

@[simp] theorem ofText?_text (status : NotificationDeliveryStatus) :
    ofText? status.text = some status := by
  cases status <;> rfl

def allowed : NotificationDeliveryStatus → List NotificationDeliveryStatus
  | queued => [sending, suppressed]
  | sending => [accepted, unknown, retryScheduled, failedPermanent]
  | accepted => [delivered, bounced, complained]
  | delivered => [complained]
  | retryScheduled => [sending, suppressed]
  | unknown => [accepted, delivered, retryScheduled, failedPermanent, bounced, complained]
  | failedPermanent => []
  | bounced => []
  | complained => []
  | suppressed => []

/-- `PROVIDER_STATUSES`. -/
def provider : List NotificationDeliveryStatus :=
  [accepted, delivered, bounced, complained, failedPermanent]

end NotificationDeliveryStatus

structure NotificationDeliverySnapshot where
  status : NotificationDeliveryStatus
  attemptCount : Nat
  processedProviderEventIds : List String
deriving DecidableEq, Repr

def deliverySnapshotKeys : List String := ["status", "attemptCount", "processedProviderEventIds"]

def NotificationDeliverySnapshot.datum (snapshot : NotificationDeliverySnapshot) : Datum :=
  .object [
    ("status", .string snapshot.status.text),
    ("attemptCount", .number (.whole snapshot.attemptCount)),
    ("processedProviderEventIds", .array (snapshot.processedProviderEventIds.map .string))]

def notificationIdentifier? (value : Datum) : Option String := do
  let text ← value.string?
  guard (isNotificationIdentifier text)
  return text

def deliveryStatus? (value : Datum) : Option NotificationDeliveryStatus :=
  value.string?.bind NotificationDeliveryStatus.ofText?

def validSnapshot (value : Datum) : Option NotificationDeliverySnapshot := do
  guard (value.hasExactKeys deliverySnapshotKeys)
  let status ← deliveryStatus? (value.get "status")
  let attemptCount ← (value.get "attemptCount").natural?
  guard (attemptCount ≤ 100)
  let eventIds ← (value.get "processedProviderEventIds").array?
  guard (eventIds.length ≤ 1000)
  let processedProviderEventIds ← eventIds.mapM notificationIdentifier?
  guard processedProviderEventIds.Nodup
  return { status, attemptCount, processedProviderEventIds }

inductive DeliveryTransitionDecision where
  | apply (next : NotificationDeliverySnapshot)
  | ackReplay
  | ackStale
  | deny
deriving DecidableEq, Repr

def decideInternalDeliveryTransition (current proposedStatus : Datum) :
    Except NotificationErrorCode DeliveryTransitionDecision :=
  match validSnapshot current, deliveryStatus? proposedStatus with
  | some current, some nextStatus =>
    if nextStatus ∈ NotificationDeliveryStatus.provider then .error .invalidDeliveryTransition
    else if nextStatus ∉ current.status.allowed then .ok .deny
    else
      let startsAttempt := nextStatus == .sending
      if startsAttempt && current.attemptCount ≥ 100 then .ok .deny
      else
        .ok (.apply {
          status := nextStatus
          attemptCount := current.attemptCount + if startsAttempt then 1 else 0
          processedProviderEventIds := current.processedProviderEventIds })
  | _, _ => .error .invalidDeliveryTransition

def decideProviderDeliveryTransition (current providerEventId proposedStatus : Datum) :
    Except NotificationErrorCode DeliveryTransitionDecision :=
  match validSnapshot current, notificationIdentifier? providerEventId,
      deliveryStatus? proposedStatus with
  | some current, some providerEventId, some nextStatus =>
    if nextStatus ∉ NotificationDeliveryStatus.provider then .error .invalidDeliveryTransition
    else if providerEventId ∈ current.processedProviderEventIds then .ok .ackReplay
    else if nextStatus ∉ current.status.allowed then .ok .ackStale
    else if current.processedProviderEventIds.length ≥ 1000 then .ok .deny
    else
      .ok (.apply {
        status := nextStatus
        attemptCount := current.attemptCount
        processedProviderEventIds := current.processedProviderEventIds ++ [providerEventId] })
  | _, _, _ => .error .invalidDeliveryTransition

/-! ### Valid snapshots -/

structure NotificationDeliverySnapshot.Valid (snapshot : NotificationDeliverySnapshot) : Prop where
  attempts : snapshot.attemptCount ≤ 100
  bounded : snapshot.processedProviderEventIds.length ≤ 1000
  identifiers : ∀ id ∈ snapshot.processedProviderEventIds, isNotificationIdentifier id = true
  distinct : snapshot.processedProviderEventIds.Nodup

theorem notificationIdentifier?_eq_some {value : Datum} {text : String} :
    notificationIdentifier? value = some text ↔
      value = .string text ∧ isNotificationIdentifier text = true := by
  simp only [notificationIdentifier?, Option.bind_eq_bind, Option.bind_eq_some_iff,
    Option.guard_eq_some', Option.pure_def, Option.some.injEq, exists_const]
  constructor
  · rintro ⟨found, hfound, hid, rfl⟩
    cases value <;> simp [Datum.string?] at hfound
    exact ⟨by rw [hfound], hid⟩
  · rintro ⟨rfl, hid⟩
    exact ⟨text, rfl, hid, rfl⟩

theorem mapM_notificationIdentifier? {values : List Datum} {ids : List String} :
    values.mapM notificationIdentifier? = some ids ↔
      values = ids.map .string ∧ ∀ id ∈ ids, isNotificationIdentifier id = true := by
  induction values generalizing ids with
  | nil => cases ids <;> simp
  | cons value rest ih =>
    simp only [List.mapM_cons, Option.bind_eq_bind, Option.bind_eq_some_iff, Option.pure_def,
      Option.some.injEq, notificationIdentifier?_eq_some]
    constructor
    · rintro ⟨id, ⟨rfl, hid⟩, others, hothers, rfl⟩
      obtain ⟨rfl, hall⟩ := ih.mp hothers
      exact ⟨rfl, List.forall_mem_cons.mpr ⟨hid, hall⟩⟩
    · rintro ⟨hvalues, hall⟩
      cases ids with
      | nil => simp at hvalues
      | cons id others =>
        obtain ⟨hid, hothers⟩ := List.forall_mem_cons.mp hall
        rw [List.map_cons, List.cons.injEq] at hvalues
        exact ⟨id, ⟨hvalues.1, hid⟩, others, ih.mpr ⟨hvalues.2, hothers⟩, rfl⟩

theorem valid_of_validSnapshot {value : Datum} {snapshot : NotificationDeliverySnapshot}
    (h : validSnapshot value = some snapshot) : snapshot.Valid := by
  simp only [validSnapshot, Option.bind_eq_bind, Option.bind_eq_some_iff, Option.guard_eq_some',
    Option.pure_def, Option.some.injEq, exists_const] at h
  obtain ⟨-, status, -, attempts, -, hattempts, values, -, hlength, ids, hids, hdistinct, rfl⟩ := h
  obtain ⟨rfl, hall⟩ := mapM_notificationIdentifier?.mp hids
  exact ⟨hattempts, by simpa using hlength, hall, hdistinct⟩

theorem validSnapshot_datum {snapshot current : NotificationDeliverySnapshot} :
    validSnapshot snapshot.datum = some current ↔ snapshot.Valid ∧ current = snapshot := by
  have hcount : (Datum.number (.whole snapshot.attemptCount)).natural? =
      some snapshot.attemptCount := by
    simp [Datum.natural?]
  have hstatus : deliveryStatus? (.string snapshot.status.text) = some snapshot.status :=
    NotificationDeliveryStatus.ofText?_text _
  constructor
  · intro h
    have hvalid := valid_of_validSnapshot h
    simp only [validSnapshot, Option.bind_eq_bind, Option.bind_eq_some_iff, Option.guard_eq_some',
      Option.pure_def, Option.some.injEq, exists_const] at h
    obtain ⟨-, status, hgot, attempts, hattempts, -, values, hvalues, -, ids, hids, -, rfl⟩ := h
    have hsame : status = snapshot.status := Option.some.inj (hgot.symm.trans hstatus)
    have hsameCount : attempts = snapshot.attemptCount :=
      Option.some.inj (hattempts.symm.trans hcount)
    have hitems : snapshot.processedProviderEventIds.map Datum.string = values :=
      Option.some.inj hvalues
    obtain ⟨rfl, -⟩ := mapM_notificationIdentifier?.mp hids
    have hsameIds := List.map_injective_iff.mpr (fun _ _ => Datum.string.inj) hitems
    have heq : (⟨status, attempts, ids⟩ : NotificationDeliverySnapshot) = snapshot := by
      rw [hsame, hsameCount, ← hsameIds]
    exact ⟨heq ▸ hvalid, heq⟩
  · rintro ⟨h, rfl⟩
    have hids := mapM_notificationIdentifier?.mpr ⟨rfl, h.identifiers⟩
    simp only [validSnapshot, Option.bind_eq_bind, Option.bind_eq_some_iff, Option.guard_eq_some',
      Option.pure_def, Option.some.injEq, exists_const]
    refine ⟨rfl, current.status, hstatus, current.attemptCount, hcount, h.attempts,
      current.processedProviderEventIds.map .string, rfl, ?_, _, hids, h.distinct, rfl⟩
    rw [List.length_map]
    exact h.bounded

theorem deliveryStatus?_text (status : NotificationDeliveryStatus) :
    deliveryStatus? (.string status.text) = some status :=
  NotificationDeliveryStatus.ofText?_text status

/-! ### What a transition does -/

theorem internal_apply {snapshot next : NotificationDeliverySnapshot} {proposed : Datum}
    (h : decideInternalDeliveryTransition snapshot.datum proposed = .ok (.apply next)) :
    snapshot.Valid ∧ next.status ∈ snapshot.status.allowed ∧
      next.status ∉ NotificationDeliveryStatus.provider ∧
      (next.status = .sending → snapshot.attemptCount < 100) ∧
      next.attemptCount = snapshot.attemptCount + (if next.status = .sending then 1 else 0) ∧
      next.processedProviderEventIds = snapshot.processedProviderEventIds := by
  unfold decideInternalDeliveryTransition at h
  split at h
  · rename_i current status hcurrent hstatus
    obtain ⟨hvalid, rfl⟩ := validSnapshot_datum.mp hcurrent
    split at h
    · cases h
    · rename_i hprovider
      split at h
      · cases h
      · rename_i hallowed
        dsimp only at h
        split at h
        · cases h
        · rename_i hcap
          cases h
          simp only [Bool.and_eq_true, beq_iff_eq, decide_eq_true_eq, not_and, not_le] at hcap
          refine ⟨hvalid, not_not.mp hallowed, hprovider, hcap, ?_, rfl⟩
          simp only [beq_iff_eq]
  · cases h

theorem provider_apply {snapshot next : NotificationDeliverySnapshot} {id proposed : Datum} :
    decideProviderDeliveryTransition snapshot.datum id proposed = .ok (.apply next) ↔
      snapshot.Valid ∧ ∃ text status, notificationIdentifier? id = some text ∧
        deliveryStatus? proposed = some status ∧ status ∈ NotificationDeliveryStatus.provider ∧
        status ∈ snapshot.status.allowed ∧ text ∉ snapshot.processedProviderEventIds ∧
        snapshot.processedProviderEventIds.length < 1000 ∧
        next = {
          status := status
          attemptCount := snapshot.attemptCount
          processedProviderEventIds := snapshot.processedProviderEventIds ++ [text] } := by
  constructor
  · intro h
    unfold decideProviderDeliveryTransition at h
    split at h
    · rename_i current text status hcurrent htext hstatus
      obtain ⟨hvalid, rfl⟩ := validSnapshot_datum.mp hcurrent
      split at h
      · cases h
      · rename_i hprovider
        split at h
        · cases h
        · rename_i hfresh
          split at h
          · cases h
          · rename_i hallowed
            split at h
            · cases h
            · rename_i hroom
              cases h
              exact ⟨hvalid, text, status, htext, hstatus, not_not.mp hprovider,
                not_not.mp hallowed, hfresh, Nat.lt_of_not_ge hroom, rfl⟩
    · cases h
  · rintro ⟨hvalid, text, status, htext, hstatus, hprovider, hallowed, hfresh, hroom, rfl⟩
    rw [decideProviderDeliveryTransition, validSnapshot_datum.mpr ⟨hvalid, rfl⟩, htext, hstatus]
    dsimp only
    rw [if_neg (not_not_intro hprovider), if_neg hfresh, if_neg (not_not_intro hallowed),
      if_neg (Nat.not_le_of_lt hroom)]

theorem valid_of_internal {snapshot next : NotificationDeliverySnapshot} {proposed : Datum}
    (h : decideInternalDeliveryTransition snapshot.datum proposed = .ok (.apply next)) :
    next.Valid := by
  obtain ⟨hvalid, -, -, hcap, hcount, hids⟩ := internal_apply h
  have hattempts := hvalid.attempts
  refine ⟨?_, hids ▸ hvalid.bounded, hids ▸ hvalid.identifiers, hids ▸ hvalid.distinct⟩
  rw [hcount]
  split
  · exact hcap ‹_›
  · exact hattempts

theorem valid_of_provider {snapshot next : NotificationDeliverySnapshot} {id proposed : Datum}
    (h : decideProviderDeliveryTransition snapshot.datum id proposed = .ok (.apply next)) :
    next.Valid := by
  obtain ⟨hvalid, text, status, htext, -, -, -, hfresh, hroom, rfl⟩ := provider_apply.mp h
  have hid := (notificationIdentifier?_eq_some.mp htext).2
  constructor
  · exact hvalid.attempts
  · rw [List.length_append, List.length_singleton]
    exact hroom
  · intro id hmem
    rcases List.mem_append.mp hmem with hold | hnew
    · exact hvalid.identifiers id hold
    · rwa [List.mem_singleton.mp hnew]
  · rw [← List.concat_eq_append]
    exact hvalid.distinct.concat hfresh

/-! ### Runs -/

inductive DeliveryInput where
  | internal (proposedStatus : Datum)
  | provider (providerEventId proposedStatus : Datum)

def decideDelivery (current : Datum) : DeliveryInput →
    Except NotificationErrorCode DeliveryTransitionDecision
  | .internal proposedStatus => decideInternalDeliveryTransition current proposedStatus
  | .provider providerEventId proposedStatus =>
    decideProviderDeliveryTransition current providerEventId proposedStatus

def appliedSnapshot? : Except NotificationErrorCode DeliveryTransitionDecision →
    Option NotificationDeliverySnapshot
  | .ok (.apply next) => some next
  | _ => none

def stepDelivery (snapshot : NotificationDeliverySnapshot) (input : DeliveryInput) :
    Except NotificationErrorCode DeliveryTransitionDecision × NotificationDeliverySnapshot :=
  let answer := decideDelivery snapshot.datum input
  (answer, (appliedSnapshot? answer).getD snapshot)

def queuedDelivery : NotificationDeliverySnapshot :=
  { status := .queued, attemptCount := 0, processedProviderEventIds := [] }

/-- The transitions to `SENDING` among the answers. -/
def sendingTransitions
    (answers : List (Except NotificationErrorCode DeliveryTransitionDecision)) : Nat :=
  answers.countP fun answer =>
    match appliedSnapshot? answer with
    | some next => next.status == .sending
    | none => false

def appliedEventIds (inputs : List DeliveryInput)
    (answers : List (Except NotificationErrorCode DeliveryTransitionDecision)) : List String :=
  (inputs.zip answers).filterMap fun entry =>
    match entry.1, appliedSnapshot? entry.2 with
    | .provider providerEventId _, some _ => providerEventId.string?
    | _, _ => none

def NotificationDeliveryStatus.settled (status : NotificationDeliveryStatus) : Bool :=
  status ∈ [.accepted, .delivered, .bounced, .complained, .failedPermanent, .suppressed]

theorem settled_of_allowed : ∀ status next : NotificationDeliveryStatus,
    next ∈ status.allowed → status.settled = true → next.settled = true := by
  decide

theorem not_settled_iff : ∀ status : NotificationDeliveryStatus, status.settled = false ↔
    status ∈ [.queued, .sending, .retryScheduled, .unknown] := by
  decide

theorem provider_ne_sending : ∀ status ∈ NotificationDeliveryStatus.provider,
    status ≠ NotificationDeliveryStatus.sending := by
  decide

theorem allowed_of_applied {snapshot next : NotificationDeliverySnapshot} {input : DeliveryInput}
    (h : decideDelivery snapshot.datum input = .ok (.apply next)) :
    next.status ∈ snapshot.status.allowed := by
  cases input with
  | internal proposed => exact (internal_apply h).2.1
  | provider id proposed =>
    obtain ⟨-, text, status, -, -, -, hallowed, -, -, rfl⟩ := provider_apply.mp h
    exact hallowed

theorem stepDelivery_settled {snapshot : NotificationDeliverySnapshot} (input : DeliveryInput)
    (h : snapshot.status.settled = true) :
    (stepDelivery snapshot input).2.status.settled = true := by
  unfold stepDelivery
  dsimp only
  cases happlied : appliedSnapshot? (decideDelivery snapshot.datum input) with
  | none => exact h
  | some next =>
    unfold appliedSnapshot? at happlied
    split at happlied
    · rename_i found hanswer
      cases happlied
      exact settled_of_allowed _ _ (allowed_of_applied hanswer) h
    · cases happlied

/-- What the inputs so far and their answers say about the snapshot. -/
structure DeliveryHistory (inputs : List DeliveryInput)
    (answers : List (Except NotificationErrorCode DeliveryTransitionDecision))
    (snapshot : NotificationDeliverySnapshot) : Prop where
  length : inputs.length = answers.length
  valid : snapshot.Valid
  attempts : snapshot.attemptCount = sendingTransitions answers
  events : snapshot.processedProviderEventIds = appliedEventIds inputs answers

theorem sendingTransitions_append
    (answers : List (Except NotificationErrorCode DeliveryTransitionDecision))
    (answer : Except NotificationErrorCode DeliveryTransitionDecision) :
    sendingTransitions (answers ++ [answer]) = sendingTransitions answers +
      match appliedSnapshot? answer with
      | some next => if next.status = .sending then 1 else 0
      | none => 0 := by
  unfold sendingTransitions
  rw [List.countP_append, List.countP_singleton]
  cases appliedSnapshot? answer <;> simp

theorem appliedEventIds_append {inputs : List DeliveryInput}
    {answers : List (Except NotificationErrorCode DeliveryTransitionDecision)}
    (hlength : inputs.length = answers.length) (input : DeliveryInput)
    (answer : Except NotificationErrorCode DeliveryTransitionDecision) :
    appliedEventIds (inputs ++ [input]) (answers ++ [answer]) =
      appliedEventIds inputs answers ++ appliedEventIds [input] [answer] := by
  unfold appliedEventIds
  rw [List.zip_append hlength, List.filterMap_append]

theorem DeliveryHistory.step {inputs : List DeliveryInput}
    {answers : List (Except NotificationErrorCode DeliveryTransitionDecision)}
    {snapshot : NotificationDeliverySnapshot} (h : DeliveryHistory inputs answers snapshot)
    (input : DeliveryInput) :
    DeliveryHistory (inputs ++ [input]) (answers ++ [(stepDelivery snapshot input).1])
      (stepDelivery snapshot input).2 := by
  unfold stepDelivery
  dsimp only
  generalize hanswer : decideDelivery snapshot.datum input = answer
  have hlength : (inputs ++ [input]).length = (answers ++ [answer]).length := by
    rw [List.length_append, List.length_append, h.length]
    rfl
  cases happlied : appliedSnapshot? answer with
  | none =>
    have hnone : appliedEventIds [input] [answer] = [] := by
      cases input <;> simp [appliedEventIds, happlied]
    refine ⟨hlength, h.valid, ?_, ?_⟩
    · rw [sendingTransitions_append, happlied]
      exact h.attempts
    · rw [appliedEventIds_append h.length, hnone, List.append_nil]
      exact h.events
  | some next =>
    have happly : answer = .ok (.apply next) := by
      unfold appliedSnapshot? at happlied
      split at happlied
      · cases happlied
        rfl
      · cases happlied
    subst happly
    rw [Option.getD_some]
    cases input with
    | internal proposed =>
      obtain ⟨-, -, -, -, hcount, hids⟩ := internal_apply hanswer
      refine ⟨hlength, valid_of_internal hanswer, ?_, ?_⟩
      · rw [sendingTransitions_append, happlied, hcount, h.attempts]
      · rw [appliedEventIds_append h.length, hids, h.events]
        exact (List.append_nil _).symm
    | provider id proposed =>
      refine ⟨hlength, valid_of_provider hanswer, ?_, ?_⟩
      · obtain ⟨-, text, status, -, -, hprovider, -, -, -, rfl⟩ := provider_apply.mp hanswer
        rw [sendingTransitions_append, happlied, ← h.attempts]
        simp [provider_ne_sending _ hprovider]
      · obtain ⟨-, text, status, htext, -, -, -, -, -, rfl⟩ := provider_apply.mp hanswer
        obtain ⟨rfl, -⟩ := notificationIdentifier?_eq_some.mp htext
        rw [appliedEventIds_append h.length, ← h.events]
        rfl

theorem queuedDelivery_history : DeliveryHistory [] [] queuedDelivery where
  length := rfl
  valid := ⟨by decide, by decide, by simp [queuedDelivery], List.nodup_nil⟩
  attempts := rfl
  events := rfl

/-- No run sends a message again or goes back: attempts and provider events are
counted exactly, and what is settled stays settled. -/
theorem delivery_run (inputs later : List DeliveryInput) :
    let snapshot := Machine.run stepDelivery queuedDelivery inputs
    let answers := Machine.answers stepDelivery queuedDelivery inputs
    validSnapshot snapshot.datum = some snapshot ∧
      snapshot.attemptCount = sendingTransitions answers ∧ snapshot.attemptCount ≤ 100 ∧
      snapshot.processedProviderEventIds = appliedEventIds inputs answers ∧
      (appliedEventIds inputs answers).Nodup ∧
      snapshot.processedProviderEventIds.length ≤ 1000 ∧
      (snapshot.status ∈ [.accepted, .delivered, .bounced, .complained, .failedPermanent, .suppressed] →
        (Machine.run stepDelivery queuedDelivery (inputs ++ later)).status ∉
          [NotificationDeliveryStatus.queued, .sending, .retryScheduled, .unknown]) := by
  have hhistory := Machine.history_induction stepDelivery (P := DeliveryHistory)
    queuedDelivery_history (fun _ _ _ input h => h.step input) inputs
  dsimp only
  refine ⟨validSnapshot_datum.mpr ⟨hhistory.valid, rfl⟩, hhistory.attempts,
    hhistory.valid.attempts, hhistory.events, hhistory.events ▸ hhistory.valid.distinct,
    hhistory.valid.bounded, ?_⟩
  intro hsettled
  rw [← not_settled_iff, Bool.not_eq_false, Machine.run_append]
  exact Machine.run_preserves (P := fun snapshot => snapshot.status.settled = true)
    (fun _ input _ h => stepDelivery_settled input h) (Machine.along_true stepDelivery _ later)
    (decide_eq_true hsettled)

theorem delivery_run_sample :
    (Machine.run stepDelivery queuedDelivery ([.internal (.string "SENDING"),
        .provider (.string "event_1") (.string "ACCEPTED")] ++
      [.internal (.string "SENDING")])).status ∉
        [NotificationDeliveryStatus.queued, .sending, .retryScheduled, .unknown] :=
  (delivery_run [.internal (.string "SENDING"),
    .provider (.string "event_1") (.string "ACCEPTED")]
    [.internal (.string "SENDING")]).2.2.2.2.2.2 (by decide +kernel)

end Outscan

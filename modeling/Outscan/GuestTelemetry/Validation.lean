import Outscan.Basic

/-! Batches of queue outcomes and the checks they pass before they are stored. -/
namespace Outscan

inductive GuestQueueOutcome where
  | committed
  | alreadyCommitted
  | terminalAcknowledged
  | notAcquirableAcknowledged
  | retryLeaseHeld
  | retryPersistence
  | retryContext
  | retryStart
  | retryHeartbeat
  | retrySupervisor
  | retryRejectionSink
  | retryCommit
deriving DecidableEq, Repr

def guestQueueOutcomes : List GuestQueueOutcome :=
  [.committed, .alreadyCommitted, .terminalAcknowledged, .notAcquirableAcknowledged,
    .retryLeaseHeld, .retryPersistence, .retryContext, .retryStart, .retryHeartbeat,
    .retrySupervisor, .retryRejectionSink, .retryCommit]

theorem mem_guestQueueOutcomes (outcome : GuestQueueOutcome) : outcome ∈ guestQueueOutcomes := by
  cases outcome <;> decide

abbrev GuestQueueOutcomeCounts := GuestQueueOutcome → Nat

def guestQueueMaxOutcomeCount : Nat := 2147483647

def emptyGuestQueueOutcomeCounts : GuestQueueOutcomeCounts := fun _ => 0

inductive GuestQueueAlertCode where
  | telemetrySaturated
  | securityPathFailure
  | resultIngressFailure
  | executionFailure
  | dependencyFailure
deriving DecidableEq, Repr

def classifyGuestQueueAlert (counts : GuestQueueOutcomeCounts) (saturated : Bool) :
    Option GuestQueueAlertCode :=
  if saturated then some .telemetrySaturated
  else if 0 < counts .retryRejectionSink then some .securityPathFailure
  else if 0 < counts .retryCommit then some .resultIngressFailure
  else if 0 < counts .retryHeartbeat || 0 < counts .retrySupervisor then some .executionFailure
  else if 0 < counts .retryPersistence || 0 < counts .retryContext || 0 < counts .retryStart then
    some .dependencyFailure
  else none

structure GuestQueueTelemetryBatch where
  batchId : String
  startedAt : Int
  finishedAt : Int
  counts : GuestQueueOutcomeCounts
  counterSaturated : Bool
  alertCode : Option GuestQueueAlertCode

/-- The checks of `validateGuestQueueTelemetryBatch` on a record whose fields
have their types. -/
def validGuestQueueTelemetryBatch (record : GuestQueueTelemetryBatch) : Bool :=
  validId record.batchId && decide (0 ≤ record.startedAt) &&
    decide (record.startedAt ≤ record.finishedAt) &&
    (guestQueueOutcomes.all fun outcome =>
      decide (record.counts outcome ≤ guestQueueMaxOutcomeCount)) &&
    !(guestQueueOutcomes.all fun outcome => decide (record.counts outcome = 0)) &&
    decide (record.alertCode = classifyGuestQueueAlert record.counts record.counterSaturated)

/-- `validateGuestQueueTelemetryBatch`; a batch id of `none` is one that is not
a string. -/
def validateGuestQueueTelemetryBatch (batchId : Option String)
    (record : String → GuestQueueTelemetryBatch) : Option GuestQueueTelemetryBatch :=
  match batchId with
  | none => none
  | some id => if validGuestQueueTelemetryBatch (record id) then some (record id) else none

theorem validGuestQueueTelemetryBatch_iff {record : GuestQueueTelemetryBatch} :
    validGuestQueueTelemetryBatch record = true ↔
      validId record.batchId = true ∧ 0 ≤ record.startedAt ∧
        record.startedAt ≤ record.finishedAt ∧
        (∀ outcome, record.counts outcome ≤ guestQueueMaxOutcomeCount) ∧
        (∃ outcome, record.counts outcome ≠ 0) ∧
        record.alertCode = classifyGuestQueueAlert record.counts record.counterSaturated := by
  have hall : ∀ p : GuestQueueOutcome → Prop,
      (∀ outcome ∈ guestQueueOutcomes, p outcome) ↔ ∀ outcome, p outcome := fun p =>
    ⟨fun h outcome => h outcome (mem_guestQueueOutcomes outcome), fun h outcome _ => h outcome⟩
  simp only [validGuestQueueTelemetryBatch, Bool.and_eq_true, decide_eq_true_eq, List.all_eq_true,
    Bool.not_eq_true', and_assoc, hall, ← Bool.not_eq_true, not_forall, ne_eq]

end Outscan

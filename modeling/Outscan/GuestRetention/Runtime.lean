import Outscan.GuestRetention.Record
import Outscan.Persistence.Retention

/-! The retention cycle: batches until nothing is left to do, added up into one
audit record. -/
namespace Outscan

open Dynamic

def maxBatchesPerCycle : Nat := 100

def integer (value : Datum) (minimum maximum : Nat) : Option Nat :=
  value.natural?.filter fun n => decide (minimum ≤ n) && decide (n ≤ maximum)

/-- A batch result that passed `validSuccessResult`. -/
structure RetentionSuccess where
  observedAt : Nat
  dueScansSelected : Nat
  scansDeleted : Nat
  activeCounterDecrements : Nat
  staleWindowsDeleted : Nat
  inconsistencies : Nat
  moreWork : Bool
deriving DecidableEq, Repr

def batchResultKeys : List String :=
  ["ok", "observed_at_unix_seconds", "due_scans_selected", "scans_deleted",
    "active_counter_decrements", "stale_windows_deleted", "inconsistencies", "more_work",
    "alert_required"]

/-- `validSuccessResult`, with what the cycle reads of the result afterwards. -/
def validSuccessResult (value : Datum) (batchSize : Nat) : Option RetentionSuccess := do
  guard (value.hasExactKeys batchResultKeys = true)
  guard ((value.get "ok").bool? = some true)
  let observedAt ← second (value.get "observed_at_unix_seconds")
  let dueScansSelected ← integer (value.get "due_scans_selected") 0 (batchSize * 2)
  let scansDeleted ← integer (value.get "scans_deleted") 0 (batchSize * 2)
  let activeCounterDecrements ← integer (value.get "active_counter_decrements") 0 (batchSize * 2)
  let staleWindowsDeleted ← integer (value.get "stale_windows_deleted") 0 (batchSize * 2)
  let inconsistencies ← integer (value.get "inconsistencies") 0 (batchSize * 2)
  guard (dueScansSelected ≤ batchSize)
  guard (scansDeleted ≤ dueScansSelected)
  guard (staleWindowsDeleted ≤ batchSize)
  guard (activeCounterDecrements ≤ scansDeleted * 2)
  guard (inconsistencies ≤ scansDeleted * 2)
  let moreWork ← (value.get "more_work").bool?
  guard ((value.get "alert_required").bool? = some (decide (0 < inconsistencies)))
  pure ⟨observedAt, dueScansSelected, scansDeleted, activeCounterDecrements, staleWindowsDeleted,
    inconsistencies, moreWork⟩

/-- `validPruneResult`: the revocations deleted, and whether more are due. -/
def validPruneResult (value : Datum) (batchSize : Nat) : Option (Nat × Bool) := do
  guard (value.hasExactKeys ["ok", "deleted", "more_work"] = true)
  guard ((value.get "ok").bool? = some true)
  let deleted ← integer (value.get "deleted") 0 batchSize
  let moreWork ← (value.get "more_work").bool?
  pure (deleted, moreWork)

/-- The object `runBatch` returns. -/
def GuestRetentionBatchResult.toDatum : GuestRetentionBatchResult → Datum
  | .ok observedAt dueScansSelected scansDeleted activeCounterDecrements staleWindowsDeleted
      inconsistencies moreWork alertRequired =>
    .object [
      ("ok", .bool true),
      ("observed_at_unix_seconds", .bigint observedAt),
      ("due_scans_selected", countDatum dueScansSelected),
      ("scans_deleted", countDatum scansDeleted),
      ("active_counter_decrements", countDatum activeCounterDecrements),
      ("stale_windows_deleted", countDatum staleWindowsDeleted),
      ("inconsistencies", countDatum inconsistencies),
      ("more_work", .bool moreWork),
      ("alert_required", .bool alertRequired)]
  | .invalidRequest => .object [("ok", .bool false), ("code", .string "INVALID_REQUEST")]
  | .unavailable =>
    .object [("ok", .bool false), ("code", .string "GUEST_RETENTION_UNAVAILABLE")]

/-- What the dependencies do in one cycle. The `n`th call of the worker and of the
pruner settles with any value, or fails; the clock is read at the start and at the
end. -/
structure RetentionDependencies where
  worker : Nat → Option Datum
  revocationPruner : Nat → Option Datum
  createRunId : Option String
  startClock : ClockReading
  finishClock : ClockReading

structure RetentionCycleOptions where
  batchSize : Nat
  maxBatches : Nat
deriving DecidableEq, Repr

def validCycleOptions (value : Datum) : Option RetentionCycleOptions := do
  let batchSize ← integer (value.get "batch_size") 1 maxBatchSize
  let maxBatches ← integer (value.get "max_batches") 1 maxBatchesPerCycle
  pure ⟨batchSize, maxBatches⟩

def emptyRecord (runId : String) (startedAt : Nat) : GuestRetentionRunRecord where
  runId := runId
  startedAt := startedAt
  finishedAt := startedAt
  status := .failed
  observedAt := none
  batchCount := 1
  dueScansSelected := 0
  scansDeleted := 0
  activeCounterDecrements := 0
  staleWindowsDeleted := 0
  sessionRevocationsDeleted := 0
  inconsistencies := 0
  moreWork := none
  failureCode := some .unavailable
  alertCode := some .unavailable

namespace GuestRetentionRunRecord

def fail (record : GuestRetentionRunRecord) : GuestRetentionRunRecord :=
  { record with
    status := .failed
    moreWork := none
    failureCode := some .unavailable
    alertCode := some .unavailable }

def addBatch (record : GuestRetentionRunRecord) (result : RetentionSuccess) :
    GuestRetentionRunRecord :=
  { record with
    observedAt := some result.observedAt
    dueScansSelected := record.dueScansSelected + result.dueScansSelected
    scansDeleted := record.scansDeleted + result.scansDeleted
    activeCounterDecrements := record.activeCounterDecrements + result.activeCounterDecrements
    staleWindowsDeleted := record.staleWindowsDeleted + result.staleWindowsDeleted
    inconsistencies := record.inconsistencies + result.inconsistencies }

def addPruned (record : GuestRetentionRunRecord) (deleted : Nat) (moreWork : Bool) :
    GuestRetentionRunRecord :=
  { record with
    sessionRevocationsDeleted := record.sessionRevocationsDeleted + deleted
    moreWork := some moreWork
    failureCode := none
    alertCode := if 0 < record.inconsistencies then some .inconsistency else none
    status := if moreWork then .partialRun else .succeeded }

end GuestRetentionRunRecord

def runBatches (dependencies : RetentionDependencies) (batchSize : Nat) :
    Nat → Nat → GuestRetentionRunRecord → GuestRetentionRunRecord
  | 0, _, record => record
  | left + 1, batch, record =>
    let record := { record with batchCount := batch + 1 }
    match (dependencies.worker batch).bind (validSuccessResult · batchSize) with
    | none => record.fail
    | some result =>
      let record := record.addBatch result
      match (dependencies.revocationPruner batch).bind (validPruneResult · batchSize) with
      | none => record.fail
      | some (deleted, pruneMoreWork) =>
        let moreWork := result.moreWork || pruneMoreWork
        let record := record.addPruned deleted moreWork
        if moreWork then runBatches dependencies batchSize left (batch + 1) record else record

def observedInRun (record : GuestRetentionRunRecord) (finishedAt : Nat) : Bool :=
  record.observedAt.all fun observedAt =>
    decide (record.startedAt ≤ observedAt) && decide (observedAt ≤ finishedAt)

/-- The cycle up to the call of the store: the record it hands over, if it gets
that far. -/
def cycleRecord (dependencies : RetentionDependencies) (options : Datum) :
    Option GuestRetentionRunRecord := do
  let options ← validCycleOptions options
  let startedAt ← nowValue dependencies.startClock
  let runId ← dependencies.createRunId
  guard (validId runId = true)
  let record := runBatches dependencies options.batchSize options.maxBatches 0
    (emptyRecord runId startedAt)
  let finishedAt ← nowValue dependencies.finishClock
  guard (startedAt ≤ finishedAt)
  guard (observedInRun record finishedAt = true)
  pure { record with finishedAt }

inductive GuestRetentionCycleResult where
  | ok (record : GuestRetentionRunRecord) (duplicate : Bool)
  | invalidRetentionRuntime
  | retentionRunStoreUnavailable
deriving DecidableEq, Repr

/-- `runGuestRetentionCycle`; the store answers whether the record was there, or
fails. -/
def runGuestRetentionCycle (dependencies : RetentionDependencies) (options : Datum)
    (recordAndPrune : Datum → Option Bool) : GuestRetentionCycleResult :=
  match cycleRecord dependencies options with
  | none => .invalidRetentionRuntime
  | some record =>
    match recordAndPrune record.toDatum with
    | none => .retentionRunStoreUnavailable
    | some duplicate => .ok record duplicate

end Outscan

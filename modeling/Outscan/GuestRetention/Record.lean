import Outscan.Basic
import Outscan.Library.Datum
import Outscan.Library.ThreeValued

/-! The audit record of a retention run: its validation in the service and the
CHECKs of migrations 0005 and 0008. -/
namespace Outscan

open Dynamic ThreeValued

inductive GuestRetentionRunStatus where
  | succeeded
  | partialRun
  | failed
deriving DecidableEq, Repr

def GuestRetentionRunStatus.text : GuestRetentionRunStatus → String
  | .succeeded => "SUCCEEDED"
  | .partialRun => "PARTIAL"
  | .failed => "FAILED"

inductive GuestRetentionAlertCode where
  | inconsistency
  | unavailable
deriving DecidableEq, Repr

def GuestRetentionAlertCode.text : GuestRetentionAlertCode → String
  | .inconsistency => "GUEST_RETENTION_INCONSISTENCY"
  | .unavailable => "GUEST_RETENTION_UNAVAILABLE"

inductive GuestRetentionFailureCode where
  | unavailable
deriving DecidableEq, Repr

def GuestRetentionFailureCode.text : GuestRetentionFailureCode → String
  | .unavailable => "GUEST_RETENTION_UNAVAILABLE"

structure GuestRetentionRunRecord where
  runId : String
  startedAt : Nat
  finishedAt : Nat
  status : GuestRetentionRunStatus
  observedAt : Option Nat
  batchCount : Nat
  dueScansSelected : Nat
  scansDeleted : Nat
  activeCounterDecrements : Nat
  staleWindowsDeleted : Nat
  sessionRevocationsDeleted : Nat
  inconsistencies : Nat
  moreWork : Option Bool
  failureCode : Option GuestRetentionFailureCode
  alertCode : Option GuestRetentionAlertCode
deriving DecidableEq, Repr

/-- `null` for what is absent. -/
def nullable {α : Type} (datum : α → Datum) : Option α → Datum
  | none => .null
  | some value => datum value

/-- A count as a JavaScript number. -/
def countDatum (count : Nat) : Datum := .number (.whole count)

def GuestRetentionRunRecord.toDatum (record : GuestRetentionRunRecord) : Datum :=
  .object [
    ("run_id", .string record.runId),
    ("started_at_unix_seconds", .bigint record.startedAt),
    ("finished_at_unix_seconds", .bigint record.finishedAt),
    ("status", .string record.status.text),
    ("observed_at_unix_seconds", nullable (fun second : Nat => .bigint second) record.observedAt),
    ("batch_count", countDatum record.batchCount),
    ("due_scans_selected", countDatum record.dueScansSelected),
    ("scans_deleted", countDatum record.scansDeleted),
    ("active_counter_decrements", countDatum record.activeCounterDecrements),
    ("stale_windows_deleted", countDatum record.staleWindowsDeleted),
    ("session_revocations_deleted", countDatum record.sessionRevocationsDeleted),
    ("inconsistencies", countDatum record.inconsistencies),
    ("more_work", nullable .bool record.moreWork),
    ("failure_code", nullable (fun code => .string code.text) record.failureCode),
    ("alert_code", nullable (fun code => .string code.text) record.alertCode)]

/-! ### validateGuestRetentionRunRecord -/

def retentionMaxBatches : Nat := 100
def retentionMaxCount : Nat := 200000

def count (value : Datum) (maximum : Nat) : Option Nat :=
  value.natural?.filter fun n => decide (n ≤ maximum)

def second (value : Datum) : Option Nat :=
  (value.bigint?.filter fun n => decide (0 ≤ n)).map Int.toNat

def isNullDatum : Datum → Bool
  | .null => true
  | _ => false

def retentionRunKeys : List String :=
  ["run_id", "started_at_unix_seconds", "finished_at_unix_seconds", "status",
    "observed_at_unix_seconds", "batch_count", "due_scans_selected", "scans_deleted",
    "active_counter_decrements", "stale_windows_deleted", "session_revocations_deleted",
    "inconsistencies", "more_work", "failure_code", "alert_code"]

def observedWithin (value : Datum) (startedAt finishedAt : Nat) : Bool :=
  match second value with
  | none => false
  | some observedAt => decide (startedAt ≤ observedAt) && decide (observedAt ≤ finishedAt)

def statusAccepted (value : Datum) (startedAt finishedAt inconsistencies : Nat) : Bool :=
  let observedAt := value.get "observed_at_unix_seconds"
  let moreWork := value.get "more_work"
  let failureCode := value.get "failure_code"
  let alertCode := value.get "alert_code"
  let status := (value.get "status").string?
  if status = some "FAILED" then
    (isNullDatum observedAt || observedWithin observedAt startedAt finishedAt) &&
      isNullDatum moreWork &&
      decide (failureCode.string? = some "GUEST_RETENTION_UNAVAILABLE") &&
      decide (alertCode.string? = some "GUEST_RETENTION_UNAVAILABLE")
  else if status = some "SUCCEEDED" ∨ status = some "PARTIAL" then
    observedWithin observedAt startedAt finishedAt &&
      decide (moreWork.bool? = some (decide (status = some "PARTIAL"))) &&
      isNullDatum failureCode &&
      if inconsistencies = 0 then isNullDatum alertCode
      else decide (alertCode.string? = some "GUEST_RETENTION_INCONSISTENCY")
  else false

/-- `validateGuestRetentionRunRecord`; what it returns is a copy. -/
def validateGuestRetentionRunRecord (value : Datum) : Option Datum := do
  guard (value.hasExactKeys retentionRunKeys = true)
  let runId ← (value.get "run_id").string?
  guard (validId runId = true)
  let startedAt ← second (value.get "started_at_unix_seconds")
  let finishedAt ← second (value.get "finished_at_unix_seconds")
  guard (startedAt ≤ finishedAt)
  let batchCount ← count (value.get "batch_count") retentionMaxBatches
  guard (1 ≤ batchCount)
  let _ ← count (value.get "due_scans_selected") retentionMaxCount
  let _ ← count (value.get "scans_deleted") retentionMaxCount
  let _ ← count (value.get "active_counter_decrements") retentionMaxCount
  let _ ← count (value.get "stale_windows_deleted") retentionMaxCount
  let _ ← count (value.get "session_revocations_deleted") retentionMaxCount
  let inconsistencies ← count (value.get "inconsistencies") retentionMaxCount
  guard (statusAccepted value startedAt finishedAt inconsistencies = true)
  pure value

/-! ### The table -/

/-- `guest_retention_run_status_shape`. -/
def retentionRunStatusShape (row : GuestRetentionRunRecord) : Truth :=
  anyOf [
    allOf [known (row.status = .failed), isNull row.moreWork,
      equal row.failureCode (some .unavailable), equal row.alertCode (some .unavailable)],
    allOf [known (row.status = .succeeded ∨ row.status = .partialRun), isNotNull row.observedAt,
      isNull row.failureCode, equal row.moreWork (some (decide (row.status = .partialRun))),
      anyOf [
        allOf [known (row.inconsistencies = 0), isNull row.alertCode],
        allOf [known (0 < row.inconsistencies), equal row.alertCode (some .inconsistency)]]]]

/-- `guest_retention_run_counter_bounds` and the CHECK of `batch_count`. -/
def retentionRunCounterBounds (row : GuestRetentionRunRecord) : Truth :=
  allOf [
    known (1 ≤ row.batchCount ∧ row.batchCount ≤ 100),
    known (row.dueScansSelected ≤ row.batchCount * 1000),
    known (row.scansDeleted ≤ row.dueScansSelected),
    known (row.activeCounterDecrements ≤ row.scansDeleted * 2),
    known (row.staleWindowsDeleted ≤ row.batchCount * 1000),
    known (row.inconsistencies ≤ row.scansDeleted * 2)]

/-- `guest_retention_revocation_counter_bounds`. -/
def retentionRunRevocationBounds (row : GuestRetentionRunRecord) : Truth :=
  known (row.sessionRevocationsDeleted ≤ row.batchCount * 1000)

structure RetentionRunAccepted (row : GuestRetentionRunRecord) : Prop where
  status_shape : Passes (retentionRunStatusShape row)
  counter_bounds : Passes (retentionRunCounterBounds row)
  revocation_bounds : Passes (retentionRunRevocationBounds row)

end Outscan

import Outscan.GuestCrypto.ResultAccess
import Outscan.GuestIdempotency.Decide
import Outscan.GuestResult.View
import Outscan.Persistence.Schema
import Outscan.ResultEnvelope.Codec
import Outscan.ScanProtocol.ResultCommit

/-! The snapshots a reader of results takes of a stored scan and its result. -/
namespace Outscan

open Dynamic

def guestResultAccessSeconds : Nat := 1800
def guestRetentionSeconds : Nat := 86400

def JobState.text : JobState → String
  | .queued => "QUEUED"
  | .running => "RUNNING"
  | .succeeded => "SUCCEEDED"
  | .failed => "FAILED"
  | .cancelled => "CANCELLED"
  | .expired => "EXPIRED"

def jobStates : List JobState := [.queued, .running, .succeeded, .failed, .cancelled, .expired]

/-- `principalScope` is the digest behind `GUEST_SESSION:`. The schema version,
the endpoint operation, the policy and the profile are the same in every record. -/
structure GuestScanRecord where
  guestScanId : String
  canonicalTarget : String
  principalScope : Bytes32
  idempotencyKey : String
  requestHash : Bytes32
  createdAt : Nat
  updatedAt : Nat
  idempotencyExpiresAt : Nat
  deletionDeadline : Nat
  jobState : JobState
  resultTokenMetadata : GuestResultTokenMetadata
  currentAttemptId : Option String
  currentFence : Nat
  acceptedResult : Option ResultSubmissionIdentity

structure GuestResultRecord (node : NodeRuntime) where
  guestScanId : String
  acceptedAttemptId : String
  acceptedFence : Nat
  payloadDigest : Bytes32
  completedAt : Nat
  projection : ProjectionSnapshot node

structure GuestResultReadRecord (node : NodeRuntime) where
  scan : GuestScanRecord
  result : GuestResultRecord node

def storedScanKeys : List String :=
  ["schema_version", "guest_scan_id", "canonical_target", "principal_scope", "endpoint_operation",
    "idempotency_key", "request_hash", "created_at_unix_seconds", "updated_at_unix_seconds",
    "idempotency_expires_at_unix_seconds", "deletion_deadline_unix_seconds", "job_state",
    "policy_id", "policy_version", "profile", "result_token_metadata", "current_attempt_id",
    "current_fence", "accepted_result"]

def resultKeys : List String :=
  ["schema_version", "guest_scan_id", "accepted_attempt_id", "accepted_fence", "payload_digest",
    "completed_at_unix_seconds", "projection"]

def id? (value : Datum) : Option String := value.string?.filter validId

theorem id?_string {id : String} (h : validId id = true) : id? (.string id) = some id := by
  rw [id?, Datum.string?, Option.filter_some, if_pos h]

def hash? (value : Datum) : Option Bytes32 := value.string?.bind parseDigest

@[simp] theorem hash?_text (digest : Bytes32) :
    hash? (.string (digestText digest)) = some digest :=
  parseDigest_eq_some.mpr rfl

def scopePrefix : List Char := "GUEST_SESSION:".toList

/-- `^GUEST_SESSION:sha256:[0-9a-f]{64}$`. -/
def scope? (value : Datum) : Option Bytes32 :=
  value.string?.bind fun text =>
    if text.toList.take scopePrefix.length = scopePrefix then
      parseDigest (String.ofList (text.toList.drop scopePrefix.length))
    else none

def nonNegativeInteger? (value : Datum) : Option Nat :=
  value.natural?.filter fun n => decide (n ≤ maxSafeInteger)

def positiveInteger? (value : Datum) : Option Nat := value.natural?.filter isPositiveSafeInteger

theorem positiveInteger?_whole {n : Nat} (h : isPositiveSafeInteger n = true) :
    positiveInteger? (.number (.whole n)) = some n := by
  rw [positiveInteger?, Datum.natural?, if_pos (Int.natCast_nonneg n), Int.toNat_natCast,
    Option.filter_some, if_pos h]

def acceptedResult? (value : Datum) : Option ResultSubmissionIdentity :=
  if !value.hasExactKeys ["attempt_id", "fence", "payload_digest"] then none
  else do
    let attemptId ← id? (value.get "attempt_id")
    let fence ← positiveInteger? (value.get "fence")
    let payloadDigest ← hash? (value.get "payload_digest")
    some { attemptId, fence, payloadDigest }

/-- What `snapshotGuestScan` asks of the fields together. -/
def consistentScan (scan : GuestScanRecord) : Bool :=
  let accessExpiry := scan.createdAt + guestResultAccessSeconds
  let deletion := scan.createdAt + guestRetentionSeconds
  let token := scan.resultTokenMetadata
  isU64 accessExpiry && isU64 deletion && decide (scan.createdAt ≤ scan.updatedAt) &&
    decide (scan.updatedAt ≤ deletion) && scan.idempotencyExpiresAt == accessExpiry &&
    token.resultAccessExpiresAt == accessExpiry && scan.deletionDeadline == deletion &&
    token.guestScanId == scan.guestScanId &&
    token.resultAccessRevokedAt.all (fun revoked =>
      decide (scan.createdAt ≤ revoked) && decide (revoked ≤ scan.updatedAt)) &&
    scan.currentAttemptId.isNone == (scan.currentFence == 0) &&
    !(scan.jobState == .queued && scan.currentAttemptId.isSome) &&
    !(scan.jobState == .running && scan.currentAttemptId.isNone) &&
    (scan.jobState == .succeeded) == scan.acceptedResult.isSome &&
    scan.acceptedResult.all fun accepted =>
      scan.currentAttemptId == some accepted.attemptId && accepted.fence == scan.currentFence

def snapshotGuestScan (node : NodeRuntime) (value : Datum) : Option GuestScanRecord :=
  if !value.hasExactKeys storedScanKeys then none
  else do
    let schemaVersion ← (value.get "schema_version").number?
    let guestScanId ← id? (value.get "guest_scan_id")
    let canonicalTarget ← (value.get "canonical_target").string?
    let principalScope ← scope? (value.get "principal_scope")
    let operation ← (value.get "endpoint_operation").string?
    let idempotencyKey ← (value.get "idempotency_key").string?
    let requestHash ← hash? (value.get "request_hash")
    let createdAt ← u64? (value.get "created_at_unix_seconds")
    let updatedAt ← u64? (value.get "updated_at_unix_seconds")
    let idempotencyExpiresAt ← u64? (value.get "idempotency_expires_at_unix_seconds")
    let deletionDeadline ← u64? (value.get "deletion_deadline_unix_seconds")
    let jobState ← memberOf jobStates JobState.text (value.get "job_state")
    let policyId ← (value.get "policy_id").string?
    let policyVersion ← (value.get "policy_version").string?
    let profile ← (value.get "profile").string?
    let resultTokenMetadata ←
      snapshotGuestResultTokenMetadata (value.get "result_token_metadata")
    let currentAttemptId ← nullable? id? (value.get "current_attempt_id")
    let currentFence ← nonNegativeInteger? (value.get "current_fence")
    let acceptedResult ← nullable? acceptedResult? (value.get "accepted_result")
    let scan : GuestScanRecord := {
      guestScanId, canonicalTarget, principalScope, idempotencyKey, requestHash, createdAt,
      updatedAt, idempotencyExpiresAt, deletionDeadline, jobState, resultTokenMetadata,
      currentAttemptId, currentFence, acceptedResult }
    if schemaVersion ≠ .whole 1 ||
        (canonicalizeHostname node canonicalTarget).toOption ≠ some canonicalTarget ||
        operation ≠ guestScanEndpointOperation || !validIdempotencyKey idempotencyKey ||
        policyId ≠ guestScanPolicyId || policyVersion ≠ guestScanPolicyVersion ||
        profile ≠ guestScanProfile || !consistentScan scan then none
    else some scan

def snapshotResult (node : NodeRuntime) (value : Datum) : Option (GuestResultRecord node) :=
  if !value.hasExactKeys resultKeys then none
  else do
    let projection ← snapshotSanitizedGuestProjection node (value.get "projection")
    let schemaVersion ← (value.get "schema_version").number?
    let guestScanId ← id? (value.get "guest_scan_id")
    let acceptedAttemptId ← id? (value.get "accepted_attempt_id")
    let acceptedFence ← positiveInteger? (value.get "accepted_fence")
    let payloadDigest ← hash? (value.get "payload_digest")
    let completedAt ← u64? (value.get "completed_at_unix_seconds")
    if schemaVersion ≠ .whole 1 then none
    else
      some { guestScanId, acceptedAttemptId, acceptedFence, payloadDigest, completedAt, projection }

def snapshotGuestResultReadRecord (node : NodeRuntime) (value : Datum) :
    Option (GuestResultReadRecord node) :=
  if !value.hasExactKeys ["scan", "result"] then none
  else do
    let scan ← snapshotGuestScan node (value.get "scan")
    let result ← snapshotResult node (value.get "result")
    let accepted ← scan.acceptedResult
    if scan.jobState ≠ .succeeded || result.guestScanId ≠ scan.guestScanId ||
        result.acceptedAttemptId ≠ accepted.attemptId || result.acceptedFence ≠ accepted.fence ||
        result.payloadDigest ≠ accepted.payloadDigest ||
        decide (result.completedAt < scan.createdAt) ||
        decide (result.completedAt > scan.updatedAt) ||
        decide (result.completedAt ≥ scan.deletionDeadline) then none
    else some { scan, result }

end Outscan

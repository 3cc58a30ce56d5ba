import Outscan.Library.Transaction
import Outscan.ScanProtocol.Fsm
import Outscan.ScannerOutput.Projection

/-! The tables of migrations 0001 to 0003: columns, constraints, triggers and
foreign keys. Times are whole seconds since the epoch, which is what the
`date_trunc` checks demand of every stored time. -/
namespace Outscan

open Relational Transactional

/-- The first second past the range of `timestamptz`; `to_timestamp` raises
from there on. -/
def timestampEnd : Nat := 9224318016000

/-! ### guest_scans -/

def endpointOperationText : String := "POST:/v1/public/scans"
def guestScanPolicyId : String := "outscan-v1"
def guestScanPolicyVersion : String := "1.0.0"
def guestScanProfile : String := "GUEST_SAFE"

structure GuestScan where
  id : String
  canonicalTarget : String
  guestSessionScope : Bytes32
  endpointOperation : String
  idempotencyKey : String
  requestHash : Bytes32
  createdAt : Nat
  updatedAt : Nat
  idempotencyExpiresAt : Nat
  deletionDeadline : Nat
  jobState : JobState
  policyId : String
  policyVersion : String
  profile : String
  resultTokenVersion : Nat
  resultTokenNonce : Bytes32
  resultTokenKeyVersion : Nat
  resultAccessExpiresAt : Nat
  resultAccessRevokedAt : Option Nat
  currentAttemptId : Option String
  currentFence : Nat
  acceptedAttemptId : Option String
  acceptedFence : Option Nat
  acceptedPayloadDigest : Option Bytes32
deriving DecidableEq

namespace GuestScan

/-- `guest_scans_time_contract`. -/
structure TimeContract (row : GuestScan) : Prop where
  created_le : row.createdAt ≤ row.updatedAt
  updated_le : row.updatedAt ≤ row.deletionDeadline
  idempotency : row.idempotencyExpiresAt = row.createdAt + 1800
  access : row.resultAccessExpiresAt = row.idempotencyExpiresAt
  deletion : row.deletionDeadline = row.createdAt + 86400
  revoked : ∀ time ∈ row.resultAccessRevokedAt, row.createdAt ≤ time ∧ time ≤ row.updatedAt

instance (row : GuestScan) : Decidable row.TimeContract :=
  decidable_of_iff
    (row.createdAt ≤ row.updatedAt ∧ row.updatedAt ≤ row.deletionDeadline ∧
      row.idempotencyExpiresAt = row.createdAt + 1800 ∧
      row.resultAccessExpiresAt = row.idempotencyExpiresAt ∧
      row.deletionDeadline = row.createdAt + 86400 ∧
      ∀ time ∈ row.resultAccessRevokedAt, row.createdAt ≤ time ∧ time ≤ row.updatedAt)
    ⟨fun ⟨a, b, c, d, e, f⟩ => ⟨a, b, c, d, e, f⟩,
      fun ⟨a, b, c, d, e, f⟩ => ⟨a, b, c, d, e, f⟩⟩

/-- `guest_scans_accepted_shape`. A comparison with NULL is unknown, and a
CHECK refuses a row only when it is false. -/
def AcceptedShape (row : GuestScan) : Prop :=
  if row.jobState = .succeeded then
    (∀ accepted ∈ row.acceptedAttemptId, ∀ current ∈ row.currentAttemptId,
      accepted = current) ∧
    (∀ fence ∈ row.acceptedFence, fence = row.currentFence) ∧
    row.acceptedPayloadDigest.isSome
  else
    row.acceptedAttemptId = none ∧ row.acceptedFence = none ∧
      row.acceptedPayloadDigest = none

instance (row : GuestScan) : Decidable row.AcceptedShape := by
  unfold AcceptedShape
  infer_instance

def lowerCase (text : String) : Bool := text.toList.all fun c => c.toLower == c

/-- Every CHECK of `guest_scans`, with the ranges of its column types. -/
structure Constraints (row : GuestScan) : Prop where
  id_valid : validId row.id = true
  target_length : row.canonicalTarget.length ≤ 253
  target_lower : lowerCase row.canonicalTarget = true
  target_dot : row.canonicalTarget.toList.getLast? ≠ some '.'
  operation : row.endpointOperation = endpointOperationText
  key_valid : validIdempotencyKey row.idempotencyKey = true
  profile : row.policyId = guestScanPolicyId ∧ row.policyVersion = guestScanPolicyVersion ∧
    row.profile = guestScanProfile
  token_version : row.resultTokenVersion ≤ 9223372036854775807
  key_version : row.resultTokenKeyVersion ≤ uint32Max
  fence_le : row.currentFence ≤ maxSafeInteger
  accepted_fence : ∀ fence ∈ row.acceptedFence, 1 ≤ fence ∧ fence ≤ maxSafeInteger
  time : row.TimeContract
  range : row.deletionDeadline < timestampEnd
  current_pair : (row.currentAttemptId = none ∧ row.currentFence = 0) ∨
    (row.currentAttemptId ≠ none ∧ 0 < row.currentFence)
  queued_shape : row.jobState = .queued → row.currentAttemptId = none
  running_shape : row.jobState = .running → row.currentAttemptId ≠ none
  accepted_shape : row.AcceptedShape

instance : DecidablePred Constraints := fun row =>
  decidable_of_iff
    (validId row.id = true ∧ row.canonicalTarget.length ≤ 253 ∧
      lowerCase row.canonicalTarget = true ∧
      row.canonicalTarget.toList.getLast? ≠ some '.' ∧
      row.endpointOperation = endpointOperationText ∧
      validIdempotencyKey row.idempotencyKey = true ∧
      (row.policyId = guestScanPolicyId ∧ row.policyVersion = guestScanPolicyVersion ∧
        row.profile = guestScanProfile) ∧
      row.resultTokenVersion ≤ 9223372036854775807 ∧ row.resultTokenKeyVersion ≤ uint32Max ∧
      row.currentFence ≤ maxSafeInteger ∧
      (∀ fence ∈ row.acceptedFence, 1 ≤ fence ∧ fence ≤ maxSafeInteger) ∧
      row.TimeContract ∧ row.deletionDeadline < timestampEnd ∧
      ((row.currentAttemptId = none ∧ row.currentFence = 0) ∨
        (row.currentAttemptId ≠ none ∧ 0 < row.currentFence)) ∧
      (row.jobState = .queued → row.currentAttemptId = none) ∧
      (row.jobState = .running → row.currentAttemptId ≠ none) ∧ row.AcceptedShape)
    ⟨fun ⟨a, b, c, d, e, f, g, h, i, j, k, l, m, n, o, p, q⟩ =>
        ⟨a, b, c, d, e, f, g, h, i, j, k, l, m, n, o, p, q⟩,
      fun ⟨a, b, c, d, e, f, g, h, i, j, k, l, m, n, o, p, q⟩ =>
        ⟨a, b, c, d, e, f, g, h, i, j, k, l, m, n, o, p, q⟩⟩

/-- The primary key and `guest_scans_idempotency_unique`. The other unique
constraints contain the primary key. -/
def Apart (a b : GuestScan) : Prop :=
  a.id ≠ b.id ∧
    ¬ (a.guestSessionScope = b.guestSessionScope ∧
      a.endpointOperation = b.endpointOperation ∧ a.idempotencyKey = b.idempotencyKey)

instance : DecidableRel Apart := fun a b =>
  inferInstanceAs (Decidable (a.id ≠ b.id ∧
    ¬ (a.guestSessionScope = b.guestSessionScope ∧
      a.endpointOperation = b.endpointOperation ∧ a.idempotencyKey = b.idempotencyKey)))

end GuestScan

instance : Schema GuestScan String where
  key := GuestScan.id
  Distinct := GuestScan.Apart
  Check := GuestScan.Constraints
  distinct_symm := fun ⟨hid, hkey⟩ =>
    ⟨hid.symm, fun ⟨ha, hb, hc⟩ => hkey ⟨ha.symm, hb.symm, hc.symm⟩⟩
  key_ne := fun h => h.1

/-! ### guest_scan_attempts -/

structure GuestScanAttempt where
  id : String
  guestScanId : String
  attemptNo : Nat
  monotonicFence : Nat
  leaseVersion : Nat
  leaseExpiresAt : Option Nat
  hardDeadline : Nat
  attemptState : AttemptState
  createdAt : Nat
  updatedAt : Nat
  startedAt : Option Nat
  finishedAt : Option Nat
deriving DecidableEq

namespace GuestScanAttempt

/-- `guest_attempts_time_contract`. -/
structure TimeContract (row : GuestScanAttempt) : Prop where
  hard : row.createdAt < row.hardDeadline
  updated : row.createdAt ≤ row.updatedAt
  lease : ∀ time ∈ row.leaseExpiresAt, row.createdAt < time ∧ time ≤ row.hardDeadline
  started : ∀ time ∈ row.startedAt, row.createdAt ≤ time ∧ time ≤ row.updatedAt
  finished : ∀ time ∈ row.finishedAt,
    row.startedAt.getD row.createdAt ≤ time ∧ time ≤ row.updatedAt

instance (row : GuestScanAttempt) : Decidable row.TimeContract :=
  decidable_of_iff
    (row.createdAt < row.hardDeadline ∧ row.createdAt ≤ row.updatedAt ∧
      (∀ time ∈ row.leaseExpiresAt, row.createdAt < time ∧ time ≤ row.hardDeadline) ∧
      (∀ time ∈ row.startedAt, row.createdAt ≤ time ∧ time ≤ row.updatedAt) ∧
      ∀ time ∈ row.finishedAt,
        row.startedAt.getD row.createdAt ≤ time ∧ time ≤ row.updatedAt)
    ⟨fun ⟨a, b, c, d, e⟩ => ⟨a, b, c, d, e⟩, fun ⟨a, b, c, d, e⟩ => ⟨a, b, c, d, e⟩⟩

/-- `guest_attempts_lease_shape`. -/
def LeaseShape (row : GuestScanAttempt) : Prop :=
  match row.attemptState with
  | .created => row.leaseVersion = 0 ∧ row.leaseExpiresAt = none
  | .cancelled => True
  | _ => 0 < row.leaseVersion ∧ row.leaseExpiresAt ≠ none

instance (row : GuestScanAttempt) : Decidable row.LeaseShape := by
  unfold LeaseShape
  split <;> infer_instance

/-- `guest_attempts_started_shape`. -/
def StartedShape (row : GuestScanAttempt) : Prop :=
  match row.attemptState with
  | .created | .leased => row.startedAt = none
  | .cancelled | .superseded => True
  | .running | .succeeded | .failed | .timedOut => row.startedAt ≠ none

instance (row : GuestScanAttempt) : Decidable row.StartedShape := by
  unfold StartedShape
  split <;> infer_instance

/-- Every CHECK of `guest_scan_attempts`, with the ranges of its column types. -/
structure Constraints (row : GuestScanAttempt) : Prop where
  id_valid : validId row.id = true
  number : 0 < row.attemptNo ∧ row.attemptNo ≤ 2147483647
  fence : 1 ≤ row.monotonicFence ∧ row.monotonicFence ≤ maxSafeInteger
  version : row.leaseVersion ≤ maxSafeInteger
  time : row.TimeContract
  range : row.hardDeadline < timestampEnd ∧ row.updatedAt < timestampEnd
  lease_shape : row.LeaseShape
  started_shape : row.StartedShape
  terminal_shape : row.attemptState.terminal = row.finishedAt.isSome
  success : row.attemptState = .succeeded → ∀ finished ∈ row.finishedAt,
    (∀ lease ∈ row.leaseExpiresAt, finished < lease) ∧ finished < row.hardDeadline

instance : DecidablePred Constraints := fun row =>
  decidable_of_iff
    (validId row.id = true ∧ (0 < row.attemptNo ∧ row.attemptNo ≤ 2147483647) ∧
      (1 ≤ row.monotonicFence ∧ row.monotonicFence ≤ maxSafeInteger) ∧
      row.leaseVersion ≤ maxSafeInteger ∧ row.TimeContract ∧
      (row.hardDeadline < timestampEnd ∧ row.updatedAt < timestampEnd) ∧
      row.LeaseShape ∧ row.StartedShape ∧
      row.attemptState.terminal = row.finishedAt.isSome ∧
      (row.attemptState = .succeeded → ∀ finished ∈ row.finishedAt,
        (∀ lease ∈ row.leaseExpiresAt, finished < lease) ∧ finished < row.hardDeadline))
    ⟨fun ⟨a, b, c, d, e, f, g, h, i, j⟩ => ⟨a, b, c, d, e, f, g, h, i, j⟩,
      fun ⟨a, b, c, d, e, f, g, h, i, j⟩ => ⟨a, b, c, d, e, f, g, h, i, j⟩⟩

/-- The primary key, `guest_attempt_number_unique` and
`guest_attempt_fence_unique`. -/
def Apart (a b : GuestScanAttempt) : Prop :=
  a.id ≠ b.id ∧ ¬ (a.guestScanId = b.guestScanId ∧ a.attemptNo = b.attemptNo) ∧
    ¬ (a.guestScanId = b.guestScanId ∧ a.monotonicFence = b.monotonicFence)

instance : DecidableRel Apart := fun a b =>
  inferInstanceAs (Decidable (a.id ≠ b.id ∧
    ¬ (a.guestScanId = b.guestScanId ∧ a.attemptNo = b.attemptNo) ∧
    ¬ (a.guestScanId = b.guestScanId ∧ a.monotonicFence = b.monotonicFence)))

end GuestScanAttempt

instance : Schema GuestScanAttempt String where
  key := GuestScanAttempt.id
  Distinct := GuestScanAttempt.Apart
  Check := GuestScanAttempt.Constraints
  distinct_symm := fun ⟨hid, hno, hfence⟩ =>
    ⟨hid.symm, fun ⟨ha, hb⟩ => hno ⟨ha.symm, hb.symm⟩,
      fun ⟨ha, hb⟩ => hfence ⟨ha.symm, hb.symm⟩⟩
  key_ne := fun h => h.1

/-! ### guest_results -/

structure GuestResult where
  guestScanId : String
  acceptedAttemptId : String
  acceptedFence : Nat
  payloadDigest : Bytes32
  completedAt : Nat
  projection : SanitizedGuestProjection
deriving DecidableEq

/-- `guest_results_projection_shape` and the ranges of the column types. -/
structure GuestResult.Constraints (row : GuestResult) : Prop where
  projection_shape : row.projection.jsonbText.utf8ByteSize ≤ 262144
  range : row.completedAt < timestampEnd

instance : DecidablePred GuestResult.Constraints := fun row =>
  decidable_of_iff
    (row.projection.jsonbText.utf8ByteSize ≤ 262144 ∧ row.completedAt < timestampEnd)
    ⟨fun ⟨a, b⟩ => ⟨a, b⟩, fun ⟨a, b⟩ => ⟨a, b⟩⟩

instance : Schema GuestResult String where
  key := GuestResult.guestScanId
  Distinct := fun a b => a.guestScanId ≠ b.guestScanId
  Check := GuestResult.Constraints
  distinct_symm := fun h => h.symm
  key_ne := id

/-! ### guest_abuse_window_counters and guest_abuse_active_counters -/

inductive ScopeKind where
  | session | network
deriving DecidableEq, Repr

inductive WindowDimension where
  | sessionBurst | sessionDaily | networkBurst | networkDaily
deriving DecidableEq, Repr

def WindowDimension.scopeKind : WindowDimension → ScopeKind
  | .sessionBurst | .sessionDaily => .session
  | .networkBurst | .networkDaily => .network

/-- `'10 minutes'` for a burst and `'24 hours'` for a daily window. -/
def WindowDimension.maximumInterval : WindowDimension → Nat
  | .sessionBurst | .networkBurst => 600
  | .sessionDaily | .networkDaily => 86400

inductive ActiveDimension where
  | sessionActive | networkActive
deriving DecidableEq, Repr

def ActiveDimension.scopeKind : ActiveDimension → ScopeKind
  | .sessionActive => .session
  | .networkActive => .network

structure WindowCounter where
  scopeKind : ScopeKind
  scopeDigest : Bytes32
  dimension : WindowDimension
  usageCount : Nat
  resetAt : Nat
  updatedAt : Nat
deriving DecidableEq

structure WindowCounter.Constraints (row : WindowCounter) : Prop where
  usage : row.usageCount ≤ 1000000
  scope_shape : row.scopeKind = row.dimension.scopeKind
  after_update : row.updatedAt < row.resetAt
  window : row.resetAt ≤ row.updatedAt + row.dimension.maximumInterval
  range : row.resetAt < timestampEnd

instance : DecidablePred WindowCounter.Constraints := fun row =>
  decidable_of_iff
    (row.usageCount ≤ 1000000 ∧ row.scopeKind = row.dimension.scopeKind ∧
      row.updatedAt < row.resetAt ∧
      row.resetAt ≤ row.updatedAt + row.dimension.maximumInterval ∧
      row.resetAt < timestampEnd)
    ⟨fun ⟨a, b, c, d, e⟩ => ⟨a, b, c, d, e⟩, fun ⟨a, b, c, d, e⟩ => ⟨a, b, c, d, e⟩⟩

abbrev WindowKey := ScopeKind × Bytes32 × WindowDimension

instance : Schema WindowCounter WindowKey where
  key := fun row => (row.scopeKind, row.scopeDigest, row.dimension)
  Distinct := fun a b => (a.scopeKind, a.scopeDigest, a.dimension) ≠
    (b.scopeKind, b.scopeDigest, b.dimension)
  Check := WindowCounter.Constraints
  distinct_symm := fun h => h.symm
  key_ne := id

structure ActiveCounter where
  scopeKind : ScopeKind
  scopeDigest : Bytes32
  dimension : ActiveDimension
  activeCount : Nat
  updatedAt : Nat
deriving DecidableEq

structure ActiveCounter.Constraints (row : ActiveCounter) : Prop where
  active : row.activeCount ≤ 1000000
  scope_shape : row.scopeKind = row.dimension.scopeKind
  range : row.updatedAt < timestampEnd

instance : DecidablePred ActiveCounter.Constraints := fun row =>
  decidable_of_iff
    (row.activeCount ≤ 1000000 ∧ row.scopeKind = row.dimension.scopeKind ∧
      row.updatedAt < timestampEnd)
    ⟨fun ⟨a, b, c⟩ => ⟨a, b, c⟩, fun ⟨a, b, c⟩ => ⟨a, b, c⟩⟩

abbrev ActiveKey := ScopeKind × Bytes32 × ActiveDimension

instance : Schema ActiveCounter ActiveKey where
  key := fun row => (row.scopeKind, row.scopeDigest, row.dimension)
  Distinct := fun a b => (a.scopeKind, a.scopeDigest, a.dimension) ≠
    (b.scopeKind, b.scopeDigest, b.dimension)
  Check := ActiveCounter.Constraints
  distinct_symm := fun h => h.symm
  key_ne := id

/-! ### guest_abuse_reservations -/

inductive ReleaseReason where
  | terminalResult | expiredReplacement | cancelled | failed | expired | deletion
deriving DecidableEq, Repr

/-- A released reservation carries time and reason together, which is
`guest_abuse_reservation_release_pair`. -/
structure Reservation where
  guestScanId : String
  guestSessionScope : Bytes32
  networkSignalDigest : Bytes32
  reservedAt : Nat
  deletionDeadline : Nat
  released : Option (Nat × ReleaseReason)
deriving DecidableEq

/-- `guest_abuse_reservation_time`. -/
structure Reservation.Constraints (row : Reservation) : Prop where
  deadline : row.deletionDeadline = row.reservedAt + 86400
  released : ∀ release ∈ row.released,
    row.reservedAt ≤ release.1 ∧ release.1 ≤ row.deletionDeadline
  range : row.deletionDeadline < timestampEnd

instance : DecidablePred Reservation.Constraints := fun row =>
  decidable_of_iff
    (row.deletionDeadline = row.reservedAt + 86400 ∧
      (∀ release ∈ row.released,
        row.reservedAt ≤ release.1 ∧ release.1 ≤ row.deletionDeadline) ∧
      row.deletionDeadline < timestampEnd)
    ⟨fun ⟨a, b, c⟩ => ⟨a, b, c⟩, fun ⟨a, b, c⟩ => ⟨a, b, c⟩⟩

instance : Schema Reservation String where
  key := Reservation.guestScanId
  Distinct := fun a b => a.guestScanId ≠ b.guestScanId
  Check := Reservation.Constraints
  distinct_symm := fun h => h.symm
  key_ne := id

end Outscan

import Outscan.GuestIdempotency.Decide
import Outscan.Persistence.Abuse
import Outscan.Target.Hostname

/-! Creating a Guest scan, or replaying or replacing the one that is there. -/
namespace Outscan

open Relational Transactional

def maxPostgresUnixSeconds : Nat := 253402300799
def retentionSeconds : Nat := 86400

structure PersistGuestScanRequest where
  guestSessionScope : Bytes32
  idempotencyKey : String
  requestHash : Bytes32
  canonicalTarget : String
  networkSignalDigests : List Bytes32
  trustedNow : Int

/-- What the dependencies deliver during one call. `none` is a function that
throws or, for the nonce, returns something else than bytes. -/
structure GuestPersistenceDependencies where
  tokenKeyring : GuestResultTokenKeyring
  activeTokenKeyVersion : Nat
  createGuestScanId : Option String
  createTokenNonce : Option (List UInt8)
  version_le : activeTokenKeyVersion ≤ uint32Max

inductive PersistGuestScanResult where
  | ok (action : Option CreateAction) (guestScanId resultToken : String)
      (resultAccessExpiresAt expiresInSeconds : Nat)
  | failure (code : GuestIdempotencyError)
  | unavailable
  | abuseLimitExceeded (abuseCode : GuestAbuseDenyCode) (retryAfterSeconds : Option Nat)
deriving DecidableEq, Repr

/-- The request after its snapshot, where the time is a natural number. -/
structure SnapshotRequest where
  guestSessionScope : Bytes32
  idempotencyKey : String
  requestHash : Bytes32
  canonicalTarget : String
  networkSignalDigests : List Bytes32
  now : Nat
deriving DecidableEq

/-- `snapshotPersistGuestScanRequest`. The digests match their patterns by
type. -/
def snapshotPersistGuestScanRequest (node : NodeRuntime) (request : PersistGuestScanRequest) :
    Option SnapshotRequest :=
  if validIdempotencyKey request.idempotencyKey ∧ request.networkSignalDigests ≠ [] ∧
      request.networkSignalDigests.length ≤ 3 ∧ request.networkSignalDigests.Nodup ∧
      0 ≤ request.trustedNow ∧
      request.trustedNow + retentionSeconds ≤ maxPostgresUnixSeconds ∧
      canonicalizeHostname node request.canonicalTarget = .ok request.canonicalTarget then
    some ⟨request.guestSessionScope, request.idempotencyKey, request.requestHash,
      request.canonicalTarget, request.networkSignalDigests, request.trustedNow.toNat⟩
  else none

/-- `LOOKUP_SQL`. -/
def Tables.lookup (t : Tables) (scope : Bytes32) (idempotencyKey : String) :
    Option GuestScan :=
  t.guestScans.rows.find? fun row => decide (row.guestSessionScope = scope) &&
    decide (row.endpointOperation = guestScanEndpointOperation) &&
    decide (row.idempotencyKey = idempotencyKey)

def mapGuestIdempotencyRow (row : GuestScan) : Option GuestIdempotencyRecord :=
  if row.resultTokenKeyVersion ≤ maxSafeInteger then
    some {
      principalScope := row.guestSessionScope
      endpointOperation := row.endpointOperation
      idempotencyKey := row.idempotencyKey
      requestHash := row.requestHash
      createdAt := row.createdAt
      idempotencyExpiresAt := row.idempotencyExpiresAt
      tokenMetadata := {
        guestScanId := row.id
        tokenVersion := row.resultTokenVersion
        tokenNonce := row.resultTokenNonce
        keyVersion := row.resultTokenKeyVersion
        resultAccessExpiresAt := row.idempotencyExpiresAt
        resultAccessRevokedAt := row.resultAccessRevokedAt } }
  else none

def existingRecord (found : Option GuestScan) : ExistingRecord :=
  match found with
  | none => .absent
  | some row =>
    match mapGuestIdempotencyRow row with
    | none => .malformed
    | some record => .record record

def tokenMaterial (node : NodeRuntime) (dependencies : GuestPersistenceDependencies)
    (guestScanId : String) (expiresAt : Nat) : Option (String × Bytes32) := do
  let nonceValue ← dependencies.createTokenNonce
  let key ← dependencies.tokenKeyring dependencies.activeTokenKeyVersion
  let nonce ← Bytes32.ofBytes? nonceValue
  if !validId guestScanId then none
  let token ← deriveGuestResultToken node
    { guestScanId, tokenVersion := 1, tokenNonce := nonce,
      keyVersion := dependencies.activeTokenKeyVersion, resultAccessExpiresAt := expiresAt,
      resultAccessRevokedAt := none } key
  return (token, nonce)

/-- The row `INSERT_SQL` writes. -/
def newGuestScan (request : SnapshotRequest) (guestScanId : String) (nonce : Bytes32)
    (keyVersion : Nat) : GuestScan where
  id := guestScanId
  canonicalTarget := request.canonicalTarget
  guestSessionScope := request.guestSessionScope
  endpointOperation := guestScanEndpointOperation
  idempotencyKey := request.idempotencyKey
  requestHash := request.requestHash
  createdAt := request.now
  updatedAt := request.now
  idempotencyExpiresAt := request.now + 1800
  deletionDeadline := request.now + 86400
  jobState := .queued
  policyId := guestScanPolicyId
  policyVersion := guestScanPolicyVersion
  profile := guestScanProfile
  resultTokenVersion := 1
  resultTokenNonce := nonce
  resultTokenKeyVersion := keyVersion
  resultAccessExpiresAt := request.now + 1800
  resultAccessRevokedAt := none
  currentAttemptId := none
  currentFence := 0
  acceptedAttemptId := none
  acceptedFence := none
  acceptedPayloadDigest := none

/-- `DELETE FROM guest_scans WHERE id = $1`, with its row count. -/
def deleteGuestScan (id : String) : Sql Nat := do
  let t ← get
  set (t.deleteGuestScan id)
  pure (t.guestScans.rows.countP fun row => decide (row.id = id))

/-- The branch `REPLACE_EXPIRED`: release and delete the old scan. -/
def removeExpired (existing : Option GuestScan) (now : Nat) : CreateAction → Sql Unit
  | .create => pure ()
  | .replaceExpired => do
    let id := (existing.map GuestScan.id).getD ""
    let released ← releaseGuestAbuseReservation id now .expiredReplacement
    Tx.ensure (released = true) (.thrown .guestAbuseReleaseInconsistent)
    let removed ← deleteGuestScan id
    Tx.ensure (removed = 1) (.thrown .guestPersistenceInconsistent)

def createScan (request : SnapshotRequest) (dependencies : GuestPersistenceDependencies)
    (existing : Option GuestScan) (action : CreateAction) (guestScanId token : String)
    (nonce : Bytes32) : Sql (Verdict PersistGuestScanResult) := do
  removeExpired existing request.now action
  insertGuestScan (newGuestScan request guestScanId nonce dependencies.activeTokenKeyVersion)
  let abuse ← reserveGuestAbuseCounters
    ⟨guestScanId, request.guestSessionScope, request.networkSignalDigests, request.now⟩
  match abuse with
  | .invalidAbuseContext => pure (.rollback .unavailable)
  | .deny code retryAfterSeconds =>
    pure (.rollback (.abuseLimitExceeded code retryAfterSeconds))
  | .allowNewScan =>
    pure (.commit (.ok (some action) guestScanId token
      (request.now + guestIdempotencyWindowSeconds) guestIdempotencyWindowSeconds))

/-- The transaction of `createOrReplay`. -/
def createOrReplayBody (node : NodeRuntime) (dependencies : GuestPersistenceDependencies)
    (request : SnapshotRequest) : Sql (Verdict PersistGuestScanResult) := do
  let t ← get
  let existing := t.lookup request.guestSessionScope request.idempotencyKey
  match decideGuestScanIdempotency node
      ⟨request.guestSessionScope, request.idempotencyKey, request.requestHash, request.now⟩
      (existingRecord existing) dependencies.tokenKeyring with
  | .deny code => pure (.commit (.failure code))
  | .replay guestScanId token resultAccessExpiresAt expiresInSeconds =>
    pure (.commit (.ok none guestScanId token resultAccessExpiresAt expiresInSeconds))
  | .proceed action =>
    match dependencies.createGuestScanId with
    | none => throwing .dependency
    | some guestScanId =>
      match tokenMaterial node dependencies guestScanId
          (request.now + guestIdempotencyWindowSeconds) with
      | none => pure (.rollback (.failure .resultTokenUnavailable))
      | some (token, nonce) =>
        createScan request dependencies existing action guestScanId token nonce

def createOrReplay (node : NodeRuntime) (dependencies : GuestPersistenceDependencies)
    (request : PersistGuestScanRequest) (db : Database) : PersistGuestScanResult × Database :=
  match snapshotPersistGuestScanRequest node request with
  | none => (.failure .invalidRequest, db)
  | some request => atomically .unavailable (createOrReplayBody node dependencies request) db

end Outscan

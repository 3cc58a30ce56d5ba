import Outscan.Library.Run
import Outscan.Persistence.Cancel
import Outscan.Persistence.ResultCommit
import Outscan.Persistence.Retention

/-! The service as one machine over its database: every call of any worker is
one atomic step, and clock readings, fresh ids and locks are inputs. -/
namespace Outscan

inductive Call where
  | createOrReplay (dependencies : GuestPersistenceDependencies)
      (request : PersistGuestScanRequest)
  | acquire (guestScanId : String) (createAttemptId : Option String) (clock : ClockReading)
  | start (command : LeaseCommand) (clock : ClockReading)
  | renew (command : LeaseCommand) (clock : ClockReading)
  | commit (result : Option AuthenticatedResult) (transactionNow : TransactionTime)
  | cancel (guestScanId : String) (clock : ClockReading)
  | runBatch (batchSize : Nat) (clock : ClockReading) (locked : LockedRows)
  /-- the operator's UPDATE of `guest_abuse_control` -/
  | setServiceState (state : ServiceState)

inductive Answer where
  | createOrReplay (result : PersistGuestScanResult)
  | acquire (result : AcquireGuestLeaseResult)
  | start (result : StartGuestAttemptResult)
  | renew (result : RenewGuestLeaseResult)
  | commit (result : CommitGuestResultResult)
  | cancel (result : CancelGuestScanResult)
  | runBatch (result : GuestRetentionBatchResult)
  | done
deriving DecidableEq

def setServiceState (state : ServiceState) (db : Database) : Database :=
  ⟨{ db.val with guestAbuseControl := some state },
    ⟨db.property.current, db.property.accepted, db.property.attempt, db.property.result,
      db.property.reservation⟩⟩

def exec (node : NodeRuntime) (db : Database) : Call → Answer × Database
  | .createOrReplay dependencies request =>
    (createOrReplay node dependencies request db).map .createOrReplay id
  | .acquire guestScanId createAttemptId clock =>
    (acquire guestScanId createAttemptId clock db).map .acquire id
  | .start command clock => (start command clock db).map .start id
  | .renew command clock => (renew command clock db).map .renew id
  | .commit result transactionNow => (commit result transactionNow db).map .commit id
  | .cancel guestScanId clock => (cancel guestScanId clock db).map .cancel id
  | .runBatch batchSize clock locked => (runBatch batchSize clock locked db).map .runBatch id
  | .setServiceState state => (.done, setServiceState state db)

def Reachable (node : NodeRuntime) (db : Database) : Prop :=
  Machine.Reachable (exec node) Database.initial db

/-! ### A small service

One token key and one network. The two HMAC values are those of HMAC-SHA256 for
the token messages of the two scans. -/

def sampleKey : List UInt8 := List.replicate 32 7

def sampleMetadata (guestScanId : String) : GuestResultTokenMetadata :=
  ⟨guestScanId, 1, Bytes32.fill 3, 1, 2800, none⟩

def sampleNode : NodeRuntime where
  domainToASCII := some
  isIP := fun _ => 0
  hmacSha256 := fun key message =>
    if key = sampleKey ∧
        encodeGuestResultTokenMessage (sampleMetadata "scan-1") = some message then
      ⟨[121, 125, 125, 216, 244, 142, 36, 37, 196, 204, 134, 238, 165, 71, 205, 153, 193, 47, 95,
        40, 69, 168, 129, 132, 25, 121, 49, 46, 179, 127, 9, 169], rfl⟩
    else if key = sampleKey ∧
        encodeGuestResultTokenMessage (sampleMetadata "scan-2") = some message then
      ⟨[84, 183, 145, 204, 97, 223, 86, 253, 188, 188, 57, 37, 100, 190, 150, 146, 32, 225, 238,
        75, 75, 176, 192, 127, 221, 116, 56, 231, 167, 53, 54, 63], rfl⟩
    else Bytes32.fill 0

def sampleDependencies (guestScanId : String) : GuestPersistenceDependencies where
  tokenKeyring := fun version => if version = 1 then some sampleKey else none
  activeTokenKeyVersion := 1
  createGuestScanId := some guestScanId
  createTokenNonce := some (List.replicate 32 3)
  version_le := by decide

/-- The request of a session for `example.com`. -/
def sampleRequest (session : UInt8) (now : Int) : PersistGuestScanRequest :=
  ⟨Bytes32.fill session, "key", Bytes32.fill 2, "example.com", [Bytes32.fill 4], now⟩

theorem sampleJob_valid : validId "scan-1" = true := by decide

theorem sampleSubmission_valid (digest : Bytes32) :
    hasValidIdentity ⟨"attempt-1", 1, digest⟩ = true := by
  have hvalid : (validId "attempt-1" && isPositiveSafeInteger 1) = true := by decide
  exact hvalid

/-- A result for `scan-1` under its first attempt. -/
def sampleResult (digest : UInt8) : AuthenticatedResult where
  jobId := "scan-1"
  submission := ⟨"attempt-1", 1, Bytes32.fill digest⟩
  projection := {
    canonicalHost := "example.com"
    posture := [⟨.dnsDnssec, .pass⟩]
    potentialRiskCount := 1
    coverage := [⟨.dnsDomainPosture, .success, .complete⟩]
    warningCount := 0
    durationMs := 1200
    requestCount := 3
    posture_nodup := by decide
    risk_le := by decide
    coverage_nodup := by decide
    warning_le := by decide
    duration_le := by decide
    request_le := by decide }
  jobId_valid := sampleJob_valid
  submission_valid := sampleSubmission_valid _

/-- Session 1 creates `scan-1`, and a worker leases and starts it. -/
def sampleCalls : List Call :=
  [.createOrReplay (sampleDependencies "scan-1") (sampleRequest 1 1000),
    .acquire "scan-1" (some "attempt-1") (some 1001),
    .start ⟨"scan-1", "attempt-1", 1, 1⟩ (some 1002)]

def sampleDatabase : Database := Machine.run (exec sampleNode) Database.initial sampleCalls

theorem sampleDatabase_reachable : Reachable sampleNode sampleDatabase := ⟨sampleCalls, rfl⟩

end Outscan

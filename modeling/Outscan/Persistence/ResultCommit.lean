import Outscan.Persistence.Abuse
import Outscan.ScanProtocol.ResultCommit

/-! Committing an authenticated result. -/
namespace Outscan

open Relational Transactional

/-- What `commit` holds once the envelope has been verified and its payload
brought into canonical form: the identity fields have passed `validHeader`. -/
structure AuthenticatedResult where
  jobId : String
  submission : ResultSubmissionIdentity
  projection : SanitizedGuestProjection
  jobId_valid : validId jobId = true
  submission_valid : hasValidIdentity submission = true

/-- The clock of the database at BEGIN, in whole seconds. -/
abbrev TransactionTime := Int

inductive CommitRejectionCode where
  | resultSubmissionRejected
  | denied (code : ResultCommitDenyCode)
  | unavailable
deriving DecidableEq, Repr

inductive CommitGuestResultResult where
  | primaryCommit
  | alreadyCommitted
  | failure (code : CommitRejectionCode) (emitSecurityAudit : Bool)
deriving DecidableEq, Repr

structure LockedResultState where
  snapshot : ResultCommitSnapshot
  canonicalTarget : String
  now : Nat

def safePositiveInteger (value : Int) : Option Nat :=
  if 0 < value ∧ value ≤ (maxSafeInteger : Int) then some value.toNat else none

/-- The accepted identity of a row: all three columns or none of them. -/
def mapAcceptedResult (scan : GuestScan) : Option (Option ResultSubmissionIdentity) :=
  match scan.acceptedAttemptId, scan.acceptedFence, scan.acceptedPayloadDigest with
  | none, none, none => some none
  | some attemptId, some fence, some payloadDigest =>
    (safePositiveInteger fence).map fun fence => some ⟨attemptId, fence, payloadDigest⟩
  | _, _, _ => none

def mapLockedState (scan : GuestScan) (attempt : GuestScanAttempt)
    (transactionNow : TransactionTime) : Option LockedResultState := do
  let currentAttemptId ← scan.currentAttemptId
  let currentFence ← safePositiveInteger scan.currentFence
  let leaseExpiresAt ← attempt.leaseExpiresAt.bind fun time => safePositiveInteger time
  let hardDeadline ← safePositiveInteger attempt.hardDeadline
  let now ← safePositiveInteger transactionNow
  let acceptedResult ← mapAcceptedResult scan
  return {
    snapshot := {
      jobState := scan.jobState, currentAttemptId, currentFence,
      attemptState := attempt.attemptState, leaseExpiresAt, hardDeadline, acceptedResult }
    canonicalTarget := scan.canonicalTarget
    now }

/-- `LOCK_CURRENT_RESULT_STATE_SQL`: the scan joined with its current attempt. -/
def Tables.lockedRow (t : Tables) (jobId : String) : Option (GuestScan × GuestScanAttempt) := do
  let scan ← t.guestScans.find? jobId
  let attemptId ← scan.currentAttemptId
  let attempt ← t.guestScanAttempts.find? attemptId
  if attempt.guestScanId = scan.id ∧ attempt.monotonicFence = scan.currentFence then
    return (scan, attempt)
  else none

def succeedAttempt (now : Nat) : Edit GuestScanAttempt :=
  attemptEdit (fun row => { row with attemptState := .succeeded, finishedAt := some now,
                                     updatedAt := now })
    (fun _ => rfl) (fun _ => rfl) (fun _ => rfl) (fun _ => rfl)

def succeedScan (submission : ResultSubmissionIdentity) (now : Nat) : Edit GuestScan :=
  scanEdit (fun row => { row with jobState := .succeeded,
                                  acceptedAttemptId := some submission.attemptId,
                                  acceptedFence := some submission.fence,
                                  acceptedPayloadDigest := some submission.payloadDigest,
                                  updatedAt := now })
    (fun _ => rfl) (fun _ => rfl) (fun _ => rfl) (fun _ => rfl)

def writeResult (result : AuthenticatedResult) (now : Nat) : Sql Unit := do
  let submission := result.submission
  let _ ← updateGuestScanAttempt .resultCommitCas result.jobId submission.attemptId
    (fun row => row.monotonicFence = submission.fence ∧ row.attemptState = .running ∧
      (∀ lease ∈ row.leaseExpiresAt, now < lease) ∧ row.leaseExpiresAt ≠ none ∧
      now < row.hardDeadline) (succeedAttempt now)
  let _ ← updateGuestScan .resultCommitCas result.jobId
    (fun row => row.jobState = .running ∧ row.currentAttemptId = some submission.attemptId ∧
      row.currentFence = submission.fence ∧ row.acceptedAttemptId = none ∧
      row.acceptedFence = none ∧ row.acceptedPayloadDigest = none) (succeedScan submission now)
  insertGuestResult ⟨result.jobId, submission.attemptId, submission.fence,
    submission.payloadDigest, now, result.projection⟩
  let released ← releaseGuestAbuseReservation result.jobId now .terminalResult
  Tx.ensure (released = true) (.thrown .guestAbuseReleaseInconsistent)

/-- The transaction of `persistResult`. -/
def persistResultBody (result : AuthenticatedResult) (transactionNow : TransactionTime) :
    Sql (Verdict CommitGuestResultResult) := do
  let t ← get
  match (t.lockedRow result.jobId).bind fun (scan, attempt) =>
      mapLockedState scan attempt transactionNow with
  | none => pure (.commit (.failure (.denied .invalidState) true))
  | some state =>
    match decideResultCommit state.snapshot result.submission state.now with
    | .deny code emitSecurityAudit =>
      pure (.commit (.failure (.denied code) emitSecurityAudit))
    | .alreadyCommitted => pure (.commit .alreadyCommitted)
    | .primaryCommit =>
      if result.projection.canonicalHost ≠ state.canonicalTarget then
        pure (.rollback (.failure .resultSubmissionRejected true))
      else do
        writeResult result state.now
        pure (.commit .primaryCommit)

/-- `commit`; no authenticated result stands for a submission that the envelope
or the canonical form refused. -/
def commit (result : Option AuthenticatedResult) (transactionNow : TransactionTime)
    (db : Database) : CommitGuestResultResult × Database :=
  match result with
  | none => (.failure .resultSubmissionRejected true, db)
  | some result =>
    atomically (.failure .unavailable false) (persistResultBody result transactionNow) db

end Outscan

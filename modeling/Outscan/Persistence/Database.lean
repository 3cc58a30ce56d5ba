import Outscan.GuestAbuse.Decide
import Outscan.Persistence.Schema

/-! The database as one state: all tables, the triggers behind INSERT and
UPDATE, the foreign keys, and what a transaction does to them. -/
namespace Outscan

open Relational Transactional

/-- `guestAbuseControl` is the singleton row of `guest_abuse_control`. -/
structure Tables where
  guestScans : Table GuestScan
  guestScanAttempts : Table GuestScanAttempt
  guestResults : Table GuestResult
  guestAbuseControl : Option ServiceState
  windowCounters : Table WindowCounter
  activeCounters : Table ActiveCounter
  reservations : Table Reservation

def Tables.initial : Tables :=
  ⟨Table.empty, Table.empty, Table.empty, some .opened, Table.empty, Table.empty, Table.empty⟩

inductive Thrown where
  | attemptState | attemptCas | attemptId | noTime | leaseCas | jobCas | jobTerminalCas
  | abuseRelease | startCas | renewCas | jobCancelCas | resultCommitCas | abuseState
  | guestAbuseReleaseInconsistent | guestPersistenceInconsistent
  | activeCounterRace | guestDeleteRace | dependency
deriving DecidableEq, Repr

inductive TxError where
  | database (violation : Violation)
  | thrown (error : Thrown)
deriving DecidableEq, Repr

abbrev Sql := Tx Tables TxError

def throwing {α : Type} (error : Thrown) : Sql α := Tx.fail (.thrown error)

/-! ### Access to the tables -/

def scansTable : Lens Tables (Table GuestScan) where
  get := Tables.guestScans
  put table t := { t with guestScans := table }
  get_put _ _ := rfl
  put_get _ := rfl
  put_put _ _ _ := rfl

def attemptsTable : Lens Tables (Table GuestScanAttempt) where
  get := Tables.guestScanAttempts
  put table t := { t with guestScanAttempts := table }
  get_put _ _ := rfl
  put_get _ := rfl
  put_put _ _ _ := rfl

def resultsTable : Lens Tables (Table GuestResult) where
  get := Tables.guestResults
  put table t := { t with guestResults := table }
  get_put _ _ := rfl
  put_get _ := rfl
  put_put _ _ _ := rfl

def windowsTable : Lens Tables (Table WindowCounter) where
  get := Tables.windowCounters
  put table t := { t with windowCounters := table }
  get_put _ _ := rfl
  put_get _ := rfl
  put_put _ _ _ := rfl

def activeTable : Lens Tables (Table ActiveCounter) where
  get := Tables.activeCounters
  put table t := { t with activeCounters := table }
  get_put _ _ := rfl
  put_get _ := rfl
  put_put _ _ _ := rfl

def reservationsTable : Lens Tables (Table Reservation) where
  get := Tables.reservations
  put table t := { t with reservations := table }
  get_put _ _ := rfl
  put_get _ := rfl
  put_put _ _ _ := rfl

/-! ### Triggers -/

/-- The INSERT branch of `guard_guest_scan_update`. -/
def guardGuestScanInsert (new : GuestScan) : Prop :=
  new.jobState = .queued ∧ new.updatedAt = new.createdAt ∧ new.currentAttemptId = none ∧
    new.currentFence = 0 ∧ new.acceptedAttemptId = none ∧ new.acceptedFence = none ∧
    new.acceptedPayloadDigest = none ∧ new.resultAccessRevokedAt = none

instance : DecidablePred guardGuestScanInsert := fun new =>
  inferInstanceAs (Decidable (new.jobState = .queued ∧ new.updatedAt = new.createdAt ∧
    new.currentAttemptId = none ∧ new.currentFence = 0 ∧ new.acceptedAttemptId = none ∧
    new.acceptedFence = none ∧ new.acceptedPayloadDigest = none ∧
    new.resultAccessRevokedAt = none))

/-- The changes of `job_state` that the trigger lets through. -/
def jobUpdateAllowed (old new : JobState) : Bool :=
  new == old ||
    (old == .queued && [JobState.running, .cancelled, .expired].contains new) ||
    (old == .running && [JobState.succeeded, .failed, .cancelled, .expired].contains new)

def sameScanIdentity (old new : GuestScan) : Prop :=
  new.id = old.id ∧ new.canonicalTarget = old.canonicalTarget ∧
    new.guestSessionScope = old.guestSessionScope ∧
    new.endpointOperation = old.endpointOperation ∧
    new.idempotencyKey = old.idempotencyKey ∧ new.requestHash = old.requestHash ∧
    new.createdAt = old.createdAt ∧ new.idempotencyExpiresAt = old.idempotencyExpiresAt ∧
    new.deletionDeadline = old.deletionDeadline ∧ new.policyId = old.policyId ∧
    new.policyVersion = old.policyVersion ∧ new.profile = old.profile ∧
    new.resultTokenVersion = old.resultTokenVersion ∧
    new.resultTokenNonce = old.resultTokenNonce ∧
    new.resultTokenKeyVersion = old.resultTokenKeyVersion ∧
    new.resultAccessExpiresAt = old.resultAccessExpiresAt

instance (old new : GuestScan) : Decidable (sameScanIdentity old new) := by
  unfold sameScanIdentity
  infer_instance

/-- `Guest attempt fence regressed`. -/
def fenceKept (old new : GuestScan) : Prop :=
  match old.currentAttemptId, new.currentAttemptId with
  | none, _ => True
  | some _, none => False
  | some before, some after =>
    old.currentFence ≤ new.currentFence ∧
      (after = before → new.currentFence = old.currentFence) ∧
      (after ≠ before → old.currentFence < new.currentFence)

instance (old new : GuestScan) : Decidable (fenceKept old new) := by
  unfold fenceKept
  split <;> infer_instance

/-- The UPDATE branch of `guard_guest_scan_update`. -/
structure guardGuestScanUpdate (old new : GuestScan) : Prop where
  identity : sameScanIdentity old new
  updated : old.updatedAt ≤ new.updatedAt
  revoked : old.resultAccessRevokedAt ≠ none →
    new.resultAccessRevokedAt = old.resultAccessRevokedAt
  fence : fenceKept old new
  accepted : old.acceptedAttemptId ≠ none →
    new.acceptedAttemptId = old.acceptedAttemptId ∧ new.acceptedFence = old.acceptedFence ∧
      new.acceptedPayloadDigest = old.acceptedPayloadDigest
  transition : jobUpdateAllowed old.jobState new.jobState = true

instance (old new : GuestScan) : Decidable (guardGuestScanUpdate old new) :=
  decidable_of_iff
    (sameScanIdentity old new ∧ old.updatedAt ≤ new.updatedAt ∧
      (old.resultAccessRevokedAt ≠ none →
        new.resultAccessRevokedAt = old.resultAccessRevokedAt) ∧ fenceKept old new ∧
      (old.acceptedAttemptId ≠ none →
        new.acceptedAttemptId = old.acceptedAttemptId ∧
          new.acceptedFence = old.acceptedFence ∧
          new.acceptedPayloadDigest = old.acceptedPayloadDigest) ∧
      jobUpdateAllowed old.jobState new.jobState = true)
    ⟨fun ⟨a, b, c, d, e, f⟩ => ⟨a, b, c, d, e, f⟩,
      fun ⟨a, b, c, d, e, f⟩ => ⟨a, b, c, d, e, f⟩⟩

/-- The INSERT branch of `guard_guest_attempt_update`. -/
def guardGuestAttemptInsert (new : GuestScanAttempt) : Prop :=
  new.attemptState = .created ∧ new.leaseVersion = 0 ∧ new.leaseExpiresAt = none ∧
    new.startedAt = none ∧ new.finishedAt = none ∧ new.updatedAt = new.createdAt

instance : DecidablePred guardGuestAttemptInsert := fun new =>
  inferInstanceAs (Decidable (new.attemptState = .created ∧ new.leaseVersion = 0 ∧
    new.leaseExpiresAt = none ∧ new.startedAt = none ∧ new.finishedAt = none ∧
    new.updatedAt = new.createdAt))

/-- The changes of `attempt_state` that the trigger lets through. -/
def attemptUpdateAllowed (old new : AttemptState) : Bool :=
  new == old ||
    (old == .created && [AttemptState.leased, .cancelled].contains new) ||
    (old == .leased && [AttemptState.running, .superseded].contains new) ||
    (old == .running &&
      [AttemptState.succeeded, .failed, .timedOut, .cancelled, .superseded].contains new)

/-- The UPDATE branch of `guard_guest_attempt_update`. -/
structure guardGuestAttemptUpdate (old new : GuestScanAttempt) : Prop where
  identity : new.id = old.id ∧ new.guestScanId = old.guestScanId ∧
    new.attemptNo = old.attemptNo ∧ new.monotonicFence = old.monotonicFence ∧
    new.createdAt = old.createdAt ∧ new.hardDeadline = old.hardDeadline
  updated : old.updatedAt ≤ new.updatedAt
  version : old.leaseVersion ≤ new.leaseVersion
  lease : new.leaseExpiresAt ≠ old.leaseExpiresAt → old.leaseVersion < new.leaseVersion
  started : old.startedAt ≠ none → new.startedAt = old.startedAt
  finished : old.finishedAt ≠ none → new.finishedAt = old.finishedAt
  transition : attemptUpdateAllowed old.attemptState new.attemptState = true

instance (old new : GuestScanAttempt) : Decidable (guardGuestAttemptUpdate old new) :=
  decidable_of_iff
    ((new.id = old.id ∧ new.guestScanId = old.guestScanId ∧ new.attemptNo = old.attemptNo ∧
        new.monotonicFence = old.monotonicFence ∧ new.createdAt = old.createdAt ∧
        new.hardDeadline = old.hardDeadline) ∧
      old.updatedAt ≤ new.updatedAt ∧ old.leaseVersion ≤ new.leaseVersion ∧
      (new.leaseExpiresAt ≠ old.leaseExpiresAt → old.leaseVersion < new.leaseVersion) ∧
      (old.startedAt ≠ none → new.startedAt = old.startedAt) ∧
      (old.finishedAt ≠ none → new.finishedAt = old.finishedAt) ∧
      attemptUpdateAllowed old.attemptState new.attemptState = true)
    ⟨fun ⟨a, b, c, d, e, f, g⟩ => ⟨a, b, c, d, e, f, g⟩,
      fun ⟨a, b, c, d, e, f, g⟩ => ⟨a, b, c, d, e, f, g⟩⟩

/-- The INSERT branch of `guard_guest_result_write`, given the scan and the
attempt it looks up; it raises when there is no such attempt. -/
def guardGuestResultWrite (scan : GuestScan) (attempt : GuestScanAttempt)
    (new : GuestResult) : Prop :=
  scan.jobState = .succeeded ∧ scan.acceptedAttemptId = some new.acceptedAttemptId ∧
    scan.acceptedFence = some new.acceptedFence ∧
    scan.acceptedPayloadDigest = some new.payloadDigest ∧
    attempt.attemptState = .succeeded ∧ attempt.finishedAt = some new.completedAt ∧
    scan.createdAt ≤ new.completedAt ∧ new.completedAt ≤ scan.updatedAt ∧
    new.completedAt < scan.deletionDeadline ∧
    new.projection.canonicalHost = scan.canonicalTarget

instance (scan : GuestScan) (attempt : GuestScanAttempt) (new : GuestResult) :
    Decidable (guardGuestResultWrite scan attempt new) := by
  unfold guardGuestResultWrite
  infer_instance

/-! ### Foreign keys, all of them checked at COMMIT at the latest -/

structure ForeignKeys (t : Tables) : Prop where
  /-- `guest_scans_current_attempt_fk` -/
  current : ∀ scan ∈ t.guestScans.rows, ∀ attemptId ∈ scan.currentAttemptId,
    ∃ attempt ∈ t.guestScanAttempts.rows, attempt.guestScanId = scan.id ∧
      attempt.id = attemptId ∧ attempt.monotonicFence = scan.currentFence
  /-- `guest_scans_accepted_result_fk` -/
  accepted : ∀ scan ∈ t.guestScans.rows, ∀ attemptId ∈ scan.acceptedAttemptId,
    ∀ fence ∈ scan.acceptedFence, ∀ digest ∈ scan.acceptedPayloadDigest,
    ∃ result ∈ t.guestResults.rows, result.guestScanId = scan.id ∧
      result.acceptedAttemptId = attemptId ∧ result.acceptedFence = fence ∧
      result.payloadDigest = digest
  attempt : ∀ attempt ∈ t.guestScanAttempts.rows,
    ∃ scan ∈ t.guestScans.rows, scan.id = attempt.guestScanId
  /-- `guest_results_attempt_fk` and the reference to the scan -/
  result : ∀ result ∈ t.guestResults.rows,
    (∃ scan ∈ t.guestScans.rows, scan.id = result.guestScanId) ∧
    ∃ attempt ∈ t.guestScanAttempts.rows, attempt.guestScanId = result.guestScanId ∧
      attempt.id = result.acceptedAttemptId ∧
      attempt.monotonicFence = result.acceptedFence
  /-- `guest_abuse_reservation_scan_fk` -/
  reservation : ∀ reservation ∈ t.reservations.rows, ∃ scan ∈ t.guestScans.rows,
    scan.id = reservation.guestScanId ∧
      scan.guestSessionScope = reservation.guestSessionScope ∧
      scan.createdAt = reservation.reservedAt ∧
      scan.deletionDeadline = reservation.deletionDeadline

instance : DecidablePred ForeignKeys := fun t =>
  decidable_of_iff
    ((∀ scan ∈ t.guestScans.rows, ∀ attemptId ∈ scan.currentAttemptId,
        ∃ attempt ∈ t.guestScanAttempts.rows, attempt.guestScanId = scan.id ∧
          attempt.id = attemptId ∧ attempt.monotonicFence = scan.currentFence) ∧
      (∀ scan ∈ t.guestScans.rows, ∀ attemptId ∈ scan.acceptedAttemptId,
        ∀ fence ∈ scan.acceptedFence, ∀ digest ∈ scan.acceptedPayloadDigest,
        ∃ result ∈ t.guestResults.rows, result.guestScanId = scan.id ∧
          result.acceptedAttemptId = attemptId ∧ result.acceptedFence = fence ∧
          result.payloadDigest = digest) ∧
      (∀ attempt ∈ t.guestScanAttempts.rows,
        ∃ scan ∈ t.guestScans.rows, scan.id = attempt.guestScanId) ∧
      (∀ result ∈ t.guestResults.rows,
        (∃ scan ∈ t.guestScans.rows, scan.id = result.guestScanId) ∧
        ∃ attempt ∈ t.guestScanAttempts.rows, attempt.guestScanId = result.guestScanId ∧
          attempt.id = result.acceptedAttemptId ∧
          attempt.monotonicFence = result.acceptedFence) ∧
      ∀ reservation ∈ t.reservations.rows, ∃ scan ∈ t.guestScans.rows,
        scan.id = reservation.guestScanId ∧
          scan.guestSessionScope = reservation.guestSessionScope ∧
          scan.createdAt = reservation.reservedAt ∧
          scan.deletionDeadline = reservation.deletionDeadline)
    ⟨fun ⟨a, b, c, d, e⟩ => ⟨a, b, c, d, e⟩, fun ⟨a, b, c, d, e⟩ => ⟨a, b, c, d, e⟩⟩

/-- A state between transactions. -/
abbrev Database := Committed Tables ForeignKeys

def Database.initial : Database := ⟨Tables.initial, by decide⟩

/-! ### Statements with their triggers -/

def insertGuestScan (row : GuestScan) : Sql Unit := do
  Tx.ensure (guardGuestScanInsert row) (.database .trigger)
  Tx.insert scansTable .database row

def insertGuestScanAttempt (row : GuestScanAttempt) : Sql Unit := do
  Tx.ensure (guardGuestAttemptInsert row) (.database .trigger)
  Tx.insert attemptsTable .database row
  let t ← get
  Tx.ensure (∃ scan ∈ t.guestScans.rows, scan.id = row.guestScanId) (.database .foreignKey)

/-- `UPDATE guest_scans .. WHERE id = $1 AND cond`, demanding one row. -/
def updateGuestScan (missing : Thrown) (id : String) (cond : GuestScan → Prop)
    [DecidablePred cond] (edit : Edit GuestScan) : Sql GuestScan :=
  Tx.updateOne scansTable .database (.thrown missing) guardGuestScanUpdate id cond edit

/-- `UPDATE guest_scan_attempts .. WHERE guest_scan_id = $1 AND id = $2 AND
cond`, demanding one row. -/
def updateGuestScanAttempt (missing : Thrown) (guestScanId attemptId : String)
    (cond : GuestScanAttempt → Prop) [DecidablePred cond] (edit : Edit GuestScanAttempt) :
    Sql GuestScanAttempt :=
  Tx.updateOne attemptsTable .database (.thrown missing) guardGuestAttemptUpdate attemptId
    (fun row => row.guestScanId = guestScanId ∧ cond row) edit

/-- The lookups of `guard_guest_result_write` and its verdict. -/
def Tables.acceptsResult (t : Tables) (row : GuestResult) : Prop :=
  match t.guestScans.find? row.guestScanId, t.guestScanAttempts.find? row.acceptedAttemptId with
  | some scan, some attempt =>
    attempt.guestScanId = row.guestScanId ∧ attempt.monotonicFence = row.acceptedFence ∧
      guardGuestResultWrite scan attempt row
  | _, _ => False

instance (t : Tables) (row : GuestResult) : Decidable (t.acceptsResult row) := by
  unfold Tables.acceptsResult
  split <;> infer_instance

def insertGuestResult (row : GuestResult) : Sql Unit := do
  let t ← get
  Tx.ensure (t.acceptsResult row) (.database .trigger)
  Tx.insert resultsTable .database row

/-- `DELETE FROM guest_scans WHERE id = $1` and the cascades. -/
def Tables.deleteGuestScan (t : Tables) (id : String) : Tables :=
  { t with
    guestScans := t.guestScans.erase fun row => decide (row.id = id)
    guestScanAttempts := t.guestScanAttempts.erase fun row => decide (row.guestScanId = id)
    guestResults := t.guestResults.erase fun row => decide (row.guestScanId = id)
    reservations := t.reservations.erase fun row => decide (row.guestScanId = id) }

/-- Build an `Edit` of a scan from a change that leaves the identity alone. -/
def scanEdit (change : GuestScan → GuestScan) (hid : ∀ row, (change row).id = row.id)
    (hscope : ∀ row, (change row).guestSessionScope = row.guestSessionScope)
    (hoperation : ∀ row, (change row).endpointOperation = row.endpointOperation)
    (hkey : ∀ row, (change row).idempotencyKey = row.idempotencyKey) : Edit GuestScan where
  apply := change
  key_apply := hid
  distinct_apply := fun {row other} h => by
    change GuestScan.Apart (change row) other
    unfold GuestScan.Apart
    rw [hid, hscope, hoperation, hkey]
    exact h

def attemptEdit (change : GuestScanAttempt → GuestScanAttempt)
    (hid : ∀ row, (change row).id = row.id)
    (hscan : ∀ row, (change row).guestScanId = row.guestScanId)
    (hno : ∀ row, (change row).attemptNo = row.attemptNo)
    (hfence : ∀ row, (change row).monotonicFence = row.monotonicFence) :
    Edit GuestScanAttempt where
  apply := change
  key_apply := hid
  distinct_apply := fun {row other} h => by
    change GuestScanAttempt.Apart (change row) other
    unfold GuestScanAttempt.Apart
    rw [hid, hscan, hno, hfence]
    exact h

end Outscan

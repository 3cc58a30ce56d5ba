import Outscan.Persistence.Abuse

/-! Leases: acquire, start and renew an attempt of a scan. -/
namespace Outscan

open Relational Transactional

def guestAttemptLeaseSeconds : Nat := 15
def guestAttemptHardDeadlineSeconds : Nat := 45
def guestMaxAttempts : Nat := 3

structure GuestAttemptLease where
  guestScanId : String
  attemptId : String
  attemptNo : Nat
  monotonicFence : Nat
  leaseVersion : Nat
  canonicalTarget : String
  leaseExpiresAt : Nat
  hardDeadline : Nat
deriving DecidableEq, Repr

/-- The state `terminateJob` leaves a job in. -/
inductive TerminalState where
  | failed | expired
deriving DecidableEq, Repr

def TerminalState.jobState : TerminalState → JobState
  | .failed => .failed
  | .expired => .expired

def TerminalState.reason : TerminalState → ReleaseReason
  | .failed => .failed
  | .expired => .expired

inductive AcquireGuestLeaseResult where
  | leaseAcquired (lease : GuestAttemptLease)
  | jobTerminated (state : TerminalState)
  | invalidRequest
  | notAcquirable
  | leaseHeld (retryAfterSeconds : Nat)
  | unavailable
deriving DecidableEq, Repr

inductive StartGuestAttemptResult where
  | started | alreadyRunning | invalidRequest | staleLease | leaseExpired
  | attemptDeadlineExceeded | unavailable
deriving DecidableEq, Repr

inductive RenewGuestLeaseResult where
  | leaseRenewed (leaseVersion leaseExpiresAt : Nat)
  | invalidRequest | staleLease | leaseExpired | attemptDeadlineExceeded | leaseNotExtended
  | unavailable
deriving DecidableEq, Repr

structure LeaseCommand where
  guestScanId : String
  attemptId : String
  monotonicFence : Nat
  leaseVersion : Nat
deriving DecidableEq, Repr

/-- `leaseCommand` accepts the request. -/
def validLeaseCommand (command : LeaseCommand) : Bool :=
  validId command.guestScanId && validId command.attemptId &&
    isPositiveSafeInteger command.monotonicFence && isPositiveSafeInteger command.leaseVersion

def validScan (row : GuestScan) : Bool :=
  validId row.id && decide (row.currentFence ≤ maxSafeInteger) &&
    isPositiveSafeInteger row.resultAccessExpiresAt &&
    isPositiveSafeInteger row.deletionDeadline &&
    decide (row.resultAccessExpiresAt < row.deletionDeadline) &&
    match row.currentAttemptId with
    | none => row.currentFence == 0
    | some attemptId => validId attemptId && decide (0 < row.currentFence)

def validAttempt (row : GuestScanAttempt) : Bool :=
  validId row.id && isPositiveSafeInteger row.attemptNo &&
    isPositiveSafeInteger row.monotonicFence && decide (row.leaseVersion ≤ maxSafeInteger) &&
    isPositiveSafeInteger row.hardDeadline && row.leaseExpiresAt.all isPositiveSafeInteger

/-- `LOAD_ATTEMPT_SQL`. -/
def Tables.loadAttempt (t : Tables) (guestScanId attemptId : String) :
    Option GuestScanAttempt :=
  (t.guestScanAttempts.find? attemptId).filter fun row => row.guestScanId == guestScanId

/-! ### Changes of one row -/

def closeAttempt (state : AttemptState) (now : Nat) : Edit GuestScanAttempt :=
  attemptEdit (fun row => { row with attemptState := state, finishedAt := some now,
                                     updatedAt := now })
    (fun _ => rfl) (fun _ => rfl) (fun _ => rfl) (fun _ => rfl)

def leaseAttempt (leaseExpiry : Nat) : Edit GuestScanAttempt :=
  attemptEdit (fun row => { row with attemptState := .leased, leaseVersion := 1,
                                     leaseExpiresAt := some leaseExpiry })
    (fun _ => rfl) (fun _ => rfl) (fun _ => rfl) (fun _ => rfl)

def startAttempt (now : Nat) : Edit GuestScanAttempt :=
  attemptEdit (fun row => { row with attemptState := .running, startedAt := some now,
                                     updatedAt := now })
    (fun _ => rfl) (fun _ => rfl) (fun _ => rfl) (fun _ => rfl)

def renewAttempt (leaseVersion leaseExpiry now : Nat) : Edit GuestScanAttempt :=
  attemptEdit (fun row => { row with leaseVersion := leaseVersion,
                                     leaseExpiresAt := some leaseExpiry, updatedAt := now })
    (fun _ => rfl) (fun _ => rfl) (fun _ => rfl) (fun _ => rfl)

def runJob (attemptId : String) (fence now : Nat) : Edit GuestScan :=
  scanEdit (fun row => { row with jobState := .running, currentAttemptId := some attemptId,
                                  currentFence := fence, updatedAt := now })
    (fun _ => rfl) (fun _ => rfl) (fun _ => rfl) (fun _ => rfl)

def endJob (state : JobState) (now : Nat) : Edit GuestScan :=
  scanEdit (fun row => { row with jobState := state, updatedAt := now })
    (fun _ => rfl) (fun _ => rfl) (fun _ => rfl) (fun _ => rfl)

/-- `job_state IN ('QUEUED', 'RUNNING')`. -/
def JobState.active (state : JobState) : Bool := state == .queued || state == .running

/-- `attempt_state IN ('LEASED', 'RUNNING')`. -/
def AttemptState.active (state : AttemptState) : Bool := state == .leased || state == .running

/-! ### acquire -/

def createAttempt (scan : GuestScan) (attemptId : String) (attemptNo fence now : Nat) :
    Sql GuestAttemptLease := do
  let hardDeadline := min (now + guestAttemptHardDeadlineSeconds) scan.resultAccessExpiresAt
  let leaseExpiry := min (now + guestAttemptLeaseSeconds) hardDeadline
  Tx.ensure (now < leaseExpiry ∧ now < hardDeadline) (.thrown .noTime)
  insertGuestScanAttempt
    { id := attemptId, guestScanId := scan.id, attemptNo, monotonicFence := fence,
      leaseVersion := 0, leaseExpiresAt := none, hardDeadline, attemptState := .created,
      createdAt := now, updatedAt := now, startedAt := none, finishedAt := none }
  let _ ← updateGuestScanAttempt .leaseCas scan.id attemptId
    (fun row => row.attemptState = .created ∧ row.leaseVersion = 0) (leaseAttempt leaseExpiry)
  let _ ← updateGuestScan .jobCas scan.id (fun row => row.jobState.active = true)
    (runJob attemptId fence now)
  pure { guestScanId := scan.id, attemptId, attemptNo, monotonicFence := fence,
         leaseVersion := 1, canonicalTarget := scan.canonicalTarget,
         leaseExpiresAt := leaseExpiry, hardDeadline }

/-- The state in which `terminateJob` closes an attempt. -/
def terminatedState (attempt : GuestScanAttempt) (now : Nat) : AttemptState :=
  if attempt.attemptState = .leased then .superseded
  else if now ≥ attempt.hardDeadline then .timedOut
  else .cancelled

/-- The attempt states `terminateJob` leaves alone. -/
def alreadyClosed (state : AttemptState) : Bool :=
  [AttemptState.failed, .timedOut, .cancelled, .superseded].contains state

/-- The part of `terminateJob` that closes the current attempt. -/
def terminateAttempt (scan : GuestScan) (now : Nat) : Sql Unit := do
  match scan.currentAttemptId with
  | none => pure ()
  | some attemptId =>
    if scan.jobState ≠ .running then pure ()
    else do
      let t ← get
      match t.loadAttempt scan.id attemptId with
      | none => throwing .attemptState
      | some attempt =>
        if !validAttempt attempt then throwing .attemptState
        else if attempt.attemptState.active then do
          let _ ← updateGuestScanAttempt .attemptCas scan.id attempt.id
            (fun row => row.attemptState.active = true)
            (closeAttempt (terminatedState attempt now) now)
        else Tx.ensure (alreadyClosed attempt.attemptState = true) (.thrown .attemptState)

def terminateJob (scan : GuestScan) (now : Nat) (terminal : TerminalState) :
    Sql AcquireGuestLeaseResult := do
  terminateAttempt scan now
  let _ ← updateGuestScan .jobTerminalCas scan.id (fun row => row.jobState.active = true)
    (endJob terminal.jobState now)
  let released ← releaseGuestAbuseReservation scan.id now terminal.reason
  Tx.ensure (released = true) (.thrown .abuseRelease)
  pure (.jobTerminated terminal)

/-- The state in which `acquire` retires an attempt whose lease ran out. -/
def retiredState (attempt : GuestScanAttempt) (now : Nat) : AttemptState :=
  if attempt.attemptState = .running ∧ now ≥ attempt.hardDeadline then .timedOut
  else .superseded

/-- The attempt `acquire` finds under a running job; anything else is
`ATTEMPT_STATE`. -/
def heldAttempt (scan : GuestScan) : Sql (GuestScanAttempt × Nat) := do
  let t ← get
  match scan.currentAttemptId.bind (t.loadAttempt scan.id) with
  | none => throwing .attemptState
  | some attempt =>
    match attempt.leaseExpiresAt with
    | none => throwing .attemptState
    | some leaseExpiry =>
      if !validAttempt attempt || !attempt.attemptState.active ||
          attempt.monotonicFence != scan.currentFence then throwing .attemptState
      else pure (attempt, leaseExpiry)

/-- The tail of `acquire`: a new attempt under the id the dependency made. -/
def leaseNew (scan : GuestScan) (createAttemptId : Option String) (attemptNo fence now : Nat) :
    Sql AcquireGuestLeaseResult := do
  match createAttemptId with
  | none => throwing .attemptId
  | some attemptId =>
    if !validId attemptId then throwing .attemptId
    else do
      let lease ← createAttempt scan attemptId attemptNo fence now
      pure (.leaseAcquired lease)

/-- The body of `acquire` for a running job whose access has not expired. -/
def acquireRunning (scan : GuestScan) (createAttemptId : Option String) (now : Nat) :
    Sql AcquireGuestLeaseResult := do
  let (attempt, leaseExpiry) ← heldAttempt scan
  if now < leaseExpiry ∧ now < attempt.hardDeadline then
    pure (.leaseHeld (min leaseExpiry attempt.hardDeadline - now))
  else do
    let _ ← updateGuestScanAttempt .attemptCas scan.id attempt.id
      (fun row => row.attemptState.active = true) (closeAttempt (retiredState attempt now) now)
    if attempt.attemptNo ≥ guestMaxAttempts then terminateJob scan now .failed
    else leaseNew scan createAttemptId (attempt.attemptNo + 1) (attempt.monotonicFence + 1) now

def acquireBody (guestScanId : String) (createAttemptId : Option String) (now : Nat) :
    Sql AcquireGuestLeaseResult := do
  let t ← get
  match t.guestScans.find? guestScanId with
  | none => pure .notAcquirable
  | some scan =>
    if !validScan scan || !scan.jobState.active then pure .notAcquirable
    else if now ≥ scan.resultAccessExpiresAt then terminateJob scan now .expired
    else if scan.jobState = .running then acquireRunning scan createAttemptId now
    else leaseNew scan createAttemptId 1 1 now

/-- `transaction`: commit what the operation returns. -/
def transaction {α : Type} (unavailable : α) (operation : Sql α) (db : Database) :
    α × Database :=
  atomically unavailable (operation >>= fun answer => pure (.commit answer)) db

def acquire (guestScanId : String) (createAttemptId : Option String) (clock : ClockReading)
    (db : Database) : AcquireGuestLeaseResult × Database :=
  if !validId guestScanId then (.invalidRequest, db)
  else
    match nowValue clock with
    | none => (.unavailable, db)
    | some now => transaction .unavailable (acquireBody guestScanId createAttemptId now) db

/-! ### start and renew -/

def Tables.joinedAttempt (t : Tables) (guestScanId attemptId : String) :
    Option (GuestScan × GuestScanAttempt) :=
  match t.guestScans.find? guestScanId, t.loadAttempt guestScanId attemptId with
  | some scan, some attempt => some (scan, attempt)
  | _, _ => none

/-- The job is running and the command names its current attempt, fence and
lease version. -/
def currentLease (command : LeaseCommand) (scan : GuestScan) (attempt : GuestScanAttempt) :
    Bool :=
  scan.jobState == .running && scan.currentAttemptId == some command.attemptId &&
    scan.currentFence == command.monotonicFence &&
    attempt.monotonicFence == command.monotonicFence &&
    attempt.leaseVersion == command.leaseVersion

def startBody (command : LeaseCommand) (now : Nat) : Sql StartGuestAttemptResult := do
  let t ← get
  match t.joinedAttempt command.guestScanId command.attemptId with
  | none => pure .staleLease
  | some (scan, attempt) =>
    if !validAttempt attempt || !currentLease command scan attempt then pure .staleLease
    else
      match attempt.leaseExpiresAt with
      | none => pure .staleLease
      | some leaseExpiry =>
        if now ≥ attempt.hardDeadline then pure .attemptDeadlineExceeded
        else if now ≥ leaseExpiry then pure .leaseExpired
        else if attempt.attemptState = .running then pure .alreadyRunning
        else if attempt.attemptState ≠ .leased then pure .staleLease
        else do
          let _ ← updateGuestScanAttempt .startCas command.guestScanId command.attemptId
            (fun row => row.monotonicFence = command.monotonicFence ∧
              row.leaseVersion = command.leaseVersion ∧ row.attemptState = .leased)
            (startAttempt now)
          pure .started

def start (command : LeaseCommand) (clock : ClockReading) (db : Database) :
    StartGuestAttemptResult × Database :=
  if !validLeaseCommand command then (.invalidRequest, db)
  else
    match nowValue clock with
    | none => (.unavailable, db)
    | some now => transaction .unavailable (startBody command now) db

def renewBody (command : LeaseCommand) (now : Nat) : Sql RenewGuestLeaseResult := do
  let t ← get
  match t.joinedAttempt command.guestScanId command.attemptId with
  | none => pure .staleLease
  | some (scan, attempt) =>
    if !validAttempt attempt || attempt.attemptState != .running ||
        !currentLease command scan attempt then pure .staleLease
    else
      match attempt.leaseExpiresAt with
      | none => pure .staleLease
      | some leaseExpiry =>
        let nextExpiry := min (now + guestAttemptLeaseSeconds) attempt.hardDeadline
        if now ≥ attempt.hardDeadline then pure .attemptDeadlineExceeded
        else if now ≥ leaseExpiry then pure .leaseExpired
        else if nextExpiry ≤ leaseExpiry then pure .leaseNotExtended
        else do
          let nextVersion := command.leaseVersion + 1
          let _ ← updateGuestScanAttempt .renewCas command.guestScanId command.attemptId
            (fun row => row.monotonicFence = command.monotonicFence ∧
              row.leaseVersion = command.leaseVersion ∧ row.attemptState = .running)
            (renewAttempt nextVersion nextExpiry now)
          pure (.leaseRenewed nextVersion nextExpiry)

def renew (command : LeaseCommand) (clock : ClockReading) (db : Database) :
    RenewGuestLeaseResult × Database :=
  if !validLeaseCommand command then (.invalidRequest, db)
  else
    match nowValue clock with
    | none => (.unavailable, db)
    | some now => transaction .unavailable (renewBody command now) db

end Outscan

import Mathlib.Data.Option.Basic
import Outscan.Library.Run
import Outscan.Persistence.Committer
import Outscan.ResultEnvelope.Sign
import Outscan.ScannerIpc.Read
import Outscan.Supervisor.Authorize

/-! One attempt of the supervisor: it launches the scanner, reads one frame, waits for the exit
and signs, while the launch, the abort, the timers, the stream and the exit race. -/
namespace Outscan

open Dynamic

/-! ### Handles -/

/-- A record that a launcher hands over, as far as the supervisor looks at it: whether `stdout`
can be iterated, and whether `wait` and `stop` are functions. -/
structure RawScannerHandle where
  iterable : Bool
  waits : Bool
  stops : Bool
deriving DecidableEq, Repr

inductive StopSignal where
  | term | kill
deriving DecidableEq, Repr

def stopMalformedHandle (handle : RawScannerHandle) : List StopSignal :=
  if handle.stops then [.kill] else []

/-- `snapshotScannerProcessHandle`: whether the handle can be used, and what was requested of one
that cannot. `none` stands for a value that is no record. -/
def snapshotScannerProcessHandle (value : Option RawScannerHandle) : Bool × List StopSignal :=
  match value with
  | none => (false, [])
  | some handle =>
    if handle.iterable && handle.waits && handle.stops then (true, [])
    else (false, stopMalformedHandle handle)

/-! ### The exit -/

structure ScannerProcessExit where
  exitCode : Option Nat
  signal : Option String
deriving DecidableEq, Repr

/-- `^[A-Z][A-Z0-9_]{0,31}$`. -/
def validSignalName (text : String) : Bool :=
  match text.toList with
  | [] => false
  | head :: tail =>
    head.isUpper && tail.all (fun c => c.isUpper || c.isDigit || c == '_') &&
      decide (tail.length ≤ 31)

/-- Null, or what `read` makes of the value. -/
def orNull {α : Type} (read : Datum → Option α) (value : Datum) : Option (Option α) :=
  match value with
  | .null => some none
  | value => (read value).map some

def exitCode? (value : Datum) : Option Nat := value.natural?.filter fun code => decide (code ≤ 255)

def signalName? (value : Datum) : Option String := value.string?.filter validSignalName

def snapshotExit (value : Datum) : Option ScannerProcessExit :=
  if !value.hasExactKeys ["exit_code", "signal"] then none
  else do
    let exitCode ← orNull exitCode? (value.get "exit_code")
    let signal ← orNull signalName? (value.get "signal")
    return { exitCode, signal }

inductive ScannerProcessCompletion where
  | exit (exit : ScannerProcessExit)
  | error
deriving DecidableEq, Repr

/-- `scannerProcessCompletion`, on what `wait` resolves with or on its rejection. -/
def scannerProcessCompletion (outcome : Except Unit Datum) : ScannerProcessCompletion :=
  match outcome with
  | .error _ => .error
  | .ok value => (snapshotExit value).elim .error .exit

/-! ### Results -/

inductive GuestSupervisorRunCode where
  | invalidRuntimeContext | executionDenied | profileNotSupported | runAborted | runTimeout
  | scannerLaunchFailed | scannerProcessFailed | scannerOutputRejected
  | resultSigningKeyUnavailable | resultSigningFailed
deriving DecidableEq, Repr

inductive GuestSupervisorRunResult where
  | ok (signed : SignedResultEnvelope) (projection : SanitizedGuestProjection)
  | failed (code : GuestSupervisorRunCode)
  | denied (code : SupervisorDenyCode)

def ipcFailure : ScannerIpcError → GuestSupervisorRunCode
  | .ipcAborted => .runAborted
  | .ipcTimeout => .runTimeout
  | _ => .scannerOutputRejected

/-! ### The run -/

inductive Promised (α : Type) where
  | absent
  | pending
  | settled (value : α)
deriving DecidableEq

/-- What the launcher comes to: a rejection, or a value. -/
abbrev LaunchOutcome := Except Unit (Option RawScannerHandle)

/-- Where the run waits; `reading` and `exiting` carry what they were called with. -/
inductive SupervisorPhase where
  | launching
  | reading (timeoutMs : Int)
  | exiting (payload : List UInt8)
  | stopping (code : GuestSupervisorRunCode)
  | signing (canonical : CanonicalGuestScannerResult) (now : Nat)
  | returned (result : GuestSupervisorRunResult)

/-- `watched` says that a late launch has a handler, `exit` is the exit that was observed, and
`stops` are the requests made of the handle, in order. -/
structure SupervisorRun where
  phase : SupervisorPhase
  aborted : Bool
  launch : Promised LaunchOutcome
  watched : Bool
  completion : Promised ScannerProcessCompletion
  exit : Option ScannerProcessExit
  stops : List StopSignal

structure SupervisorContext where
  envelope : ExecutionEnvelope ScannerExecutionRequest
  terminationGraceMs : Nat
  overallDeadline : Int

/-- A promise settles, the signal is aborted, a reaction runs, the timer of the current wait
fires, the reader of the stream ends, the key provider answers. Clock readings come with the
events after which the code reads a clock; a `trustedNow` of `none` is a clock that throws. -/
inductive SupervisorEvent where
  | launched (outcome : LaunchOutcome)
  | completed (outcome : Except Unit Datum)
  | abort
  | react (now : Int) (trustedNow : Option ClockReading)
  | timer
  | ipc (source : Option (List NextResult)) (now : Int)
  | key (value : Except Unit (Value Scalar))

namespace SupervisorRun

variable (context : SupervisorContext) (s : SupervisorRun)

def finish (result : GuestSupervisorRunResult) : SupervisorRun :=
  { s with phase := .returned result }

def fail (code : GuestSupervisorRunCode) : SupervisorRun := s.finish (.failed code)

def requestStop (signal : StopSignal) : SupervisorRun := { s with stops := s.stops ++ [signal] }

/-- `stopScannerWithEscalation` up to its wait, and the return behind it. -/
def stopWithEscalation (code : GuestSupervisorRunCode) : SupervisorRun :=
  if context.terminationGraceMs = 0 then ((s.requestStop .term).requestStop .kill).fail code
  else { s.requestStop .term with phase := .stopping code }

/-- `waitForScannerLaunch` gave up: whatever the launch still yields is killed. -/
def abandonLaunch (code : GuestSupervisorRunCode) : SupervisorRun :=
  { s.fail code with watched := true }

def killLate (outcome : LaunchOutcome) : SupervisorRun :=
  match outcome with
  | .error _ => { s with watched := false }
  | .ok value =>
    match snapshotScannerProcessHandle value with
    | (true, _) => { s.requestStop .kill with watched := false }
    | (false, requested) => { s with watched := false, stops := s.stops ++ requested }

def takeLaunch (outcome : LaunchOutcome) (now : Int) : SupervisorRun :=
  match outcome with
  | .error _ => s.fail .scannerLaunchFailed
  | .ok value =>
    match snapshotScannerProcessHandle value with
    | (false, requested) =>
      { s with stops := s.stops ++ requested }.fail .scannerLaunchFailed
    | (true, _) =>
      let waiting := { s with completion := .pending }
      if context.overallDeadline - now ≤ 0 then waiting.stopWithEscalation context .runTimeout
      else { waiting with phase := .reading (context.overallDeadline - now) }

/-- `waitForScannerCompletion`, up to its wait. -/
def awaitExit (payload : List UInt8) (now : Int) : SupervisorRun :=
  if s.aborted then s.stopWithEscalation context .runAborted
  else if context.overallDeadline - now ≤ 0 then s.stopWithEscalation context .runTimeout
  else { s with phase := .exiting payload }

def readOptions (timeoutMs : Int) : RawScannerIpcReadOptions where
  maxPayloadBytes := some context.envelope.policy.budgets.maxOutputBytes
  timeoutMs := some timeoutMs
  signal := true

def takeFrame (timeoutMs : Int) (source : Option (List NextResult)) (now : Int) : SupervisorRun :=
  match readScannerIpcFrame source (readOptions context timeoutMs) with
  | none => s
  | some (.error code) => s.stopWithEscalation context (ipcFailure code)
  | some (.ok payload) => s.awaitExit context payload.readPayload now

def signingTime (trustedNow : Option ClockReading) : Except GuestSupervisorRunCode Nat :=
  match trustedNow with
  | none => .error .invalidRuntimeContext
  | some none => .error .runTimeout
  | some (some now) =>
    if 0 < now ∧ now ≤ (maxSafeInteger : Int) ∧ now < (context.envelope.hardDeadline : Int) then
      .ok now.toNat
    else .error .runTimeout

def takeOutput (canonical : CanonicalProducer) (payload : List UInt8)
    (trustedNow : Option ClockReading) : SupervisorRun :=
  match canonical payload context.envelope.policy.budgets.maxOutputBytes with
  | none => s.fail .scannerOutputRejected
  | some result =>
    if result.projection.canonicalHost ≠ context.envelope.canonicalTarget then
      s.fail .scannerOutputRejected
    else
      match signingTime context trustedNow with
      | .error code => s.fail code
      | .ok now => { s with phase := .signing result now }

def takeExit (canonical : CanonicalProducer) (payload : List UInt8)
    (completion : ScannerProcessCompletion) (trustedNow : Option ClockReading) : SupervisorRun :=
  match completion with
  | .error => s.stopWithEscalation context .scannerProcessFailed
  | .exit exit =>
    let observed := { s with exit := some exit }
    if exit.exitCode ≠ some 0 ∨ exit.signal ≠ none then observed.fail .scannerProcessFailed
    else observed.takeOutput context canonical payload trustedNow

def endGrace (code : GuestSupervisorRunCode) (completion : ScannerProcessCompletion) :
    SupervisorRun :=
  match completion with
  | .exit exit => { s with exit := some exit }.fail code
  | .error => (s.requestStop .kill).fail code

end SupervisorRun

/-! ### Signing -/

def snapshotSigningKey (value : Value Scalar) : Option (Nat × List UInt8) :=
  match value with
  | .other => none
  | .record r =>
    if !r.hasExactKeys ["key_version", "key"] then none
    else do
      let version ← naturalUpTo? uint32Max (r.get .other "key_version")
      let key ← bytes? (r.get .other "key")
      guard (32 ≤ key.length ∧ key.length ≤ 64)
      return (version, key)

def supervisorWorkloadIdentity : String := "supervisor:guest-safe:v1"
def resultEnvelopeAudience : String := "outscan-result-ingress:v1"
def resultEnvelopeLifetimeSeconds : Nat := 60

def SupervisorContext.signingInput (context : SupervisorContext)
    (canonical : CanonicalGuestScannerResult) : Value Scalar :=
  .record ⟨[("job_id", .string context.envelope.jobId),
    ("attempt_id", .string context.envelope.attemptId),
    ("fence", .number (some (context.envelope.fence : Int))),
    ("payload", .bytes canonical.canonicalPayload)], by
      change signingInputKeys.Nodup
      decide⟩

def SupervisorContext.signingContext (context : SupervisorContext) (now keyVersion : Nat)
    (key : List UInt8) : Value Scalar :=
  .record ⟨[("now_unix_seconds", .number (some (now : Int))),
    ("lifetime_seconds", .number (some (resultEnvelopeLifetimeSeconds : Int))),
    ("workload_identity", .string supervisorWorkloadIdentity),
    ("audience", .string resultEnvelopeAudience),
    ("max_payload_bytes", .number (some (context.envelope.policy.budgets.maxOutputBytes : Int))),
    ("key_version", .number (some (keyVersion : Int))), ("key", .bytes key)], by
      change signingContextKeys.Nodup
      decide⟩

def SupervisorRun.takeKey (runtime : EnvelopeRuntime) (context : SupervisorContext)
    (s : SupervisorRun) (canonical : CanonicalGuestScannerResult) (now : Nat)
    (value : Except Unit (Value Scalar)) : SupervisorRun :=
  match value with
  | .error _ => s.fail .resultSigningKeyUnavailable
  | .ok value =>
    match snapshotSigningKey value with
    | none => s.fail .resultSigningKeyUnavailable
    | some (keyVersion, key) =>
      match signResultEnvelope runtime (context.signingInput canonical)
          (context.signingContext now keyVersion key) with
      | .error _ => s.fail .resultSigningFailed
      | .ok signed => s.finish (.ok signed canonical.projection)

/-! ### The machine -/

/-- The reaction that is queued, if one is: of the launch or the exit that the run waits for, or
of the handler of a late launch. -/
def SupervisorRun.react (context : SupervisorContext) (canonical : CanonicalProducer)
    (s : SupervisorRun) (now : Int) (trustedNow : Option ClockReading) : SupervisorRun :=
  match s.phase, s.launch, s.completion with
  | .launching, .settled outcome, _ => s.takeLaunch context outcome now
  | .exiting payload, _, .settled completion =>
    s.takeExit context canonical payload completion trustedNow
  | .stopping code, _, .settled completion => s.endGrace code completion
  | .returned _, .settled outcome, _ => if s.watched then s.killLate outcome else s
  | _, _, _ => s

/-- The signal is aborted while the run waits for it; the reader of the stream listens itself. -/
def SupervisorRun.abort (context : SupervisorContext) (s : SupervisorRun) : SupervisorRun :=
  match s.phase with
  | .launching => { s with aborted := true }.abandonLaunch .runAborted
  | .exiting _ => { s with aborted := true }.stopWithEscalation context .runAborted
  | _ => { s with aborted := true }

def SupervisorRun.timer (context : SupervisorContext) (s : SupervisorRun) : SupervisorRun :=
  match s.phase with
  | .launching => s.abandonLaunch .runTimeout
  | .exiting _ => s.stopWithEscalation context .runTimeout
  | .stopping code => (s.requestStop .kill).fail code
  | _ => s

def SupervisorRun.settleLaunch (s : SupervisorRun) (outcome : LaunchOutcome) : SupervisorRun :=
  match s.launch with
  | .pending => { s with launch := .settled outcome }
  | _ => s

def SupervisorRun.settleCompletion (s : SupervisorRun) (outcome : Except Unit Datum) :
    SupervisorRun :=
  match s.completion with
  | .pending => { s with completion := .settled (scannerProcessCompletion outcome) }
  | _ => s

def SupervisorRun.ipc (context : SupervisorContext) (s : SupervisorRun)
    (source : Option (List NextResult)) (now : Int) : SupervisorRun :=
  match s.phase with
  | .reading timeoutMs => s.takeFrame context timeoutMs source now
  | _ => s

def SupervisorRun.key (runtime : EnvelopeRuntime) (context : SupervisorContext)
    (s : SupervisorRun) (value : Except Unit (Value Scalar)) : SupervisorRun :=
  match s.phase with
  | .signing result now => s.takeKey runtime context result now value
  | _ => s

def supervisorStep (runtime : EnvelopeRuntime) (canonical : CanonicalProducer)
    (context : SupervisorContext) (s : SupervisorRun) : SupervisorEvent → SupervisorRun
  | .launched outcome => s.settleLaunch outcome
  | .completed outcome => s.settleCompletion outcome
  | .abort => if s.aborted then s else s.abort context
  | .react now trustedNow => s.react context canonical now trustedNow
  | .timer => s.timer context
  | .ipc source now => s.ipc context source now
  | .key value => s.key runtime context value

/-! ### The start -/

def supervisorMaxTerminationGraceMs : Nat := 10000

/-- The dependencies as a caller passes them: whether the functions are there, the signal, if it
is one, with its state, and the grace period. -/
structure RawSupervisorDependencies where
  launches : Bool
  providesKeys : Bool
  tellsTime : Bool
  signal : Option Bool
  terminationGraceMs : Option Int

/-- `snapshotDependencies`: whether the signal is aborted, and the grace period. -/
def RawSupervisorDependencies.snapshot (raw : RawSupervisorDependencies) : Option (Bool × Nat) := do
  guard (raw.launches = true ∧ raw.providesKeys = true ∧ raw.tellsTime = true)
  let aborted ← raw.signal
  let grace ← raw.terminationGraceMs
  guard (0 ≤ grace ∧ grace ≤ (supervisorMaxTerminationGraceMs : Int))
  return (aborted, grace.toNat)

def SupervisorDecision.outcome :
    SupervisorDecision → Except SupervisorDenyCode (ExecutionEnvelope ScannerExecutionRequest)
  | .allowed envelope => .ok envelope
  | .denied code _ => .error code
  | .policyDenied _ _ => .error .policyDenied

def supervisorTimeoutMs (envelope : ExecutionEnvelope ScannerExecutionRequest) (now : Int) : Int :=
  min ((envelope.policy.budgets.hardDurationSeconds : Int) * 1000)
    (((envelope.hardDeadline : Int) - now) * 1000)

/-- `runGuestScannerAttempt` up to its first wait. The clock is read twice; where the launch is
not waited for, its handler is in place. -/
def startSupervisor (input : Datum) (trusted : TrustedExecutionState)
    (raw : RawSupervisorDependencies) (startedAt waitsAt : Int) :
    Except GuestSupervisorRunResult (SupervisorContext × SupervisorRun) :=
  match raw.snapshot with
  | none => .error (.failed .invalidRuntimeContext)
  | some (aborted, grace) =>
    if aborted then .error (.failed .runAborted)
    else
      match (authorizeSupervisorExecution input trusted).outcome with
      | .error code => .error (.denied code)
      | .ok envelope =>
        let timeoutMs := supervisorTimeoutMs envelope trusted.now
        if envelope.policy.profile ≠ .guestSafe then .error (.failed .profileNotSupported)
        else if timeoutMs ≤ 0 ∨ (maxSafeInteger : Int) < timeoutMs then
          .error (.failed .runTimeout)
        else
          let context : SupervisorContext := ⟨envelope, grace, startedAt + timeoutMs⟩
          let s : SupervisorRun := ⟨.launching, false, .pending, false, .absent, none, []⟩
          .ok (context, if context.overallDeadline - waitsAt ≤ 0 then s.abandonLaunch .runTimeout
            else s)

end Outscan

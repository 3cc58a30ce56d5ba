import Outscan.GuestQueue.Context
import Outscan.GuestQueue.Rejection
import Outscan.GuestScan.CommittedResult
import Outscan.GuestTelemetry.Validation
import Outscan.Library.Served
import Outscan.Lifecycle.Acceptance
import Outscan.Lifecycle.Closing
import Outscan.Lifecycle.LeaseWait
import Outscan.Lifecycle.Shape
import Outscan.Supervisor.Ingress

/-! The queue processor: one message, from the acquisition of a lease to the commit of a result.
Workers share the database, so between any two of its calls others make theirs. -/
namespace Outscan

open Dynamic Dialogue Relational Transactional Lifecycle

/-- `parseGuestQueueMessage`: the scan of a message. -/
def parseGuestQueueMessage (value : Datum) : Option String :=
  if value.hasExactKeys ["schema_version", "guest_scan_id"] ∧
      (value.get "schema_version").whole? = some 1 then
    (value.get "guest_scan_id").string?.filter validId
  else none

/-- `createGuestQueueMessage`; `none` is the error. -/
def createGuestQueueMessage (guestScanId : String) : Option Datum :=
  if validId guestScanId then
    some (.object [("schema_version", .number (.whole 1)), ("guest_scan_id", .string guestScanId)])
  else none

theorem parseGuestQueueMessage_create {guestScanId : String} {message : Datum}
    (h : createGuestQueueMessage guestScanId = some message) :
    parseGuestQueueMessage message = some guestScanId := by
  rw [createGuestQueueMessage] at h
  split at h
  · rename_i hvalid
    cases h
    have hid : (some guestScanId).filter validId = some guestScanId := by
      rw [Option.filter_some, if_pos hvalid]
    exact hid
  · cases h

/-- A field of an execution context: a value, or the state that a provider trusts. -/
inductive ContextField where
  | datum (value : Datum)
  | state (trusted : TrustedExecutionState)

def ContextField.isRecord : ContextField → Bool
  | .datum value => value.isRecord
  | .state _ => true

structure ExecutionContext where
  envelope : ContextField
  trusted : ContextField

def executionContext (raw : Value ContextField) : Option ExecutionContext :=
  match raw with
  | .other => none
  | .record fields =>
    let field := fields.get (.datum .undefined)
    if fields.hasExactKeys ["envelope", "trusted"] ∧ (field "envelope").isRecord ∧
        (field "trusted").isRecord then some ⟨field "envelope", field "trusted"⟩
    else none

/-- What the runner comes to: no success, or a submission that is there to be read. -/
inductive AttemptRunResult where
  | failed
  | finished (submission : Option RawSubmission)

/-! ### The program -/

/-- The calls of the processor. `run` is `runWithHeartbeat`. -/
inductive ProcessorCall where
  | acquire (guestScanId : String)
  | start (command : LeaseCommand)
  | load (lease : GuestAttemptLease)
  | run (lease : GuestAttemptLease) (context : ExecutionContext)
  | commit (submission : RawSubmission)
  | reject (request : Value Scalar)
  | record (outcome : GuestQueueOutcome)

abbrev ProcessorReply : ProcessorCall → Type
  | .acquire _ => AcquireGuestLeaseResult
  | .start _ => StartGuestAttemptResult
  | .load _ => Value ContextField
  | .run _ _ => AttemptRunResult × Bool
  | .commit _ => CommitGuestResultResult
  | .reject _ => RecordGuestResultRejectionResult
  | .record _ => Unit

/-- Every call may reject. -/
abbrev ProcessorAnswer (call : ProcessorCall) : Type := Option (ProcessorReply call)

/-- How a message ends: acknowledged, thrown back to the queue with an outcome, or thrown back
without one. -/
inductive GuestQueueProcessResult where
  | acknowledged (outcome : GuestQueueOutcome)
  | retryable (outcome : GuestQueueOutcome)
  | thrown
deriving DecidableEq, Repr

abbrev Processor := Dialogue ProcessorCall ProcessorAnswer GuestQueueProcessResult

def settle (outcome : GuestQueueOutcome) (result : GuestQueueProcessResult) : Processor :=
  .ask (.record outcome) fun
    | some _ => .done result
    | none => .done .thrown

def acknowledge (outcome : GuestQueueOutcome) : Processor := settle outcome (.acknowledged outcome)

/-- `retry`. -/
def retryMessage (outcome : GuestQueueOutcome) : Processor := settle outcome (.retryable outcome)

def RejectionOutcome.outcome : RejectionOutcome → GuestQueueOutcome
  | .retryRejectionSink => .retryRejectionSink
  | .retryCommit => .retryCommit

def commitSubmitted (lease : GuestAttemptLease) (submission : RawSubmission) : Processor :=
  .ask (.commit submission) fun
    | none => retryMessage .retryCommit
    | some .primaryCommit => acknowledge .committed
    | some .alreadyCommitted => acknowledge .alreadyCommitted
    | some (.failure code emitSecurityAudit) =>
      .ask (.reject (rejectionRequest lease code)) fun recorded =>
        retryMessage (rejectionOutcome emitSecurityAudit recorded).outcome

def runLease (lease : GuestAttemptLease) (context : ExecutionContext) : Processor :=
  .ask (.run lease context) fun
    | none => retryMessage .retrySupervisor
    | some (_, true) => retryMessage .retryHeartbeat
    | some (.failed, false) => retryMessage .retrySupervisor
    | some (.finished none, false) => retryMessage .retryCommit
    | some (.finished (some submission), false) => commitSubmitted lease submission

def loadLease (lease : GuestAttemptLease) : Processor :=
  .ask (.load lease) fun raw =>
    match raw.bind executionContext with
    | none => retryMessage .retryContext
    | some context => runLease lease context

def startLease (lease : GuestAttemptLease) : Processor :=
  .ask (.start (leaseCommand lease)) fun
    | some .started | some .alreadyRunning => loadLease lease
    | _ => retryMessage .retryStart

def processMessage (message : Datum) : Processor :=
  match parseGuestQueueMessage message with
  | none => .done .thrown
  | some guestScanId =>
    .ask (.acquire guestScanId) fun
      | some .notAcquirable => acknowledge .notAcquirableAcknowledged
      | some (.leaseHeld _) => retryMessage .retryLeaseHeld
      | some (.jobTerminated _) => acknowledge .terminalAcknowledged
      | some (.leaseAcquired lease) => startLease lease
      | _ => retryMessage .retryPersistence

/-! ### The system around it -/

def GuestExecutionContext.raw (context : GuestExecutionContext) : Value ContextField :=
  .record {
    fields := [("envelope", .datum context.envelope), ("trusted", .state context.trusted)]
    unique := by simp }

section System

variable (runtime : EnvelopeRuntime) (locale : LocaleOrder)
  (dependencies : GuestResultCommitDependencies)

inductive Supervised : ExecutionContext → AttemptRunResult → Prop where
  | failed (context : ExecutionContext) : Supervised context .failed
  | finished {input : Datum} {trusted : TrustedExecutionState} {raw : RawSupervisorDependencies}
      {startedAt waitsAt : Int} {context : SupervisorContext} {start : SupervisorRun}
      (hstart : startSupervisor input trusted raw startedAt waitsAt = .ok (context, start))
      {events : List SupervisorEvent} {signed : SignedResultEnvelope}
      {projection : SanitizedGuestProjection}
      (hreturned : (Machine.run
        (supervisorMachine runtime (canonicalProducer runtime locale) context) start events).phase =
          .returned (.ok signed projection)) :
      Supervised ⟨.datum input, .state trusted⟩ (.finished (some signed.readSubmission))

/-- What a call of the processor is answered, and the calls of the database behind the answer. A
call that rejects may have had its effect: then it is one of the calls before it. -/
inductive ProcessorServes : Database → Exchange ProcessorCall ProcessorAnswer → List Call →
    Prop where
  | rejects (db : Database) (call : ProcessorCall) : ProcessorServes db ⟨call, none⟩ []
  | acquire (db : Database) (guestScanId : String) (createAttemptId : Option String)
      (clock : ClockReading) :
      ProcessorServes db
        ⟨.acquire guestScanId, some (Outscan.acquire guestScanId createAttemptId clock db).1⟩
        [.acquire guestScanId createAttemptId clock]
  | start (db : Database) (command : LeaseCommand) (clock : ClockReading) :
      ProcessorServes db ⟨.start command, some (Outscan.start command clock db).1⟩
        [.start command clock]
  | load (db : Database) (lease : GuestAttemptLease) {clock : ClockReading}
      {rawApproval : Option Datum} {context : GuestExecutionContext}
      (h : loadContext clock rawApproval lease = some context) :
      ProcessorServes db ⟨.load lease, some context.raw⟩ []
  | run (db : Database) (lease : GuestAttemptLease) {context : ExecutionContext}
      {result : AttemptRunResult} (heartbeatLost : Bool)
      (h : Supervised runtime locale context result) :
      ProcessorServes db ⟨.run lease context, some (result, heartbeatLost)⟩ []
  | refuse (db : Database) (submission : RawSubmission) (code : CommitRejectionCode)
      (emitSecurityAudit : Bool) :
      ProcessorServes db ⟨.commit submission, some (.failure code emitSecurityAudit)⟩ []
  | commit (db : Database) {submission : RawSubmission} {now : Option Int}
      {result : AuthenticatedResult} (transactionNow : TransactionTime)
      (h : authenticatedResult runtime (canonicalProducer runtime locale) dependencies submission
        now = some result) :
      ProcessorServes db
        ⟨.commit submission, some (Outscan.commit (some result) transactionNow db).1⟩
        [.commit (some result) transactionNow]
  | reject (db : Database) (request : Value Scalar) (recorded : RecordGuestResultRejectionResult) :
      ProcessorServes db ⟨.reject request, some recorded⟩ []
  | record (db : Database) (outcome : GuestQueueOutcome) :
      ProcessorServes db ⟨.record outcome, some ()⟩ []

/-- The committer serves its call. -/
theorem commitSubmission_serves (node : NodeRuntime) (db : Database) (submission : RawSubmission)
    (clock : Option (Option Int)) (transactionNow : TransactionTime) :
    ∃ calls, ProcessorServes runtime locale dependencies db
        ⟨.commit submission, some (commitSubmission runtime (canonicalProducer runtime locale)
          dependencies submission clock transactionNow (some db)).1⟩ calls ∧
      (commitSubmission runtime (canonicalProducer runtime locale) dependencies submission clock
        transactionNow (some db)).2 = some (Machine.run (exec node) db calls) := by
  cases clock with
  | none => exact ⟨[], .refuse .., rfl⟩
  | some now =>
    cases hresult : authenticatedResult runtime (canonicalProducer runtime locale) dependencies
        submission now with
    | none =>
      unfold commitSubmission
      dsimp only
      rw [hresult]
      exact ⟨[], .refuse .., rfl⟩
    | some result =>
      rw [commitSubmission_of_commit hresult rfl]
      exact ⟨_, .commit _ _ hresult, rfl⟩

end System

/-! ### What an acknowledged scan has come to -/

def Settled (guestScanId : String) (db : Database) : Prop :=
  ∀ g, db.val.aggregate? guestScanId = some g → g.scan.jobState.terminal = true

theorem acquireRunning_answer {scan : GuestScan} {createAttemptId : Option String} {now : Nat}
    {t t' : Tables} {answer : AcquireGuestLeaseResult}
    (h : (acquireRunning scan createAttemptId now).run t = .ok (answer, t')) :
    answer ≠ .notAcquirable := by
  rw [acquireRunning, Tx.run_bind_ok] at h
  obtain ⟨⟨attempt, leaseExpiry⟩, _, -, h⟩ := h
  dsimp only at h
  split at h
  · obtain ⟨rfl, -⟩ := Tx.run_pure_ok.mp h
    exact fun heq => AcquireGuestLeaseResult.noConfusion heq
  · rw [Tx.run_bind_ok] at h
    obtain ⟨_, _, -, h⟩ := h
    split at h
    · rw [terminateJob_answer h]
      exact fun heq => AcquireGuestLeaseResult.noConfusion heq
    · obtain ⟨lease, rfl⟩ := leaseNew_answer h
      exact fun heq => AcquireGuestLeaseResult.noConfusion heq

theorem settled_of_notAcquirable {db : Database} (hsound : Sound db.val) {guestScanId : String}
    {createAttemptId : Option String} {clock : ClockReading}
    (h : (acquire guestScanId createAttemptId clock db).1 = .notAcquirable) :
    Settled guestScanId db := by
  intro g hg
  rw [acquire] at h
  split at h
  · cases h
  split at h
  · cases h
  rename_i now _
  rcases transaction_cases .unavailable (acquireBody guestScanId createAttemptId now) db with
    hrun | hfailed
  · rw [h, acquireBody, Tx.run_bind_get, (Tables.aggregate?_eq_some.mp hg).1] at hrun
    dsimp only at hrun
    split at hrun
    · rename_i hidle
      rw [validScan_of_inv hg (hsound _ g hg)] at hidle
      apply JobState.terminal_of_not_active
      · intro hqueued
        rw [hqueued] at hidle
        exact absurd hidle (by decide)
      · intro hrunning
        rw [hrunning] at hidle
        exact absurd hidle (by decide)
    · split at hrun
      · cases terminateJob_answer hrun
      · split at hrun
        · exact absurd rfl (acquireRunning_answer hrun)
        · obtain ⟨_, hanswer⟩ := leaseNew_answer hrun
          cases hanswer
  · rw [hfailed] at h
    cases h

theorem Lifecycle.Step.finished {g g' : Aggregate} {job : JobState} (h : Step g (.finish job) g') :
    g'.scan.jobState.terminal = true := by
  cases h with
  | finishQueued job now reason reservation queued ends reserved =>
    rcases ends with rfl | rfl <;> rfl
  | finishRunning current earlier job state now reason reservation running attempts ends =>
    rcases ends with rfl | rfl | rfl <;> rfl

theorem settled_of_jobTerminated {db : Database} (hsound : Sound db.val) {guestScanId : String}
    {createAttemptId : Option String} {clock : ClockReading} {terminal : TerminalState}
    (h : (acquire guestScanId createAttemptId clock db).1 = .jobTerminated terminal) :
    Settled guestScanId (acquire guestScanId createAttemptId clock db).2 := by
  have houtcome := acquire_outcome hsound guestScanId createAttemptId clock
  rw [h] at houtcome
  cases houtcome with
  | event g g' focus step =>
    intro found hfound
    rw [focus.after] at hfound
    cases hfound
    exact step.finished

theorem settled_of_primaryCommit {db : Database} (hsound : Sound db.val)
    {result : AuthenticatedResult} {transactionNow : TransactionTime}
    (h : (commit (some result) transactionNow db).1 = .primaryCommit) :
    Settled result.jobId (commit (some result) transactionNow db).2 := by
  obtain ⟨g, haccepts⟩ := accepts_of_primaryCommit hsound h
  intro found hfound
  rw [haccepts.stored] at hfound
  cases hfound
  rw [haccepts.job]
  rfl

theorem decideResultCommit_already {snapshot : ResultCommitSnapshot}
    {submission : ResultSubmissionIdentity} {now : Nat}
    (h : decideResultCommit snapshot submission now = .alreadyCommitted) :
    snapshot.jobState = .succeeded := by
  rw [decideResultCommit] at h
  split at h
  · cases h
  split at h
  · assumption
  · exfalso
    repeat' split at h
    all_goals cases h

theorem settled_of_alreadyCommitted {db : Database} (hsound : Sound db.val)
    {result : AuthenticatedResult} {transactionNow : TransactionTime}
    (h : (commit (some result) transactionNow db).1 = .alreadyCommitted) :
    Settled result.jobId (commit (some result) transactionNow db).2 := by
  have houtcome := commit_outcome hsound result transactionNow
  rw [h] at houtcome
  obtain hsame : (commit (some result) transactionNow db).2 = db := by
    cases houtcome
    assumption
  rw [hsame]
  intro g hg
  rw [commit] at h
  have hdecided : ∀ {verdict : Verdict CommitGuestResultResult} {t' : Tables},
      (persistResultBody result transactionNow).run db.val = .ok (verdict, t') →
      verdict = .commit .alreadyCommitted ∨ verdict = .rollback .alreadyCommitted →
      g.scan.jobState.terminal = true := by
    intro verdict t' hrun hverdict
    rw [persistResultBody, Tx.run_bind_get] at hrun
    split at hrun
    · obtain ⟨rfl, -⟩ := Tx.run_pure_ok.mp hrun
      rcases hverdict with hverdict | hverdict <;> cases hverdict
    · rename_i state hstate
      obtain ⟨⟨scan, attempt⟩, hlocked, hmapped⟩ := Option.bind_eq_some_iff.mp hstate
      obtain ⟨rfl, -⟩ := (lockedRow_eq_some (hsound _ g hg) hg).mp hlocked
      split at hrun
      · obtain ⟨rfl, -⟩ := Tx.run_pure_ok.mp hrun
        rcases hverdict with hverdict | hverdict <;> cases hverdict
      · rename_i hdecision
        have hjob := (mapLockedState_eq_some.mp hmapped).2.2.2.2.2.2.1
        rw [decideResultCommit_already hdecision] at hjob
        rw [← hjob]
        rfl
      · split at hrun
        · obtain ⟨rfl, -⟩ := Tx.run_pure_ok.mp hrun
          rcases hverdict with hverdict | hverdict <;> cases hverdict
        · obtain ⟨_, _, -, hrun⟩ := Tx.run_bind_ok.mp hrun
          obtain ⟨rfl, -⟩ := Tx.run_pure_ok.mp hrun
          rcases hverdict with hverdict | hverdict <;> cases hverdict
  rcases atomically_cases (CommitGuestResultResult.failure .unavailable false)
      (persistResultBody result transactionNow) db with
    ⟨answer, next, hrun, heq⟩ | ⟨-, hunavailable | ⟨next, hrun⟩⟩
  · rw [heq] at h
    cases h
    exact hdecided hrun (.inl rfl)
  · rw [hunavailable] at h
    cases h
  · rw [h] at hrun
    exact hdecided hrun (.inr rfl)

/-! ### What a commit rests on -/

/-- The bytes that a scanner wrote before it exited well, brought into canonical form under the
authority of a lease, and nothing else, are what the result says. -/
structure ScannedUnder (runtime : EnvelopeRuntime) (locale : LocaleOrder)
    (lease : GuestAttemptLease) (accepted : AuthenticatedResult) : Prop where
  job : accepted.jobId = lease.guestScanId
  attempt : accepted.submission.attemptId = lease.attemptId
  fence : accepted.submission.fence = lease.monotonicFence
  scanned : ∃ context events result now, context.envelope.jobId = lease.guestScanId ∧
    context.envelope.canonicalTarget = lease.canonicalTarget ∧
    context.envelope.policy.profile = .guestSafe ∧
    Signable (canonicalProducer runtime locale) context events result now ∧
    accepted.projection = result.projection ∧
    accepted.submission.payloadDigest = result.payloadDigest

theorem ResultEnvelope.raw_injective {a b : ResultEnvelope} (h : a.raw = b.raw) : a = b := by
  obtain ⟨header, payload⟩ := a
  obtain ⟨header', payload'⟩ := b
  cases header
  cases header'
  simp only [ResultEnvelope.raw, RawResultEnvelope.mk.injEq, Scalar.number.injEq, Option.some.injEq,
    Scalar.string.injEq, Scalar.bytes.injEq, Int.natCast_inj] at h
  obtain ⟨rfl, rfl, rfl, rfl, rfl, rfl, rfl, rfl, hdigest, rfl, rfl⟩ := h
  rw [digestText_injective hdigest]

theorem Presents.envelope_eq {input : RawSubmission} {a b : ResultEnvelope}
    {authentication authentication' : ResultEnvelopeAuthentication}
    (ha : Presents input a authentication) (hb : Presents input b authentication') : a = b := by
  have hsame := (snapshotSubmission_eq_raw.mpr ha).symm.trans (snapshotSubmission_eq_raw.mpr hb)
  exact ResultEnvelope.raw_injective (Prod.mk.inj (Option.some.inj hsame)).1

theorem KeyedBy.authenticated {runtime : EnvelopeRuntime} {locale : LocaleOrder}
    {context : SupervisorContext} {events : List SupervisorEvent} {signed : SignedResultEnvelope}
    {projection : SanitizedGuestProjection} {keyVersion : Nat} {key : List UInt8}
    (h : KeyedBy runtime (canonicalProducer runtime locale) context events signed projection
      keyVersion key)
    (hprofile : context.envelope.policy.profile = .guestSafe)
    {dependencies : GuestResultCommitDependencies}
    (hlimit : dependencies.maxPayloadBytes = guestSafeOutputLimit) {now : Option Int}
    {accepted : AuthenticatedResult}
    (haccepted : authenticatedResult runtime (canonicalProducer runtime locale) dependencies
      signed.readSubmission now = some accepted) :
    ∃ result now, Signable (canonicalProducer runtime locale) context events result now ∧
      accepted.jobId = context.envelope.jobId ∧
      accepted.submission = ⟨context.envelope.attemptId, context.envelope.fence,
        result.payloadDigest⟩ ∧
      accepted.projection = result.projection := by
  obtain ⟨result, issuedAt, hsignable, -, hsign⟩ := h.earned
  obtain ⟨payload, -, hproduced⟩ := hsignable.output
  obtain ⟨hagain, -, hdigest, -⟩ :=
    canonicalProducer_again hproduced (maxOutputBytes_le hprofile) (by decide)
  obtain ⟨input, signer, message, hinput, -, -, -, rfl⟩ := signResultEnvelope_ok.mp hsign
  cases snapshotInput_signingInput hinput
  unfold authenticatedResult at haccepted
  split at haccepted
  · cases haccepted
  rename_i verified hverified
  obtain ⟨trusted, envelope, authentication, -, hpresents, -, rfl⟩ :=
    verifyAuthenticatedResultEnvelope_ok.mp hverified
  have henvelope := hpresents.envelope_eq (SignedResultEnvelope.presents _)
  subst henvelope
  split at haccepted
  · cases haccepted
  rename_i found hfound
  have hsame : found = result := by
    have hpayload : canonicalProducer runtime locale result.canonicalPayload
        dependencies.maxPayloadBytes = some found := hfound
    rw [hlimit, hagain] at hpayload
    exact (Option.some.inj hpayload).symm
  subst hsame
  split at haccepted
  · cases haccepted
  · cases haccepted
    exact ⟨found, issuedAt, hsignable, rfl, by rw [hdigest]; rfl, rfl⟩

/-! ### The processor under the system -/

def recordedOutcomes : List (Exchange ProcessorCall ProcessorAnswer) → List GuestQueueOutcome
  | ⟨.record outcome, some _⟩ :: rest => outcome :: recordedOutcomes rest
  | _ :: rest => recordedOutcomes rest
  | [] => []

def GuestQueueProcessResult.outcomes : GuestQueueProcessResult → List GuestQueueOutcome
  | .acknowledged outcome | .retryable outcome => [outcome]
  | .thrown => []

theorem run_sound (node : NodeRuntime) {db : Database} (hsound : Sound db.val) (calls : List Call) :
    Sound (Machine.run (exec node) db calls).val := by
  induction calls generalizing db with
  | nil => exact hsound
  | cons call rest ih => exact ih (exec_sound node hsound call)

/-- What is known of a message for a scan when it is done with: its outcome was told once, an
acknowledged scan is settled, and what was committed was scanned under a lease of it. -/
structure Handled (node : NodeRuntime) (runtime : EnvelopeRuntime) (locale : LocaleOrder)
    (guestScanId : String) (Leased : List Call → GuestAttemptLease → Prop) (db : Database)
    (exchanges : List (Exchange ProcessorCall ProcessorAnswer)) (calls : List Call)
    (result : GuestQueueProcessResult) : Prop where
  told : recordedOutcomes exchanges = result.outcomes
  settled : ∀ outcome, result = .acknowledged outcome → ∃ first rest, calls = first ++ rest ∧
    Settled guestScanId (Machine.run (exec node) db first)
  scanned : result = .acknowledged .committed → ∃ first accepted transactionNow rest lease,
    calls = first ++ .commit (some accepted) transactionNow :: rest ∧
    (commit (some accepted) transactionNow (Machine.run (exec node) db first)).1 = .primaryCommit ∧
    ScannedUnder runtime locale lease accepted ∧ Leased first lease

section Handling

variable {node : NodeRuntime} {runtime : EnvelopeRuntime} {locale : LocaleOrder}
  {dependencies : GuestResultCommitDependencies} {guestScanId : String}
  {Leased Later : List Call → GuestAttemptLease → Prop} {db : Database}

theorem Handled.after {before : List Call}
    {exchanges : List (Exchange ProcessorCall ProcessorAnswer)} {calls : List Call}
    {result : GuestQueueProcessResult}
    (h : Handled node runtime locale guestScanId Later (Machine.run (exec node) db before) exchanges
      calls result)
    {exchange : Exchange ProcessorCall ProcessorAnswer}
    (hsilent : recordedOutcomes (exchange :: exchanges) = recordedOutcomes exchanges)
    (hleased : ∀ first lease, Later first lease → Leased (before ++ first) lease) :
    Handled node runtime locale guestScanId Leased db (exchange :: exchanges) (before ++ calls)
      result where
  told := hsilent.trans h.told
  settled := by
    intro outcome houtcome
    obtain ⟨first, rest, rfl, hsettled⟩ := h.settled outcome houtcome
    refine ⟨before ++ first, rest, (List.append_assoc ..).symm, ?_⟩
    rwa [Machine.run_append]
  scanned := by
    intro hcommitted
    obtain ⟨first, accepted, transactionNow, rest, lease, rfl, hprimary, hscanned, hlease⟩ :=
      h.scanned hcommitted
    refine ⟨before ++ first, accepted, transactionNow, rest, lease, (List.append_assoc ..).symm, ?_,
      hscanned, hleased first lease hlease⟩
    rwa [Machine.run_append]

/-- An outcome is told once, or the message is thrown back. -/
theorem settle_ensures (outcome : GuestQueueOutcome) {result : GuestQueueProcessResult}
    (hresult : result.outcomes = [outcome]) :
    Ensures (exec node) (ProcessorServes runtime locale dependencies) db (settle outcome result)
      fun exchanges _ value =>
        recordedOutcomes exchanges = value.outcomes ∧ (value = result ∨ value = .thrown) := by
  apply Ensures.ask
  intro answer others own _
  cases answer with
  | none => exact .done fun _ => ⟨rfl, .inr rfl⟩
  | some answer => exact .done fun _ => ⟨hresult.symm, .inl rfl⟩

theorem retry_handled (outcome : GuestQueueOutcome) :
    Ensures (exec node) (ProcessorServes runtime locale dependencies) db (retryMessage outcome)
      (Handled node runtime locale guestScanId Leased db) := by
  refine (settle_ensures outcome rfl).imp fun exchanges calls value h => ?_
  obtain ⟨htold, rfl | rfl⟩ := h
  · exact ⟨htold, nofun, nofun⟩
  · exact ⟨htold, nofun, nofun⟩

theorem acknowledge_handled {outcome : GuestQueueOutcome} (hsettled : Settled guestScanId db)
    (hother : outcome ≠ .committed) :
    Ensures (exec node) (ProcessorServes runtime locale dependencies) db (acknowledge outcome)
      (Handled node runtime locale guestScanId Leased db) := by
  refine (settle_ensures outcome rfl).imp fun exchanges calls value h => ?_
  obtain ⟨htold, rfl | rfl⟩ := h
  · refine ⟨htold, fun _ _ => ⟨[], calls, rfl, hsettled⟩, fun hcommitted => ?_⟩
    cases hcommitted
    exact absurd rfl hother
  · exact ⟨htold, nofun, nofun⟩

theorem ensures_after {call : ProcessorCall} (hcall : ∀ outcome, call ≠ .record outcome)
    {answer : ProcessorAnswer call} {others own : List Call} {p : Processor}
    {lease : GuestAttemptLease}
    (h : Ensures (exec node) (ProcessorServes runtime locale dependencies)
      (Machine.run (exec node) db (others ++ own)) p
      (Handled node runtime locale guestScanId (fun _ held => held = lease)
        (Machine.run (exec node) db (others ++ own)))) :
    Ensures (exec node) (ProcessorServes runtime locale dependencies)
      (Machine.run (exec node) db (others ++ own)) p fun exchanges calls =>
        Handled node runtime locale guestScanId (fun _ held => held = lease) db
          (⟨call, answer⟩ :: exchanges) (others ++ (own ++ calls)) := by
  refine h.imp fun exchanges calls value hhandled => ?_
  rw [← List.append_assoc]
  refine hhandled.after ?_ fun _ _ hlease => hlease
  cases call with
  | record outcome => exact absurd rfl (hcall outcome)
  | _ => rfl

theorem commitSubmitted_handled (hsound : Sound db.val) {lease : GuestAttemptLease}
    {submission : RawSubmission}
    (hscanned : ∀ now accepted, authenticatedResult runtime (canonicalProducer runtime locale)
      dependencies submission now = some accepted → ScannedUnder runtime locale lease accepted) :
    Ensures (exec node) (ProcessorServes runtime locale dependencies) db
      (commitSubmitted lease submission)
      (Handled node runtime locale lease.guestScanId (fun _ held => held = lease) db) := by
  have hcommit : ∀ outcome, ProcessorCall.commit submission ≠ .record outcome :=
    fun _ heq => ProcessorCall.noConfusion heq
  -- a failure is told to the sink, and the message goes back whatever the sink says
  have hfailed : ∀ code emitSecurityAudit others own, Ensures (exec node)
      (ProcessorServes runtime locale dependencies) (Machine.run (exec node) db (others ++ own))
      (.ask (.reject (rejectionRequest lease code)) fun recorded =>
        retryMessage (rejectionOutcome emitSecurityAudit recorded).outcome)
      (Handled node runtime locale lease.guestScanId (fun _ held => held = lease)
        (Machine.run (exec node) db (others ++ own))) :=
    fun code emitSecurityAudit others own => .ask fun recorded others' own' _ =>
      ensures_after (fun _ heq => ProcessorCall.noConfusion heq) (retry_handled _)
  refine .ask fun answer others own hserves => ?_
  cases hserves with
  | rejects => exact ensures_after hcommit (retry_handled _)
  | refuse code emitSecurityAudit => exact ensures_after hcommit (hfailed _ _ _ _)
  | @commit _ now accepted transactionNow hresult =>
    have hbefore := run_sound node hsound others
    have hunder := hscanned now accepted hresult
    have hafter : Machine.run (exec node) db (others ++ [.commit (some accepted) transactionNow]) =
        (commit (some accepted) transactionNow (Machine.run (exec node) db others)).2 := by
      rw [Machine.run_append]
      rfl
    generalize hanswer :
      (commit (some accepted) transactionNow (Machine.run (exec node) db others)).1 = answer
    cases answer with
    | failure code emitSecurityAudit => exact ensures_after hcommit (hfailed _ _ _ _)
    | alreadyCommitted =>
      have hsettled := settled_of_alreadyCommitted hbefore hanswer
      rw [hunder.job, ← hafter] at hsettled
      exact ensures_after hcommit
        (acknowledge_handled hsettled fun heq => GuestQueueOutcome.noConfusion heq)
    | primaryCommit =>
      have hsettled := settled_of_primaryCommit hbefore hanswer
      rw [hunder.job, ← hafter] at hsettled
      have hsettle : Ensures (exec node) (ProcessorServes runtime locale dependencies)
          (Machine.run (exec node) db (others ++ [.commit (some accepted) transactionNow]))
          (acknowledge .committed) _ := settle_ensures .committed rfl
      refine hsettle.imp fun exchanges calls value h => ?_
      obtain ⟨htold, rfl | rfl⟩ := h
      · exact ⟨htold, fun _ _ => ⟨others ++ [.commit (some accepted) transactionNow], calls,
          (List.append_assoc ..).symm, hsettled⟩, fun _ => ⟨others, accepted, transactionNow, calls,
            lease, rfl, hanswer, hunder, rfl⟩⟩
      · exact ⟨htold, nofun, nofun⟩

theorem Supervised.scannedUnder {input : Datum} {trusted : TrustedExecutionState}
    {submission : RawSubmission}
    (h : Supervised runtime locale ⟨.datum input, .state trusted⟩ (.finished (some submission)))
    {lease : GuestAttemptLease} {now : Int} {approval : ScannerTemplateApproval}
    (htrusted : trusted = lease.trusted now approval)
    (hlimit : dependencies.maxPayloadBytes = guestSafeOutputLimit) {verifiedAt : Option Int}
    {accepted : AuthenticatedResult}
    (haccepted : authenticatedResult runtime (canonicalProducer runtime locale) dependencies
      submission verifiedAt = some accepted) : ScannedUnder runtime locale lease accepted := by
  generalize hcontext : (⟨.datum input, .state trusted⟩ : ExecutionContext) = context at h
  generalize hresult : AttemptRunResult.finished (some submission) = result at h
  cases h with
  | failed => cases hresult
  | @finished input' trusted' raw startedAt waitsAt supervisor start hstart events signed projection
      hreturned =>
    cases hcontext
    cases hresult
    obtain ⟨keyVersion, key, hkeyed⟩ :=
      keyed_run (told_start hstart) (keyed_start hstart) events signed projection hreturned
    have hprofile := startSupervisor_profile hstart
    obtain ⟨result, signedAt, hsignable, hjob, hsubmission, hprojection⟩ :=
      hkeyed.authenticated hprofile hlimit haccepted
    obtain ⟨envelope, request, found, -, happroved, henvelope⟩ :=
      authorizeSupervisorExecution_eq_allowed.mp (startSupervisor_ok hstart).1
    have hjobId : supervisor.envelope.jobId = lease.guestScanId := by
      rw [henvelope]
      exact happroved.job.trans (by rw [htrusted]; rfl)
    have hattempt : supervisor.envelope.attemptId = lease.attemptId := by
      rw [henvelope]
      exact happroved.attempt.trans (by rw [htrusted]; rfl)
    have hfence : (supervisor.envelope.fence : Int) = lease.monotonicFence := by
      rw [henvelope]
      exact happroved.fence.trans (by rw [htrusted]; rfl)
    have htarget : supervisor.envelope.canonicalTarget = lease.canonicalTarget := by
      rw [henvelope]
      exact happroved.target.trans (by rw [htrusted]; rfl)
    exact {
      job := hjob.trans hjobId
      attempt := by rw [hsubmission]; exact hattempt
      fence := by rw [hsubmission]; exact Int.natCast_inj.mp hfence
      scanned := ⟨supervisor, events, result, signedAt, hjobId, htarget, hprofile, hsignable,
        hprojection, by rw [hsubmission]⟩ }

theorem executionContext_raw {context : GuestExecutionContext} {read : ExecutionContext}
    (h : executionContext context.raw = some read) :
    read = ⟨.datum context.envelope, .state context.trusted⟩ := by
  unfold executionContext GuestExecutionContext.raw at h
  dsimp only at h
  split at h
  · cases h
    rfl
  · cases h

theorem loadContext_trusted {clock : ClockReading} {rawApproval : Option Datum}
    {lease : GuestAttemptLease} {context : GuestExecutionContext}
    (h : loadContext clock rawApproval lease = some context) :
    ∃ now approval, context.trusted = lease.trusted now approval := by
  simp only [loadContext, Option.bind_eq_bind, Option.bind_eq_some_iff, pure,
    Option.some.injEq] at h
  obtain ⟨now, -, _, -, approval, -, _, -, rfl⟩ := h
  exact ⟨now, approval, rfl⟩

theorem runLease_handled (hsound : Sound db.val) {lease : GuestAttemptLease} {clock : ClockReading}
    {rawApproval : Option Datum} {context : GuestExecutionContext}
    (hcontext : loadContext clock rawApproval lease = some context)
    (hlimit : dependencies.maxPayloadBytes = guestSafeOutputLimit) :
    Ensures (exec node) (ProcessorServes runtime locale dependencies) db
      (runLease lease ⟨.datum context.envelope, .state context.trusted⟩)
      (Handled node runtime locale lease.guestScanId (fun _ held => held = lease) db) := by
  have hrun : ∀ outcome, ProcessorCall.run lease ⟨.datum context.envelope, .state context.trusted⟩ ≠
      .record outcome :=
    fun _ heq => ProcessorCall.noConfusion heq
  refine .ask fun answer others own hserves => ?_
  cases hserves with
  | rejects => exact ensures_after hrun (retry_handled _)
  | @run _ _ result heartbeatLost hsupervised =>
    cases heartbeatLost with
    | true => cases result <;> exact ensures_after hrun (retry_handled _)
    | false =>
      cases result with
      | failed => exact ensures_after hrun (retry_handled _)
      | finished submission =>
        cases submission with
        | none => exact ensures_after hrun (retry_handled _)
        | some submission =>
          refine ensures_after hrun (commitSubmitted_handled (run_sound node hsound _) ?_)
          intro verifiedAt accepted haccepted
          obtain ⟨now, approval, htrusted⟩ := loadContext_trusted hcontext
          exact hsupervised.scannedUnder htrusted hlimit haccepted

theorem startLease_handled (hsound : Sound db.val) (lease : GuestAttemptLease)
    (hlimit : dependencies.maxPayloadBytes = guestSafeOutputLimit) :
    Ensures (exec node) (ProcessorServes runtime locale dependencies) db (startLease lease)
      (Handled node runtime locale lease.guestScanId (fun _ held => held = lease) db) := by
  have hload : ∀ others, Ensures (exec node) (ProcessorServes runtime locale dependencies)
      (Machine.run (exec node) db others) (loadLease lease)
      (Handled node runtime locale lease.guestScanId (fun _ held => held = lease)
        (Machine.run (exec node) db others)) := by
    intro before
    refine .ask fun answer others own hserves => ?_
    cases hserves with
    | rejects => exact ensures_after (fun _ heq => ProcessorCall.noConfusion heq) (retry_handled _)
    | @load _ clock rawApproval context hcontext =>
      refine ensures_after (fun _ heq => ProcessorCall.noConfusion heq) ?_
      dsimp only [Option.bind_some]
      cases hread : executionContext context.raw with
      | none => exact retry_handled _
      | some read =>
        cases executionContext_raw hread
        exact runLease_handled (run_sound node (run_sound node hsound _) _) hcontext hlimit
  refine .ask fun answer others own hserves => ensures_after
    (fun _ heq => ProcessorCall.noConfusion heq) ?_
  cases answer with
  | none => exact retry_handled _
  | some answer =>
    cases answer with
    | started => exact hload _
    | alreadyRunning => exact hload _
    | _ => exact retry_handled _

def LeasedFor (node : NodeRuntime) (db : Database) (guestScanId : String) (calls : List Call)
    (lease : GuestAttemptLease) : Prop :=
  ∃ earlier createAttemptId clock later,
    calls = earlier ++ .acquire guestScanId createAttemptId clock :: later ∧
      (acquire guestScanId createAttemptId clock (Machine.run (exec node) db earlier)).1 =
        .leaseAcquired lease

theorem acquire_scanId (hsound : Sound db.val) {createAttemptId : Option String}
    {clock : ClockReading} {lease : GuestAttemptLease}
    (h : (acquire guestScanId createAttemptId clock db).1 = .leaseAcquired lease) :
    guestScanId = lease.guestScanId := by
  have houtcome := acquire_outcome hsound guestScanId createAttemptId clock
  rw [h] at houtcome
  cases houtcome with
  | event g g' focus step =>
    obtain ⟨current, hstanding, -⟩ := step.standing
    exact (Tables.scan_id_of_aggregate? focus.after).symm.trans hstanding.scanId

theorem processMessage_handled (hsound : Sound db.val) {message : Datum}
    (hmessage : parseGuestQueueMessage message = some guestScanId)
    (hlimit : dependencies.maxPayloadBytes = guestSafeOutputLimit) :
    Ensures (exec node) (ProcessorServes runtime locale dependencies) db (processMessage message)
      (Handled node runtime locale guestScanId (LeasedFor node db guestScanId) db) := by
  rw [processMessage, hmessage]
  refine .ask fun answer others own hserves => ?_
  have hbefore := run_sound node hsound others
  -- before a lease is there, what follows says nothing of one
  have hplain : ∀ {p : Processor} {answer : ProcessorAnswer (.acquire guestScanId)},
      Ensures (exec node) (ProcessorServes runtime locale dependencies)
        (Machine.run (exec node) db (others ++ own)) p
        (Handled node runtime locale guestScanId (fun _ _ => False)
          (Machine.run (exec node) db (others ++ own))) →
      Ensures (exec node) (ProcessorServes runtime locale dependencies)
        (Machine.run (exec node) db (others ++ own)) p fun exchanges calls =>
          Handled node runtime locale guestScanId (LeasedFor node db guestScanId) db
            (⟨.acquire guestScanId, answer⟩ :: exchanges) (others ++ (own ++ calls)) := by
    intro p answer h
    refine h.imp fun exchanges calls value hhandled => ?_
    rw [← List.append_assoc]
    exact hhandled.after rfl fun _ _ hfalse => hfalse.elim
  cases hserves with
  | rejects => exact hplain (retry_handled _)
  | acquire _ createAttemptId clock =>
    have hafter : Machine.run (exec node) db
        (others ++ [.acquire guestScanId createAttemptId clock]) =
        (acquire guestScanId createAttemptId clock (Machine.run (exec node) db others)).2 := by
      rw [Machine.run_append]
      rfl
    generalize hanswer :
      (acquire guestScanId createAttemptId clock (Machine.run (exec node) db others)).1 = answer
    cases answer with
    | notAcquirable =>
      have hsettled := settled_of_notAcquirable hbefore hanswer
      have hsame : (acquire guestScanId createAttemptId clock
          (Machine.run (exec node) db others)).2 = Machine.run (exec node) db others := by
        have houtcome := acquire_outcome hbefore guestScanId createAttemptId clock
        rw [hanswer] at houtcome
        cases houtcome
        assumption
      rw [← hsame, ← hafter] at hsettled
      exact hplain (acknowledge_handled hsettled fun heq => GuestQueueOutcome.noConfusion heq)
    | jobTerminated terminal =>
      have hsettled := settled_of_jobTerminated hbefore hanswer
      rw [← hafter] at hsettled
      exact hplain (acknowledge_handled hsettled fun heq => GuestQueueOutcome.noConfusion heq)
    | leaseHeld retryAfterSeconds => exact hplain (retry_handled _)
    | invalidRequest => exact hplain (retry_handled _)
    | unavailable => exact hplain (retry_handled _)
    | leaseAcquired lease =>
      obtain rfl := acquire_scanId hbefore hanswer
      refine (startLease_handled (run_sound node hsound _) lease hlimit).imp
        fun exchanges calls value hhandled => ?_
      rw [← List.append_assoc]
      refine hhandled.after rfl ?_
      rintro first held rfl
      exact ⟨others, createAttemptId, clock, first, List.append_assoc .., hanswer⟩


/-- Whatever else works on the database meanwhile, and whichever calls reject: the outcome of a
message is told exactly once, when the message ends with one. A message is acknowledged only for a
scan that is gone or whose job has ended, and then for good. A message ends as committed only if
one of its run is the primary commit, and what it stored is what a scanner wrote that ran under a
lease acquired for this message's scan, in this run. -/
theorem queue_message_handled (hdb : Reachable node db) {message : Datum}
    (hmessage : parseGuestQueueMessage message = some guestScanId)
    (hlimit : dependencies.maxPayloadBytes = guestSafeOutputLimit)
    {exchanges : List (Exchange ProcessorCall ProcessorAnswer)} {calls : List Call}
    {result : GuestQueueProcessResult}
    (hplays : Plays (processMessage message) exchanges (some result))
    (hserved : Served (exec node) (ProcessorServes runtime locale dependencies) db exchanges
      calls) :
    recordedOutcomes exchanges = result.outcomes ∧
      (∀ outcome, result = .acknowledged outcome → ∃ first rest, calls = first ++ rest ∧
        ∀ g, (Machine.run (exec node) db first).val.aggregate? guestScanId = some g →
          g.scan.jobState.terminal = true ∧
          ∀ later, Machine.Along (exec node) (fun db call => ¬ Deletes node db call guestScanId)
              (Machine.run (exec node) db first) later →
            (Machine.run (exec node) db (first ++ later)).val.aggregate? guestScanId = some g) ∧
      (result = .acknowledged .committed → ∃ first accepted transactionNow rest lease,
        calls = first ++ .commit (some accepted) transactionNow :: rest ∧
        (commit (some accepted) transactionNow (Machine.run (exec node) db first)).1 =
          .primaryCommit ∧
        ScannedUnder runtime locale lease accepted ∧
        LeasedFor node db guestScanId first lease) := by
  have hhandled := processMessage_handled hdb.sound hmessage hlimit exchanges calls result hplays
    hserved
  refine ⟨hhandled.told, fun outcome houtcome => ?_, hhandled.scanned⟩
  obtain ⟨first, rest, hcalls, hsettled⟩ := hhandled.settled outcome houtcome
  refine ⟨first, rest, hcalls, fun g hg => ⟨hsettled g hg, fun later hkept => ?_⟩⟩
  rw [Machine.run_append]
  exact (run_frozen node (run_sound node hdb.sound first) hg (hsettled g hg) hkept).2

end Handling

/-! ### A message of the small service -/

def sampleMessage : Datum :=
  .object [("schema_version", .number (.whole 1)), ("guest_scan_id", .string "scan-1")]

theorem parseGuestQueueMessage_sample : parseGuestQueueMessage sampleMessage = some "scan-1" :=
  parseGuestQueueMessage_create
    (show createGuestQueueMessage "scan-1" = some sampleMessage from rfl)

theorem loadContext_sample : loadContext (some 1006) (some sampleRawApproval) sampleLease =
    some ⟨sampleLease.envelope sampleApproval, sampleLease.trusted 1006 sampleApproval⟩ := by
  have happroval : parseApproval sampleRawApproval = some sampleApproval := parseApproval_sample
  have htime : (0 : Int) < 1006 ∧ (1006 : Int) ≤ (maxSafeInteger : Int) ∧
      (1006 : Int) < (sampleLease.leaseExpiresAt : Int) ∧
      (1006 : Int) < (sampleLease.hardDeadline : Int) := by decide
  simp only [loadContext, happroval, htime, guard, if_true, Option.bind_eq_bind, Option.bind_some,
    Option.pure_def, and_self]

section Serving

variable {runtime : EnvelopeRuntime} {locale : LocaleOrder}
  {dependencies : GuestResultCommitDependencies} {db : Database}

theorem serves_acquire {guestScanId : String} {createAttemptId : Option String}
    {clock : ClockReading} {answer : AcquireGuestLeaseResult}
    (h : (acquire guestScanId createAttemptId clock db).1 = answer) :
    ProcessorServes runtime locale dependencies db ⟨.acquire guestScanId, some answer⟩
      [.acquire guestScanId createAttemptId clock] := by
  subst h
  exact .acquire ..

theorem serves_start {command : LeaseCommand} {clock : ClockReading}
    {answer : StartGuestAttemptResult} (h : (start command clock db).1 = answer) :
    ProcessorServes runtime locale dependencies db ⟨.start command, some answer⟩
      [.start command clock] := by
  subst h
  exact .start ..

/-- A worker that is left alone from the start of its attempt on. -/
theorem served_committing {node : NodeRuntime} {lease : GuestAttemptLease} {clock : ClockReading}
    {rawApproval : Option Datum} {loaded : GuestExecutionContext}
    (hloaded : loadContext clock rawApproval lease = some loaded) {context : ExecutionContext}
    {submission : RawSubmission}
    (hsupervised : Supervised runtime locale context (.finished (some submission)))
    {now : Option Int} {accepted : AuthenticatedResult}
    (haccepted : authenticatedResult runtime (canonicalProducer runtime locale) dependencies
      submission now = some accepted) {transactionNow : TransactionTime}
    (hcommitted : (commit (some accepted) transactionNow db).1 = .primaryCommit) :
    Served (exec node) (ProcessorServes runtime locale dependencies) db
      [⟨.load lease, some loaded.raw⟩,
        ⟨.run lease context, some (.finished (some submission), false)⟩,
        ⟨.commit submission, some .primaryCommit⟩, ⟨.record .committed, some ()⟩]
      [.commit (some accepted) transactionNow] := by
  have hcommit : ProcessorServes runtime locale dependencies db
      ⟨.commit submission, some .primaryCommit⟩ [.commit (some accepted) transactionNow] := by
    rw [← hcommitted]
    exact .commit db transactionNow haccepted
  have hload : ProcessorServes runtime locale dependencies db ⟨.load lease, some loaded.raw⟩ [] :=
    .load db lease hloaded
  have hrun : ProcessorServes runtime locale dependencies db
      ⟨.run lease context, some (.finished (some submission), false)⟩ [] :=
    .run db lease false hsupervised
  exact .exchange hload <| .exchange hrun <| .exchange hcommit <|
    .exchange (ProcessorServes.record _ .committed) (.done _)

end Serving

/-- One worker on `scan-1`, from the lease to the commit. -/
theorem queue_message_handled_sample :
    ∃ exchanges, Plays (processMessage sampleMessage) exchanges (some (.acknowledged .committed)) ∧
      recordedOutcomes exchanges = [.committed] ∧
      ∃ lease accepted, ScannedUnder ingressRuntime codePointOrder lease accepted ∧
        accepted.jobId = "scan-1" := by
  obtain ⟨frame, signed, hreturned, hissued⟩ := quiet_returned
  have haccepted := authenticatedResult_of_quiet hreturned hissued
  have hacquired : (acquire "scan-1" (some "attempt-1") (some 1001) sampleCreated).1 =
      .leaseAcquired sampleLease := by decide +kernel
  have hstarted : (start (leaseCommand sampleLease) (some 1002) (Machine.run (exec sampleNode)
      sampleCreated [.acquire "scan-1" (some "attempt-1") (some 1001)])).1 = .started := by
    decide +kernel
  have hcommitted : (commit (some quietAccepted) 1010 (Machine.run (exec sampleNode)
      (Machine.run (exec sampleNode) sampleCreated
        [.acquire "scan-1" (some "attempt-1") (some 1001)])
      [.start (leaseCommand sampleLease) (some 1002)])).1 = .primaryCommit := by
    decide +kernel
  let context : GuestExecutionContext :=
    ⟨sampleLease.envelope sampleApproval, sampleLease.trusted 1006 sampleApproval⟩
  have hread : executionContext context.raw =
      some ⟨.datum context.envelope, .state context.trusted⟩ := rfl
  have hplays : Plays (processMessage sampleMessage)
      [⟨.acquire "scan-1", some (.leaseAcquired sampleLease)⟩,
        ⟨.start (leaseCommand sampleLease), some .started⟩, ⟨.load sampleLease, some context.raw⟩,
        ⟨.run sampleLease ⟨.datum context.envelope, .state context.trusted⟩,
          some (.finished (some signed.readSubmission), false)⟩,
        ⟨.commit signed.readSubmission, some .primaryCommit⟩, ⟨.record .committed, some ()⟩]
      (some (.acknowledged .committed)) := by
    rw [processMessage, parseGuestQueueMessage_sample]
    refine .ask _ (.ask _ (.ask _ ?_))
    rw [Option.bind_some, hread]
    exact .ask _ (.ask _ (.ask _ (.done _)))
  have hserved := Served.exchange (serves_acquire hacquired) <|
    .exchange (serves_start hstarted) <|
    served_committing loadContext_sample (.finished startSupervisor_sample hreturned) haccepted
      hcommitted
  obtain ⟨htold, -, hcommit⟩ := queue_message_handled sampleCreated_reachable
    parseGuestQueueMessage_sample rfl hplays hserved
  obtain ⟨first, accepted, transactionNow, rest, lease, -, -, hscanned, hleased⟩ := hcommit rfl
  obtain ⟨earlier, createAttemptId, clock, later, -, hacquiredAgain⟩ := hleased
  refine ⟨_, hplays, htold, lease, accepted, hscanned, ?_⟩
  exact hscanned.job.trans (acquire_scanId (run_sound _ sampleCreated_reachable.sound _)
    hacquiredAgain).symm

end Outscan

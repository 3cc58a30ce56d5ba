import Outscan.GuestTelemetry.Validation
import Outscan.Library.Run

/-! The in-process telemetry buffer. One batch at most is on its way to the
store; outcomes recorded meanwhile collect in the active counters. -/
namespace Outscan

inductive GuestQueueTelemetryFailureCode where
  | invalidQueueTelemetryRuntime
  | queueTelemetryStoreUnavailable
deriving DecidableEq, Repr

inductive GuestQueueTelemetryFlushResult where
  | empty
  | stored (duplicate : Bool)
  | failure (code : GuestQueueTelemetryFailureCode)
deriving DecidableEq, Repr

/-- What `recordAndPrune` settles with: a rejection, a value that is no
well-formed success, or a success. -/
inductive StoreAnswer where
  | rejected
  | unusable
  | stored (duplicate : Bool)
deriving DecidableEq, Repr

/-- `flushing`: no promise, one that awaits the store, or one that has its
result and whose `finally` has not run. -/
inductive Flushing where
  | idle
  | storing
  | settling (result : GuestQueueTelemetryFlushResult)
deriving DecidableEq, Repr

/-- The variables of `createDurableGuestQueueTelemetry`. -/
structure TelemetryRuntime where
  active : GuestQueueOutcomeCounts
  activeStartedAt : Option Nat
  activeSaturated : Bool
  pending : Option GuestQueueTelemetryBatch
  flushing : Flushing

def TelemetryRuntime.initial : TelemetryRuntime :=
  ⟨emptyGuestQueueOutcomeCounts, none, false, none, .idle⟩

/-- What a call of `record` did: it threw, it counted, or it found the counter
at its maximum. -/
inductive RecordAnswer where
  | threw
  | counted
  | refused
deriving DecidableEq, Repr

/-- The counter part of `record`, once the batch has its start. -/
def countOutcome (r : TelemetryRuntime) (outcome : GuestQueueOutcome) :
    RecordAnswer × TelemetryRuntime :=
  if r.active outcome = guestQueueMaxOutcomeCount then (.refused, { r with activeSaturated := true })
  else
    (.counted, { r with
      active := fun other => if other = outcome then r.active other + 1 else r.active other })

/-- `record`; the clock is read only for the first outcome of a batch. -/
def TelemetryRuntime.record (r : TelemetryRuntime) (outcome : GuestQueueOutcome)
    (now : ClockReading) : RecordAnswer × TelemetryRuntime :=
  match r.activeStartedAt with
  | some _ => countOutcome r outcome
  | none =>
    match nowValue now with
    | none => (.threw, r)
    | some now => countOutcome { r with activeStartedAt := some now } outcome

/-- The batch that `runFlush` makes of the active counters. A clock that fails
gives the time `-1`, which is before every start. -/
def activeBatch (r : TelemetryRuntime) (startedAt : Nat) (now : ClockReading) (id : String) :
    GuestQueueTelemetryBatch where
  batchId := id
  startedAt := startedAt
  finishedAt := match nowValue now with
    | some now => now
    | none => -1
  counts := r.active
  counterSaturated := r.activeSaturated
  alertCode := classifyGuestQueueAlert r.active r.activeSaturated

/-- The calls of `create_batch_id` happen only here: no batch is pending and
something was recorded. -/
def TelemetryRuntime.needsBatchId (r : TelemetryRuntime) : Bool :=
  match r.flushing, r.pending with
  | .idle, none => r.activeStartedAt.isSome
  | _, _ => false

/-- `flush` up to its first `await`: it joins a flush under way, or runs
`runFlush` until the store has been called. The batch is the one sent. -/
def TelemetryRuntime.flush (r : TelemetryRuntime) (batchId : Option String) (now : ClockReading) :
    Option GuestQueueTelemetryBatch × TelemetryRuntime :=
  match r.flushing with
  | .storing | .settling _ => (none, r)
  | .idle =>
    match r.pending with
    | some batch => (some batch, { r with flushing := .storing })
    | none =>
      match r.activeStartedAt with
      | none => (none, { r with flushing := .settling .empty })
      | some startedAt =>
        match validateGuestQueueTelemetryBatch batchId (activeBatch r startedAt now) with
        | none =>
          (none, { r with flushing := .settling (.failure .invalidQueueTelemetryRuntime) })
        | some batch =>
          (some batch, {
            active := emptyGuestQueueOutcomeCounts, activeStartedAt := none,
            activeSaturated := false, pending := some batch, flushing := .storing })

theorem TelemetryRuntime.flush_resend {r : TelemetryRuntime} {batch : GuestQueueTelemetryBatch}
    (hidle : r.flushing = .idle) (hpending : r.pending = some batch) (batchId : Option String)
    (now : ClockReading) :
    r.flush batchId now = (some batch, { r with flushing := .storing }) := by
  simp [TelemetryRuntime.flush, hidle, hpending]

theorem TelemetryRuntime.flush_empty {r : TelemetryRuntime} (hidle : r.flushing = .idle)
    (hpending : r.pending = none) (hstarted : r.activeStartedAt = none) (batchId : Option String)
    (now : ClockReading) : r.flush batchId now = (none, { r with flushing := .settling .empty }) := by
  simp [TelemetryRuntime.flush, hidle, hpending, hstarted]

theorem TelemetryRuntime.flush_invalid {r : TelemetryRuntime} {startedAt : Nat}
    {batchId : Option String} {now : ClockReading} (hidle : r.flushing = .idle)
    (hpending : r.pending = none) (hstarted : r.activeStartedAt = some startedAt)
    (hbatch : validateGuestQueueTelemetryBatch batchId (activeBatch r startedAt now) = none) :
    r.flush batchId now =
      (none, { r with flushing := .settling (.failure .invalidQueueTelemetryRuntime) }) := by
  simp [TelemetryRuntime.flush, hidle, hpending, hstarted, hbatch]

theorem TelemetryRuntime.flush_close {r : TelemetryRuntime} {startedAt : Nat}
    {batchId : Option String} {now : ClockReading} {batch : GuestQueueTelemetryBatch}
    (hidle : r.flushing = .idle) (hpending : r.pending = none)
    (hstarted : r.activeStartedAt = some startedAt)
    (hbatch : validateGuestQueueTelemetryBatch batchId (activeBatch r startedAt now) =
      some batch) :
    r.flush batchId now =
      (some batch, ⟨emptyGuestQueueOutcomeCounts, none, false, some batch, .storing⟩) := by
  simp [TelemetryRuntime.flush, hidle, hpending, hstarted, hbatch]

/-- `runFlush` behind the `await`. -/
def TelemetryRuntime.answered (r : TelemetryRuntime) (answer : StoreAnswer) : TelemetryRuntime :=
  match r.flushing with
  | .idle | .settling _ => r
  | .storing =>
    match answer with
    | .rejected | .unusable =>
      { r with flushing := .settling (.failure .queueTelemetryStoreUnavailable) }
    | .stored duplicate => { r with pending := none, flushing := .settling (.stored duplicate) }

/-- The `finally` of `flush`. -/
def TelemetryRuntime.settle (r : TelemetryRuntime) : TelemetryRuntime :=
  match r.flushing with
  | .idle | .storing => r
  | .settling _ => { r with flushing := .idle }

/-! ### The buffer and its surroundings -/

inductive Traffic where
  | sent (batch : GuestQueueTelemetryBatch)
  | acknowledged (batch : GuestQueueTelemetryBatch)

/-- The buffer together with what happened around it: the calls of `record`
that returned, with whether they counted; the batches sent and acknowledged;
the batch ids handed out; the distinct batches the store ever committed. -/
structure TelemetryWorld where
  runtime : TelemetryRuntime
  log : List (GuestQueueOutcome × Bool)
  traffic : List Traffic
  batchIds : List String
  stored : List GuestQueueTelemetryBatch

def TelemetryWorld.initial : TelemetryWorld := ⟨.initial, [], [], [], []⟩

/-- One thing that can happen. A flush brings what `create_batch_id` and the
clock would answer. -/
inductive TelemetryEvent where
  | record (outcome : GuestQueueOutcome) (now : ClockReading)
  | flush (batchId : Option String) (now : ClockReading)
  | storeCommits (batch : GuestQueueTelemetryBatch)
  | storeAnswers (answer : StoreAnswer)
  | settle

def storeBatch (stored : List GuestQueueTelemetryBatch) (batch : GuestQueueTelemetryBatch) :
    List GuestQueueTelemetryBatch :=
  if stored.any fun row => decide (row.batchId = batch.batchId) then stored else stored ++ [batch]

def TelemetryWorld.recorded (w : TelemetryWorld) (outcome : GuestQueueOutcome)
    (now : ClockReading) : TelemetryWorld :=
  match w.runtime.record outcome now with
  | (.threw, runtime) => { w with runtime }
  | (.counted, runtime) => { w with runtime, log := w.log ++ [(outcome, true)] }
  | (.refused, runtime) => { w with runtime, log := w.log ++ [(outcome, false)] }

def TelemetryWorld.flushed (w : TelemetryWorld) (batchId : Option String) (now : ClockReading) :
    TelemetryWorld :=
  let (sent, runtime) := w.runtime.flush batchId now
  { w with
    runtime
    traffic := w.traffic ++ sent.toList.map .sent
    batchIds := if w.runtime.needsBatchId then batchId.toList ++ w.batchIds else w.batchIds }

/-- The batches an answer acknowledges: the pending one, when the buffer takes
the answer for a success. -/
def TelemetryRuntime.acknowledges (r : TelemetryRuntime) (answer : StoreAnswer) :
    Option GuestQueueTelemetryBatch :=
  match r.flushing, answer with
  | .storing, .stored _ => r.pending
  | _, _ => none

def TelemetryWorld.answered (w : TelemetryWorld) (answer : StoreAnswer) : TelemetryWorld :=
  { w with
    runtime := w.runtime.answered answer
    traffic := w.traffic ++ (w.runtime.acknowledges answer).toList.map .acknowledged }

def TelemetryWorld.next (w : TelemetryWorld) : TelemetryEvent → TelemetryWorld
  | .record outcome now => w.recorded outcome now
  | .flush batchId now => w.flushed batchId now
  | .storeCommits batch => { w with stored := storeBatch w.stored batch }
  | .storeAnswers answer => w.answered answer
  | .settle => { w with runtime := w.runtime.settle }

def telemetryStep (w : TelemetryWorld) (event : TelemetryEvent) : Unit × TelemetryWorld :=
  ((), w.next event)

/-- What the surroundings keep to: batch ids are never handed out twice, only
batches that were sent are stored, and a success is answered only for a stored
batch. -/
def TelemetryAllowed (w : TelemetryWorld) : TelemetryEvent → Prop
  | .record _ _ => True
  | .flush batchId _ => w.runtime.needsBatchId = true → ∀ id ∈ batchId, id ∉ w.batchIds
  | .storeCommits batch => Traffic.sent batch ∈ w.traffic
  | .storeAnswers answer => ∀ batch ∈ w.runtime.acknowledges answer, batch ∈ w.stored
  | .settle => True

end Outscan

import Outscan.Persistence.System

/-! The heartbeat of a worker: `runWithHeartbeat` renews the lease of the attempt
it runs at every firing of a timer, and gives the run up when a renewal is
refused. -/
namespace Outscan

def guestQueueHeartbeatIntervalMs : Nat := 5000
def minHeartbeatMs : Nat := 100
def maxHeartbeatMs : Nat := 10000

/-- `heartbeat_interval_ms` of the dependencies. -/
inductive HeartbeatSetting where
  | undefined
  | integer (value : Int)
  | other
deriving DecidableEq, Repr

def heartbeatInterval : HeartbeatSetting → Option Nat
  | .undefined => some guestQueueHeartbeatIntervalMs
  | .integer value =>
    if value < minHeartbeatMs ∨ maxHeartbeatMs < value then none else some value.toNat
  | .other => none

def leaseCommand (lease : GuestAttemptLease) : LeaseCommand :=
  ⟨lease.guestScanId, lease.attemptId, lease.monotonicFence, lease.leaseVersion⟩

/-- The variables of `runWithHeartbeat`. `heartbeat` is the renewal under way
with the clock it has read, and `timer` holds until `clearInterval`. -/
structure HeartbeatRun where
  currentLease : GuestAttemptLease
  heartbeatLost : Bool
  aborted : Bool
  heartbeat : Option (LeaseCommand × ClockReading)
  timer : Bool

/-- A run over the database it shares with the rest of the service. `ms` is the
time of the last event, and `firedMs` that of the last firing. -/
structure HeartbeatWorld where
  database : Database
  ms : Nat
  firedMs : Nat
  run : HeartbeatRun

def HeartbeatWorld.initial (db : Database) (lease : GuestAttemptLease) (ms : Nat) :
    HeartbeatWorld :=
  ⟨db, ms, ms, ⟨lease, false, false, none, true⟩⟩

inductive HeartbeatEvent where
  /-- the timer fires -/
  | fire
  /-- the renewal under way is answered -/
  | answered
  /-- the renewal under way rejects -/
  | rejected
  /-- the runner resolves -/
  | resolved
  /-- a call of another party -/
  | service (call : Call)

/-- An event and the time in milliseconds at which it takes place. -/
structure HeartbeatInput where
  ms : Nat
  event : HeartbeatEvent

/-- `now_unix_seconds`. -/
def unixSeconds (ms : Nat) : Nat := ms / 1000

/-- The callback of `setInterval`. -/
def HeartbeatRun.fire (run : HeartbeatRun) (ms : Nat) : HeartbeatRun :=
  if !run.timer || run.heartbeat.isSome || run.aborted then run
  else { run with heartbeat := some (leaseCommand run.currentLease, some (unixSeconds ms)) }

def HeartbeatRun.answered (run : HeartbeatRun) : RenewGuestLeaseResult → HeartbeatRun
  | .leaseRenewed leaseVersion leaseExpiresAt =>
    { run with
      currentLease := { run.currentLease with leaseVersion, leaseExpiresAt }
      heartbeat := none }
  | _ => { run with heartbeatLost := true, aborted := true, heartbeat := none }

def HeartbeatWorld.answered (w : HeartbeatWorld) : HeartbeatWorld :=
  match w.run.heartbeat with
  | none => w
  | some (command, clock) =>
    let (answer, database) := renew command clock w.database
    { w with database, run := w.run.answered answer }

def HeartbeatWorld.rejected (w : HeartbeatWorld) : HeartbeatWorld :=
  match w.run.heartbeat with
  | none => w
  | some _ =>
    { w with run := { w.run with heartbeatLost := true, aborted := true, heartbeat := none } }

def HeartbeatWorld.next (node : NodeRuntime) (w : HeartbeatWorld) (input : HeartbeatInput) :
    HeartbeatWorld :=
  let w := { w with ms := input.ms }
  match input.event with
  | .fire => { w with firedMs := input.ms, run := w.run.fire input.ms }
  | .answered => w.answered
  | .rejected => w.rejected
  | .resolved => { w with run := { w.run with timer := false } }
  | .service call => { w with database := (exec node w.database call).2 }

/-- A call that leaves the lease alone: nobody else acquires or cancels the scan
or carries the identity of its attempt, and the scan is not yet due for
replacement or deletion when the others read their clocks. -/
def Call.Spares (lease : GuestAttemptLease) : Call → Prop
  | .acquire guestScanId _ _ => guestScanId ≠ lease.guestScanId
  | .cancel guestScanId _ => guestScanId ≠ lease.guestScanId
  | .start command _ => command.attemptId ≠ lease.attemptId
  | .renew command _ => command.attemptId ≠ lease.attemptId
  | .commit result _ => ∀ accepted ∈ result, accepted.submission.attemptId ≠ lease.attemptId
  | .createOrReplay _ request => request.trustedNow < lease.hardDeadline
  | .runBatch _ clock _ => ∀ now ∈ nowValue clock, now < lease.hardDeadline
  | .setServiceState _ => True

instance (lease : GuestAttemptLease) : DecidablePred (Call.Spares lease) := fun call => by
  cases call <;> unfold Call.Spares <;> infer_instance

def HeartbeatEvent.Spares (lease : GuestAttemptLease) : HeartbeatEvent → Prop
  | .rejected => False
  | .service call => call.Spares lease
  | _ => True

instance (lease : GuestAttemptLease) : DecidablePred (HeartbeatEvent.Spares lease) := fun event => by
  cases event <;> unfold HeartbeatEvent.Spares <;> infer_instance

/-- What may happen around a healthy run: time passes, and the timer fires at
least `intervalMs` apart while lease and hard deadline are ahead. -/
structure Undisturbed (intervalMs : Nat) (w : HeartbeatWorld) (input : HeartbeatInput) : Prop where
  later : w.ms ≤ input.ms
  fire : input.event = .fire → w.firedMs + intervalMs ≤ input.ms ∧
    unixSeconds input.ms < w.run.currentLease.leaseExpiresAt ∧
    unixSeconds input.ms < w.run.currentLease.hardDeadline
  spares : input.event.Spares w.run.currentLease

instance (event : HeartbeatEvent) : Decidable (event = .fire) := by
  cases event <;> first | exact .isTrue rfl | exact .isFalse nofun

instance (intervalMs : Nat) (w : HeartbeatWorld) (input : HeartbeatInput) :
    Decidable (Undisturbed intervalMs w input) :=
  decidable_of_iff
    (w.ms ≤ input.ms ∧
      (input.event = .fire → w.firedMs + intervalMs ≤ input.ms ∧
        unixSeconds input.ms < w.run.currentLease.leaseExpiresAt ∧
        unixSeconds input.ms < w.run.currentLease.hardDeadline) ∧
      input.event.Spares w.run.currentLease)
    ⟨fun ⟨a, b, c⟩ => ⟨a, b, c⟩, fun ⟨a, b, c⟩ => ⟨a, b, c⟩⟩

def heartbeatStep (node : NodeRuntime) (w : HeartbeatWorld) (input : HeartbeatInput) :
    Unit × HeartbeatWorld := ((), w.next node input)

/-- The seconds in which the answered renewals of `inputs` were issued: a
firing issues one unless the one before is still under way or the timer has been
cleared. -/
def renewedAt : Option Nat → Bool → List HeartbeatInput → List Nat
  | _, _, [] => []
  | pending, timer, ⟨ms, event⟩ :: rest =>
    match event, pending with
    | .fire, none => renewedAt (if timer then some (unixSeconds ms) else none) timer rest
    | .answered, some now => now :: renewedAt none timer rest
    | .resolved, _ => renewedAt pending false rest
    | _, _ => renewedAt pending timer rest

def EachExtends (lease : GuestAttemptLease) (seconds : List Nat) : Prop :=
  (lease.leaseExpiresAt ::
    seconds.map fun now => min (now + guestAttemptLeaseSeconds) lease.hardDeadline).IsChain (· < ·)

instance (lease : GuestAttemptLease) (seconds : List Nat) : Decidable (EachExtends lease seconds) :=
  inferInstanceAs (Decidable (List.IsChain _ _))

end Outscan

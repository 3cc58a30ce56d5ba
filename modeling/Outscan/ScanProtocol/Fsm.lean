import Outscan.Basic

/-! The job and attempt state machines of the scan protocol. -/
namespace Outscan

inductive JobState where
  | queued | running | succeeded | failed | cancelled | expired
deriving DecidableEq, Repr

inductive JobEvent where
  | attemptStarted | cancel | authorizationRevoked | deadlineExceeded
  | primaryResultCommitted | retryBudgetExhausted
deriving DecidableEq, Repr

inductive AttemptState where
  | created | leased | running | succeeded | failed | timedOut | cancelled | superseded
deriving DecidableEq, Repr

inductive AttemptEvent where
  | leaseAcquired | jobCancelledOrExpired | scannerStarted | leaseExpiredOrInvalidated
  | primaryResultCommitted | scannerOrPolicyFailed | hardDeadlineExceeded | jobCancelled
  | newerAttemptFence
deriving DecidableEq, Repr

/-- `transitionJob`; `none` is `INVALID_TRANSITION`. -/
def transitionJob : JobState → JobEvent → Option JobState
  | .queued, .attemptStarted => some .running
  | .queued, .cancel => some .cancelled
  | .queued, .deadlineExceeded => some .expired
  | .running, .primaryResultCommitted => some .succeeded
  | .running, .retryBudgetExhausted => some .failed
  | .running, .cancel => some .cancelled
  | .running, .authorizationRevoked => some .cancelled
  | .running, .deadlineExceeded => some .expired
  | _, _ => none

/-- `transitionAttempt`; `none` is `INVALID_TRANSITION`. -/
def transitionAttempt : AttemptState → AttemptEvent → Option AttemptState
  | .created, .leaseAcquired => some .leased
  | .created, .jobCancelledOrExpired => some .cancelled
  | .leased, .scannerStarted => some .running
  | .leased, .leaseExpiredOrInvalidated => some .superseded
  | .running, .primaryResultCommitted => some .succeeded
  | .running, .scannerOrPolicyFailed => some .failed
  | .running, .leaseExpiredOrInvalidated => some .superseded
  | .running, .hardDeadlineExceeded => some .timedOut
  | .running, .jobCancelled => some .cancelled
  | .running, .newerAttemptFence => some .superseded
  | _, _ => none

def JobState.terminal : JobState → Bool
  | .queued | .running => false
  | .succeeded | .failed | .cancelled | .expired => true

def AttemptState.terminal : AttemptState → Bool
  | .created | .leased | .running => false
  | .succeeded | .failed | .timedOut | .cancelled | .superseded => true

theorem JobState.terminal_iff (state : JobState) :
    state.terminal = true ↔ ∀ event, transitionJob state event = none := by
  constructor
  · intro h event
    cases state <;> simp [JobState.terminal] at h <;> cases event <;> rfl
  · intro h
    cases state with
    | queued => exact absurd (h .cancel) (by simp [transitionJob])
    | running => exact absurd (h .cancel) (by simp [transitionJob])
    | _ => rfl

theorem AttemptState.terminal_iff (state : AttemptState) :
    state.terminal = true ↔ ∀ event, transitionAttempt state event = none := by
  constructor
  · intro h event
    cases state <;> simp [AttemptState.terminal] at h <;> cases event <;> rfl
  · intro h
    cases state with
    | created => exact absurd (h .leaseAcquired) (by simp [transitionAttempt])
    | leased => exact absurd (h .scannerStarted) (by simp [transitionAttempt])
    | running => exact absurd (h .jobCancelled) (by simp [transitionAttempt])
    | _ => rfl

end Outscan

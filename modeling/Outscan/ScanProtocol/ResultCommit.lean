import Outscan.ScanProtocol.Fsm

/-! The decision on one submitted result, from the locked scan and attempt. -/
namespace Outscan

structure ResultSubmissionIdentity where
  attemptId : String
  fence : Nat
  payloadDigest : Bytes32
deriving DecidableEq, Repr

structure ResultCommitSnapshot where
  jobState : JobState
  currentAttemptId : String
  currentFence : Nat
  attemptState : AttemptState
  leaseExpiresAt : Nat
  hardDeadline : Nat
  acceptedResult : Option ResultSubmissionIdentity
deriving DecidableEq, Repr

inductive ResultCommitDenyCode where
  | invalidState | jobNotRunning | attemptNotRunning | staleAttempt | leaseExpired
  | attemptDeadlineExceeded | resultDigestConflict
deriving DecidableEq, Repr

inductive ResultCommitDecision where
  | primaryCommit
  | alreadyCommitted
  | deny (code : ResultCommitDenyCode) (emitSecurityAudit : Bool)
deriving DecidableEq, Repr

/-- The digest pattern is part of the type `Bytes32`. -/
def hasValidIdentity (identity : ResultSubmissionIdentity) : Bool :=
  validId identity.attemptId && isPositiveSafeInteger identity.fence

def hasValidSnapshot (snapshot : ResultCommitSnapshot) : Bool :=
  validId snapshot.currentAttemptId && isPositiveSafeInteger snapshot.currentFence &&
    isPositiveSafeInteger snapshot.leaseExpiresAt &&
    isPositiveSafeInteger snapshot.hardDeadline &&
    match snapshot.acceptedResult with
    | none => true
    | some accepted => hasValidIdentity accepted

def sameAttemptAndFence (accepted submitted : ResultSubmissionIdentity) : Bool :=
  accepted.attemptId == submitted.attemptId && accepted.fence == submitted.fence

def decideResultCommit (snapshot : ResultCommitSnapshot)
    (submission : ResultSubmissionIdentity) (now : Nat) : ResultCommitDecision :=
  if !hasValidSnapshot snapshot || !hasValidIdentity submission ||
      !isPositiveSafeInteger now then .deny .invalidState false
  else if snapshot.jobState = .succeeded then
    match snapshot.acceptedResult with
    | none => .deny .invalidState true
    | some accepted =>
      if !sameAttemptAndFence accepted submission then .deny .staleAttempt false
      else if accepted.payloadDigest ≠ submission.payloadDigest then
        .deny .resultDigestConflict true
      else .alreadyCommitted
  else if snapshot.jobState ≠ .running then .deny .jobNotRunning false
  else if snapshot.acceptedResult.isSome then .deny .invalidState true
  else if submission.attemptId ≠ snapshot.currentAttemptId ∨
      submission.fence ≠ snapshot.currentFence then .deny .staleAttempt false
  else if snapshot.attemptState ≠ .running then .deny .attemptNotRunning false
  else if now ≥ snapshot.leaseExpiresAt then .deny .leaseExpired false
  else if now ≥ snapshot.hardDeadline then .deny .attemptDeadlineExceeded false
  else .primaryCommit

/-- A primary commit is decided exactly on a running job and attempt, for the
current identity, before lease and deadline. -/
theorem decideResultCommit_eq_primaryCommit {snapshot : ResultCommitSnapshot}
    {submission : ResultSubmissionIdentity} {now : Nat} :
    decideResultCommit snapshot submission now = .primaryCommit ↔
      (hasValidSnapshot snapshot = true ∧ hasValidIdentity submission = true ∧
        isPositiveSafeInteger now = true) ∧
      snapshot.jobState = .running ∧ snapshot.acceptedResult = none ∧
      submission.attemptId = snapshot.currentAttemptId ∧
      submission.fence = snapshot.currentFence ∧ snapshot.attemptState = .running ∧
      now < snapshot.leaseExpiresAt ∧ now < snapshot.hardDeadline := by
  unfold decideResultCommit
  by_cases hvalid : hasValidSnapshot snapshot = true ∧ hasValidIdentity submission = true ∧
      isPositiveSafeInteger now = true
  · obtain ⟨hsnapshot, hidentity, hnow⟩ := hvalid
    simp only [hsnapshot, hidentity, hnow, Bool.not_true, Bool.or_self, Bool.false_eq_true,
      if_false, true_and]
    by_cases hsucceeded : snapshot.jobState = .succeeded
    · simp only [hsucceeded, if_true]
      cases snapshot.acceptedResult with
      | none => simp
      | some accepted => grind
    · rw [if_neg hsucceeded]
      cases snapshot.acceptedResult with
      | none => grind
      | some accepted => grind
  · have : (!hasValidSnapshot snapshot || !hasValidIdentity submission ||
        !isPositiveSafeInteger now) = true := by
      grind
    simp [this, hvalid]

theorem decideResultCommit_succeeded {snapshot : ResultCommitSnapshot}
    {submission accepted : ResultSubmissionIdentity} {now : Nat}
    (hsnapshot : hasValidSnapshot snapshot = true)
    (hsubmission : hasValidIdentity submission = true)
    (hnow : isPositiveSafeInteger now = true) (hjob : snapshot.jobState = .succeeded)
    (haccepted : snapshot.acceptedResult = some accepted) :
    decideResultCommit snapshot submission now =
      if accepted.attemptId = submission.attemptId ∧ accepted.fence = submission.fence then
        if accepted.payloadDigest = submission.payloadDigest then .alreadyCommitted
        else .deny .resultDigestConflict true
      else .deny .staleAttempt false := by
  unfold decideResultCommit
  simp only [hsnapshot, hsubmission, hnow, hjob, haccepted]
  by_cases hsame : accepted.attemptId = submission.attemptId ∧
      accepted.fence = submission.fence
  · simp [sameAttemptAndFence, hsame]
  · simp only [if_neg hsame]
    have : sameAttemptAndFence accepted submission = false := by
      simp only [sameAttemptAndFence, Bool.and_eq_false_iff, beq_eq_false_iff_ne]
      grind
    simp [this]

end Outscan

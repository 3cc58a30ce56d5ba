import Outscan.Persistence.ResultCommit
import Outscan.ResultEnvelope.Verify
import Outscan.ScannerOutput.Canonical

/-! The committer of results: a submission is verified and brought into canonical
form before the database is asked. -/
namespace Outscan

abbrev CanonicalProducer := List UInt8 → Nat → Option CanonicalGuestScannerResult

/-- What `validDependencies` lets through. -/
structure GuestResultCommitDependencies where
  resultKeyring : ResultEnvelopeKeyring
  expectedWorkloadIdentity : String
  expectedAudience : String
  maxPayloadBytes : Nat
  workload_valid : validPrincipal expectedWorkloadIdentity = true
  audience_valid : validPrincipal expectedAudience = true
  payload_pos : 0 < maxPayloadBytes
  payload_le : maxPayloadBytes ≤ resultEnvelopeMaxPayloadBytes

def GuestResultCommitDependencies.context (dependencies : GuestResultCommitDependencies)
    (verificationNow : Option Int) : ResultEnvelopeVerificationContext where
  nowUnixSeconds := verificationNow
  expectedWorkloadIdentity := dependencies.expectedWorkloadIdentity
  expectedAudience := dependencies.expectedAudience
  maxPayloadBytes := some dependencies.maxPayloadBytes
  keyring := dependencies.resultKeyring

theorem identity_of_verified {runtime : EnvelopeRuntime} {input : RawSubmission}
    {context : ResultEnvelopeVerificationContext} {verified : VerifiedResultEnvelope}
    (h : verifyAuthenticatedResultEnvelope runtime input context = .ok verified) :
    validId verified.header.jobId = true ∧ hasValidIdentity verified.submissionIdentity = true := by
  rw [verifyAuthenticatedResultEnvelope] at h
  split at h
  · cases h
  · split at h
    · cases h
    · split at h
      · rename_i envelope authentication henvelope _
        obtain ⟨_, hjob, hattempt, hfence⟩ : _ ∧ validId envelope.header.jobId = true ∧
            validId envelope.header.attemptId = true ∧
            isPositiveSafeInteger envelope.header.fence = true := by
          simp only [validHeader, Option.bind_eq_bind, Option.bind_eq_some_iff] at henvelope
          obtain ⟨_, -, _, hjob, _, hattempt, _, hfence, _, -, _, -, _, -, _, -, _, -, _, -, _, -,
            hmade⟩ := henvelope
          cases hmade
          exact ⟨trivial, (text?_eq_some.mp hjob).2, (text?_eq_some.mp hattempt).2,
            (positiveSafeInteger?_eq_some.mp hfence).2⟩
        dsimp only at h
        split at h
        · cases h
        · split at h
          · cases h
          · split at h
            · cases h
            · split at h
              · cases h
              · cases h
                refine ⟨hjob, ?_⟩
                rw [hasValidIdentity, hattempt, hfence, Bool.and_true]
      · cases h

/-- The submission as the database step takes it, once its payload is canonical. -/
def authenticatedResult (runtime : EnvelopeRuntime) (canonical : CanonicalProducer)
    (dependencies : GuestResultCommitDependencies) (value : RawSubmission)
    (verificationNow : Option Int) : Option AuthenticatedResult :=
  match hverified : verifyAuthenticatedResultEnvelope runtime value
      (dependencies.context verificationNow) with
  | .error _ => none
  | .ok verified =>
    match canonical verified.payload dependencies.maxPayloadBytes with
    | none => none
    | some result =>
      if result.payloadDigest ≠ verified.header.payloadDigest ||
          result.payloadSize ≠ verified.header.payloadSize then none
      else
        some {
          jobId := verified.header.jobId
          submission := verified.submissionIdentity
          projection := result.projection
          jobId_valid := (identity_of_verified hverified).1
          submission_valid := (identity_of_verified hverified).2 }

/-- `commit` of the committer. The clock may throw; a database that cannot be
reached has no state to show. -/
def commitSubmission (runtime : EnvelopeRuntime) (canonical : CanonicalProducer)
    (dependencies : GuestResultCommitDependencies) (value : RawSubmission)
    (clock : Option (Option Int)) (transactionNow : TransactionTime) (db : Option Database) :
    CommitGuestResultResult × Option Database :=
  match clock with
  | none => (.failure .resultSubmissionRejected true, db)
  | some verificationNow =>
    match authenticatedResult runtime canonical dependencies value verificationNow, db with
    | none, _ => (.failure .resultSubmissionRejected true, db)
    | some _, none => (.failure .unavailable false, none)
    | some result, some db =>
      let (answer, next) := commit (some result) transactionNow db
      (answer, some next)

/-- A database that answers an authenticated result decides the submission. -/
theorem commitSubmission_of_commit {runtime : EnvelopeRuntime} {canonical : CanonicalProducer}
    {dependencies : GuestResultCommitDependencies} {value : RawSubmission}
    {verificationNow : Option Int} {transactionNow : TransactionTime} {db : Database}
    {result : AuthenticatedResult} {answer : CommitGuestResultResult}
    (hresult : authenticatedResult runtime canonical dependencies value verificationNow =
      some result) (hanswer : (commit (some result) transactionNow db).1 = answer) :
    commitSubmission runtime canonical dependencies value (some verificationNow) transactionNow
        (some db) =
      (answer, some (commit (some result) transactionNow db).2) := by
  unfold commitSubmission
  dsimp only
  rw [hresult, ← hanswer]

end Outscan

import Outscan.Lifecycle.Refinement
import Outscan.Persistence.System
import Outscan.Persistence.ResultRejection

/-! What the queue processor makes of a commit that failed: the sink must class
the rejection as the committer did. -/
namespace Outscan

open Relational Transactional Dynamic

/-! ### The class of a failure -/

theorem stored_of_lockedRow {t : Tables} {jobId : String} {scan : GuestScan}
    {attempt : GuestScanAttempt} (h : t.lockedRow jobId = some (scan, attempt)) :
    scan ∈ t.guestScans.rows ∧ attempt ∈ t.guestScanAttempts.rows ∧
      scan.currentAttemptId = some attempt.id ∧ scan.currentFence = attempt.monotonicFence := by
  simp only [Tables.lockedRow, Option.bind_eq_bind, Option.bind_eq_some_iff] at h
  obtain ⟨found, hscan, attemptId, hcurrent, other, hattempt, h⟩ := h
  split at h
  · rename_i hjoined
    cases h
    have hkey : attempt.id = attemptId := Table.find?_key hattempt
    refine ⟨Table.find?_mem hscan, Table.find?_mem hattempt, ?_, hjoined.2.symm⟩
    rw [hcurrent, hkey]
  · cases h

theorem isPositive_of_safePositiveInteger {value : Int} {number : Nat}
    (h : safePositiveInteger value = some number) : isPositiveSafeInteger number = true := by
  obtain ⟨-, hpos, hle⟩ := safePositiveInteger_eq_some.mp h
  exact isPositiveSafeInteger_iff.mpr ⟨hpos, hle⟩

theorem acceptedResult_valid {scan : GuestScan} {attempt : GuestScanAttempt}
    {accepted : ResultSubmissionIdentity} (hscan : scan.Constraints) (hattempt : attempt.Constraints)
    (hcurrent : scan.currentAttemptId = some attempt.id)
    (haccepted : mapAcceptedResult scan = some (some accepted)) :
    hasValidIdentity accepted = true := by
  rw [mapAcceptedResult] at haccepted
  split at haccepted
  · cases haccepted
  · rename_i attemptId fence payloadDigest hid hfence hdigest
    obtain ⟨number, hnumber, hmade⟩ := Option.map_eq_some_iff.mp haccepted
    cases hmade
    have hshape := hscan.accepted_shape
    rw [GuestScan.AcceptedShape] at hshape
    split at hshape
    · have hsame : attemptId = attempt.id := hshape.1 attemptId hid attempt.id hcurrent
      rw [hasValidIdentity, hsame, hattempt.id_valid, isPositive_of_safePositiveInteger hnumber]
      rfl
    · rw [hid] at hshape
      cases hshape.1
  · cases haccepted

theorem mapLockedState_valid {db : Database} {jobId : String} {scan : GuestScan}
    {attempt : GuestScanAttempt} {transactionNow : TransactionTime} {state : LockedResultState}
    (hlocked : db.val.lockedRow jobId = some (scan, attempt))
    (hmapped : mapLockedState scan attempt transactionNow = some state) :
    hasValidSnapshot state.snapshot = true ∧ isPositiveSafeInteger state.now = true := by
  obtain ⟨hscan, hattempt, hcurrent, -⟩ := stored_of_lockedRow hlocked
  have hscanCheck : scan.Constraints := db.val.guestScans.checked _ hscan
  have hattemptCheck : attempt.Constraints := db.val.guestScanAttempts.checked _ hattempt
  obtain ⟨hid, hfence, hlease, hhard, hnow, haccepted, -⟩ := mapLockedState_eq_some.mp hmapped
  obtain ⟨expiry, -, hexpiry⟩ := Option.bind_eq_some_iff.mp hlease
  have hvalidId : validId state.snapshot.currentAttemptId = true := by
    rw [hcurrent] at hid
    rw [← Option.some.inj hid]
    exact hattemptCheck.id_valid
  refine ⟨?_, isPositive_of_safePositiveInteger hnow⟩
  rw [hasValidSnapshot, hvalidId, isPositive_of_safePositiveInteger hfence,
    isPositive_of_safePositiveInteger hexpiry, isPositive_of_safePositiveInteger hhard]
  cases hresult : state.snapshot.acceptedResult with
  | none => rfl
  | some accepted =>
    rw [hresult] at haccepted
    exact acceptedResult_valid hscanCheck hattemptCheck hcurrent haccepted

theorem decideResultCommit_audit {snapshot : ResultCommitSnapshot}
    {submission : ResultSubmissionIdentity} {now : Nat} {code : ResultCommitDenyCode} {emit : Bool}
    (hsnapshot : hasValidSnapshot snapshot = true) (hsubmission : hasValidIdentity submission = true)
    (hnow : isPositiveSafeInteger now = true)
    (h : decideResultCommit snapshot submission now = .deny code emit) :
    guestResultRejectionIsSecurityRelevant (.denied code) = emit := by
  rw [decideResultCommit, hsnapshot, hsubmission, hnow] at h
  simp only [Bool.not_true, Bool.or_self, Bool.false_eq_true, if_false] at h
  -- one denial per branch, each with its own code
  repeat' split at h
  all_goals cases h
  all_goals rfl

theorem persistResultBody_audit {result : AuthenticatedResult} {transactionNow : TransactionTime}
    {db : Database} {verdict : Verdict CommitGuestResultResult} {t' : Tables}
    (h : (persistResultBody result transactionNow).run db.val = .ok (verdict, t'))
    {code : CommitRejectionCode} {emit : Bool}
    (hverdict : verdict = .commit (.failure code emit) ∨ verdict = .rollback (.failure code emit)) :
    guestResultRejectionIsSecurityRelevant code = emit := by
  rw [persistResultBody, Tx.run_bind_get] at h
  split at h
  · obtain ⟨rfl, -⟩ := Tx.run_pure_ok.mp h
    rcases hverdict with hverdict | hverdict <;> cases hverdict
    rfl
  · rename_i state hstate
    obtain ⟨⟨scan, attempt⟩, hlocked, hmapped⟩ := Option.bind_eq_some_iff.mp hstate
    obtain ⟨hsnapshot, hnow⟩ := mapLockedState_valid hlocked hmapped
    split at h
    · rename_i denied flag hdecision
      obtain ⟨rfl, -⟩ := Tx.run_pure_ok.mp h
      rcases hverdict with hverdict | hverdict <;> cases hverdict
      exact decideResultCommit_audit hsnapshot result.submission_valid hnow hdecision
    · obtain ⟨rfl, -⟩ := Tx.run_pure_ok.mp h
      rcases hverdict with hverdict | hverdict <;> cases hverdict
    · split at h
      · obtain ⟨rfl, -⟩ := Tx.run_pure_ok.mp h
        rcases hverdict with hverdict | hverdict <;> cases hverdict
        rfl
      · obtain ⟨_, _, -, h⟩ := Tx.run_bind_ok.mp h
        obtain ⟨rfl, -⟩ := Tx.run_pure_ok.mp h
        rcases hverdict with hverdict | hverdict <;> cases hverdict

theorem commit_audit {result : Option AuthenticatedResult} {transactionNow : TransactionTime}
    {db db' : Database} {code : CommitRejectionCode} {emit : Bool}
    (h : commit result transactionNow db = (.failure code emit, db')) :
    guestResultRejectionIsSecurityRelevant code = emit := by
  cases result with
  | none =>
    cases h
    rfl
  | some result =>
    rw [commit] at h
    rcases atomically_cases (CommitGuestResultResult.failure .unavailable false)
        (persistResultBody result transactionNow) db with
      ⟨answer, next, hrun, heq⟩ | ⟨-, hunavailable | ⟨next, hrun⟩⟩
    · rw [h] at heq
      cases heq
      exact persistResultBody_audit hrun (.inl rfl)
    · rw [h] at hunavailable
      cases hunavailable
      rfl
    · rw [h] at hrun
      exact persistResultBody_audit hrun (.inr rfl)

/-- The class of a failure is the class of its code, whatever was submitted. -/
theorem commitSubmission_audit {runtime : EnvelopeRuntime} {canonical : CanonicalProducer}
    {dependencies : GuestResultCommitDependencies} {value : RawSubmission}
    {clock : Option (Option Int)} {transactionNow : TransactionTime} {db next : Option Database}
    {code : CommitRejectionCode} {emit : Bool}
    (h : commitSubmission runtime canonical dependencies value clock transactionNow db =
      (.failure code emit, next)) :
    guestResultRejectionIsSecurityRelevant code = emit := by
  cases clock with
  | none =>
    cases h
    rfl
  | some verificationNow =>
    unfold commitSubmission at h
    dsimp only at h
    split at h
    · cases h
      rfl
    · cases h
      rfl
    · rename_i result db _
      generalize hcommit : commit (some result) transactionNow db = given at h
      obtain ⟨answer, after⟩ := given
      cases h
      exact commit_audit hcommit

/-! ### The processor -/

inductive RejectionOutcome where
  | retryRejectionSink | retryCommit
deriving DecidableEq, Repr

def rejectionRequest (lease : GuestAttemptLease) (code : CommitRejectionCode) : Value Scalar :=
  .record {
    fields :=
      [("schema_version", .number (some 1)), ("guest_scan_id", .string lease.guestScanId),
       ("attempt_id", .string lease.attemptId), ("monotonic_fence", .number (some lease.monotonicFence)),
       ("rejection_code", .string code.text)]
    unique := by simp }

/-- The outcome of a failed commit, given what `record` returned, if it did. -/
def rejectionOutcome (emitSecurityAudit : Bool)
    (recorded : Option RecordGuestResultRejectionResult) : RejectionOutcome :=
  match recorded with
  | none | some .invalidRequest | some .unavailable => .retryRejectionSink
  | some (.recorded securityRelevant) | some (.alreadyRecorded securityRelevant) =>
    if securityRelevant ≠ emitSecurityAudit then .retryRejectionSink else .retryCommit

theorem rejectionCode?_text (code : CommitRejectionCode) :
    rejectionCode? (.string code.text) = some code := by
  match code with
  | .resultSubmissionRejected | .unavailable => decide
  | .denied code => cases code <;> decide

theorem parseRejectionRequest_code {lease : GuestAttemptLease} {code : CommitRejectionCode}
    {request : RecordGuestResultRejection}
    (h : parseRejectionRequest (rejectionRequest lease code) = some request) :
    request.rejectionCode = code := by
  rw [rejectionRequest, parseRejectionRequest] at h
  split at h
  · cases h
  · rw [Record.get_of_perm (List.Perm.refl _) Scalar.other
      (show ("rejection_code", Scalar.string code.text) ∈ _ by simp), rejectionCode?_text] at h
    simp only [Option.bind_eq_bind, Option.bind_eq_some_iff] at h
    obtain ⟨_, -, _, -, _, -, _, -, _, hcode, hmade⟩ := h
    cases hcode
    cases hmade
    rfl

/-- The committer, the sink and the processor class every rejection alike: no failed
commit is retried because they disagree. -/
theorem rejectionAudit_agrees (runtime : EnvelopeRuntime) (canonical : CanonicalProducer)
    (dependencies : GuestResultCommitDependencies) (value : RawSubmission)
    (clock : Option (Option Int)) (transactionNow : TransactionTime) (db next : Option Database)
    (code : CommitRejectionCode) (emitSecurityAudit : Bool)
    (h : commitSubmission runtime canonical dependencies value clock transactionNow db =
      (.failure code emitSecurityAudit, next)) :
    guestResultRejectionIsSecurityRelevant code = emitSecurityAudit ∧
      ∀ lease occurredAt stored,
        let recorded := (recordRejection (rejectionRequest lease code) occurredAt stored).1
        rejectionOutcome emitSecurityAudit (some recorded) = .retryRejectionSink →
          recorded = .invalidRequest ∨ recorded = .unavailable := by
  have hclass := commitSubmission_audit h
  refine ⟨hclass, fun lease occurredAt stored => ?_⟩
  generalize hrecord : recordRejection (rejectionRequest lease code) occurredAt stored = given
  obtain ⟨recorded, after⟩ := given
  dsimp only
  have hagrees : ∀ relevant, recorded = .recorded relevant ∨ recorded = .alreadyRecorded relevant →
      relevant = emitSecurityAudit := by
    intro relevant hrecorded
    obtain ⟨request, hrequest, hrelevant⟩ := recordRejection_class hrecord hrecorded
    rw [hrelevant, parseRejectionRequest_code hrequest, hclass]
  cases recorded with
  | recorded relevant =>
    rw [hagrees relevant (.inl rfl), rejectionOutcome, if_neg (fun hne => hne rfl)]
    exact fun hretry => nomatch hretry
  | alreadyRecorded relevant =>
    rw [hagrees relevant (.inr rfl), rejectionOutcome, if_neg (fun hne => hne rfl)]
    exact fun hretry => nomatch hretry
  | invalidRequest => exact fun _ => .inl rfl
  | unavailable => exact fun _ => .inr rfl

def zeroRuntime : EnvelopeRuntime where
  domainToASCII := some
  isIP := fun _ => 0
  hmacSha256 := fun _ _ => .fill 0
  sha256 := fun _ => .fill 0

def strayEnvelope : ResultEnvelope where
  header := {
    schemaVersion := 1, jobId := "scan-1", attemptId := "attempt-9", fence := 1
    workloadIdentity := "worker", audience := "ingress", issuedAt := 1000, expiresAt := 1060
    payloadDigest := .fill 0, payloadSize := 2 }
  payload := [123, 125]

def straySubmission : RawSubmission :=
  .record {
    fields :=
      [("envelope", .record {
          fields := strayEnvelope.fields
          unique := by simp [ResultEnvelope.fields] }),
       ("authentication", .record {
          fields := ResultEnvelopeAuthentication.fields ⟨1, encodeBase64Url (List.replicate 32 0)⟩
          unique := by simp [ResultEnvelopeAuthentication.fields] })]
    unique := by simp }

def zeroProducer : CanonicalProducer := fun payload _ =>
  some {
    payloadDigest := .fill 0
    payloadSize := payload.length
    projection := (sampleResult 0).projection
    canonicalPayload := payload }

def zeroDependencies : GuestResultCommitDependencies where
  resultKeyring := fun _ => some (List.replicate 32 1)
  expectedWorkloadIdentity := "worker"
  expectedAudience := "ingress"
  maxPayloadBytes := 1024
  workload_valid := by decide +kernel
  audience_valid := by decide +kernel
  payload_pos := by decide
  payload_le := by decide

def strayResult : AuthenticatedResult where
  jobId := "scan-1"
  submission := ⟨"attempt-9", 1, .fill 0⟩
  projection := (sampleResult 0).projection
  jobId_valid := sampleJob_valid
  submission_valid := by decide +kernel

theorem authenticatedResult_stray :
    authenticatedResult zeroRuntime zeroProducer zeroDependencies straySubmission (some 1001) =
      some strayResult := by
  have hverified : (verifyAuthenticatedResultEnvelope zeroRuntime straySubmission
      (zeroDependencies.context (some 1001))).toOption =
      some ⟨strayEnvelope.header, strayResult.submission, [123, 125]⟩ := by decide +kernel
  unfold authenticatedResult
  split
  · rename_i code herror
    rw [herror] at hverified
    cases hverified
  · rename_i verified hok
    rw [hok] at hverified
    have hsame := Option.some.inj hverified
    subst hsame
    rfl

/-- A stale attempt is no matter of security for any of the three. -/
theorem rejectionAudit_agrees_sample :
    (commit (some strayResult) 1002 sampleDatabase).1 = .failure (.denied .staleAttempt) false ∧
      guestResultRejectionIsSecurityRelevant (.denied .staleAttempt) = false := by
  have hcommit : (commit (some strayResult) 1002 sampleDatabase).1 =
      .failure (.denied .staleAttempt) false := by decide +kernel
  have hanswer := commitSubmission_of_commit authenticatedResult_stray hcommit
  exact ⟨hcommit, (rejectionAudit_agrees zeroRuntime zeroProducer zeroDependencies straySubmission
    (some (some 1001)) 1002 (some sampleDatabase) _ _ _ hanswer).1⟩

end Outscan

import Outscan.Lifecycle.Shape

/-! Exactly-once acceptance: the first primary commit of a scan decides the
answer to every later submission. -/
namespace Outscan

open Relational Transactional Lifecycle

/-! ### The locked state of a stored scan -/

/-- What `commit` reads from a scan and its newest attempt. -/
def lockedState (scan : GuestScan) (current : GuestScanAttempt) (leaseExpiresAt : Nat)
    (acceptedResult : Option ResultSubmissionIdentity) (now : Nat) : LockedResultState where
  snapshot := {
    jobState := scan.jobState, currentAttemptId := current.id,
    currentFence := current.monotonicFence, attemptState := current.attemptState,
    leaseExpiresAt, hardDeadline := current.hardDeadline, acceptedResult }
  canonicalTarget := scan.canonicalTarget
  now

def ValidTransactionTime (transactionNow : Int) : Prop :=
  0 < transactionNow ∧ transactionNow ≤ maxSafeInteger

instance : DecidablePred ValidTransactionTime := fun transactionNow =>
  inferInstanceAs (Decidable (0 < transactionNow ∧ transactionNow ≤ maxSafeInteger))

theorem safePositiveInteger_of {value : Nat} (h : isPositiveSafeInteger value = true) :
    safePositiveInteger value = some value := by
  simp only [isPositiveSafeInteger, Bool.and_eq_true, decide_eq_true_eq] at h
  exact safePositiveInteger_eq_some.mpr ⟨rfl, h.1, h.2⟩

theorem isPositiveSafeInteger_toNat {transactionNow : Int}
    (h : ValidTransactionTime transactionNow) :
    safePositiveInteger transactionNow = some transactionNow.toNat ∧
      isPositiveSafeInteger transactionNow.toNat = true := by
  obtain ⟨hpos, hle⟩ := h
  have hcast : (transactionNow.toNat : Int) = transactionNow := Int.toNat_of_nonneg (by omega)
  refine ⟨safePositiveInteger_eq_some.mpr ⟨hcast.symm, by omega, by omega⟩, ?_⟩
  exact isPositiveSafeInteger_of maxSafeInteger (by omega) (by omega) le_rfl

section Locked

variable {t : Tables} {id : String} {g : Aggregate} {current : GuestScanAttempt}
  {earlier : List GuestScanAttempt} {expiry : Nat}
  {accepted : Option ResultSubmissionIdentity} {transactionNow : TransactionTime}

theorem lockedRow_mapped (hinv : Inv g) (hg : t.aggregate? id = some g)
    (hattempts : g.attempts = current :: earlier)
    (hlease : current.leaseExpiresAt = some expiry)
    (haccepted : mapAcceptedResult g.scan = some accepted)
    (hclock : ValidTransactionTime transactionNow) :
    ((t.lockedRow id).bind fun (scan, attempt) => mapLockedState scan attempt transactionNow) =
      some (lockedState g.scan current expiry accepted transactionNow.toNat) := by
  have hmem : current ∈ g.attempts := by simp [hattempts]
  have hvalid := validAttempt_of_constraints (Tables.attempt_check_of_aggregate? hg hmem)
  simp only [validAttempt, hlease, Option.all_some, Bool.and_eq_true] at hvalid
  obtain ⟨⟨⟨⟨-, hfence⟩, -⟩, hhard⟩, hexpiry⟩ := hvalid
  have hcurrent := hinv.current
  have hscanFence := hinv.fence
  have hnumbered := hinv.numbered
  rw [hattempts] at hcurrent hscanFence hnumbered
  have hsame : g.scan.currentFence = current.monotonicFence := by
    rw [hscanFence, hnumbered.2.1]
    rfl
  rw [(lockedRow_eq_some hinv hg).mpr ⟨rfl, earlier, hattempts⟩, Option.bind_some]
  refine mapLockedState_eq_some.mpr ⟨hcurrent, ?_, ?_, safePositiveInteger_of hhard,
    (isPositiveSafeInteger_toNat hclock).1, haccepted, rfl, rfl, rfl⟩
  · rw [hsame]
    exact safePositiveInteger_of hfence
  · rw [hlease]
    exact safePositiveInteger_of hexpiry

theorem lockedState_valid (hg : t.aggregate? id = some g)
    (hattempts : g.attempts = current :: earlier)
    (hlease : current.leaseExpiresAt = some expiry)
    (haccepted : ∀ submission ∈ accepted, hasValidIdentity submission = true) (now : Nat) :
    hasValidSnapshot (lockedState g.scan current expiry accepted now).snapshot = true := by
  have hmem : current ∈ g.attempts := by simp [hattempts]
  have hcheck := Tables.attempt_check_of_aggregate? hg hmem
  have hvalid := validAttempt_of_constraints hcheck
  simp only [validAttempt, hlease, Option.all_some, Bool.and_eq_true] at hvalid
  obtain ⟨⟨⟨⟨⟨hid, -⟩, hfence⟩, -⟩, hhard⟩, hexpiry⟩ := hvalid
  simp only [hasValidSnapshot, lockedState, hid, hfence, hhard, hexpiry, Bool.and_self,
    Bool.true_and]
  cases accepted with
  | none => rfl
  | some submission => exact haccepted submission rfl

end Locked

/-! ### After the acceptance -/

theorem Lifecycle.Step.not_terminal {g g' : Aggregate} {event : Event} (h : Step g event g') :
    g.scan.jobState.terminal = false := by
  cases h with
  | leaseFirst attemptId now queued => rw [queued]; rfl
  | leaseNext current earlier attemptId now running => rw [running]; rfl
  | start current earlier command now attempts holds => rw [holds.running]; rfl
  | renew current earlier command now expiry attempts holds => rw [holds.running]; rfl
  | commit current earlier submission now row reservation attempts jobRunning =>
    rw [jobRunning]
    rfl
  | finishQueued job now reason reservation queued => rw [queued]; rfl
  | finishRunning current earlier job state now reason reservation running =>
    rw [running]
    rfl

/-- No call but a deletion touches a scan whose job has ended. -/
theorem exec_frozen (node : NodeRuntime) {db : Database} (hsound : Sound db.val) {id : String}
    {g : Aggregate} (hg : db.val.aggregate? id = some g)
    (hjob : g.scan.jobState.terminal = true) {call : Call} (hkept : ¬ Deletes node db call id) :
    (exec node db call).2.val.aggregate? id = some g := by
  cases exec_change node hsound call id with
  | kept same quiet => exact same.trans hg
  | event event g₀ g' scan answer before after step =>
    rw [hg] at before
    cases before
    rw [step.not_terminal] at hjob
    cases hjob
  | created g' before after sound =>
    rw [hg] at before
    cases before
  | deleted deletes after => exact absurd deletes hkept

theorem run_frozen (node : NodeRuntime) {db : Database} (hsound : Sound db.val) {id : String}
    {g : Aggregate} (hg : db.val.aggregate? id = some g)
    (hjob : g.scan.jobState.terminal = true) {calls : List Call}
    (hkept : Machine.Along (exec node) (fun db call => ¬ Deletes node db call id) db calls) :
    Sound (Machine.run (exec node) db calls).val ∧
      (Machine.run (exec node) db calls).val.aggregate? id = some g :=
  Machine.run_preserves (P := fun db => Sound db.val ∧ db.val.aggregate? id = some g)
    (fun _ call hcall h => ⟨exec_sound node h.1 call, exec_frozen node h.1 h.2 hjob hcall⟩)
    hkept ⟨hsound, hg⟩

/-- The answer to a submission for a job that has accepted `accepted`. -/
def answerAfter (accepted submission : ResultSubmissionIdentity) : CommitGuestResultResult :=
  if accepted.attemptId = submission.attemptId ∧ accepted.fence = submission.fence then
    if accepted.payloadDigest = submission.payloadDigest then .alreadyCommitted
    else .failure (.denied .resultDigestConflict) true
  else .failure (.denied .staleAttempt) false

theorem commit_of_succeeded {db : Database} (hsound : Sound db.val)
    {result : AuthenticatedResult} {g : Aggregate}
    (hg : db.val.aggregate? result.jobId = some g) (hjob : g.scan.jobState = .succeeded)
    {accepted : ResultSubmissionIdentity}
    (haccepted : g.scan.acceptedAttemptId = some accepted.attemptId ∧
      g.scan.acceptedFence = some accepted.fence ∧
      g.scan.acceptedPayloadDigest = some accepted.payloadDigest)
    {transactionNow : TransactionTime} (hclock : ValidTransactionTime transactionNow) :
    commit (some result) transactionNow db = (answerAfter accepted result.submission, db) := by
  have hinv := hsound _ g hg
  have hscan := Tables.scan_check_of_aggregate? hg
  cases hinv.phase with
  | queued job => rw [hjob] at job; cases job
  | running _ _ job => rw [hjob] at job; cases job
  | ended job => rw [hjob] at job; simp at job
  | succeeded current earlier row job attempts state stored acceptedAttempt _ _ isCurrent =>
    have hmem : current ∈ g.attempts := by simp [attempts]
    have hcheck := Tables.attempt_check_of_aggregate? hg hmem
    have hlease : ∃ expiry, current.leaseExpiresAt = some expiry := by
      have hshape := hcheck.lease_shape
      rw [GuestScanAttempt.LeaseShape, state] at hshape
      exact Option.ne_none_iff_exists'.mp hshape.2
    obtain ⟨expiry, hexpiry⟩ := hlease
    have hfence := hscan.accepted_fence accepted.fence haccepted.2.1
    have hpositive : isPositiveSafeInteger accepted.fence = true :=
      isPositiveSafeInteger_of _ hfence.1 hfence.2 le_rfl
    have hid : accepted.attemptId = current.id := by
      rw [haccepted.1] at acceptedAttempt
      exact (Option.some.inj acceptedAttempt).trans isCurrent.1
    have hmapped : mapAcceptedResult g.scan = some (some accepted) := by
      unfold mapAcceptedResult
      rw [haccepted.1, haccepted.2.1, haccepted.2.2]
      simp only [safePositiveInteger_of hpositive, Option.map_some]
    have hidentity : hasValidIdentity accepted = true := by
      simp only [hasValidIdentity, hid, hcheck.id_valid, hpositive, Bool.and_self]
    have haccepts : ∀ submission ∈ some accepted, hasValidIdentity submission = true := by
      intro submission h
      cases h
      exact hidentity
    have hdecision := decideResultCommit_succeeded
      (lockedState_valid hg attempts hexpiry haccepts transactionNow.toNat)
      result.submission_valid (isPositiveSafeInteger_toNat hclock).2 hjob rfl
    have hbody : (persistResultBody result transactionNow).run db.val =
        .ok (.commit (answerAfter accepted result.submission), db.val) := by
      unfold persistResultBody
      rw [Tx.run_bind_get, lockedRow_mapped hinv hg attempts hexpiry hmapped hclock]
      dsimp only
      have hnow : (lockedState g.scan current expiry (some accepted) transactionNow.toNat).now =
          transactionNow.toNat := rfl
      rw [hnow, hdecision, answerAfter]
      by_cases hsame : accepted.attemptId = result.submission.attemptId ∧
          accepted.fence = result.submission.fence
      · rw [if_pos hsame, if_pos hsame]
        by_cases hdigest : accepted.payloadDigest = result.submission.payloadDigest
        · rw [if_pos hdigest, if_pos hdigest]
          rfl
        · rw [if_neg hdigest, if_neg hdigest]
          rfl
      · rw [if_neg hsame, if_neg hsame]
        rfl
    exact atomically_of_commit hbody db.property

theorem Lifecycle.Step.accepted {g g' : Aggregate} {submission : ResultSubmissionIdentity}
    {now : Nat} (h : Step g (.commit submission now) g') :
    g'.scan.jobState = .succeeded ∧ g'.scan.acceptedAttemptId = some submission.attemptId ∧
      g'.scan.acceptedFence = some submission.fence ∧
      g'.scan.acceptedPayloadDigest = some submission.payloadDigest := by
  cases h with
  | commit => exact ⟨rfl, rfl, rfl, rfl⟩

structure Accepts (t : Tables) (g : Aggregate) (result : AuthenticatedResult) : Prop where
  stored : t.aggregate? result.jobId = some g
  job : g.scan.jobState = .succeeded
  attempt : g.scan.acceptedAttemptId = some result.submission.attemptId
  fence : g.scan.acceptedFence = some result.submission.fence
  digest : g.scan.acceptedPayloadDigest = some result.submission.payloadDigest

theorem accepts_of_primaryCommit {db : Database} (hsound : Sound db.val)
    {result : AuthenticatedResult} {transactionNow : TransactionTime}
    (hprimary : (commit (some result) transactionNow db).1 = .primaryCommit) :
    ∃ g, Accepts (commit (some result) transactionNow db).2.val g result := by
  have houtcome := commit_outcome hsound result transactionNow
  rw [hprimary] at houtcome
  cases houtcome with
  | event g g' focus step =>
    obtain ⟨hjob, hattempt, hfence, hdigest⟩ := step.accepted
    exact ⟨g', focus.after, hjob, hattempt, hfence, hdigest⟩

theorem commit_after_acceptance {db : Database} (hsound : Sound db.val) {g : Aggregate}
    {result : AuthenticatedResult} (haccepts : Accepts db.val g result)
    (later : AuthenticatedResult) (hjob : later.jobId = result.jobId)
    (laterNow : TransactionTime) :
    (commit (some later) laterNow db).2 = db ∧
      (commit (some later) laterNow db).1 ≠ .primaryCommit := by
  have houtcome := commit_outcome hsound later laterNow
  generalize hevent : CommitGuestResultResult.event later.submission laterNow.toNat
    (commit (some later) laterNow db).1 = event at houtcome
  cases houtcome with
  | unchanged same =>
    refine ⟨same, fun hprimary => ?_⟩
    rw [hprimary] at hevent
    cases hevent
  | event g₀ g' focus step =>
    have hsame := focus.before
    rw [hjob, haccepts.stored] at hsame
    cases hsame
    have hopen := step.not_terminal
    rw [haccepts.job] at hopen
    cases hopen

/-- From a primary commit until the scan is deleted everything stored for it
stays as it is. Every later submission for it writes nothing and never is a
second primary commit: the answer compares it with the accepted one. -/
theorem primaryCommit_final {node : NodeRuntime} {db : Database} (hreach : Reachable node db)
    {result : AuthenticatedResult} {transactionNow : TransactionTime}
    (hprimary : (commit (some result) transactionNow db).1 = .primaryCommit)
    {calls : List Call}
    (hkept : Machine.Along (exec node) (fun db call => ¬ Deletes node db call result.jobId)
      (commit (some result) transactionNow db).2 calls) :
    let after := (commit (some result) transactionNow db).2
    let final := Machine.run (exec node) after calls
    (∃ g, Accepts after.val g result ∧ Accepts final.val g result) ∧
      ∀ (later : AuthenticatedResult) (laterNow : TransactionTime),
        later.jobId = result.jobId →
        (commit (some later) laterNow final).2 = final ∧
        (commit (some later) laterNow final).1 ≠ .primaryCommit ∧
        (ValidTransactionTime laterNow →
          ((commit (some later) laterNow final).1 = .alreadyCommitted ↔
            later.submission.attemptId = result.submission.attemptId ∧
            later.submission.fence = result.submission.fence ∧
            later.submission.payloadDigest = result.submission.payloadDigest) ∧
          ((commit (some later) laterNow final).1 =
              .failure (.denied .resultDigestConflict) true ↔
            later.submission.attemptId = result.submission.attemptId ∧
            later.submission.fence = result.submission.fence ∧
            later.submission.payloadDigest ≠ result.submission.payloadDigest) ∧
          ((commit (some later) laterNow final).1 = .failure (.denied .staleAttempt) false ↔
            ¬ (later.submission.attemptId = result.submission.attemptId ∧
              later.submission.fence = result.submission.fence))) := by
  intro after final
  have hafter : Sound after.val :=
    exec_sound node hreach.sound (.commit (some result) transactionNow)
  obtain ⟨g, haccepts⟩ := accepts_of_primaryCommit hreach.sound hprimary
  have hterminal : g.scan.jobState.terminal = true := by
    rw [haccepts.job]
    rfl
  obtain ⟨hsound, hstored⟩ := run_frozen node hafter haccepts.stored hterminal hkept
  have hfinal : Accepts final.val g result :=
    ⟨hstored, haccepts.job, haccepts.attempt, haccepts.fence, haccepts.digest⟩
  refine ⟨⟨g, haccepts, hfinal⟩, fun later laterNow hjob => ?_⟩
  obtain ⟨hsame, hnot⟩ := commit_after_acceptance hsound hfinal later hjob laterNow
  refine ⟨hsame, hnot, fun hclock => ?_⟩
  have hanswer := commit_of_succeeded hsound (hjob ▸ hstored) haccepts.job
    ⟨haccepts.attempt, haccepts.fence, haccepts.digest⟩ hclock
  rw [hanswer, answerAfter]
  have hsymm : (result.submission.attemptId = later.submission.attemptId ∧
      result.submission.fence = later.submission.fence) ↔
      later.submission.attemptId = result.submission.attemptId ∧
        later.submission.fence = result.submission.fence :=
    ⟨fun h => ⟨h.1.symm, h.2.symm⟩, fun h => ⟨h.1.symm, h.2.symm⟩⟩
  by_cases hidentity : later.submission.attemptId = result.submission.attemptId ∧
      later.submission.fence = result.submission.fence
  · rw [if_pos (hsymm.mpr hidentity)]
    by_cases hdigest : later.submission.payloadDigest = result.submission.payloadDigest
    · simp [hidentity, hdigest]
    · simp [hidentity, hdigest, Ne.symm hdigest]
  · rw [if_neg (fun h => hidentity (hsymm.mp h))]
    simp only [reduceCtorEq, false_iff, true_iff, CommitGuestResultResult.failure.injEq,
      CommitRejectionCode.denied.injEq, not_and, and_self]
    exact ⟨fun hattempt hfence _ => hidentity ⟨hattempt, hfence⟩,
      fun hattempt hfence _ => hidentity ⟨hattempt, hfence⟩,
      fun hattempt hfence => hidentity ⟨hattempt, hfence⟩⟩

/-- The running attempt of the small service commits; the scan is cancelled and
leased again in vain, and the same and another digest are submitted. -/
theorem primaryCommit_final_sample :
    let final := Machine.run (exec sampleNode)
      (commit (some (sampleResult 5)) 1003 sampleDatabase).2
      [.cancel "scan-1" (some 1004), .acquire "scan-1" (some "attempt-2") (some 1005)]
    (commit (some (sampleResult 5)) 1003 sampleDatabase).1 = .primaryCommit ∧
      (commit (some (sampleResult 5)) 1006 final).1 = .alreadyCommitted ∧
      (commit (some (sampleResult 6)) 1006 final).1 =
        .failure (.denied .resultDigestConflict) true := by
  intro final
  have hprimary : (commit (some (sampleResult 5)) 1003 sampleDatabase).1 = .primaryCommit := by
    decide +kernel
  have hkept : Machine.Along (exec sampleNode)
      (fun db call => ¬ Deletes sampleNode db call (sampleResult 5).jobId)
      (commit (some (sampleResult 5)) 1003 sampleDatabase).2
      [.cancel "scan-1" (some 1004), .acquire "scan-1" (some "attempt-2") (some 1005)] :=
    ⟨id, id, trivial⟩
  have hlater := (primaryCommit_final sampleDatabase_reachable hprimary hkept).2
  have hclock : ValidTransactionTime 1006 := by decide
  refine ⟨hprimary, ?_, ?_⟩
  · exact ((hlater (sampleResult 5) 1006 rfl).2.2 hclock).1.mpr ⟨rfl, rfl, rfl⟩
  · exact ((hlater (sampleResult 6) 1006 rfl).2.2 hclock).2.1.mpr ⟨rfl, rfl, by decide⟩

end Outscan

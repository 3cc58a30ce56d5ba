import Outscan.Lifecycle.Writes

/-! When the schema accepts what the commit decision lets through. -/
namespace Outscan

open Relational Transactional Lifecycle

theorem writeResult_of {db : Database} (hsound : Sound db.val) (hcounted : Counted db.val)
    {result : AuthenticatedResult} {now : Nat} {g : Aggregate} {current : GuestScanAttempt}
    {earlier : List GuestScanAttempt} (hg : db.val.aggregate? result.jobId = some g)
    (hattempts : g.attempts = current :: earlier) (hjob : g.scan.jobState = .running)
    (hrunning : current.attemptState = .running)
    (hid : current.id = result.submission.attemptId)
    (hfence : current.monotonicFence = result.submission.fence)
    (hlease : ∃ expiry, current.leaseExpiresAt = some expiry ∧ now < expiry)
    (hdeadline : now < current.hardDeadline)
    (hhost : result.projection.canonicalHost = g.scan.canonicalTarget)
    (hclock : current.updatedAt ≤ now) :
    ∃ t', (writeResult result now).run db.val = .ok ((), t') := by
  have hinv := hsound _ g hg
  have hmem : current ∈ g.attempts := by simp [hattempts]
  have hscan := Tables.scan_check_of_aggregate? hg
  have hcheck := Tables.attempt_check_of_aggregate? hg hmem
  obtain ⟨_, _, hattempts', -, hupdated, hresult, reservation, hreservation, hnone⟩ :=
    hinv.running_of_attempts hjob
  rw [hattempts] at hattempts'
  cases hattempts'
  -- the times of scan and attempt, in order
  have hcreated : g.scan.createdAt ≤ g.scan.updatedAt := hscan.time.created_le
  have hstart : g.scan.updatedAt ≤ now := by
    have hbegun := hcheck.time.updated
    omega
  have haccess : now < g.scan.resultAccessExpiresAt := hdeadline.trans_le (hinv.deadline _ hmem)
  have hdeletion : now < g.scan.deletionDeadline := by
    have hwindow := hscan.time.idempotency
    have hend := hscan.time.access
    have hretention := hscan.time.deletion
    omega
  have hleases : ∀ lease ∈ current.leaseExpiresAt, now < lease := by
    obtain ⟨expiry, hexpiry, hbefore⟩ := hlease
    intro lease h
    rw [hexpiry] at h
    cases h
    exact hbefore
  have hsome : current.leaseExpiresAt ≠ none := by
    obtain ⟨expiry, hexpiry, -⟩ := hlease
    simp [hexpiry]
  have hend : now < timestampEnd := hdeadline.trans hcheck.range.1
  -- the attempt succeeds
  obtain ⟨t₁, hattemptRun, hfocus₁⟩ := updateNewestAttempt_of .resultCommitCas
    (fun row => row.monotonicFence = result.submission.fence ∧ row.attemptState = .running ∧
      (∀ lease ∈ row.leaseExpiresAt, now < lease) ∧ row.leaseExpiresAt ≠ none ∧
      now < row.hardDeadline)
    (succeedAttempt now) hg hattempts ⟨hfence, hrunning, hleases, hsome, hdeadline⟩
    (closeAttempt_allowed hcheck hclock hend (.inr ⟨hrunning, rfl⟩)
      fun _ => ⟨hleases, hdeadline⟩)
  rw [hid] at hattemptRun
  -- the job succeeds
  have hcurrent : g.scan.currentAttemptId = some result.submission.attemptId := by
    rw [hinv.current, hattempts, ← hid]
    rfl
  have hcurrentFence : g.scan.currentFence = result.submission.fence :=
    (hinv.currentFence_eq hattempts).trans hfence
  have hunaccepted := hscan.accepted_shape
  rw [GuestScan.AcceptedShape, if_neg (by rw [hjob]; decide)] at hunaccepted
  obtain ⟨t₂, hscanRun, hfocus₂⟩ := updateGuestScan_of .resultCommitCas
    (fun row => row.jobState = .running ∧
      row.currentAttemptId = some result.submission.attemptId ∧
      row.currentFence = result.submission.fence ∧ row.acceptedAttemptId = none ∧
      row.acceptedFence = none ∧ row.acceptedPayloadDigest = none)
    (succeedScan result.submission now) hfocus₁.after
    ⟨hjob, hcurrent, hcurrentFence, hunaccepted⟩
    (succeedScan_allowed hscan hjob hcurrent hcurrentFence hstart haccess)
  -- the result is new and matches both
  let row : GuestResult := ⟨result.jobId, result.submission.attemptId, result.submission.fence,
    result.submission.payloadDigest, now, result.projection⟩
  obtain ⟨hscan₂, -, hresult₂, -⟩ := Tables.aggregate?_eq_some.mp hfocus₂.after
  have hattempt₂ : t₂.guestScanAttempts.find? result.submission.attemptId =
      some ((succeedAttempt now).apply current) := by
    rw [← hid]
    exact Tables.find?_attempt_of_aggregate? hfocus₂.after (List.mem_cons_self ..)
  have haccepts : t₂.acceptsResult row := by
    have howner := Tables.attempt_owner_of_aggregate? hg hmem
    unfold Tables.acceptsResult
    rw [hscan₂, hattempt₂]
    exact ⟨howner, hfence, rfl, rfl, rfl, rfl, rfl, rfl, hcreated.trans hstart, le_rfl, hdeletion,
      hhost⟩
  have hrowCheck : row.Constraints := by
    refine ⟨result.projection.jsonbText_size ?_, hend⟩
    rw [hhost]
    exact hscan.target_length
  have hdistinct : ∀ other ∈ t₂.guestResults.rows, Schema.Distinct other row :=
    Table.find?_eq_none.mp (hresult₂.trans hresult)
  obtain ⟨results, hrows⟩ := Table.exists_inserted hrowCheck hdistinct
  have hresultRun : (insertGuestResult row).run t₂ = .ok ((), resultsTable.put results t₂) := by
    unfold insertGuestResult
    rw [Tx.run_bind_get, Tx.run_bind_of_ok (Tx.run_ensure_of haccepts _)]
    exact Tx.run_insert_ok.mpr ⟨hrowCheck, hdistinct, results, hrows, rfl⟩
  obtain ⟨-, -, hfocus₃⟩ := insertGuestResult_focus hresultRun rfl hfocus₂.after
  -- the slot is given back
  have hcounted₃ : Counted (resultsTable.put results t₂) :=
    quiet_counted.insertGuestResult _ _ _ hresultRun
      (quiet_counted.updateGuestScan _ _ _ hscanRun
        (quiet_counted.updateGuestScanAttempt _ _ _ hattemptRun hcounted))
  obtain ⟨hreservedAt, hreservedUntil⟩ := reservation_times hg hreservation
  have hfrom : reservation.reservedAt ≤ now := by omega
  have huntil : now ≤ reservation.deletionDeadline := by omega
  obtain ⟨t₄, hreleaseRun⟩ := release_of hcounted₃ hfocus₃.after hreservation hnone hfrom huntil
    .terminalResult
  refine ⟨t₄, ?_⟩
  simp only [writeResult]
  rw [Tx.run_bind_of_ok hattemptRun, Tx.run_bind_of_ok hscanRun, Tx.run_bind_of_ok hresultRun,
    Tx.run_bind_of_ok hreleaseRun]
  exact Tx.run_ensure_of rfl _

/-- The locked row, its snapshot and a submission that the decision accepts for
the right host. -/
structure Accepted (db : Database) (result : AuthenticatedResult)
    (transactionNow : TransactionTime) (attempt : GuestScanAttempt) : Prop where
  locked : ∃ scan state, db.val.lockedRow result.jobId = some (scan, attempt) ∧
    mapLockedState scan attempt transactionNow = some state ∧
    decideResultCommit state.snapshot result.submission state.now = .primaryCommit ∧
    result.projection.canonicalHost = state.canonicalTarget
  unreleased : ∃ row, db.val.reservations.find? result.jobId = some row ∧ row.released = none

theorem Accepted.stored {db : Database} (hsound : Sound db.val) {result : AuthenticatedResult}
    {transactionNow : TransactionTime} {attempt : GuestScanAttempt}
    (h : Accepted db result transactionNow attempt) :
    ∃ (g : Aggregate) (earlier : List GuestScanAttempt) (now : Nat),
      db.val.aggregate? result.jobId = some g ∧ g.attempts = attempt :: earlier ∧
      (transactionNow : Int) = now ∧ g.scan.jobState = .running ∧
      attempt.attemptState = .running ∧ attempt.id = result.submission.attemptId ∧
      attempt.monotonicFence = result.submission.fence ∧
      (∃ expiry, attempt.leaseExpiresAt = some expiry ∧ now < expiry) ∧
      now < attempt.hardDeadline ∧ result.projection.canonicalHost = g.scan.canonicalTarget ∧
      ∀ t, (persistResultBody result transactionNow).run db.val = .ok (.commit .primaryCommit, t) ↔
        (writeResult result now).run db.val = .ok ((), t) := by
  obtain ⟨scan, state, hlocked, hmapped, hdecision, hhost⟩ := h.locked
  cases hg : db.val.aggregate? result.jobId with
  | none =>
    rw [Tables.lockedRow, Tables.aggregate?_eq_none.mp hg] at hlocked
    cases hlocked
  | some g =>
    have hinv := hsound _ g hg
    obtain ⟨rfl, earlier, hattempts⟩ := (lockedRow_eq_some hinv hg).mp hlocked
    obtain ⟨hcurrent, hfence, hlease, hdeadline, hnow, -, hjob, hstate, htarget⟩ :=
      mapLockedState_eq_some.mp hmapped
    obtain ⟨-, hrunning, -, hid, hsubmitted, hopen, hbefore, hwithin⟩ :=
      decideResultCommit_eq_primaryCommit.mp hdecision
    obtain ⟨expiry, hexpiry, hexpiryValue⟩ := Option.bind_eq_some_iff.mp hlease
    have hexpiryEq : (expiry : Int) = state.snapshot.leaseExpiresAt :=
      (safePositiveInteger_eq_some.mp hexpiryValue).1
    have hdeadlineEq : (attempt.hardDeadline : Int) = state.snapshot.hardDeadline :=
      (safePositiveInteger_eq_some.mp hdeadline).1
    have hfenceEq : (g.scan.currentFence : Int) = state.snapshot.currentFence :=
      (safePositiveInteger_eq_some.mp hfence).1
    have hhead := hinv.current
    rw [hcurrent, hattempts] at hhead
    have hattemptId : state.snapshot.currentAttemptId = attempt.id := Option.some.inj hhead
    have hattemptFence := hinv.currentFence_eq hattempts
    refine ⟨g, earlier, state.now, rfl, hattempts, (safePositiveInteger_eq_some.mp hnow).1,
      hjob ▸ hrunning, hstate ▸ hopen, (hid.trans hattemptId).symm, by omega,
      ⟨expiry, hexpiry, by omega⟩, by omega, hhost.trans htarget, fun t => ?_⟩
    unfold persistResultBody
    rw [Tx.run_bind_get, hlocked, Option.bind_some]
    dsimp only
    rw [hmapped]
    dsimp only
    rw [hdecision]
    dsimp only
    rw [if_neg (not_not.mpr hhost), Tx.run_bind_ok]
    constructor
    · rintro ⟨_, _, hwrite, hpure⟩
      obtain ⟨-, rfl⟩ := Tx.run_pure_ok.mp hpure
      exact hwrite
    · intro hwrite
      exact ⟨(), t, hwrite, rfl⟩

/-- A submission that the decision accepts is stored exactly when the database
clock is not behind the last change of the attempt, which the application clock
stamped. -/
theorem primaryCommit_stored_iff {node : NodeRuntime} {db : Database} (hreach : Reachable node db)
    {result : AuthenticatedResult} {transactionNow : TransactionTime}
    {attempt : GuestScanAttempt} (h : Accepted db result transactionNow attempt) :
    (commit (some result) transactionNow db).1 = .primaryCommit ↔
      (attempt.updatedAt : Int) ≤ transactionNow := by
  obtain ⟨g, earlier, now, hg, hattempts, hnow, hjob, hrunning, hid, hfence, hlease, hdeadline,
    hhost, hbody⟩ := h.stored hreach.sound
  constructor
  · intro hprimary
    rcases atomically_cases (.failure .unavailable false) (persistResultBody result transactionNow)
      db with ⟨answer, next, hrun, heq⟩ | ⟨-, hanswer | ⟨next, hrun⟩⟩
    · change (atomically _ _ db).1 = _ at hprimary
      rw [heq] at hprimary
      change answer = _ at hprimary
      rw [hprimary] at hrun
      have hwrite := (hbody _).mp hrun
      simp only [writeResult] at hwrite
      rw [Tx.run_bind_ok] at hwrite
      obtain ⟨_, _, hattempt, -⟩ := hwrite
      obtain ⟨row, hfind, -, hguard, -⟩ := Tx.run_updateOne_ok.mp hattempt
      have hmem : attempt ∈ g.attempts := by simp [hattempts]
      have hfound := Tables.find?_attempt_of_aggregate? hg hmem
      rw [hid] at hfound
      have hrow : attempt = row := Option.some.inj (hfound.symm.trans hfind)
      have hupdated : row.updatedAt ≤ now := hguard.updated
      rw [hrow, hnow]
      exact_mod_cast hupdated
    · exact absurd (hanswer.symm.trans hprimary) (by decide)
    · have hrollback := persistResultBody_rollback hrun
      exact absurd (hrollback.symm.trans hprimary) (by decide)
  · intro hclock
    rw [hnow] at hclock
    obtain ⟨t', hwrite⟩ := writeResult_of hreach.sound hreach.counted hg hattempts hjob hrunning hid
      hfence hlease hdeadline hhost (by exact_mod_cast hclock)
    have hrun := (hbody t').mpr hwrite
    have hkeys : ForeignKeys t' := foreignKeys_of_outcome hreach.sound
      (quiet_owned.persistResultBody result transactionNow _ _ _ hrun)
      (persistResultBody_outcome (hreach.sound _ g hg) hrun hg)
    exact congrArg Prod.fst (atomically_of_commit hrun hkeys)

/-- The decision on the small service, where a worker started its attempt at 1002
by the application clock, when the database clock reads `transactionNow`. -/
def sampleDecision (transactionNow : TransactionTime) : Bool :=
  (sampleDatabase.val.lockedRow "scan-1").any fun (scan, attempt) =>
    decide (attempt.updatedAt = 1002) &&
    (mapLockedState scan attempt transactionNow).any fun state =>
      decide (decideResultCommit state.snapshot (sampleResult 5).submission state.now =
        .primaryCommit) && decide ("example.com" = state.canonicalTarget)

theorem accepted_of_sampleDecision {transactionNow : TransactionTime}
    (h : sampleDecision transactionNow = true) :
    ∃ attempt, attempt.updatedAt = 1002 ∧
      Accepted sampleDatabase (sampleResult 5) transactionNow attempt := by
  have hheld : ((sampleDatabase.val.reservations.find? "scan-1").any fun row =>
      row.released.isNone) = true := by decide +kernel
  obtain ⟨row, hrow, hnone⟩ := (Option.any_eq_true _ _).mp hheld
  obtain ⟨⟨scan, attempt⟩, hlocked, hattempt⟩ := (Option.any_eq_true _ _).mp h
  simp only [Bool.and_eq_true, decide_eq_true_eq] at hattempt
  obtain ⟨hupdated, hstate⟩ := hattempt
  obtain ⟨state, hmapped, hdecision⟩ := (Option.any_eq_true _ _).mp hstate
  simp only [Bool.and_eq_true, decide_eq_true_eq] at hdecision
  exact ⟨attempt, hupdated, ⟨scan, state, hlocked, hmapped, hdecision.1, hdecision.2⟩,
    row, hrow, Option.isNone_iff_eq_none.mp hnone⟩

/-- One second behind, the database refuses the result that the decision accepts. -/
theorem primaryCommit_refused :
    ∃ attempt, Reachable sampleNode sampleDatabase ∧
      Accepted sampleDatabase (sampleResult 5) 1001 attempt ∧
      (commit (some (sampleResult 5)) 1001 sampleDatabase).1 = .failure .unavailable false ∧
      (commit (some (sampleResult 5)) 1001 sampleDatabase).2 = sampleDatabase := by
  have hdecision : sampleDecision 1001 = true := by decide +kernel
  obtain ⟨attempt, -, haccepted⟩ := accepted_of_sampleDecision hdecision
  have hanswer : (commit (some (sampleResult 5)) 1001 sampleDatabase).1 =
      .failure .unavailable false := by decide +kernel
  have houtcome := commit_outcome sampleDatabase_reachable.sound (sampleResult 5) 1001
  rw [hanswer] at houtcome
  cases houtcome with
  | unchanged same => exact ⟨attempt, sampleDatabase_reachable, haccepted, hanswer, same⟩

/-- In time with the stamp the result is stored. -/
theorem primaryCommit_stored_iff_sample :
    (commit (some (sampleResult 5)) 1002 sampleDatabase).1 = .primaryCommit := by
  have hdecision : sampleDecision 1002 = true := by decide +kernel
  obtain ⟨attempt, hupdated, haccepted⟩ := accepted_of_sampleDecision hdecision
  exact (primaryCommit_stored_iff sampleDatabase_reachable haccepted).mpr (by rw [hupdated]; decide)

end Outscan

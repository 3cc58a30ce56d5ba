import Outscan.Lifecycle.References
import Outscan.Lifecycle.Shape
import Outscan.Quota.Conservation

/-! The writes that close an attempt and end a job: when triggers and checks let
them through. -/
namespace Outscan

open Relational Transactional Lifecycle

/-! ### One row -/

theorem AttemptState.active_iff {state : AttemptState} :
    state.active = true ↔ state = .leased ∨ state = .running := by
  simp [AttemptState.active]

theorem open_shape {current : GuestScanAttempt} (hcheck : current.Constraints)
    (hactive : current.attemptState.active = true) :
    (0 < current.leaseVersion ∧ current.leaseExpiresAt ≠ none) ∧ current.finishedAt = none ∧
      (current.attemptState = .running → current.startedAt ≠ none) := by
  have hlease := hcheck.lease_shape
  have hstarted := hcheck.started_shape
  have hterminal := hcheck.terminal_shape
  unfold GuestScanAttempt.LeaseShape at hlease
  unfold GuestScanAttempt.StartedShape at hstarted
  rcases AttemptState.active_iff.mp hactive with hstate | hstate
  · rw [hstate] at hlease hterminal
    refine ⟨hlease, ?_, fun hrunning => ?_⟩
    · exact Option.not_isSome_iff_eq_none.mp (by rw [← hterminal]; decide)
    · rw [hstate] at hrunning
      cases hrunning
  · rw [hstate] at hlease hterminal hstarted
    refine ⟨hlease, ?_, fun _ => hstarted⟩
    exact Option.not_isSome_iff_eq_none.mp (by rw [← hterminal]; decide)

theorem closeAttempt_allowed {current : GuestScanAttempt} {state : AttemptState} {now : Nat}
    (hcheck : current.Constraints) (hupdated : current.updatedAt ≤ now) (hnow : now < timestampEnd)
    (hcloses : ClosesTo current.attemptState state ∨
      (current.attemptState = .running ∧ state = .succeeded))
    (hsuccess : state = .succeeded →
      (∀ lease ∈ current.leaseExpiresAt, now < lease) ∧ now < current.hardDeadline) :
    guardGuestAttemptUpdate current ((closeAttempt state now).apply current) ∧
      ((closeAttempt state now).apply current).Constraints := by
  -- the five ways in which an attempt is closed
  have hcases : (current.attemptState = .leased ∧ state = .superseded) ∨
      (current.attemptState = .running ∧
        (state = .superseded ∨ state = .timedOut ∨ state = .cancelled ∨ state = .succeeded)) := by
    rcases hcloses with (⟨hactive, hstate⟩ | ⟨hrunning, hstate⟩) | ⟨hrunning, hstate⟩
    · exact (AttemptState.active_iff.mp hactive).imp (⟨·, hstate⟩) (⟨·, .inl hstate⟩)
    · exact .inr ⟨hrunning, .inr (hstate.imp_right .inl)⟩
    · exact .inr ⟨hrunning, .inr (.inr (.inr hstate))⟩
  have hactive : current.attemptState.active = true :=
    AttemptState.active_iff.mpr (hcases.imp And.left And.left)
  obtain ⟨hlease, hunfinished, hstarted⟩ := open_shape hcheck hactive
  have htime := hcheck.time
  have hallowed : attemptUpdateAllowed current.attemptState state = true := by
    rcases hcases with ⟨hbefore, rfl⟩ | ⟨hbefore, rfl | rfl | rfl | rfl⟩ <;> rw [hbefore] <;> rfl
  have hterminal : state.terminal = true := by
    rcases hcases with ⟨-, rfl⟩ | ⟨-, rfl | rfl | rfl | rfl⟩ <;> rfl
  have hbegun : ∀ time ∈ current.startedAt, time ≤ now := fun time h =>
    (htime.started time h).2.trans hupdated
  have hcreated : current.createdAt ≤ now := htime.updated.trans hupdated
  refine ⟨⟨⟨rfl, rfl, rfl, rfl, rfl, rfl⟩, hupdated, le_rfl, fun h => absurd rfl h,
    fun _ => rfl, fun h => absurd hunfinished h, hallowed⟩, ?_⟩
  refine ⟨hcheck.id_valid, hcheck.number, hcheck.fence, hcheck.version,
    ⟨htime.hard, hcreated, htime.lease, fun time h => ⟨(htime.started time h).1, hbegun time h⟩, ?_⟩,
    ⟨hcheck.range.1, hnow⟩, ?_, ?_, hterminal, fun hstate finished h => ?_⟩
  · intro finished h
    cases h
    refine ⟨?_, le_rfl⟩
    change current.startedAt.getD current.createdAt ≤ now
    cases hstart : current.startedAt with
    | none => exact hcreated
    | some time => exact hbegun time hstart
  · rcases hcases with ⟨-, rfl⟩ | ⟨-, rfl | rfl | rfl | rfl⟩
    · exact hlease
    · exact hlease
    · exact hlease
    · trivial
    · exact hlease
  · rcases hcases with ⟨-, rfl⟩ | ⟨hrunning, rfl | rfl | rfl | rfl⟩
    · trivial
    · trivial
    · exact hstarted hrunning
    · trivial
    · exact hstarted hrunning
  · cases h
    exact hsuccess hstate

theorem fenceKept_of_same {old new : GuestScan}
    (hattempt : new.currentAttemptId = old.currentAttemptId)
    (hfence : new.currentFence = old.currentFence) : fenceKept old new := by
  unfold fenceKept
  rw [hattempt, hfence]
  cases old.currentAttemptId with
  | none => trivial
  | some attemptId => exact ⟨le_rfl, fun _ => rfl, fun h => absurd rfl h⟩

theorem endJob_allowed {scan : GuestScan} {job : JobState} {now : Nat}
    (hcheck : scan.Constraints) (hactive : scan.jobState.active = true)
    (hjob : jobUpdateAllowed scan.jobState job = true)
    (hends : job = .failed ∨ job = .cancelled ∨ job = .expired)
    (hupdated : scan.updatedAt ≤ now) (hdeadline : now ≤ scan.deletionDeadline) :
    guardGuestScanUpdate scan ((endJob job now).apply scan) ∧
      ((endJob job now).apply scan).Constraints := by
  have htime := hcheck.time
  have hopen : scan.jobState ≠ .succeeded := by
    intro hsucceeded
    rw [hsucceeded] at hactive
    cases hactive
  have haccepted := hcheck.accepted_shape
  rw [GuestScan.AcceptedShape, if_neg hopen] at haccepted
  have hterminal : job ≠ .queued ∧ job ≠ .running ∧ job ≠ .succeeded := by
    rcases hends with rfl | rfl | rfl <;> decide
  refine ⟨⟨?_, hupdated, fun _ => rfl, ?_, fun _ => ⟨rfl, rfl, rfl⟩, hjob⟩, ?_⟩
  · exact ⟨rfl, rfl, rfl, rfl, rfl, rfl, rfl, rfl, rfl, rfl, rfl, rfl, rfl, rfl, rfl, rfl⟩
  · exact fenceKept_of_same rfl rfl
  · refine ⟨hcheck.id_valid, hcheck.target_length, hcheck.target_lower, hcheck.target_dot,
      hcheck.operation, hcheck.key_valid, hcheck.profile, hcheck.token_version, hcheck.key_version,
      hcheck.fence_le, hcheck.accepted_fence,
      ⟨htime.created_le.trans hupdated, hdeadline, htime.idempotency, htime.access, htime.deletion,
        fun time h => ⟨(htime.revoked time h).1, (htime.revoked time h).2.trans hupdated⟩⟩,
      hcheck.range, hcheck.current_pair, fun h => absurd h hterminal.1,
      fun h => absurd h hterminal.2.1, ?_⟩
    change (if job = .succeeded then _ else _)
    rw [if_neg hterminal.2.2]
    exact haccepted

theorem succeedScan_allowed {scan : GuestScan} {submission : ResultSubmissionIdentity} {now : Nat}
    (hcheck : scan.Constraints) (hrunning : scan.jobState = .running)
    (hattempt : scan.currentAttemptId = some submission.attemptId)
    (hfence : scan.currentFence = submission.fence) (hupdated : scan.updatedAt ≤ now)
    (haccess : now < scan.resultAccessExpiresAt) :
    guardGuestScanUpdate scan ((succeedScan submission now).apply scan) ∧
      ((succeedScan submission now).apply scan).Constraints := by
  have htime := hcheck.time
  have hdeadline : now ≤ scan.deletionDeadline := by
    have hwindow := htime.idempotency
    have haccess' := htime.access
    have hdeletion := htime.deletion
    omega
  have haccepted := hcheck.accepted_shape
  rw [GuestScan.AcceptedShape, if_neg (by rw [hrunning]; decide)] at haccepted
  have hpositive : 1 ≤ submission.fence := by
    rcases hcheck.current_pair with ⟨hnone, -⟩ | ⟨-, hpositive⟩
    · rw [hattempt] at hnone
      cases hnone
    · omega
  refine ⟨⟨?_, hupdated, fun _ => rfl, ?_, fun h => absurd haccepted.1 h, ?_⟩, ?_⟩
  · exact ⟨rfl, rfl, rfl, rfl, rfl, rfl, rfl, rfl, rfl, rfl, rfl, rfl, rfl, rfl, rfl, rfl⟩
  · exact fenceKept_of_same rfl rfl
  · rw [hrunning]
    rfl
  · refine ⟨hcheck.id_valid, hcheck.target_length, hcheck.target_lower, hcheck.target_dot,
      hcheck.operation, hcheck.key_valid, hcheck.profile, hcheck.token_version, hcheck.key_version,
      hcheck.fence_le, ?_,
      ⟨htime.created_le.trans hupdated, hdeadline, htime.idempotency, htime.access, htime.deletion,
        fun time h => ⟨(htime.revoked time h).1, (htime.revoked time h).2.trans hupdated⟩⟩,
      hcheck.range, hcheck.current_pair, (fun h => by cases h), (fun h => by cases h), ?_⟩
    · intro fence h
      cases h
      exact ⟨hpositive, hfence ▸ hcheck.fence_le⟩
    · change (if JobState.succeeded = .succeeded then _ else _)
      rw [if_pos rfl]
      refine ⟨?_, ?_, rfl⟩
      · intro accepted haccepted current hcurrent
        change some submission.attemptId = some accepted at haccepted
        change scan.currentAttemptId = some current at hcurrent
        rw [hattempt, haccepted] at hcurrent
        exact Option.some.inj hcurrent
      · intro fence h
        cases h
        exact hfence.symm

/-! ### One statement -/

section Statements

variable {id : String} {t : Tables} {g : Aggregate}

theorem updateGuestScan_of (missing : Thrown) (cond : GuestScan → Prop) [DecidablePred cond]
    (edit : Edit GuestScan) (hg : t.aggregate? id = some g) (hcond : cond g.scan)
    (hallowed : guardGuestScanUpdate g.scan (edit.apply g.scan) ∧
      (edit.apply g.scan).Constraints) :
    ∃ t', (updateGuestScan missing id cond edit).run t = .ok (edit.apply g.scan, t') ∧
      Focus id t t' g { g with scan := edit.apply g.scan } := by
  have hfind := (Tables.aggregate?_eq_some.mp hg).1
  obtain ⟨next, hrun⟩ : ∃ next, (updateGuestScan missing id cond edit).run t =
      .ok (edit.apply g.scan, scansTable.put next t) :=
    Tx.exists_updateOne _ hfind hcond hallowed.1 hallowed.2
  exact ⟨_, hrun, (updateGuestScan_focus hrun hg).2.2.2⟩

theorem updateNewestAttempt_of (missing : Thrown) (cond : GuestScanAttempt → Prop)
    [DecidablePred cond] (edit : Edit GuestScanAttempt) {current : GuestScanAttempt}
    {earlier : List GuestScanAttempt} (hg : t.aggregate? id = some g)
    (hattempts : g.attempts = current :: earlier) (hcond : cond current)
    (hallowed : guardGuestAttemptUpdate current (edit.apply current) ∧
      (edit.apply current).Constraints) :
    ∃ t', (updateGuestScanAttempt missing id current.id cond edit).run t =
        .ok (edit.apply current, t') ∧
      Focus id t t' g { g with attempts := edit.apply current :: earlier } := by
  have hmem : current ∈ g.attempts := by simp [hattempts]
  have hfind := Tables.find?_attempt_of_aggregate? hg hmem
  have howner := Tables.attempt_owner_of_aggregate? hg hmem
  obtain ⟨next, hrun⟩ : ∃ next, (updateGuestScanAttempt missing id current.id cond edit).run t =
      .ok (edit.apply current, attemptsTable.put next t) :=
    Tx.exists_updateOne _ hfind ⟨howner, hcond⟩ hallowed.1 hallowed.2
  obtain ⟨row, -, -, -, -, -, hfocus⟩ := updateGuestScanAttempt_focus hrun hg
  rw [Aggregate.editAttempt_head hattempts (Tables.attempts_pairwise_of_aggregate? hg)] at hfocus
  exact ⟨_, hrun, hfocus⟩

theorem release_of {now : Nat} (hcounted : Counted t) (hg : t.aggregate? id = some g)
    {row : Reservation} (hrow : g.reservation = some row) (hnone : row.released = none)
    (hreserved : row.reservedAt ≤ now) (hdeadline : now ≤ row.deletionDeadline)
    (reason : ReleaseReason) :
    ∃ t', (releaseGuestAbuseReservation id now reason).run t = .ok (true, t') :=
  hcounted.release ((Tables.aggregate?_eq_some.mp hg).2.2.2.trans hrow) hnone hreserved hdeadline
    reason

end Statements

theorem reservation_times {db : Database} {id : String} {g : Aggregate}
    (hg : db.val.aggregate? id = some g) {row : Reservation} (hrow : g.reservation = some row) :
    row.reservedAt = g.scan.createdAt ∧ row.deletionDeadline = g.scan.deletionDeadline := by
  obtain ⟨hscan, -, -, hreservation⟩ := Tables.aggregate?_eq_some.mp hg
  have hfind := hreservation.trans hrow
  obtain ⟨scan, hmem, hid, -, hcreated, hdeadline⟩ :=
    db.property.reservation row (Table.find?_mem hfind)
  have hkey : row.guestScanId = id := Table.find?_key hfind
  have hscanKey : g.scan.id = id := Table.find?_key hscan
  have hsame := db.val.guestScans.eq_of_key_eq hmem (Table.find?_mem hscan)
    ((hid.trans hkey).trans hscanKey.symm)
  rw [hsame] at hcreated hdeadline
  exact ⟨hcreated.symm, hdeadline.symm⟩

end Outscan

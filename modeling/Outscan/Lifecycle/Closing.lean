import Outscan.Lifecycle.Writes

/-! A job that can be ended: what `acquire` and `cancel` do with it once its
access has expired. -/
namespace Outscan

open Relational Transactional Lifecycle

/-- The scan is open, and `now` is not before any change of its rows nor after
the deadline of its deletion. -/
structure Closable (g : Aggregate) (now : Nat) : Prop where
  active : g.scan.jobState.active = true
  scan : g.scan.updatedAt ≤ now
  attempts : ∀ attempt ∈ g.attempts, attempt.updatedAt ≤ now
  deadline : now ≤ g.scan.deletionDeadline

theorem JobState.active_iff {state : JobState} :
    state.active = true ↔ state = .queued ∨ state = .running := by
  simp [JobState.active]

theorem closesTo_terminatedState {attempt : GuestScanAttempt}
    (hactive : attempt.attemptState.active = true) (now : Nat) :
    ClosesTo attempt.attemptState (terminatedState attempt now) := by
  unfold terminatedState
  rcases AttemptState.active_iff.mp hactive with hleased | hrunning
  · rw [if_pos hleased]
    exact .inl ⟨hactive, rfl⟩
  · rw [if_neg (by rw [hrunning]; decide)]
    split
    · exact .inr ⟨hrunning, .inl rfl⟩
    · exact .inr ⟨hrunning, .inr rfl⟩

theorem validScan_of_inv {t : Tables} {id : String} {g : Aggregate} (hg : t.aggregate? id = some g)
    (hinv : Inv g) : validScan g.scan = true := by
  have hcheck := Tables.scan_check_of_aggregate? hg
  have htime := hcheck.time
  have hrange := hcheck.range
  have haccess := htime.access
  have hidempotency := htime.idempotency
  have hdeletion := htime.deletion
  have hend : timestampEnd ≤ maxSafeInteger := by decide
  simp only [validScan, Bool.and_eq_true, isPositiveSafeInteger_iff, decide_eq_true_eq]
  refine ⟨⟨⟨⟨⟨hcheck.id_valid, hcheck.fence_le⟩, by omega, by omega⟩, by omega, by omega⟩,
    by omega⟩, ?_⟩
  have hpair := hcheck.current_pair
  cases hid : g.scan.currentAttemptId with
  | none =>
    rw [hid] at hpair
    simpa using hpair
  | some attemptId =>
    rw [hinv.current] at hid
    obtain ⟨attempt, hhead, rfl⟩ := Option.map_eq_some_iff.mp hid
    have hmem : attempt ∈ g.attempts := List.mem_of_mem_head? hhead
    have hvalid := (Tables.attempt_check_of_aggregate? hg hmem).id_valid
    rw [hinv.current, hid] at hpair
    simpa [hvalid] using hpair

section Closable

variable {t : Tables} {id : String} {g : Aggregate} {now : Nat}

theorem Closable.now_lt (h : Closable g now) (hg : t.aggregate? id = some g) :
    now < timestampEnd :=
  h.deadline.trans_lt (Tables.scan_check_of_aggregate? hg).range

theorem Closable.current (h : Closable g now) (hinv : Inv g) :
    (g.scan.jobState = .queued ∧ g.attempts = []) ∨
      (g.scan.jobState = .running ∧ ∃ current earlier, g.attempts = current :: earlier ∧
        current.attemptState.active = true) := by
  rcases JobState.active_iff.mp h.active with hqueued | hrunning
  · exact .inl ⟨hqueued, (hinv.queued_attempts hqueued).1⟩
  · obtain ⟨current, earlier, hattempts, hactive, -⟩ := hinv.running_of_attempts hrunning
    exact .inr ⟨hrunning, current, earlier, hattempts, hactive⟩

theorem Closable.held (h : Closable g now) (hinv : Inv g) : Held g := by
  rcases JobState.active_iff.mp h.active with hqueued | hrunning
  · exact (hinv.queued_attempts hqueued).2.2
  · obtain ⟨_, _, _, _, _, _, hheld⟩ := hinv.running_of_attempts hrunning
    exact hheld

theorem Closable.closeAttempt_of (h : Closable g now) (hg : t.aggregate? id = some g)
    (missing : Thrown) (cond : GuestScanAttempt → Prop) [DecidablePred cond]
    {current : GuestScanAttempt} {earlier : List GuestScanAttempt}
    (hattempts : g.attempts = current :: earlier) (hcond : cond current) {state : AttemptState}
    (hcloses : ClosesTo current.attemptState state) :
    ∃ t', (updateGuestScanAttempt missing id current.id cond (closeAttempt state now)).run t =
        .ok ((closeAttempt state now).apply current, t') ∧
      Focus id t t' g { g with attempts := (closeAttempt state now).apply current :: earlier } := by
  have hmem : current ∈ g.attempts := by simp [hattempts]
  refine updateNewestAttempt_of missing cond _ hg hattempts hcond ?_
  refine closeAttempt_allowed (Tables.attempt_check_of_aggregate? hg hmem)
    (h.attempts current hmem) (h.now_lt hg) (.inl hcloses) fun hsucceeded => ?_
  have hclosed := closed_of_closesTo hcloses
  rw [hsucceeded] at hclosed
  cases hclosed

theorem Closable.newest (h : Closable g now) (hg : t.aggregate? id = some g) (hinv : Inv g) :
    g.scan.currentAttemptId = none ∨
      (g.scan.jobState = .running ∧ ∃ current earlier, g.attempts = current :: earlier ∧
        current.attemptState.active = true ∧ g.scan.currentAttemptId = some current.id ∧
        t.loadAttempt g.scan.id current.id = some current ∧ validAttempt current = true) := by
  have hid := Tables.scan_id_of_aggregate? hg
  rcases h.current hinv with ⟨-, hnone⟩ | ⟨hrunning, current, earlier, hattempts, hactive⟩
  · left
    rw [hinv.current, hnone]
    rfl
  · have hmem : current ∈ g.attempts := by simp [hattempts]
    refine .inr ⟨hrunning, current, earlier, hattempts, hactive, ?_, ?_, ?_⟩
    · rw [hinv.current, hattempts]
      rfl
    · exact hid ▸ (Tables.loadAttempt_eq_some hg).mpr ⟨hmem, rfl⟩
    · exact validAttempt_of_constraints (Tables.attempt_check_of_aggregate? hg hmem)

theorem Closable.terminateAttempt_of (h : Closable g now) (hg : t.aggregate? id = some g)
    (hinv : Inv g) :
    ∃ t' attempts, (terminateAttempt g.scan now).run t = .ok ((), t') ∧
      Focus id t t' g { g with attempts := attempts } := by
  unfold terminateAttempt
  rcases h.newest hg hinv with
    hnone | ⟨hrunning, current, earlier, hattempts, hactive, hcurrent, hload, hvalid⟩
  · rw [hnone]
    exact ⟨t, g.attempts, rfl, .refl hg⟩
  · obtain ⟨t', hupdate, hfocus⟩ := h.closeAttempt_of hg .attemptCas
      (fun row => row.attemptState.active = true) hattempts hactive
      (closesTo_terminatedState hactive now)
    refine ⟨t', _, ?_, hfocus⟩
    rw [hcurrent]
    simp only [hrunning, ne_eq, not_true, if_false]
    rw [Tx.run_bind_get]
    simp only [hload, hvalid, Bool.not_true, Bool.false_eq_true, if_false, hactive, if_true]
    rw [Tables.scan_id_of_aggregate? hg, Tx.run_bind_of_ok hupdate]
    rfl

theorem Closable.cancelCurrentAttempt_of (h : Closable g now) (hg : t.aggregate? id = some g)
    (hinv : Inv g) :
    ∃ t' attempts, (cancelCurrentAttempt g.scan now).run t = .ok ((), t') ∧
      Focus id t t' g { g with attempts := attempts } := by
  unfold cancelCurrentAttempt
  rcases h.newest hg hinv with
    hnone | ⟨-, current, earlier, hattempts, hactive, hcurrent, hload, hvalid⟩
  · rw [hnone]
    exact ⟨t, g.attempts, rfl, .refl hg⟩
  · obtain ⟨state, hstate, hcloses⟩ : ∃ state, cancelledState current.attemptState = some state ∧
        ClosesTo current.attemptState state := by
      rcases AttemptState.active_iff.mp hactive with hleased | hrunning
      · exact ⟨.superseded, by rw [hleased]; rfl, .inl ⟨hactive, rfl⟩⟩
      · exact ⟨.cancelled, by rw [hrunning]; rfl, .inr ⟨hrunning, .inr rfl⟩⟩
    obtain ⟨t', hupdate, hfocus⟩ := h.closeAttempt_of hg .attemptCas
      (fun row => row.attemptState = current.attemptState) hattempts rfl hcloses
    refine ⟨t', _, ?_, hfocus⟩
    rw [hcurrent]
    dsimp only
    rw [Tx.run_bind_get]
    simp only [hload, hvalid, Bool.not_true, Bool.false_eq_true, if_false, hstate]
    rw [Tables.scan_id_of_aggregate? hg, Tx.run_bind_of_ok hupdate]
    rfl

theorem Closable.endJob_of (h : Closable g now) {attempts : List GuestScanAttempt}
    (hcounted : Counted t) (hg : t.aggregate? id = some { g with attempts := attempts })
    {job : JobState}
    (hends : job = .cancelled ∨ job = .expired ∨ (job = .failed ∧ g.scan.jobState = .running))
    {row : Reservation}
    (hrow : g.reservation = some row) (hnone : row.released = none)
    (hreserved : row.reservedAt ≤ now) (hdeadline : now ≤ row.deletionDeadline)
    (missing : Thrown) (reason : ReleaseReason) :
    ∃ ended t', (updateGuestScan missing id (fun row => row.jobState.active = true)
        (endJob job now)).run t = .ok ((endJob job now).apply g.scan, ended) ∧
      (releaseGuestAbuseReservation id now reason).run ended = .ok (true, t') := by
  have hjob : jobUpdateAllowed g.scan.jobState job = true := by
    rcases hends with rfl | rfl | ⟨rfl, hrunning⟩
    · rcases JobState.active_iff.mp h.active with hstate | hstate <;> rw [hstate] <;> rfl
    · rcases JobState.active_iff.mp h.active with hstate | hstate <;> rw [hstate] <;> rfl
    · rw [hrunning]
      rfl
  have hended : job = .failed ∨ job = .cancelled ∨ job = .expired := by
    rcases hends with hjob | hjob | ⟨hjob, -⟩
    · exact .inr (.inl hjob)
    · exact .inr (.inr hjob)
    · exact .inl hjob
  obtain ⟨ended, hupdate, hfocus⟩ := updateGuestScan_of missing
    (fun row => row.jobState.active = true) (endJob job now) hg h.active
    (endJob_allowed (Tables.scan_check_of_aggregate? hg) h.active hjob hended h.scan
      h.deadline)
  have hcounted' := quiet_counted.updateGuestScan _ _ _ hupdate hcounted
  obtain ⟨t', hrelease⟩ := release_of hcounted' hfocus.after hrow hnone hreserved hdeadline reason
  exact ⟨ended, t', hupdate, hrelease⟩

end Closable

/-! ### The calls -/

section Calls

variable {db : Database} {id : String} {g : Aggregate} {now : Nat}

theorem Closable.reservation (h : Closable g now) (hinv : Inv g)
    (hg : db.val.aggregate? id = some g) :
    ∃ row, g.reservation = some row ∧ row.released = none ∧ row.reservedAt ≤ now ∧
      now ≤ row.deletionDeadline := by
  obtain ⟨row, hrow, hnone⟩ := h.held hinv
  obtain ⟨hreserved, hdeadline⟩ := reservation_times hg hrow
  have hcreated := (Tables.scan_check_of_aggregate? hg).time.created_le
  refine ⟨row, hrow, hnone, ?_, ?_⟩
  · rw [hreserved]
    exact hcreated.trans h.scan
  · rw [hdeadline]
    exact h.deadline

theorem nowValue_of_lt (hnow : now < timestampEnd) : nowValue (some (now : Int)) = some now := by
  have hend : timestampEnd ≤ maxSafeInteger := by decide
  simp only [nowValue, Int.toNat_natCast]
  rw [if_pos ⟨Int.natCast_nonneg now, by omega⟩]

theorem finished_job {t' : Tables} {job : JobState}
    (h : Outcome id db.val t' g (some (.finish job))) :
    ∃ g', t'.aggregate? id = some g' ∧ g'.scan.jobState = job := by
  cases h with
  | event g' focus step =>
    refine ⟨g', focus.after, ?_⟩
    cases step with
    | finishQueued => rfl
    | finishRunning => rfl

/-- What the body of `acquire` comes to is committed. -/
theorem acquire_of_run (hsound : Sound db.val) (hg : db.val.aggregate? id = some g)
    (hnow : now < timestampEnd) {createAttemptId : Option String} {answer : AcquireGuestLeaseResult}
    {t' : Tables} (hrun : (acquireBody id createAttemptId now).run db.val = .ok (answer, t')) :
    (acquire id createAttemptId (some (now : Int)) db).1 = answer ∧
      (acquire id createAttemptId (some (now : Int)) db).2.val = t' ∧
      Outcome id db.val t' g answer.event := by
  have houtcome := acquireBody_outcome (hsound id g hg) hrun hg
  have hkeys : ForeignKeys t' :=
    foreignKeys_of_outcome hsound (quiet_owned.acquireBody _ _ _ hrun) houtcome
  have hcommitted : transaction .unavailable (acquireBody id createAttemptId now) db = _ :=
    transaction_of_ok hrun hkeys
  have hid := Tables.scan_id_of_aggregate? hg
  have hvalid := (Tables.scan_check_of_aggregate? hg).id_valid
  unfold acquire
  rw [← hid, hvalid, nowValue_of_lt hnow, hid]
  simp only [Bool.not_true, Bool.false_eq_true, if_false, hcommitted]
  exact ⟨trivial, trivial, houtcome⟩

theorem acquireBody_of_expired (hsound : Sound db.val) (hcounted : Counted db.val)
    (hg : db.val.aggregate? id = some g) (h : Closable g now)
    (hexpired : g.scan.resultAccessExpiresAt ≤ now) (createAttemptId : Option String) :
    ∃ t', (acquireBody id createAttemptId now).run db.val = .ok (.jobTerminated .expired, t') := by
  have hinv := hsound id g hg
  have hid := Tables.scan_id_of_aggregate? hg
  obtain ⟨row, hrow, hnone, hreserved, hdeadline⟩ := h.reservation hinv hg
  obtain ⟨closed, attempts, hclose, hfocus⟩ := h.terminateAttempt_of hg hinv
  obtain ⟨ended, t', hupdate, hrelease⟩ := h.endJob_of
    (quiet_counted.terminateAttempt _ _ _ _ _ hclose hcounted) hfocus.after (.inr (.inl rfl)) hrow
    hnone hreserved hdeadline .jobTerminalCas .expired
  refine ⟨t', ?_⟩
  unfold acquireBody
  rw [Tx.run_bind_get]
  simp only [(Tables.aggregate?_eq_some.mp hg).1, validScan_of_inv hg hinv, h.active,
    Bool.not_true, Bool.or_self, Bool.false_eq_true, if_false]
  rw [if_pos hexpired]
  unfold terminateJob
  rw [Tx.run_bind_of_ok hclose, hid]
  exact Tx.run_bind_ok.mpr ⟨_, _, hupdate, Tx.run_bind_ok.mpr ⟨_, _, hrelease, rfl⟩⟩

theorem acquire_closable (hsound : Sound db.val) (hcounted : Counted db.val)
    (hg : db.val.aggregate? id = some g) (h : Closable g now)
    (hexpired : g.scan.resultAccessExpiresAt ≤ now) (createAttemptId : Option String) :
    (acquire id createAttemptId (some (now : Int)) db).1 = .jobTerminated .expired ∧
      ∃ g', (acquire id createAttemptId (some (now : Int)) db).2.val.aggregate? id = some g' ∧
        g'.scan.jobState = .expired := by
  obtain ⟨t', hrun⟩ := acquireBody_of_expired hsound hcounted hg h hexpired createAttemptId
  obtain ⟨hanswer, htables, houtcome⟩ := acquire_of_run hsound hg (h.now_lt hg) hrun
  rw [hanswer, htables]
  exact ⟨rfl, finished_job houtcome⟩

theorem cancel_closable (hsound : Sound db.val) (hcounted : Counted db.val)
    (hg : db.val.aggregate? id = some g) (h : Closable g now) :
    (cancel id (some (now : Int)) db).1 = .cancelled ∧
      ∃ g', (cancel id (some (now : Int)) db).2.val.aggregate? id = some g' ∧
        g'.scan.jobState = .cancelled := by
  have hinv := hsound id g hg
  have hid := Tables.scan_id_of_aggregate? hg
  have hvalid := (Tables.scan_check_of_aggregate? hg).id_valid
  have hopen : g.scan.jobState ≠ .cancelled := by
    intro hcancelled
    have hactive := h.active
    rw [hcancelled] at hactive
    cases hactive
  obtain ⟨row, hrow, hnone, hreserved, hdeadline⟩ := h.reservation hinv hg
  obtain ⟨closed, attempts, hclose, hfocus⟩ := h.cancelCurrentAttempt_of hg hinv
  have hquiet : Tx.Respects (fun t t' => Counted t → Counted t')
      (cancelCurrentAttempt g.scan now) := quiet_counted.cancelCurrentAttempt g.scan now
  obtain ⟨ended, t', hupdate, hrelease⟩ := h.endJob_of (hquiet _ _ _ hclose hcounted)
    hfocus.after (.inl rfl) hrow hnone hreserved hdeadline .jobCancelCas .cancelled
  have hrun : (cancelBody id now).run db.val = .ok (.cancelled, t') := by
    unfold cancelBody
    rw [Tx.run_bind_get]
    simp only [(Tables.aggregate?_eq_some.mp hg).1, validScan_of_inv hg hinv, h.active, hopen,
      Bool.not_true, Bool.false_eq_true, if_false]
    rw [Tx.run_bind_of_ok hclose, hid]
    refine Tx.run_bind_ok.mpr ⟨_, _, hupdate, Tx.run_bind_ok.mpr ⟨(), t', ?_, rfl⟩⟩
    exact Tx.run_bind_ok.mpr ⟨_, _, hrelease, rfl⟩
  have houtcome := cancelBody_outcome hinv hrun hg
  have hkeys : ForeignKeys t' :=
    foreignKeys_of_outcome hsound (quiet_owned.cancelBody _ _ _ hrun) houtcome
  have hcommitted : transaction .unavailable (cancelBody id now) db = _ :=
    transaction_of_ok hrun hkeys
  unfold cancel
  rw [← hid, hvalid, nowValue_of_lt (h.now_lt hg), hid]
  simp only [Bool.not_true, Bool.false_eq_true, if_false, hcommitted]
  exact ⟨trivial, finished_job houtcome⟩

end Calls

end Outscan

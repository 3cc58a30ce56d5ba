import Outscan.Lifecycle.References

/-! The state machine of the protocol, as its tables, the triggers and the
transactions have it. -/
namespace Outscan

open Relational Transactional Lifecycle

/-! ### Triggers and tables -/

/-- The trigger of `guest_scans` lets through what `transitionJob` allows. -/
theorem jobUpdateAllowed_iff {before after : JobState} :
    jobUpdateAllowed before after = true ↔
      after = before ∨ ∃ event, transitionJob before event = some after := by
  constructor
  · intro h
    simp only [jobUpdateAllowed, Bool.or_eq_true, Bool.and_eq_true, beq_iff_eq,
      List.contains_iff_mem, List.mem_cons, List.not_mem_nil, or_false] at h
    rcases h with (rfl | ⟨rfl, rfl | rfl | rfl⟩) | ⟨rfl, rfl | rfl | rfl | rfl⟩
    · exact .inl rfl
    · exact .inr ⟨.attemptStarted, rfl⟩
    · exact .inr ⟨.cancel, rfl⟩
    · exact .inr ⟨.deadlineExceeded, rfl⟩
    · exact .inr ⟨.primaryResultCommitted, rfl⟩
    · exact .inr ⟨.retryBudgetExhausted, rfl⟩
    · exact .inr ⟨.cancel, rfl⟩
    · exact .inr ⟨.deadlineExceeded, rfl⟩
  · rintro (rfl | ⟨event, h⟩)
    · simp [jobUpdateAllowed]
    · cases before <;> cases event <;> cases h <;> rfl

/-- The same for `guest_scan_attempts` and `transitionAttempt`. -/
theorem attemptUpdateAllowed_iff {before after : AttemptState} :
    attemptUpdateAllowed before after = true ↔
      after = before ∨ ∃ event, transitionAttempt before event = some after := by
  constructor
  · intro h
    simp only [attemptUpdateAllowed, Bool.or_eq_true, Bool.and_eq_true, beq_iff_eq,
      List.contains_iff_mem, List.mem_cons, List.not_mem_nil, or_false] at h
    rcases h with ((rfl | ⟨rfl, rfl | rfl⟩) | ⟨rfl, rfl | rfl⟩) |
      ⟨rfl, rfl | rfl | rfl | rfl | rfl⟩
    · exact .inl rfl
    · exact .inr ⟨.leaseAcquired, rfl⟩
    · exact .inr ⟨.jobCancelledOrExpired, rfl⟩
    · exact .inr ⟨.scannerStarted, rfl⟩
    · exact .inr ⟨.leaseExpiredOrInvalidated, rfl⟩
    · exact .inr ⟨.primaryResultCommitted, rfl⟩
    · exact .inr ⟨.scannerOrPolicyFailed, rfl⟩
    · exact .inr ⟨.hardDeadlineExceeded, rfl⟩
    · exact .inr ⟨.jobCancelled, rfl⟩
    · exact .inr ⟨.leaseExpiredOrInvalidated, rfl⟩
  · rintro (rfl | ⟨event, h⟩)
    · simp [attemptUpdateAllowed]
    · cases before <;> cases event <;> cases h <;> rfl

/-! ### Moves -/

/-- The job stays, or moves by an event of `transitionJob` and past the trigger;
an end is not left. -/
structure JobMove (before after : JobState) : Prop where
  path : after = before ∨ ∃ event, transitionJob before event = some after
  permitted : jobUpdateAllowed before after = true
  ended : before.terminal = true → after = before

structure AttemptMove (before after : AttemptState) : Prop where
  path : after = before ∨ ∃ event, transitionAttempt before event = some after
  permitted : attemptUpdateAllowed before after = true
  ended : before.terminal = true → after = before

theorem jobMove_refl (state : JobState) : JobMove state state :=
  ⟨.inl rfl, by simp [jobUpdateAllowed], fun _ => rfl⟩

theorem attemptMove_refl (state : AttemptState) : AttemptMove state state :=
  ⟨.inl rfl, by simp [attemptUpdateAllowed], fun _ => rfl⟩

theorem jobMove_of_event {before after : JobState} (event : JobEvent)
    (h : transitionJob before event = some after) : JobMove before after := by
  refine ⟨.inr ⟨event, h⟩, jobUpdateAllowed_iff.mpr (.inr ⟨event, h⟩), fun hterminal => ?_⟩
  rw [(JobState.terminal_iff before).mp hterminal event] at h
  cases h

theorem attemptMove_of_event {before after : AttemptState} (event : AttemptEvent)
    (h : transitionAttempt before event = some after) : AttemptMove before after := by
  refine ⟨.inr ⟨event, h⟩, attemptUpdateAllowed_iff.mpr (.inr ⟨event, h⟩), fun hterminal => ?_⟩
  rw [(AttemptState.terminal_iff before).mp hterminal event] at h
  cases h

theorem attemptMove_of_closesTo {before after : AttemptState} (h : ClosesTo before after) :
    AttemptMove before after := by
  rcases h with ⟨hactive, rfl⟩ | ⟨rfl, rfl | rfl⟩
  · cases before with
    | leased => exact attemptMove_of_event .leaseExpiredOrInvalidated rfl
    | running => exact attemptMove_of_event .leaseExpiredOrInvalidated rfl
    | _ => cases hactive
  · exact attemptMove_of_event .hardDeadlineExceeded rfl
  · exact attemptMove_of_event .jobCancelled rfl

namespace Lifecycle

variable {g g' : Aggregate} {event : Event}

theorem Step.job (h : Step g event g') : JobMove g.scan.jobState g'.scan.jobState := by
  cases h with
  | leaseFirst attemptId now queued access =>
    rw [queued]
    exact jobMove_of_event .attemptStarted rfl
  | leaseNext current earlier attemptId now running =>
    rw [running]
    exact jobMove_refl .running
  | start current earlier command now attempts holds leased => exact jobMove_refl _
  | renew current earlier command now expiry attempts => exact jobMove_refl _
  | commit current earlier submission now row reservation attempts jobRunning =>
    rw [jobRunning]
    exact jobMove_of_event .primaryResultCommitted rfl
  | finishQueued job now reason reservation queued ends reserved =>
    rw [queued]
    rcases ends with rfl | rfl
    · exact jobMove_of_event .deadlineExceeded rfl
    · exact jobMove_of_event .cancel rfl
  | finishRunning current earlier job state now reason reservation running attempts ends =>
    rw [running]
    rcases ends with rfl | rfl | rfl
    · exact jobMove_of_event .retryBudgetExhausted rfl
    · exact jobMove_of_event .deadlineExceeded rfl
    · exact jobMove_of_event .cancel rfl

theorem Step.attempts_move (h : Step g event g') {attempt : GuestScanAttempt}
    (hattempt : attempt ∈ g.attempts) :
    ∃ after ∈ g'.attempts, after.id = attempt.id ∧
      AttemptMove attempt.attemptState after.attemptState := by
  -- a step changes the newest attempt at most
  have hchanged : ∀ {current changed : GuestScanAttempt} {earlier : List GuestScanAttempt},
      g.attempts = current :: earlier → changed :: earlier ⊆ g'.attempts →
      changed.id = current.id → AttemptMove current.attemptState changed.attemptState →
      ∃ after ∈ g'.attempts, after.id = attempt.id ∧
        AttemptMove attempt.attemptState after.attemptState := by
    intro current changed earlier hattempts hsubset hid hmove
    rw [hattempts] at hattempt
    rcases List.mem_cons.mp hattempt with rfl | hearlier
    · exact ⟨changed, hsubset List.mem_cons_self, hid, hmove⟩
    · exact ⟨attempt, hsubset (List.mem_cons_of_mem _ hearlier), rfl, attemptMove_refl _⟩
  cases h with
  | leaseFirst attemptId now queued access =>
    exact ⟨attempt, List.mem_cons_of_mem _ hattempt, rfl, attemptMove_refl _⟩
  | leaseNext current earlier attemptId now running attempts active =>
    exact hchanged attempts (List.subset_cons_self ..) rfl
      (attemptMove_of_closesTo (closesTo_retiredState active now))
  | start current earlier command now attempts holds leased =>
    refine hchanged attempts (List.Subset.refl _) rfl ?_
    rw [leased]
    exact attemptMove_of_event .scannerStarted rfl
  | renew current earlier command now expiry attempts =>
    exact hchanged attempts (List.Subset.refl _) rfl (attemptMove_refl _)
  | commit current earlier submission now row reservation attempts jobRunning running =>
    refine hchanged attempts (List.Subset.refl _) rfl ?_
    rw [running]
    exact attemptMove_of_event .primaryResultCommitted rfl
  | finishQueued job now reason reservation queued ends reserved =>
    exact ⟨attempt, hattempt, rfl, attemptMove_refl _⟩
  | finishRunning current earlier job state now reason reservation running attempts ends closes =>
    exact hchanged attempts (List.Subset.refl _) rfl (attemptMove_of_closesTo closes)

theorem Step.attempts_new (h : Step g event g') {attempt : GuestScanAttempt}
    (hattempt : attempt ∈ g'.attempts) :
    (∃ before ∈ g.attempts, before.id = attempt.id) ∨ attempt.attemptState = .leased := by
  have hchanged : ∀ {current changed : GuestScanAttempt} {earlier : List GuestScanAttempt},
      g.attempts = current :: earlier → attempt ∈ changed :: earlier →
      changed.id = current.id → ∃ before ∈ g.attempts, before.id = attempt.id := by
    intro current changed earlier hattempts hmem hid
    rw [hattempts]
    rcases List.mem_cons.mp hmem with rfl | hearlier
    · exact ⟨current, List.mem_cons_self, hid.symm⟩
    · exact ⟨attempt, List.mem_cons_of_mem _ hearlier, rfl⟩
  cases h with
  | leaseFirst attemptId now queued access =>
    rcases List.mem_cons.mp hattempt with rfl | hold
    · exact .inr rfl
    · exact .inl ⟨attempt, hold, rfl⟩
  | leaseNext current earlier attemptId now running attempts active =>
    rcases List.mem_cons.mp hattempt with rfl | hold
    · exact .inr rfl
    · exact .inl (hchanged attempts hold rfl)
  | start current earlier command now attempts => exact .inl (hchanged attempts hattempt rfl)
  | renew current earlier command now expiry attempts =>
    exact .inl (hchanged attempts hattempt rfl)
  | commit current earlier submission now row reservation attempts =>
    exact .inl (hchanged attempts hattempt rfl)
  | finishQueued job now reason reservation queued ends reserved =>
    exact .inl ⟨attempt, hattempt, rfl⟩
  | finishRunning current earlier job state now reason reservation running attempts =>
    exact .inl (hchanged attempts hattempt rfl)

end Lifecycle

/-! ### Tables -/

/-- From `t` to `t'` the states of jobs and attempts follow their machines: no row
comes or goes except for a new attempt, which is created and leased. -/
structure FollowsFsm (t t' : Tables) : Prop where
  jobs : ∀ scan ∈ t.guestScans.rows, ∃ after ∈ t'.guestScans.rows, after.id = scan.id ∧
    JobMove scan.jobState after.jobState
  jobs_known : ∀ scan ∈ t'.guestScans.rows, ∃ before ∈ t.guestScans.rows, before.id = scan.id
  attempts : ∀ attempt ∈ t.guestScanAttempts.rows, ∃ after ∈ t'.guestScanAttempts.rows,
    after.id = attempt.id ∧ AttemptMove attempt.attemptState after.attemptState
  attempts_new : ∀ attempt ∈ t'.guestScanAttempts.rows,
    (∃ before ∈ t.guestScanAttempts.rows, before.id = attempt.id) ∨
      transitionAttempt .created .leaseAcquired = some attempt.attemptState

theorem FollowsFsm.refl (t : Tables) : FollowsFsm t t :=
  ⟨fun scan h => ⟨scan, h, rfl, jobMove_refl _⟩, fun scan h => ⟨scan, h, rfl⟩,
    fun attempt h => ⟨attempt, h, rfl, attemptMove_refl _⟩, fun attempt h => .inl ⟨attempt, h, rfl⟩⟩

structure Moved (g g' : Aggregate) : Prop where
  job : JobMove g.scan.jobState g'.scan.jobState
  attempts : ∀ attempt ∈ g.attempts, ∃ after ∈ g'.attempts, after.id = attempt.id ∧
    AttemptMove attempt.attemptState after.attemptState
  attempts_new : ∀ attempt ∈ g'.attempts,
    (∃ before ∈ g.attempts, before.id = attempt.id) ∨ attempt.attemptState = .leased

theorem Moved.refl (g : Aggregate) : Moved g g :=
  ⟨jobMove_refl _, fun attempt h => ⟨attempt, h, rfl, attemptMove_refl _⟩,
    fun attempt h => .inl ⟨attempt, h, rfl⟩⟩

theorem Lifecycle.Step.moved {g g' : Aggregate} {event : Event} (h : Step g event g') :
    Moved g g' :=
  ⟨h.job, fun _ => h.attempts_move, fun _ => h.attempts_new⟩

theorem aggregate?_of_scan {t : Tables} {scan : GuestScan} (h : scan ∈ t.guestScans.rows) :
    ∃ g, t.aggregate? scan.id = some g ∧ g.scan = scan := by
  refine ⟨⟨scan, t.attemptsOf scan.id, t.guestResults.find? scan.id,
    t.reservations.find? scan.id⟩, ?_, rfl⟩
  exact Tables.aggregate?_eq_some.mpr ⟨Table.find?_of_mem h, rfl, rfl, rfl⟩

theorem aggregate?_of_attempt {db : Database} {attempt : GuestScanAttempt}
    (h : attempt ∈ db.val.guestScanAttempts.rows) :
    ∃ g, db.val.aggregate? attempt.guestScanId = some g ∧ attempt ∈ g.attempts := by
  obtain ⟨scan, hscan, hid⟩ := db.property.owned.attempt attempt h
  obtain ⟨g, hg, -⟩ := aggregate?_of_scan hscan
  rw [hid] at hg
  exact ⟨g, hg, (Tables.mem_attempts_of_aggregate? hg).mpr ⟨h, rfl⟩⟩

theorem followsFsm_of_moved {db db' : Database}
    (forward : ∀ id g, db.val.aggregate? id = some g →
      ∃ g', db'.val.aggregate? id = some g' ∧ Moved g g')
    (backward : ∀ id g', db'.val.aggregate? id = some g' →
      ∃ g, db.val.aggregate? id = some g ∧ Moved g g') : FollowsFsm db.val db'.val where
  jobs := by
    intro scan hscan
    obtain ⟨g, hg, rfl⟩ := aggregate?_of_scan hscan
    obtain ⟨g', hg', hmoved⟩ := forward _ g hg
    exact ⟨g'.scan, Table.find?_mem (Tables.aggregate?_eq_some.mp hg').1,
      Tables.scan_id_of_aggregate? hg', hmoved.job⟩
  jobs_known := by
    intro scan hscan
    obtain ⟨g', hg', -⟩ := aggregate?_of_scan hscan
    obtain ⟨g, hg, -⟩ := backward _ g' hg'
    exact ⟨g.scan, Table.find?_mem (Tables.aggregate?_eq_some.mp hg).1,
      Tables.scan_id_of_aggregate? hg⟩
  attempts := by
    intro attempt hattempt
    obtain ⟨g, hg, hmem⟩ := aggregate?_of_attempt hattempt
    obtain ⟨g', hg', hmoved⟩ := forward _ g hg
    obtain ⟨after, hafter, hid, hmove⟩ := hmoved.attempts attempt hmem
    exact ⟨after, ((Tables.mem_attempts_of_aggregate? hg').mp hafter).1, hid, hmove⟩
  attempts_new := by
    intro attempt hattempt
    obtain ⟨g', hg', hmem⟩ := aggregate?_of_attempt hattempt
    obtain ⟨g, hg, hmoved⟩ := backward _ g' hg'
    rcases hmoved.attempts_new attempt hmem with ⟨before, hbefore, hid⟩ | hleased
    · exact .inl ⟨before, ((Tables.mem_attempts_of_aggregate? hg).mp hbefore).1, hid⟩
    · exact .inr (by rw [hleased]; rfl)

theorem CallOutcome.followsFsm {id : String} {db db' : Database} {event : Option Event}
    (h : CallOutcome id db db' event) : FollowsFsm db.val db'.val := by
  cases h with
  | unchanged same => exact same ▸ .refl _
  | event g g' focus step =>
    apply followsFsm_of_moved
    · intro j other hother
      by_cases hj : j = id
      · subst hj
        rw [focus.before] at hother
        exact ⟨g', focus.after, Option.some.inj hother ▸ step.moved⟩
      · exact ⟨other, (focus.others j hj).trans hother, .refl other⟩
    · intro j other hother
      by_cases hj : j = id
      · subst hj
        rw [focus.after] at hother
        exact ⟨g, focus.before, Option.some.inj hother ▸ step.moved⟩
      · exact ⟨other, (focus.others j hj).symm.trans hother, .refl other⟩

def Call.Transitions : Call → Prop
  | .acquire .. | .start .. | .renew .. | .commit .. | .cancel .. => True
  | _ => False

/-- Acquire, start, renew, commit and cancel move jobs and attempts along the
machines of the protocol, by changes that the triggers let through, and leave
every end as it is. -/
theorem exec_followsFsm {node : NodeRuntime} {db : Database} (hreach : Reachable node db)
    {call : Call} (hcall : call.Transitions) :
    FollowsFsm db.val (exec node db call).2.val ∧
    (∀ before after : JobState, jobUpdateAllowed before after = true ↔
      after = before ∨ ∃ event, transitionJob before event = some after) ∧
    (∀ before after : AttemptState, attemptUpdateAllowed before after = true ↔
      after = before ∨ ∃ event, transitionAttempt before event = some after) := by
  refine ⟨?_, fun _ _ => jobUpdateAllowed_iff, fun _ _ => attemptUpdateAllowed_iff⟩
  cases hscan : call.scan? with
  | some id => exact (exec_outcome node hreach.sound hscan).followsFsm
  | none =>
    cases call with
    | commit result transactionNow =>
      cases result with
      | none => exact .refl _
      | some result => cases hscan
    | createOrReplay dependencies request => exact hcall.elim
    | runBatch batchSize clock locked => exact hcall.elim
    | setServiceState state => exact hcall.elim
    | _ => cases hscan

/-- Cancelling `scan-1` while its attempt runs. -/
theorem exec_followsFsm_sample :
    FollowsFsm sampleDatabase.val
      (exec sampleNode sampleDatabase (.cancel "scan-1" (some 1003))).2.val :=
  have hcall : (Call.cancel "scan-1" (some 1003)).Transitions := trivial
  (exec_followsFsm sampleDatabase_reachable hcall).1

end Outscan

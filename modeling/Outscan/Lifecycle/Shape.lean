import Outscan.Lifecycle.Calls

/-! The shape of every stored scan: what its job state says about its attempts
and its result, and why `ATTEMPT_STATE` is never raised. -/
namespace Outscan

open Relational Transactional Lifecycle

/-! ### Stored rows pass the checks of the code -/

theorem isPositiveSafeInteger_of {value : Nat} (bound : Nat) (hpos : 0 < value)
    (hle : value ≤ bound) (hbound : bound ≤ maxSafeInteger) : isPositiveSafeInteger value = true := by
  simp only [isPositiveSafeInteger, Bool.and_eq_true, decide_eq_true_eq]
  omega

theorem validAttempt_of_constraints {row : GuestScanAttempt} (h : row.Constraints) :
    validAttempt row = true := by
  have htime := h.time
  have hcreated := htime.hard
  have hrange := h.range.1
  have hfence := h.fence
  have hnumber := h.number
  have hlease : row.leaseExpiresAt.all isPositiveSafeInteger = true := by
    cases hlease : row.leaseExpiresAt with
    | none => rfl
    | some time =>
      have hbounds := htime.lease time hlease
      exact isPositiveSafeInteger_of timestampEnd (by omega) (by omega) (by decide)
  simp only [validAttempt, Bool.and_eq_true, decide_eq_true_eq]
  refine ⟨⟨⟨⟨⟨h.id_valid, ?_⟩, ?_⟩, h.version⟩, ?_⟩, hlease⟩
  · exact isPositiveSafeInteger_of _ hnumber.1 hnumber.2 (by decide)
  · exact isPositiveSafeInteger_of _ hfence.1 hfence.2 (by decide)
  · exact isPositiveSafeInteger_of timestampEnd (by omega) (by omega) (by decide)

theorem loadAttempt_check {t : Tables} {id attemptId : String} {row : GuestScanAttempt}
    (h : t.loadAttempt id attemptId = some row) : row.Constraints := by
  unfold Tables.loadAttempt at h
  exact Table.find?_check (Option.filter_eq_some_iff.mp h).1

theorem lease_of_active {row : GuestScanAttempt} (h : row.Constraints)
    (hactive : row.attemptState.active = true) : ∃ expiry, row.leaseExpiresAt = some expiry := by
  have hshape := h.lease_shape
  unfold GuestScanAttempt.LeaseShape at hshape
  simp only [AttemptState.active, Bool.or_eq_true, beq_iff_eq] at hactive
  rcases hactive with hstate | hstate <;> rw [hstate] at hshape <;>
    exact Option.ne_none_iff_exists'.mp hshape.2

/-! ### ATTEMPT_STATE -/

abbrev NoAttemptState {α : Type} (action : Sql α) (t : Tables) : Prop :=
  Tx.Avoids (.thrown .attemptState) action t

section AttemptStateError

variable {t : Tables}

theorem updateGuestScan_avoids {missing : Thrown} (hmissing : missing ≠ .attemptState)
    (id : String) (cond : GuestScan → Prop) [DecidablePred cond] (edit : Edit GuestScan) :
    NoAttemptState (updateGuestScan missing id cond edit) t :=
  Tx.Avoids.updateOne (by simp) (by simpa using hmissing) _ _ _ _

theorem updateGuestScanAttempt_avoids {missing : Thrown} (hmissing : missing ≠ .attemptState)
    (id attemptId : String) (cond : GuestScanAttempt → Prop) [DecidablePred cond]
    (edit : Edit GuestScanAttempt) :
    NoAttemptState (updateGuestScanAttempt missing id attemptId cond edit) t :=
  Tx.Avoids.updateOne (by simp) (by simpa using hmissing) _ _ _ _

theorem insertGuestScanAttempt_avoids (row : GuestScanAttempt) :
    NoAttemptState (insertGuestScanAttempt row) t := by
  unfold insertGuestScanAttempt
  refine .bind (.ensure (by simp)) fun _ _ _ => ?_
  refine .bind (.insert (by simp) _) fun _ _ _ => ?_
  exact .bind_get (.ensure (by simp))

theorem decrementAndRemove_avoids (now : Nat) (spec : ActiveCounterSpec) :
    NoAttemptState (decrementAndRemove now spec) t := by
  unfold decrementAndRemove
  refine .bind (.update (by simp) _ _ _ _) fun result _ _ => ?_
  cases result with
  | none => exact .pure _
  | some row => exact .ite (fun _ => .pure _) fun _ => .bind (.delete _) fun _ _ _ => .pure _

theorem decrementAll_avoids (now : Nat) (specs : List ActiveCounterSpec) :
    NoAttemptState (decrementAll now specs) t := by
  induction specs generalizing t with
  | nil => exact .pure _
  | cons spec rest ih =>
    refine .bind (decrementAndRemove_avoids now spec) fun done _ _ => ?_
    exact .ite (fun _ => ih) fun _ => .pure _

theorem releaseGuestAbuseReservation_avoids (id : String) (now : Nat) (reason : ReleaseReason) :
    NoAttemptState (releaseGuestAbuseReservation id now reason) t := by
  unfold releaseGuestAbuseReservation
  refine .bind_get ?_
  split
  · exact .pure _
  · refine .ite (fun _ => .pure _) fun _ => .ite (fun _ => .pure _) fun _ => ?_
    refine .bind (decrementAll_avoids _ _) fun done _ _ => .ite (fun _ => ?_) fun _ => .pure _
    refine .bind (.update (by simp) _ _ _ _) fun result _ _ => ?_
    cases result with
    | none => exact .pure _
    | some row => exact .pure _

theorem terminateAttempt_avoids {scan : GuestScan} {now : Nat}
    (h : scan.jobState = .running → ∀ attemptId ∈ scan.currentAttemptId, ∃ attempt,
      t.loadAttempt scan.id attemptId = some attempt ∧
        (attempt.attemptState.active = true ∨ alreadyClosed attempt.attemptState = true)) :
    NoAttemptState (terminateAttempt scan now) t := by
  unfold terminateAttempt
  split
  · exact .pure _
  · rename_i attemptId hcurrent
    refine .ite (fun _ => .pure _) fun hrunning => .bind_get ?_
    obtain ⟨attempt, hload, hstate⟩ := h (not_not.mp hrunning) attemptId hcurrent
    simp only [hload, validAttempt_of_constraints (loadAttempt_check hload), Bool.not_true,
      Bool.false_eq_true, if_false]
    refine .ite (fun _ => ?_) fun hactive => .ensure_of (hstate.resolve_left hactive)
    exact .bind (updateGuestScanAttempt_avoids (by decide) _ _ _ _) fun _ _ _ => .pure _

theorem terminateJob_avoids {scan : GuestScan} {now : Nat} {terminal : TerminalState}
    (h : NoAttemptState (terminateAttempt scan now) t) :
    NoAttemptState (terminateJob scan now terminal) t := by
  unfold terminateJob
  refine .bind h fun _ _ _ => ?_
  refine .bind (updateGuestScan_avoids (by decide) _ _ _) fun _ _ _ => ?_
  refine .bind (releaseGuestAbuseReservation_avoids _ _ _) fun _ _ _ => ?_
  exact .bind (.ensure (by simp)) fun _ _ _ => .pure _

theorem leaseNew_avoids (scan : GuestScan) (createAttemptId : Option String)
    (attemptNo fence now : Nat) :
    NoAttemptState (leaseNew scan createAttemptId attemptNo fence now) t := by
  unfold leaseNew
  split
  · exact .fail (by simp)
  · refine .ite (fun _ => .fail (by simp)) fun _ => .bind ?_ fun _ _ _ => .pure _
    unfold createAttempt
    refine .bind (.ensure (by simp)) fun _ _ _ => ?_
    refine .bind (insertGuestScanAttempt_avoids _) fun _ _ _ => ?_
    refine .bind (updateGuestScanAttempt_avoids (by decide) _ _ _ _) fun _ _ _ => ?_
    exact .bind (updateGuestScan_avoids (by decide) _ _ _) fun _ _ _ => .pure _

variable {g : Aggregate} {now : Nat}

theorem loadAttempt_running (hinv : Inv g) (hg : t.aggregate? g.scan.id = some g)
    (hrunning : g.scan.jobState = .running) :
    ∃ current earlier, g.attempts = current :: earlier ∧
      current.attemptState.active = true ∧ g.scan.currentAttemptId = some current.id ∧
      g.scan.currentFence = current.monotonicFence ∧
      t.loadAttempt g.scan.id current.id = some current := by
  obtain ⟨current, earlier, hattempts, hactive, -⟩ := hinv.running_of_attempts hrunning
  have hnumbered := hinv.numbered
  rw [hattempts] at hnumbered
  refine ⟨current, earlier, hattempts, hactive, ?_, ?_, ?_⟩
  · rw [hinv.current, hattempts]
    rfl
  · rw [hinv.fence, hattempts, hnumbered.2.1]
    rfl
  · exact (Tables.loadAttempt_eq_some hg).mpr ⟨by simp [hattempts], rfl⟩

theorem heldAttempt_avoids (hinv : Inv g) (hg : t.aggregate? g.scan.id = some g)
    (hrunning : g.scan.jobState = .running) : NoAttemptState (heldAttempt g.scan) t := by
  obtain ⟨current, earlier, hattempts, hactive, hcurrent, hfence, hload⟩ :=
    loadAttempt_running hinv hg hrunning
  have hcheck := loadAttempt_check hload
  obtain ⟨expiry, hexpiry⟩ := lease_of_active hcheck hactive
  unfold heldAttempt
  refine .bind_get ?_
  simp only [hcurrent, Option.bind_some, hload, hexpiry, validAttempt_of_constraints hcheck,
    hactive, hfence, Bool.not_true, bne_self_eq_false, Bool.or_self, Bool.false_eq_true, if_false]
  exact .pure _

theorem acquireRunning_avoids (hinv : Inv g) (hg : t.aggregate? g.scan.id = some g)
    (hrunning : g.scan.jobState = .running) (createAttemptId : Option String) :
    NoAttemptState (acquireRunning g.scan createAttemptId now) t := by
  obtain ⟨current, earlier, hattempts, hactive, hcurrent, -, -⟩ :=
    loadAttempt_running hinv hg hrunning
  unfold acquireRunning
  refine .bind (heldAttempt_avoids hinv hg hrunning) fun held _ hheld => ?_
  obtain ⟨rfl, -, rfl⟩ := heldAttempt_ok hheld hg hattempts hcurrent
  refine .ite (fun _ => .pure _) fun _ => ?_
  refine .bind (updateGuestScanAttempt_avoids (by decide) _ _ _ _) fun _ _ hclose => ?_
  refine .ite (fun _ => terminateJob_avoids (terminateAttempt_avoids ?_))
    fun _ => leaseNew_avoids _ _ _ _ _
  -- the attempt has just been retired, so it is closed
  obtain ⟨_, -, -, -, -, -, hclosed⟩ := updateGuestScanAttempt_focus hclose hg
  rw [Aggregate.editAttempt_head hattempts (Tables.attempts_pairwise_of_aggregate? hg)] at hclosed
  intro _ attemptId hattemptId
  rw [hcurrent, Option.mem_some_iff] at hattemptId
  refine ⟨(closeAttempt (retiredState held.1 now) now).apply held.1,
    (Tables.loadAttempt_eq_some hclosed.after).mpr
      ⟨List.mem_cons_self .., hattemptId⟩, .inr ?_⟩
  change alreadyClosed (retiredState held.1 now) = true
  unfold retiredState
  split <;> rfl

theorem acquireBody_avoids (hsound : Sound t) (id : String) (createAttemptId : Option String) :
    NoAttemptState (acquireBody id createAttemptId now) t := by
  unfold acquireBody
  refine .bind_get ?_
  cases hg : t.aggregate? id with
  | none =>
    simp only [Tables.aggregate?_eq_none.mp hg]
    exact .pure _
  | some g =>
    have hinv := hsound id g hg
    have hid := Tables.scan_id_of_aggregate? hg
    subst hid
    simp only [(Tables.aggregate?_eq_some.mp hg).1]
    refine .ite (fun _ => .pure _) fun hvalid => .ite (fun _ => ?_) fun _ => .ite
      (fun hrunning => acquireRunning_avoids hinv hg hrunning createAttemptId)
      fun _ => leaseNew_avoids _ _ _ _ _
    refine terminateJob_avoids (terminateAttempt_avoids fun hrunning attemptId hattemptId => ?_)
    obtain ⟨current, earlier, -, hactive, hcurrent, -, hload⟩ :=
      loadAttempt_running hinv hg hrunning
    rw [hcurrent, Option.mem_some_iff] at hattemptId
    subst hattemptId
    exact ⟨current, hload, .inl hactive⟩

theorem cancelledState_of_active {state : AttemptState} (h : state.active = true) :
    ∃ after, cancelledState state = some after := by
  cases state with
  | leased => exact ⟨_, rfl⟩
  | running => exact ⟨_, rfl⟩
  | _ => cases h

theorem cancelBody_avoids (hsound : Sound t) (id : String) :
    NoAttemptState (cancelBody id now) t := by
  have hrelease : ∀ (scanId : String) (s : Tables), NoAttemptState (releaseCancelled scanId now) s :=
    fun scanId s => .bind (releaseGuestAbuseReservation_avoids _ _ _) fun _ _ _ =>
      .ensure (by simp)
  unfold cancelBody
  refine .bind_get ?_
  cases hg : t.aggregate? id with
  | none =>
    simp only [Tables.aggregate?_eq_none.mp hg]
    exact .pure _
  | some g =>
    have hinv := hsound id g hg
    have hid := Tables.scan_id_of_aggregate? hg
    subst hid
    simp only [(Tables.aggregate?_eq_some.mp hg).1]
    refine .ite (fun _ => .pure _) fun _ => .ite
      (fun _ => .bind (hrelease _ _) fun _ _ _ => .pure _) fun _ => .ite (fun _ => .pure _)
      fun hactive => .bind ?_ fun _ _ _ =>
        .bind (updateGuestScan_avoids (by decide) _ _ _) fun _ _ _ =>
          .bind (hrelease _ _) fun _ _ _ => .pure _
    simp only [Bool.not_eq_true', Bool.not_eq_false, JobState.active, Bool.or_eq_true,
      beq_iff_eq] at hactive
    unfold cancelCurrentAttempt
    rcases hactive with hqueued | hrunning
    · have hnone : g.scan.currentAttemptId = none := by
        rw [hinv.current, (hinv.queued_attempts hqueued).1]
        rfl
      simp only [hnone]
      exact .pure _
    · obtain ⟨current, earlier, -, hopen, hcurrent, -, hload⟩ :=
        loadAttempt_running hinv hg hrunning
      simp only [hcurrent]
      refine .bind_get ?_
      simp only [hload, validAttempt_of_constraints (loadAttempt_check hload), Bool.not_true,
        Bool.false_eq_true, if_false]
      obtain ⟨state, hstate⟩ := cancelledState_of_active hopen
      simp only [hstate]
      exact .bind (updateGuestScanAttempt_avoids (by decide) _ _ _ _) fun _ _ _ => .pure _

end AttemptStateError

/-! ### The shape -/

/-- What the rows stored for `scan` look like. -/
structure WellShaped (t : Tables) (scan : GuestScan) : Prop where
  /-- attempt numbers and fences are `1..n`, in the order of creation -/
  numbered : ∃ n ≤ guestMaxAttempts,
    (t.attemptsOf scan.id).reverse.map (fun row => (row.attemptNo, row.monotonicFence)) =
      (List.range n).map fun i => (i + 1, i + 1)
  queued : scan.jobState = .queued ↔
    t.attemptsOf scan.id = [] ∧ scan.jobState.terminal = false
  running : scan.jobState = .running ↔ ∃ current ∈ t.attemptsOf scan.id,
    current.attemptState.active = true ∧
    (∀ other ∈ t.attemptsOf scan.id, other.attemptState.active = true → other = current) ∧
    scan.currentAttemptId = some current.id ∧ scan.currentFence = current.monotonicFence ∧
    (∀ other ∈ t.attemptsOf scan.id, other.monotonicFence ≤ current.monotonicFence) ∧
    ∃ expiry, current.leaseExpiresAt = some expiry ∧ expiry ≤ current.hardDeadline ∧
      current.hardDeadline ≤ scan.resultAccessExpiresAt
  terminal : scan.jobState.terminal = true → ∀ attempt ∈ t.attemptsOf scan.id,
    attempt.attemptState ≠ .leased ∧ attempt.attemptState ≠ .running ∧
      attempt.attemptState ≠ .created
  succeeded : scan.jobState = .succeeded ↔ ∃ result,
    t.guestResults.find? scan.id = some result ∧
    scan.acceptedAttemptId = some result.acceptedAttemptId ∧
    scan.acceptedFence = some result.acceptedFence ∧
    scan.acceptedPayloadDigest = some result.payloadDigest ∧
    scan.currentAttemptId = some result.acceptedAttemptId ∧
    scan.currentFence = result.acceptedFence ∧
    ∃ attempt ∈ t.attemptsOf scan.id, attempt.id = result.acceptedAttemptId ∧
      attempt.monotonicFence = result.acceptedFence ∧ attempt.attemptState = .succeeded

theorem Lifecycle.Numbered.map_reverse {attempts : List GuestScanAttempt} (h : Numbered attempts) :
    attempts.reverse.map (fun row => (row.attemptNo, row.monotonicFence)) =
      (List.range attempts.length).map fun i => (i + 1, i + 1) := by
  induction attempts with
  | nil => rfl
  | cons attempt earlier ih =>
    obtain ⟨hno, hfence, hrest⟩ := h
    rw [List.reverse_cons, List.map_append, ih hrest, List.length_cons, List.range_succ,
      List.map_append]
    simp [hno, hfence]

theorem Lifecycle.Numbered.fence_le {attempts : List GuestScanAttempt} (h : Numbered attempts) :
    ∀ attempt ∈ attempts, attempt.monotonicFence ≤ attempts.length := by
  induction attempts with
  | nil => simp
  | cons newest earlier ih =>
    obtain ⟨-, hfence, hrest⟩ := h
    intro attempt hattempt
    rcases List.mem_cons.mp hattempt with rfl | hattempt
    · rw [hfence, List.length_cons]
    · have := ih hrest attempt hattempt
      rw [List.length_cons]
      omega

theorem not_active_of_closed {state : AttemptState} (h : closed state = true) :
    state.active = false ∧ state ≠ .leased ∧ state ≠ .running ∧ state ≠ .created ∧
      state ≠ .succeeded := by
  cases state with
  | superseded => simp [AttemptState.active]
  | timedOut => simp [AttemptState.active]
  | cancelled => simp [AttemptState.active]
  | _ => cases h

theorem Lifecycle.Inv.closed_of_terminal {g : Aggregate} (hinv : Inv g)
    (hjob : g.scan.jobState.terminal = true) :
    ∀ attempt ∈ g.attempts, attempt.attemptState ≠ .leased ∧ attempt.attemptState ≠ .running ∧
      attempt.attemptState ≠ .created := by
  have hopen : ∀ attempt ∈ g.attempts.tail, attempt.attemptState ≠ .leased ∧
      attempt.attemptState ≠ .running ∧ attempt.attemptState ≠ .created := by
    intro attempt hattempt
    have hclosed := not_active_of_closed (hinv.earlier attempt hattempt)
    exact ⟨hclosed.2.1, hclosed.2.2.1, hclosed.2.2.2.1⟩
  intro attempt hattempt
  cases hinv.phase with
  | queued job =>
    rw [job] at hjob
    cases hjob
  | running _ _ job =>
    rw [job] at hjob
    cases hjob
  | succeeded current earlier row job attempts state =>
    rw [attempts] at hattempt hopen
    rcases List.mem_cons.mp hattempt with rfl | hearlier
    · simp [state]
    · exact hopen attempt hearlier
  | ended job newest =>
    cases hattempts : g.attempts with
    | nil =>
      rw [hattempts] at hattempt
      cases hattempt
    | cons current earlier =>
      rw [hattempts] at hattempt hopen newest
      rcases List.mem_cons.mp hattempt with rfl | hearlier
      · have hclosed := not_active_of_closed (newest attempt rfl)
        exact ⟨hclosed.2.1, hclosed.2.2.1, hclosed.2.2.2.1⟩
      · exact hopen attempt hearlier

theorem JobState.terminal_of_not_active {state : JobState} (hqueued : state ≠ .queued)
    (hrunning : state ≠ .running) : state.terminal = true := by
  cases state with
  | queued => exact absurd rfl hqueued
  | running => exact absurd rfl hrunning
  | _ => rfl

section Shape

variable {t : Tables} {g : Aggregate}

theorem wellShaped_numbered (hinv : Inv g) (hattempts : t.attemptsOf g.scan.id = g.attempts) :
    ∃ n ≤ guestMaxAttempts,
      (t.attemptsOf g.scan.id).reverse.map (fun row => (row.attemptNo, row.monotonicFence)) =
        (List.range n).map fun i => (i + 1, i + 1) := by
  rw [hattempts]
  exact ⟨g.attempts.length, hinv.few, hinv.numbered.map_reverse⟩

theorem wellShaped_queued (hinv : Inv g) (hattempts : t.attemptsOf g.scan.id = g.attempts) :
    g.scan.jobState = .queued ↔
      t.attemptsOf g.scan.id = [] ∧ g.scan.jobState.terminal = false := by
  rw [hattempts]
  constructor
  · intro hqueued
    refine ⟨(hinv.queued_attempts hqueued).1, ?_⟩
    rw [hqueued]
    rfl
  · intro h
    obtain ⟨hnone, hopen⟩ := h
    by_contra hqueued
    have hrunning : g.scan.jobState = .running := by
      by_contra hrunning
      rw [JobState.terminal_of_not_active hqueued hrunning] at hopen
      cases hopen
    obtain ⟨current, earlier, hcons, -⟩ := hinv.running_of_attempts hrunning
    rw [hnone] at hcons
    cases hcons

theorem wellShaped_running (hinv : Inv g) (hg : t.aggregate? g.scan.id = some g) :
    g.scan.jobState = .running ↔ ∃ current ∈ t.attemptsOf g.scan.id,
      current.attemptState.active = true ∧
      (∀ other ∈ t.attemptsOf g.scan.id, other.attemptState.active = true → other = current) ∧
      g.scan.currentAttemptId = some current.id ∧
      g.scan.currentFence = current.monotonicFence ∧
      (∀ other ∈ t.attemptsOf g.scan.id, other.monotonicFence ≤ current.monotonicFence) ∧
      ∃ expiry, current.leaseExpiresAt = some expiry ∧ expiry ≤ current.hardDeadline ∧
        current.hardDeadline ≤ g.scan.resultAccessExpiresAt := by
  rw [(Tables.aggregate?_eq_some.mp hg).2.1]
  constructor
  · intro hrunning
    obtain ⟨current, earlier, hattempts, hactive, hcurrent, hfence, -⟩ :=
      loadAttempt_running hinv hg hrunning
    have hmem : current ∈ g.attempts := by simp [hattempts]
    have hcheck := Tables.attempt_check_of_aggregate? hg hmem
    obtain ⟨expiry, hexpiry⟩ := lease_of_active hcheck hactive
    refine ⟨current, hmem, hactive, ?_, hcurrent, hfence, ?_, expiry, hexpiry,
      (hcheck.time.lease expiry hexpiry).2, hinv.deadline current hmem⟩
    · intro other hother hopen
      rw [hattempts] at hother
      rcases List.mem_cons.mp hother with rfl | hearlier
      · rfl
      · have hclosed := hinv.earlier other (by rw [hattempts]; exact hearlier)
        rw [(not_active_of_closed hclosed).1] at hopen
        cases hopen
    · intro other hother
      rw [← hfence, hinv.fence]
      exact hinv.numbered.fence_le other hother
  · intro h
    obtain ⟨current, hmem, hactive, -⟩ := h
    by_contra hrunning
    by_cases hqueued : g.scan.jobState = .queued
    · rw [(hinv.queued_attempts hqueued).1] at hmem
      cases hmem
    · have hclosed := hinv.closed_of_terminal
        (JobState.terminal_of_not_active hqueued hrunning) current hmem
      simp only [AttemptState.active, Bool.or_eq_true, beq_iff_eq] at hactive
      rcases hactive with hleased | hopen
      · exact hclosed.1 hleased
      · exact hclosed.2.1 hopen

theorem wellShaped_succeeded (hinv : Inv g) (hg : t.aggregate? g.scan.id = some g) :
    g.scan.jobState = .succeeded ↔ ∃ result,
      t.guestResults.find? g.scan.id = some result ∧
      g.scan.acceptedAttemptId = some result.acceptedAttemptId ∧
      g.scan.acceptedFence = some result.acceptedFence ∧
      g.scan.acceptedPayloadDigest = some result.payloadDigest ∧
      g.scan.currentAttemptId = some result.acceptedAttemptId ∧
      g.scan.currentFence = result.acceptedFence ∧
      ∃ attempt ∈ t.attemptsOf g.scan.id, attempt.id = result.acceptedAttemptId ∧
        attempt.monotonicFence = result.acceptedFence ∧ attempt.attemptState = .succeeded := by
  obtain ⟨-, hattemptsOf, hresult, -⟩ := Tables.aggregate?_eq_some.mp hg
  rw [hattemptsOf, hresult]
  constructor
  · intro hjob
    cases hinv.phase with
    | queued job =>
      rw [job] at hjob
      cases hjob
    | running _ _ job =>
      rw [job] at hjob
      cases hjob
    | ended job =>
      rw [hjob] at job
      simp at job
    | succeeded current earlier row job attempts state result accepted fence digest isCurrent =>
      have hcurrent := hinv.current
      have hfence := hinv.fence
      have hnumbered := hinv.numbered
      rw [attempts] at hcurrent hfence hnumbered
      refine ⟨row, result, accepted, fence, digest, ?_, ?_, current, by simp [attempts],
        isCurrent.1.symm, isCurrent.2.symm, state⟩
      · rw [hcurrent, isCurrent.1]
        rfl
      · rw [hfence, isCurrent.2, hnumbered.2.1]
        rfl
  · intro h
    obtain ⟨row, hrow, -⟩ := h
    cases hinv.phase with
    | queued _ _ result =>
      rw [result] at hrow
      cases hrow
    | running _ _ _ _ _ _ result =>
      rw [result] at hrow
      cases hrow
    | ended _ _ result =>
      rw [result] at hrow
      cases hrow
    | succeeded _ _ _ job => exact job

theorem Lifecycle.Inv.wellShaped (hinv : Inv g) (hg : t.aggregate? g.scan.id = some g) :
    WellShaped t g.scan := by
  have hattempts := (Tables.aggregate?_eq_some.mp hg).2.1
  refine ⟨wellShaped_numbered hinv hattempts, wellShaped_queued hinv hattempts,
    wellShaped_running hinv hg, ?_, wellShaped_succeeded hinv hg⟩
  rw [hattempts]
  exact hinv.closed_of_terminal

end Shape

/-- In every reachable state every stored scan is well shaped, and neither
acquire (with the terminations it performs) nor cancel raises `ATTEMPT_STATE`. -/
theorem reachable_wellShaped {node : NodeRuntime} {db : Database} (h : Reachable node db) :
    (∀ scan ∈ db.val.guestScans.rows, WellShaped db.val scan) ∧
      ∀ (guestScanId : String) (createAttemptId : Option String) (now : Nat),
        (acquireBody guestScanId createAttemptId now).run db.val ≠
            .error (.thrown .attemptState) ∧
          (cancelBody guestScanId now).run db.val ≠ .error (.thrown .attemptState) := by
  constructor
  · intro scan hscan
    cases hg : db.val.aggregate? scan.id with
    | none => exact absurd rfl (Table.find?_eq_none.mp (Tables.aggregate?_eq_none.mp hg) scan hscan)
    | some g =>
      have hid : g.scan.id = scan.id := Tables.scan_id_of_aggregate? hg
      have hfind := (Tables.aggregate?_eq_some.mp hg).1
      have hsame : scan = g.scan :=
        db.val.guestScans.eq_of_key_eq hscan (Table.find?_mem hfind) hid.symm
      rw [hsame]
      exact (h.sound _ g hg).wellShaped (by rw [hid]; exact hg)
  · intro guestScanId createAttemptId now
    exact ⟨acquireBody_avoids h.sound guestScanId createAttemptId,
      cancelBody_avoids h.sound guestScanId⟩

theorem reachable_wellShaped_sample :
    sampleDatabase.val.guestScans.rows.map (fun scan => (scan.id, scan.jobState)) =
        [("scan-1", .running)] ∧
      (∀ scan ∈ sampleDatabase.val.guestScans.rows, WellShaped sampleDatabase.val scan) ∧
      ∀ (guestScanId : String) (createAttemptId : Option String) (now : Nat),
        (acquireBody guestScanId createAttemptId now).run sampleDatabase.val ≠
            .error (.thrown .attemptState) ∧
          (cancelBody guestScanId now).run sampleDatabase.val ≠
            .error (.thrown .attemptState) :=
  ⟨by decide +kernel, reachable_wellShaped sampleDatabase_reachable⟩

end Outscan

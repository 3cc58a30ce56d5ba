import Outscan.Lifecycle.Closing
import Outscan.Lifecycle.Calls

/-! Bounded retries: however its workers fail, a scan is ended by the fourth
`acquire` that finds no lease standing. -/
namespace Outscan

open Relational Transactional Lifecycle

/-! ### A new lease -/

/-- The row `createAttempt` inserts. -/
def createdAttempt (scan : GuestScan) (attemptId : String) (attemptNo fence now : Nat) :
    GuestScanAttempt :=
  { id := attemptId, guestScanId := scan.id, attemptNo, monotonicFence := fence,
    leaseVersion := 0, leaseExpiresAt := none,
    hardDeadline := min (now + guestAttemptHardDeadlineSeconds) scan.resultAccessExpiresAt,
    attemptState := .created, createdAt := now, updatedAt := now, startedAt := none,
    finishedAt := none }

theorem Lifecycle.Numbered.attemptNo_le {attempts : List GuestScanAttempt} (h : Numbered attempts) :
    ∀ attempt ∈ attempts, attempt.attemptNo ≤ attempts.length := by
  induction attempts with
  | nil => simp
  | cons newest earlier ih =>
    obtain ⟨hno, -, hrest⟩ := h
    intro attempt hattempt
    rcases List.mem_cons.mp hattempt with rfl | hattempt
    · rw [hno, List.length_cons]
    · have hle := ih hrest attempt hattempt
      rw [List.length_cons]
      omega

section NewLease

variable {t : Tables} {id : String} {g : Aggregate} {attemptId : String} {now : Nat}

theorem createdAttempt_check {scan : GuestScan} {attemptNo : Nat} (hcheck : scan.Constraints)
    (haccess : now < scan.resultAccessExpiresAt) (hid : validId attemptId = true)
    (hpos : 0 < attemptNo) (hfew : attemptNo ≤ guestMaxAttempts) :
    (createdAttempt scan attemptId attemptNo attemptNo now).Constraints := by
  have htime := hcheck.time
  have hrange := hcheck.range
  have haccess' := htime.access
  have hidempotency := htime.idempotency
  have hdeletion := htime.deletion
  have hsafe : guestMaxAttempts ≤ 2147483647 ∧ guestMaxAttempts ≤ maxSafeInteger := by decide
  have hhard : now < min (now + guestAttemptHardDeadlineSeconds) scan.resultAccessExpiresAt :=
    lt_min (Nat.lt_add_of_pos_right (by decide)) haccess
  have hlast : min (now + guestAttemptHardDeadlineSeconds) scan.resultAccessExpiresAt ≤
      scan.resultAccessExpiresAt := min_le_right _ _
  refine ⟨hid, ⟨hpos, hfew.trans hsafe.1⟩, ⟨hpos, hfew.trans hsafe.2⟩, Nat.zero_le _, ⟨hhard, le_rfl, ?_, ?_, ?_⟩,
    ⟨?_, ?_⟩, ⟨rfl, rfl⟩, rfl, rfl, ?_⟩
  · intro time h
    cases h
  · intro time h
    cases h
  · intro time h
    cases h
  · exact hlast.trans_lt (by omega)
  · change now < timestampEnd
    omega
  · intro h
    cases h

theorem leaseAttempt_allowed {scan : GuestScan} {attemptNo : Nat}
    (hcheck : (createdAttempt scan attemptId attemptNo attemptNo now).Constraints) :
    let leaseExpiry := min (now + guestAttemptLeaseSeconds)
      (min (now + guestAttemptHardDeadlineSeconds) scan.resultAccessExpiresAt)
    guardGuestAttemptUpdate (createdAttempt scan attemptId attemptNo attemptNo now)
        ((leaseAttempt leaseExpiry).apply
          (createdAttempt scan attemptId attemptNo attemptNo now)) ∧
      ((leaseAttempt leaseExpiry).apply
        (createdAttempt scan attemptId attemptNo attemptNo now)).Constraints := by
  intro leaseExpiry
  have htime := hcheck.time
  have hhard : now < min (now + guestAttemptHardDeadlineSeconds) scan.resultAccessExpiresAt :=
    htime.hard
  have hone : 1 ≤ maxSafeInteger := by decide
  have hlease : now < leaseExpiry := lt_min (Nat.lt_add_of_pos_right (by decide)) hhard
  refine ⟨⟨⟨rfl, rfl, rfl, rfl, rfl, rfl⟩, le_rfl, Nat.zero_le _, fun _ => Nat.one_pos,
    fun _ => rfl, fun _ => rfl, rfl⟩, ?_⟩
  refine ⟨hcheck.id_valid, hcheck.number, hcheck.fence, hone,
    ⟨hhard, le_rfl, ?_, htime.started, htime.finished⟩, hcheck.range, ⟨Nat.one_pos, ?_⟩, rfl, rfl, ?_⟩
  · intro time h
    cases h
    exact ⟨hlease, min_le_right _ _⟩
  · intro h
    cases h
  · intro h
    cases h

theorem insertGuestScanAttempt_of {row : GuestScanAttempt} (hg : t.aggregate? id = some g)
    (hguard : guardGuestAttemptInsert row) (hcheck : row.Constraints) (hid : row.guestScanId = id)
    (hapart : ∀ other ∈ t.guestScanAttempts.rows, GuestScanAttempt.Apart other row) :
    ∃ t', (insertGuestScanAttempt row).run t = .ok ((), t') ∧
      Focus id t t' g { g with attempts := row :: g.attempts } := by
  obtain ⟨next, hrows⟩ := Table.exists_inserted hcheck hapart
  have hfind := (Tables.aggregate?_eq_some.mp hg).1
  have howner : ∃ scan ∈ t.guestScans.rows, scan.id = row.guestScanId :=
    ⟨g.scan, Table.find?_mem hfind, (Table.find?_key hfind).trans hid.symm⟩
  have hrun : (insertGuestScanAttempt row).run t = .ok ((), attemptsTable.put next t) := by
    unfold insertGuestScanAttempt
    have hinsert : (Tx.insert attemptsTable TxError.database row).run t =
        .ok ((), attemptsTable.put next t) :=
      Tx.run_insert_ok.mpr ⟨hcheck, hapart, next, hrows, rfl⟩
    rw [Tx.run_bind_of_ok (Tx.run_ensure_of hguard _), Tx.run_bind_of_ok hinsert, Tx.run_bind_get]
    exact Tx.run_ensure_of howner _
  exact ⟨_, hrun, (insertGuestScanAttempt_focus hrun hid hg).2.2⟩

theorem createdAttempt_apart (hg : t.aggregate? id = some g) (hchain : Chain g)
    (hfresh : ∀ row ∈ t.guestScanAttempts.rows, row.id ≠ attemptId) :
    ∀ other ∈ t.guestScanAttempts.rows, GuestScanAttempt.Apart other
      (createdAttempt g.scan attemptId (g.attempts.length + 1) (g.attempts.length + 1) now) := by
  intro other hother
  have hnew : other.guestScanId = g.scan.id → other.attemptNo ≤ g.attempts.length ∧
      other.monotonicFence ≤ g.attempts.length := by
    intro howner
    have hmem : other ∈ g.attempts := (Tables.mem_attempts_of_aggregate? hg).mpr
      ⟨hother, howner.trans (Tables.scan_id_of_aggregate? hg)⟩
    exact ⟨hchain.numbered.attemptNo_le other hmem, hchain.numbered.fence_le other hmem⟩
  refine ⟨hfresh other hother, fun hsame => ?_, fun hsame => ?_⟩
  · have hle := (hnew hsame.1).1
    have heq : other.attemptNo = g.attempts.length + 1 := hsame.2
    omega
  · have hle := (hnew hsame.1).2
    have heq : other.monotonicFence = g.attempts.length + 1 := hsame.2
    omega

theorem runJob_allowed (hcheck : g.scan.Constraints) (hchain : Chain g)
    (hactive : g.scan.jobState.active = true) (hupdated : g.scan.updatedAt ≤ now)
    (haccess : now < g.scan.resultAccessExpiresAt) (hfew : g.attempts.length < guestMaxAttempts)
    (hfresh : ∀ row ∈ g.attempts, row.id ≠ attemptId) :
    guardGuestScanUpdate g.scan ((runJob attemptId (g.attempts.length + 1) now).apply g.scan) ∧
      ((runJob attemptId (g.attempts.length + 1) now).apply g.scan).Constraints := by
  have htime := hcheck.time
  have hdeadline : now ≤ g.scan.deletionDeadline := by
    have hwindow := htime.idempotency
    have haccess' := htime.access
    have hdeletion := htime.deletion
    omega
  have hopen : g.scan.jobState ≠ .succeeded := by
    intro hsucceeded
    rw [hsucceeded] at hactive
    cases hactive
  have haccepted := hcheck.accepted_shape
  rw [GuestScan.AcceptedShape, if_neg hopen] at haccepted
  have hsafe : guestMaxAttempts ≤ maxSafeInteger := by decide
  refine ⟨⟨?_, hupdated, fun _ => rfl, ?_, fun _ => ⟨rfl, rfl, rfl⟩, ?_⟩, ?_⟩
  · exact ⟨rfl, rfl, rfl, rfl, rfl, rfl, rfl, rfl, rfl, rfl, rfl, rfl, rfl, rfl, rfl, rfl⟩
  · unfold fenceKept
    rw [hchain.current, hchain.fence]
    cases hattempts : g.attempts with
    | nil => trivial
    | cons current earlier =>
      have hne := hfresh current (by simp [hattempts])
      refine ⟨Nat.le_succ _, fun h => absurd h.symm hne, fun _ => Nat.lt_succ_self _⟩
  · rcases JobState.active_iff.mp hactive with hstate | hstate <;> rw [hstate] <;> rfl
  · refine ⟨hcheck.id_valid, hcheck.target_length, hcheck.target_lower, hcheck.target_dot,
      hcheck.operation, hcheck.key_valid, hcheck.profile, hcheck.token_version, hcheck.key_version,
      ?_, hcheck.accepted_fence,
      ⟨htime.created_le.trans hupdated, hdeadline, htime.idempotency, htime.access, htime.deletion,
        fun time h => ⟨(htime.revoked time h).1, (htime.revoked time h).2.trans hupdated⟩⟩,
      hcheck.range, .inr ⟨(fun h => by cases h), Nat.succ_pos _⟩, (fun h => by cases h),
      (fun _ h => by cases h), ?_⟩
    · exact (Nat.succ_le_of_lt hfew).trans hsafe
    · change (if JobState.running = .succeeded then _ else _)
      rw [if_neg (by decide)]
      exact haccepted

theorem createAttempt_of (hg : t.aggregate? g.scan.id = some g) (hchain : Chain g)
    (hactive : g.scan.jobState.active = true) (hupdated : g.scan.updatedAt ≤ now)
    (haccess : now < g.scan.resultAccessExpiresAt) (hfew : g.attempts.length < guestMaxAttempts)
    (hid : validId attemptId = true)
    (hfresh : ∀ row ∈ t.guestScanAttempts.rows, row.id ≠ attemptId) :
    ∃ lease t', (createAttempt g.scan attemptId (g.attempts.length + 1) (g.attempts.length + 1)
      now).run t = .ok (lease, t') := by
  have hrow := createdAttempt_check (Tables.scan_check_of_aggregate? hg) haccess hid
    (Nat.succ_pos g.attempts.length) hfew
  have hmine : ∀ row ∈ g.attempts, row.id ≠ attemptId := fun row h =>
    hfresh row ((Tables.mem_attempts_of_aggregate? hg).mp h).1
  obtain ⟨inserted, hinsert, finserted⟩ := insertGuestScanAttempt_of hg
    ⟨rfl, rfl, rfl, rfl, rfl, rfl⟩ hrow rfl (createdAttempt_apart hg hchain hfresh)
  obtain ⟨leased, hlease, fleased⟩ := updateNewestAttempt_of .leaseCas
    (fun row => row.attemptState = .created ∧ row.leaseVersion = 0) _ finserted.after rfl
    ⟨rfl, rfl⟩ (leaseAttempt_allowed hrow)
  have hallowed := runJob_allowed (Tables.scan_check_of_aggregate? hg) hchain hactive hupdated
    haccess hfew hmine
  obtain ⟨final, hjob, -⟩ := updateGuestScan_of .jobCas
    (fun row => row.jobState.active = true) _ fleased.after hactive hallowed
  have hhard := hrow.time.hard
  refine ⟨leaseOf g.scan (newLease g.scan attemptId (g.attempts.length + 1)
    (g.attempts.length + 1) now), final, ?_⟩
  unfold createAttempt
  refine Tx.run_bind_ok.mpr ⟨(), t, Tx.run_ensure_of ?_ _, ?_⟩
  · exact ⟨lt_min (Nat.lt_add_of_pos_right (by decide)) hhard, hhard⟩
  · refine Tx.run_bind_ok.mpr ⟨_, _, hinsert, Tx.run_bind_ok.mpr ⟨_, _, hlease, ?_⟩⟩
    exact Tx.run_bind_ok.mpr ⟨_, _, hjob, rfl⟩

end NewLease

/-! ### acquire -/

/-- An `acquire` of the scan that is due: within the life of its rows, not before any
change of them, and with no lease standing; the id for a new attempt is a new one. -/
structure AcquireDue (t : Tables) (g : Aggregate) (attemptId : String) (now : Nat) : Prop where
  scan : g.scan.updatedAt ≤ now
  attempts : ∀ attempt ∈ g.attempts, attempt.updatedAt ≤ now
  deadline : now < g.scan.deletionDeadline
  lapsed : ∀ attempt ∈ g.attempts.head?, ∀ expiry ∈ attempt.leaseExpiresAt,
    expiry ≤ now ∨ attempt.hardDeadline ≤ now
  id_valid : validId attemptId = true
  fresh : ∀ row ∈ t.guestScanAttempts.rows, row.id ≠ attemptId

instance (t : Tables) (g : Aggregate) (attemptId : String) (now : Nat) :
    Decidable (AcquireDue t g attemptId now) :=
  decidable_of_iff
    (g.scan.updatedAt ≤ now ∧ (∀ attempt ∈ g.attempts, attempt.updatedAt ≤ now) ∧
      now < g.scan.deletionDeadline ∧
      (∀ attempt ∈ g.attempts.head?, ∀ expiry ∈ attempt.leaseExpiresAt,
        expiry ≤ now ∨ attempt.hardDeadline ≤ now) ∧
      validId attemptId = true ∧ ∀ row ∈ t.guestScanAttempts.rows, row.id ≠ attemptId)
    ⟨fun ⟨a, b, c, d, e, f⟩ => ⟨a, b, c, d, e, f⟩, fun ⟨a, b, c, d, e, f⟩ => ⟨a, b, c, d, e, f⟩⟩

section Progress

variable {t : Tables} {id : String} {g : Aggregate} {attemptId : String} {now : Nat}

theorem AcquireDue.closable (h : AcquireDue t g attemptId now) (hactive : g.scan.jobState.active = true) :
    Closable g now :=
  ⟨hactive, h.scan, h.attempts, h.deadline.le⟩

theorem leaseNew_of (hg : t.aggregate? g.scan.id = some g) (hchain : Chain g)
    (hactive : g.scan.jobState.active = true) (hupdated : g.scan.updatedAt ≤ now)
    (haccess : now < g.scan.resultAccessExpiresAt) (hfew : g.attempts.length < guestMaxAttempts)
    (hid : validId attemptId = true)
    (hfresh : ∀ row ∈ t.guestScanAttempts.rows, row.id ≠ attemptId) :
    ∃ lease t', (leaseNew g.scan (some attemptId) (g.attempts.length + 1) (g.attempts.length + 1)
      now).run t = .ok (.leaseAcquired lease, t') := by
  obtain ⟨lease, t', hcreate⟩ := createAttempt_of hg hchain hactive hupdated haccess hfew hid hfresh
  refine ⟨lease, t', ?_⟩
  unfold leaseNew
  simp only [hid, Bool.not_true, Bool.false_eq_true, if_false]
  exact Tx.run_bind_ok.mpr ⟨lease, t', hcreate, rfl⟩

theorem heldAttempt_of (hg : t.aggregate? g.scan.id = some g) (hinv : Inv g)
    {current : GuestScanAttempt} {earlier : List GuestScanAttempt}
    (hattempts : g.attempts = current :: earlier) (hopen : current.attemptState.active = true) :
    ∃ expiry, current.leaseExpiresAt = some expiry ∧
      (heldAttempt g.scan).run t = .ok ((current, expiry), t) := by
  have hmem : current ∈ g.attempts := by simp [hattempts]
  have hcheck := Tables.attempt_check_of_aggregate? hg hmem
  obtain ⟨expiry, hexpiry⟩ := Option.ne_none_iff_exists'.mp (open_shape hcheck hopen).1.2
  have hload : t.loadAttempt g.scan.id current.id = some current :=
    (Tables.loadAttempt_eq_some hg).mpr ⟨hmem, rfl⟩
  refine ⟨expiry, hexpiry, ?_⟩
  unfold heldAttempt
  rw [Tx.run_bind_get, hinv.current, hattempts]
  simp only [List.head?_cons, Option.map_some, Option.bind_some, hload, hexpiry,
    validAttempt_of_constraints hcheck, hopen, hinv.currentFence_eq hattempts, Bool.not_true,
    bne_self_eq_false, Bool.or_self, Bool.false_eq_true, if_false]
  rfl

theorem terminateJob_of_closed {current : GuestScanAttempt} {earlier : List GuestScanAttempt}
    (hg : t.aggregate? g.scan.id = some { g with attempts := current :: earlier })
    (hcounted : Counted t) (h : Closable g now)
    (hrunning : g.scan.jobState = .running)
    (hcurrent : g.scan.currentAttemptId = some current.id)
    (hclosed : alreadyClosed current.attemptState = true)
    {row : Reservation} (hrow : g.reservation = some row) (hnone : row.released = none)
    (hreserved : row.reservedAt ≤ now) (hdeadline : now ≤ row.deletionDeadline) :
    ∃ t', (terminateJob g.scan now .failed).run t = .ok (.jobTerminated .failed, t') := by
  have hmem : current ∈ current :: earlier := List.mem_cons_self
  have hcheck := Tables.attempt_check_of_aggregate? hg hmem
  have hload : t.loadAttempt g.scan.id current.id = some current :=
    (Tables.loadAttempt_eq_some hg).mpr ⟨hmem, rfl⟩
  have hinactive : current.attemptState.active = false := by
    cases hstate : current.attemptState <;> rw [hstate] at hclosed <;> first | rfl | cases hclosed
  have hskip : (terminateAttempt g.scan now).run t = .ok ((), t) := by
    unfold terminateAttempt
    simp only [hcurrent, hrunning, ne_eq, not_true, if_false]
    rw [Tx.run_bind_get]
    simp only [hload, validAttempt_of_constraints hcheck, hinactive, Bool.not_true,
      Bool.false_eq_true, if_false]
    exact Tx.run_ensure_of hclosed _
  obtain ⟨ended, t', hupdate, hrelease⟩ := h.endJob_of hcounted hg (.inr (.inr ⟨rfl, hrunning⟩))
    hrow hnone hreserved hdeadline .jobTerminalCas .failed
  refine ⟨t', ?_⟩
  unfold terminateJob
  rw [Tx.run_bind_of_ok hskip]
  exact Tx.run_bind_ok.mpr ⟨_, _, hupdate, Tx.run_bind_ok.mpr ⟨_, _, hrelease, rfl⟩⟩


theorem acquireBody_of_active (hg : t.aggregate? g.scan.id = some g) (hinv : Inv g)
    (hactive : g.scan.jobState.active = true) (haccess : now < g.scan.resultAccessExpiresAt)
    (createAttemptId : Option String) :
    (acquireBody g.scan.id createAttemptId now).run t =
      (if g.scan.jobState = .running then acquireRunning g.scan createAttemptId now
        else leaseNew g.scan createAttemptId 1 1 now).run t := by
  unfold acquireBody
  rw [Tx.run_bind_get]
  simp only [(Tables.aggregate?_eq_some.mp hg).1, validScan_of_inv hg hinv, hactive, Bool.not_true,
    Bool.or_self, Bool.false_eq_true, if_false]
  rw [if_neg (by omega)]

theorem acquireBody_of_due (hg : t.aggregate? g.scan.id = some g) (hinv : Inv g)
    (hcounted : Counted t) (h : AcquireDue t g attemptId now)
    (hactive : g.scan.jobState.active = true) (haccess : now < g.scan.resultAccessExpiresAt)
    {row : Reservation} (hrow : g.reservation = some row) (hnone : row.released = none)
    (hreserved : row.reservedAt ≤ now) (hdeadline : now ≤ row.deletionDeadline) :
    ∃ answer t', (acquireBody g.scan.id (some attemptId) now).run t = .ok (answer, t') ∧
      ((∃ lease, answer = .leaseAcquired lease) ∨
        guestMaxAttempts ≤ g.attempts.length ∧ answer = .jobTerminated .failed) := by
  rw [acquireBody_of_active hg hinv hactive haccess]
  rcases JobState.active_iff.mp hactive with hqueued | hrunning
  · have hnil := (hinv.queued_attempts hqueued).1
    have hfew : g.attempts.length < guestMaxAttempts := by rw [hnil]; decide
    obtain ⟨lease, t', hlease⟩ := leaseNew_of hg hinv.toChain hactive h.scan haccess hfew
      h.id_valid h.fresh
    rw [if_neg (by rw [hqueued]; decide)]
    rw [hnil] at hlease
    exact ⟨_, t', hlease, .inl ⟨lease, rfl⟩⟩
  · obtain ⟨current, earlier, hattempts, hopen, -⟩ := hinv.running_of_attempts hrunning
    obtain ⟨expiry, hexpiry, hheld⟩ := heldAttempt_of hg hinv hattempts hopen
    have hcurrent : g.scan.currentAttemptId = some current.id := by
      rw [hinv.current, hattempts]
      rfl
    have hlapsed := h.lapsed current (by rw [hattempts]; rfl) expiry hexpiry
    have hcloses := closesTo_retiredState hopen now
    obtain ⟨t₁, hretire, hfocus⟩ := (h.closable hactive).closeAttempt_of hg .attemptCas
      (fun row => row.attemptState.active = true) hattempts hopen hcloses
    have hnumbered := hinv.numbered
    rw [hattempts] at hnumbered
    rw [if_pos hrunning]
    unfold acquireRunning
    rw [Tx.run_bind_of_ok hheld]
    dsimp only
    rw [if_neg (by omega), Tx.run_bind_of_ok hretire, hattempts, List.length_cons, hnumbered.1,
      hnumbered.2.1]
    by_cases hfew : earlier.length + 1 < guestMaxAttempts
    · have hchain : Chain { g with attempts :=
          (closeAttempt (retiredState current now) now).apply current :: earlier } :=
        hinv.toChain.replace hattempts rfl ⟨rfl, rfl, rfl, rfl⟩ ⟨rfl, rfl, rfl⟩
      have hfresh : ∀ row ∈ t₁.guestScanAttempts.rows, row.id ≠ attemptId := by
        obtain ⟨_, -, -, -, -, -, next, hrows, rfl⟩ := Tx.run_updateOne_ok.mp hretire
        intro row hmem
        change row ∈ next.rows at hmem
        rw [hrows, Table.edited, List.mem_map] at hmem
        obtain ⟨old, hold, rfl⟩ := hmem
        split
        · exact h.fresh old hold
        · exact h.fresh old hold
      obtain ⟨lease, t', hlease⟩ := leaseNew_of hfocus.after hchain hactive h.scan haccess hfew
        h.id_valid hfresh
      rw [if_neg (by omega)]
      exact ⟨_, t', hlease, .inl ⟨lease, rfl⟩⟩
    · obtain ⟨t', hterminate⟩ := terminateJob_of_closed hfocus.after
        (quiet_counted.updateGuestScanAttempt _ _ _ hretire hcounted)
        (h.closable hactive) hrunning hcurrent (by
          rcases hcloses with ⟨-, hstate⟩ | ⟨-, hstate | hstate⟩ <;>
            simp [closeAttempt, attemptEdit, hstate, alreadyClosed])
        hrow hnone hreserved hdeadline
      rw [if_pos (by omega)]
      exact ⟨_, t', hterminate, .inr ⟨by omega, rfl⟩⟩

end Progress

/-! ### One retry -/

/-- What a due `acquire` makes of an open scan. -/
inductive Retried (now : Nat) (g g' : Aggregate) : AcquireGuestLeaseResult → Prop
  | leased (lease : GuestAttemptLease) (job : g'.scan.jobState = .running)
      (more : g'.attempts.length = g.attempts.length + 1) : Retried now g g' (.leaseAcquired lease)
  | failed (job : g'.scan.jobState = .failed) (tried : g'.attempts.length = guestMaxAttempts) :
      Retried now g g' (.jobTerminated .failed)
  | expired (job : g'.scan.jobState = .expired) (access : g'.scan.resultAccessExpiresAt ≤ now) :
      Retried now g g' (.jobTerminated .expired)

theorem Lifecycle.Step.lease_length {g g' : Aggregate} {lease : GuestAttemptLease}
    (h : Step g (.lease lease) g') :
    g'.scan.jobState = .running ∧ g'.attempts.length = g.attempts.length + 1 := by
  cases h with
  | leaseFirst attemptId now queued access => exact ⟨rfl, rfl⟩
  | leaseNext current earlier attemptId now running attempts =>
    rw [attempts]
    exact ⟨rfl, rfl⟩

theorem Lifecycle.Step.finish_kept {g g' : Aggregate} {job : JobState} (h : Step g (.finish job) g') :
    g'.scan.jobState = job ∧ g'.attempts.length = g.attempts.length ∧
      g'.scan.resultAccessExpiresAt = g.scan.resultAccessExpiresAt := by
  cases h with
  | finishQueued => exact ⟨rfl, rfl, rfl⟩
  | finishRunning current earlier job state now reason reservation running attempts =>
    rw [attempts]
    exact ⟨rfl, rfl, rfl⟩

section Calls

variable {db : Database} {id : String} {g : Aggregate} {attemptId : String} {now : Nat}

/-- Every due `acquire` makes progress. -/
theorem acquire_due (hsound : Sound db.val) (hcounted : Counted db.val)
    (hg : db.val.aggregate? id = some g) (h : AcquireDue db.val g attemptId now)
    (hactive : g.scan.jobState.active = true) :
    ∃ g', (acquire id (some attemptId) (some (now : Int)) db).2.val.aggregate? id = some g' ∧
      Retried now g g' (acquire id (some attemptId) (some (now : Int)) db).1 := by
  have hinv := hsound id g hg
  have hid := Tables.scan_id_of_aggregate? hg
  subst hid
  have hclosable := h.closable hactive
  obtain ⟨row, hrow, hnone, hreserved, hdeadline⟩ := hclosable.reservation hinv hg
  by_cases hexpired : g.scan.resultAccessExpiresAt ≤ now
  · obtain ⟨t', hrun⟩ := acquireBody_of_expired hsound hcounted hg hclosable hexpired
      (some attemptId)
    obtain ⟨hfirst, hsecond, houtcome⟩ := acquire_of_run hsound hg (hclosable.now_lt hg) hrun
    rw [hfirst, hsecond]
    cases houtcome with
    | event g' focus step =>
      obtain ⟨hjob, -, haccess⟩ := step.finish_kept
      exact ⟨g', focus.after, .expired hjob (haccess.trans_le hexpired)⟩
  · obtain ⟨answer, t', hrun, hanswer⟩ := acquireBody_of_due hg hinv hcounted h hactive
      (by omega) hrow hnone hreserved hdeadline
    obtain ⟨hfirst, hsecond, houtcome⟩ := acquire_of_run hsound hg (hclosable.now_lt hg) hrun
    rw [hfirst, hsecond]
    rcases hanswer with ⟨lease, rfl⟩ | ⟨htried, rfl⟩
    · cases houtcome with
      | event g' focus step =>
        obtain ⟨hjob, hmore⟩ := step.lease_length
        exact ⟨g', focus.after, .leased lease hjob hmore⟩
    · cases houtcome with
      | event g' focus step =>
        obtain ⟨hjob, hsame, -⟩ := step.finish_kept
        exact ⟨g', focus.after, .failed hjob (hsame.trans (hinv.few.antisymm htried))⟩

end Calls

/-! ### Between the retries -/

def Lifecycle.Event.Unfinished : Event → Prop
  | .start _ => True
  | .renew _ _ _ => True
  | _ => False

/-- A call that leases nothing, ends nothing and removes nothing under `id`: anything about
other scans, what a worker does before it fails, every call that is refused. -/
def Idle (node : NodeRuntime) (id : String) (db : Database) (call : Call) : Prop :=
  ¬ Deletes node db call id ∧
    (call.scan? = some id → ∀ event ∈ call.event (exec node db call).1, event.Unfinished)

theorem idle_start (node : NodeRuntime) (id : String) (db : Database) (command : LeaseCommand)
    (clock : ClockReading) : Idle node id db (.start command clock) := by
  refine ⟨fun h => h, fun _ event hevent => ?_⟩
  change event ∈ (start command clock db).1.event command at hevent
  cases hresult : (start command clock db).1 with
  | started =>
    rw [hresult] at hevent
    cases hevent
    trivial
  | _ =>
    rw [hresult] at hevent
    cases hevent

/-- The scan is in the state `job` after so many attempts. -/
def Tried (id : String) (job : JobState) (attempts : Nat) (db : Database) : Prop :=
  ∃ g, db.val.aggregate? id = some g ∧ g.scan.jobState = job ∧ g.attempts.length = attempts

theorem Tried.step (node : NodeRuntime) {db : Database} {id : String} {job : JobState}
    {attempts : Nat} (hsound : Sound db.val) (h : Tried id job attempts db) {call : Call}
    (hidle : Idle node id db call) : Tried id job attempts (exec node db call).2 := by
  obtain ⟨g, hg, hjob, hattempts⟩ := h
  cases exec_change node hsound call id with
  | kept same quiet => exact ⟨g, same.trans hg, hjob, hattempts⟩
  | created g' before after sound =>
    rw [hg] at before
    cases before
  | deleted deletes after => exact absurd deletes hidle.1
  | event event g₀ g' scan answer before after step =>
    rw [hg] at before
    cases before
    have hunfinished := hidle.2 scan event (Option.mem_def.mpr answer)
    cases step with
    | start current earlier command now hcurrent =>
      rw [hcurrent] at hattempts
      exact ⟨_, after, hjob, hattempts⟩
    | renew current earlier command now expiry hcurrent =>
      rw [hcurrent] at hattempts
      exact ⟨_, after, hjob, hattempts⟩
    | _ => exact hunfinished.elim

/-! ### A sequence of retries -/

/-- One `acquire` of the scan, after other calls. -/
structure Retry where
  between : List Call
  attemptId : String
  now : Nat

namespace Retry

variable (node : NodeRuntime) (id : String)

/-- The state in which the `acquire` is made. -/
def before (db : Database) (retry : Retry) : Database := Machine.run (exec node) db retry.between

def step (db : Database) (retry : Retry) : AcquireGuestLeaseResult × Database :=
  acquire id (some retry.attemptId) (some (retry.now : Int)) (retry.before node db)

/-- While the scan is open, only idle calls come between, and the `acquire` is due. -/
def Due (db : Database) (retry : Retry) : Prop :=
  ∀ g, db.val.aggregate? id = some g → g.scan.jobState.active = true →
    Machine.Along (exec node) (Idle node id) db retry.between ∧
      ∀ g', (retry.before node db).val.aggregate? id = some g' →
        AcquireDue (retry.before node db).val g' retry.attemptId retry.now

theorem due_of {node : NodeRuntime} {id : String} {db : Database} {retry : Retry}
    (hidle : Machine.Along (exec node) (Idle node id) db retry.between)
    (h : ∀ g ∈ (retry.before node db).val.aggregate? id,
      AcquireDue (retry.before node db).val g retry.attemptId retry.now) :
    retry.Due node id db :=
  fun _ _ _ => ⟨hidle, h⟩

end Retry

/-- The scan has been ended by `acquire`, and nothing of it is left open. -/
structure EndedBy (terminal : TerminalState) (now : Nat) (g : Aggregate) : Prop where
  job : g.scan.jobState = terminal.jobState
  failed : terminal = .failed → g.attempts.length = guestMaxAttempts
  expired : terminal = .expired → g.scan.resultAccessExpiresAt ≤ now
  attempts : ∀ attempt ∈ g.attempts, attempt.attemptState.terminal = true
  returned : Returned g

theorem AttemptState.terminal_of_closed {state : AttemptState}
    (h : state ≠ .leased ∧ state ≠ .running ∧ state ≠ .created) : state.terminal = true := by
  cases state with
  | created => exact absurd rfl h.2.2
  | leased => exact absurd rfl h.1
  | running => exact absurd rfl h.2.1
  | _ => rfl

theorem Retried.ended {now : Nat} {g g' : Aggregate} {terminal : TerminalState} (hinv : Inv g')
    (h : Retried now g g' (.jobTerminated terminal)) : EndedBy terminal now g' := by
  have hclosed : g'.scan.jobState.terminal = true →
      ∀ attempt ∈ g'.attempts, attempt.attemptState.terminal = true := fun hterminal attempt hmem =>
    AttemptState.terminal_of_closed (hinv.closed_of_terminal hterminal attempt hmem)
  cases h with
  | failed job tried =>
    refine ⟨job, fun _ => tried, (fun h => by cases h), hclosed ?_, hinv.returned_of_terminal ?_⟩
    · rw [job]
      rfl
    · rw [job]
      rfl
  | expired job access =>
    refine ⟨job, (fun h => by cases h), fun _ => access, hclosed ?_, hinv.returned_of_terminal ?_⟩
    · rw [job]
      rfl
    · rw [job]
      rfl

/-- Of four due retries, less those already made, one ends the scan: as failed after the
third attempt, or as expired. -/
theorem boundedRetries (node : NodeRuntime) {db : Database} (hreach : Reachable node db)
    {id : String} {g : Aggregate} (hg : db.val.aggregate? id = some g)
    (hactive : g.scan.jobState.active = true) {retries : List Retry}
    (hmany : guestMaxAttempts < g.attempts.length + retries.length)
    (hdue : Machine.Along (Retry.step node id) (Retry.Due node id) db retries) :
    ∃ earlier last later terminal g', retries = earlier ++ last :: later ∧
      g.attempts.length + earlier.length ≤ guestMaxAttempts ∧
      (Retry.step node id (Machine.run (Retry.step node id) db earlier) last).1 =
        .jobTerminated terminal ∧
      (Machine.run (Retry.step node id) db (earlier ++ [last])).val.aggregate? id = some g' ∧
      EndedBy terminal last.now g' := by
  induction retries generalizing db g with
  | nil =>
    have hfew := (hreach.sound id g hg).few
    rw [List.length_nil] at hmany
    omega
  | cons retry rest ih =>
    obtain ⟨hidle, hacquire⟩ := hdue.1 g hg hactive
    have hfew := (hreach.sound id g hg).few
    have hbefore : Reachable node (retry.before node db) := hreach.run retry.between
    -- the idle calls keep the scan open and its attempts as many
    obtain ⟨-, g₁, hg₁, hjob₁, hlength₁⟩ := Machine.run_preserves
      (P := fun db => Sound db.val ∧ Tried id g.scan.jobState g.attempts.length db)
      (fun s call hcall hs => ⟨exec_sound node hs.1 call, hs.2.step node hs.1 hcall⟩) hidle
      ⟨hreach.sound, g, hg, rfl, rfl⟩
    obtain ⟨g₂, hg₂, hretried⟩ := acquire_due hbefore.sound hbefore.counted hg₁
      (hacquire g₁ hg₁) (by rw [hjob₁]; exact hactive)
    have hafter : Reachable node (Retry.step node id db retry).2 :=
      hbefore.step (.acquire id (some retry.attemptId) (some (retry.now : Int)))
    generalize hanswer : (acquire id (some retry.attemptId) (some (retry.now : Int))
      (retry.before node db)).1 = answer at hretried
    cases answer with
    | leaseAcquired lease =>
      cases hretried with
      | leased lease job more =>
        rw [hlength₁] at more
        obtain ⟨earlier, last, later, terminal, g', rfl, hcount, hend⟩ := ih hafter hg₂
          (by rw [job]; rfl) (by rw [more]; rw [List.length_cons] at hmany; omega) hdue.2
        exact ⟨retry :: earlier, last, later, terminal, g', rfl,
          by rw [more] at hcount; rw [List.length_cons]; omega, hend⟩
    | jobTerminated terminal =>
      have hinv := hafter.sound id g₂ hg₂
      exact ⟨[], retry, rest, terminal, g₂, rfl, hfew, hanswer, hg₂, hretried.ended hinv⟩
    | _ => cases hretried

/-- A worker starts its second attempt and is not heard of again; the others are not even
started. -/
def sampleRetries : List Retry :=
  [⟨[], "attempt-2", 1016⟩, ⟨[.start ⟨"scan-1", "attempt-2", 2, 1⟩ (some 1017)], "attempt-3", 1031⟩,
    ⟨[], "attempt-4", 1046⟩]

theorem boundedRetries_sample :
    ∃ earlier last later terminal g', sampleRetries = earlier ++ last :: later ∧
      (Machine.run (Retry.step sampleNode "scan-1") sampleDatabase
        (earlier ++ [last])).val.aggregate? "scan-1" = some g' ∧ EndedBy terminal last.now g' := by
  have hstored : (sampleDatabase.val.aggregate? "scan-1").isSome = true := by decide +kernel
  obtain ⟨g, hg⟩ := Option.isSome_iff_exists.mp hstored
  have hopen : ∀ g ∈ sampleDatabase.val.aggregate? "scan-1",
      g.scan.jobState.active = true ∧ g.attempts.length = 1 := by decide +kernel
  obtain ⟨hactive, hlength⟩ := hopen g hg
  have hmany : guestMaxAttempts < g.attempts.length + sampleRetries.length := by
    rw [hlength]
    decide
  have hdue : Machine.Along (Retry.step sampleNode "scan-1") (Retry.Due sampleNode "scan-1")
      sampleDatabase sampleRetries := by
    refine ⟨Retry.due_of trivial ?_, Retry.due_of ⟨idle_start .., trivial⟩ ?_,
      Retry.due_of trivial ?_, trivial⟩
    · decide +kernel
    · decide +kernel
    · decide +kernel
  obtain ⟨earlier, last, later, terminal, g', hsplit, -, -, hend⟩ :=
    boundedRetries sampleNode sampleDatabase_reachable hg hactive hmany hdue
  exact ⟨earlier, last, later, terminal, g', hsplit, hend⟩

end Outscan

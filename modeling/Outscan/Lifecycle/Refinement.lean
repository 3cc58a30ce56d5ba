import Outscan.Lifecycle.Machine

/-! What every call does to the aggregates, as events of the lifecycle. -/
namespace Outscan

open Relational Transactional Lifecycle

/-! ### Release -/

theorem Released.focus {id : String} {now : Nat} {reason : ReleaseReason} {t t' : Tables}
    {g : Aggregate} (h : Released id now reason t t') (hg : t.aggregate? id = some g) :
    ∃ row, g.reservation = some row ∧
      Focus id t t' g { g with reservation := some (row.release now reason) } := by
  obtain ⟨row, hfind, hcases⟩ := h
  have hrow : g.reservation = some row :=
    (Tables.aggregate?_eq_some.mp hg).2.2.2.symm.trans hfind
  refine ⟨row, hrow, ?_⟩
  rcases hcases with ⟨hreleased, rfl⟩ | ⟨hnone, -, -, active, between, reservations, -, -,
    hrows, rfl⟩
  · have hsame : row.release now reason = row := by
      rw [Reservation.release, if_pos hreleased]
    have hsameG : { g with reservation := some (row.release now reason) } = g := by
      rw [hsame, ← hrow]
    rw [hsameG]
    exact Focus.refl hg
  · have hmark : row.release now reason = (markReleased now reason).apply row := by
      rw [Reservation.release, if_neg (by simp [hnone])]
      rfl
    rw [hmark]
    have hfocus := focus_edit_reservation hg hrow hrows
    have hsame : ∀ j, ({ t with activeCounters := active, reservations } : Tables).aggregate? j =
        ({ t with reservations } : Tables).aggregate? j :=
      fun j => Tables.aggregate?_congr rfl rfl rfl rfl j
    exact ⟨hg, (hsame id).trans hfocus.after, fun j hj => (hsame j).trans (hfocus.others j hj)⟩

theorem release_focus {now : Nat} {reason : ReleaseReason} {t t' : Tables} {g : Aggregate}
    {error : Thrown} {value : Unit} {id : String}
    (h : (do
      let released ← releaseGuestAbuseReservation id now reason
      Tx.ensure (released = true) (.thrown error) : Sql Unit).run t = .ok (value, t'))
    (hg : t.aggregate? id = some g) :
    ∃ row, g.reservation = some row ∧
      Focus id t t' g { g with reservation := some (row.release now reason) } := by
  rw [Tx.run_bind_ok] at h
  obtain ⟨released, mid, hrelease, hensure⟩ := h
  obtain ⟨rfl, rfl⟩ := Tx.run_ensure_ok.mp hensure
  rcases releaseGuestAbuseReservation_ok hrelease with ⟨-, hreleased⟩ | ⟨hfalse, -⟩
  · exact hreleased.focus hg
  · cases hfalse

theorem release_of_returned {now : Nat} {reason : ReleaseReason} {t t' : Tables}
    {g : Aggregate} {error : Thrown} {value : Unit} {id : String}
    (h : (do
      let released ← releaseGuestAbuseReservation id now reason
      Tx.ensure (released = true) (.thrown error) : Sql Unit).run t = .ok (value, t'))
    (hg : t.aggregate? id = some g) (hreturned : Returned g) : t' = t := by
  rw [Tx.run_bind_ok] at h
  obtain ⟨released, mid, hrelease, hensure⟩ := h
  obtain ⟨rfl, rfl⟩ := Tx.run_ensure_ok.mp hensure
  obtain ⟨row, hrow, hsome⟩ := hreturned
  rcases releaseGuestAbuseReservation_ok hrelease with ⟨-, other, hfind, hcases⟩ | ⟨hfalse, -⟩
  · have hother : other = row := by
      rw [(Tables.aggregate?_eq_some.mp hg).2.2.2, hrow] at hfind
      exact (Option.some.inj hfind).symm
    subst hother
    rcases hcases with ⟨-, rfl⟩ | ⟨hnone, -⟩
    · rfl
    · rw [hnone] at hsome
      cases hsome
  · cases hfalse

/-! ### acquire -/

theorem createAttempt_focus {attemptId : String} {attemptNo fence now : Nat} {t t' : Tables}
    {g : Aggregate} {lease : GuestAttemptLease}
    (h : (createAttempt g.scan attemptId attemptNo fence now).run t = .ok (lease, t'))
    (hg : t.aggregate? g.scan.id = some g) :
    now < g.scan.resultAccessExpiresAt ∧
      lease = leaseOf g.scan (newLease g.scan attemptId attemptNo fence now) ∧
      Focus g.scan.id t t' g
        { g with
          scan := (runJob attemptId fence now).apply g.scan
          attempts := newLease g.scan attemptId attemptNo fence now :: g.attempts } := by
  simp only [createAttempt] at h
  rw [Tx.run_bind_ok] at h
  obtain ⟨_, _, htime, h⟩ := h
  obtain ⟨⟨-, hhard⟩, rfl⟩ := Tx.run_ensure_ok.mp htime
  rw [Tx.run_bind_ok] at h
  obtain ⟨_, _, hinsert, h⟩ := h
  rw [Tx.run_bind_ok] at h
  obtain ⟨_, _, hlease, h⟩ := h
  rw [Tx.run_bind_ok] at h
  obtain ⟨_, _, hjob, h⟩ := h
  obtain ⟨rfl, rfl⟩ := Tx.run_pure_ok.mp h
  obtain ⟨-, -, finserted⟩ := insertGuestScanAttempt_focus hinsert rfl hg
  obtain ⟨_, -, -, -, -, -, fleased⟩ := updateGuestScanAttempt_focus hlease finserted.after
  rw [Aggregate.editAttempt_head rfl (Tables.attempts_pairwise_of_aggregate? finserted.after)]
    at fleased
  obtain ⟨-, -, -, fjob⟩ := updateGuestScan_focus hjob fleased.after
  exact ⟨Nat.lt_of_lt_of_le hhard (Nat.min_le_right _ _), rfl, (finserted.trans fleased).trans fjob⟩

theorem leaseNew_focus {createAttemptId : Option String} {attemptNo fence now : Nat}
    {t t' : Tables} {g : Aggregate} {answer : AcquireGuestLeaseResult}
    (h : (leaseNew g.scan createAttemptId attemptNo fence now).run t = .ok (answer, t'))
    (hg : t.aggregate? g.scan.id = some g) :
    ∃ attemptId, now < g.scan.resultAccessExpiresAt ∧
      answer =
        .leaseAcquired (leaseOf g.scan (newLease g.scan attemptId attemptNo fence now)) ∧
      Focus g.scan.id t t' g
        { g with
          scan := (runJob attemptId fence now).apply g.scan
          attempts := newLease g.scan attemptId attemptNo fence now :: g.attempts } := by
  unfold leaseNew at h
  cases createAttemptId with
  | none => exact (Tx.run_fail_ok.mp h).elim
  | some attemptId =>
    dsimp only at h
    split at h
    · exact (Tx.run_fail_ok.mp h).elim
    · rw [Tx.run_bind_ok] at h
      obtain ⟨lease, _, hcreate, h⟩ := h
      obtain ⟨rfl, rfl⟩ := Tx.run_pure_ok.mp h
      obtain ⟨haccess, rfl, hfocus⟩ := createAttempt_focus hcreate hg
      exact ⟨attemptId, haccess, rfl, hfocus⟩

theorem terminateAttempt_of_not_running {scan : GuestScan} {now : Nat} {t t' : Tables}
    {value : Unit} (h : (terminateAttempt scan now).run t = .ok (value, t'))
    (hjob : scan.jobState ≠ .running) : t' = t := by
  unfold terminateAttempt at h
  split at h
  · exact (Tx.run_pure_ok.mp h).2
  · rw [if_pos hjob] at h
    exact (Tx.run_pure_ok.mp h).2

theorem terminateAttempt_focus {now : Nat} {t t' : Tables} {g : Aggregate} {value : Unit}
    {current : GuestScanAttempt} {earlier : List GuestScanAttempt}
    (h : (terminateAttempt g.scan now).run t = .ok (value, t'))
    (hg : t.aggregate? g.scan.id = some g) (hjob : g.scan.jobState = .running)
    (hattempts : g.attempts = current :: earlier)
    (hcurrent : g.scan.currentAttemptId = some current.id) :
    if current.attemptState.active = true then
      Focus g.scan.id t t' g
        { g with
          attempts := (closeAttempt (terminatedState current now) now).apply current :: earlier }
    else t' = t := by
  unfold terminateAttempt at h
  have hmem : current ∈ g.attempts := by simp [hattempts]
  have hload : t.loadAttempt g.scan.id current.id = some current :=
    (Tables.loadAttempt_eq_some hg).mpr ⟨hmem, rfl⟩
  simp only [hcurrent, hjob, ne_eq, not_true, if_false] at h
  rw [Tx.run_bind_get] at h
  simp only [hload] at h
  split at h
  · exact (Tx.run_fail_ok.mp h).elim
  · split at h
    · rename_i hactive
      rw [if_pos hactive]
      rw [Tx.run_bind_ok] at h
      obtain ⟨_, _, hclose, h⟩ := h
      obtain ⟨-, rfl⟩ := Tx.run_pure_ok.mp h
      obtain ⟨_, -, -, -, -, -, hfocus⟩ := updateGuestScanAttempt_focus hclose hg
      rwa [Aggregate.editAttempt_head hattempts (Tables.attempts_pairwise_of_aggregate? hg)]
        at hfocus
    · rename_i hactive
      rw [if_neg hactive]
      exact (Tx.run_ensure_ok.mp h).2

theorem terminateJob_ok {scan : GuestScan} {now : Nat} {terminal : TerminalState}
    {t t' : Tables} {answer : AcquireGuestLeaseResult}
    (h : (terminateJob scan now terminal).run t = .ok (answer, t')) :
    answer = .jobTerminated terminal ∧ ∃ between,
      (terminateAttempt scan now).run t = .ok ((), between) ∧
      ∀ g, between.aggregate? scan.id = some g → ∃ row, g.reservation = some row ∧
        Focus scan.id between t' g
          { g with
            scan := (endJob terminal.jobState now).apply g.scan
            reservation := some (row.release now terminal.reason) } := by
  unfold terminateJob at h
  rw [Tx.run_bind_ok] at h
  obtain ⟨_, between, hterminate, h⟩ := h
  rw [Tx.run_bind_ok] at h
  obtain ⟨_, _, hjob, h⟩ := h
  rw [Tx.run_bind_ok] at h
  obtain ⟨released, _, hrelease, h⟩ := h
  rw [Tx.run_bind_ok] at h
  obtain ⟨_, _, hensure, h⟩ := h
  obtain ⟨rfl, rfl⟩ := Tx.run_pure_ok.mp h
  refine ⟨rfl, between, hterminate, fun g hg => ?_⟩
  obtain ⟨-, -, -, fjob⟩ := updateGuestScan_focus hjob hg
  obtain ⟨row, hrow, freleased⟩ :=
    release_focus (Tx.run_bind_ok.mpr ⟨released, _, hrelease, hensure⟩) fjob.after
  exact ⟨row, hrow, fjob.trans freleased⟩

/-- What a call on one scan did: nothing, or one event of its life. -/
inductive Outcome (id : String) (t t' : Tables) (g : Aggregate) : Option Event → Prop where
  | unchanged (same : t' = t) : Outcome id t t' g none
  | event {event : Event} (g' : Aggregate) (focus : Focus id t t' g g')
      (step : Step g event g') : Outcome id t t' g (some event)

/-- The event behind an answer of `acquire`. -/
def AcquireGuestLeaseResult.event : AcquireGuestLeaseResult → Option Event
  | .leaseAcquired lease => some (.lease lease)
  | .jobTerminated terminal => some (.finish terminal.jobState)
  | _ => none

theorem terminatedState_closes {attempt : GuestScanAttempt}
    (hactive : attempt.attemptState.active = true) (now : Nat) :
    ClosesTo attempt.attemptState (terminatedState attempt now) := by
  unfold terminatedState
  simp only [AttemptState.active, Bool.or_eq_true, beq_iff_eq] at hactive
  split
  · exact .inl ⟨by simp [AttemptState.active, hactive], rfl⟩
  · rename_i hleased
    have hrunning : attempt.attemptState = .running := hactive.resolve_left hleased
    split
    · exact .inr ⟨hrunning, .inl rfl⟩
    · exact .inr ⟨hrunning, .inr rfl⟩

theorem terminateJob_expired {now : Nat} {t t' : Tables} {g : Aggregate}
    {answer : AcquireGuestLeaseResult} (hinv : Inv g)
    (h : (terminateJob g.scan now .expired).run t = .ok (answer, t'))
    (hg : t.aggregate? g.scan.id = some g) (hactive : g.scan.jobState.active = true) :
    Outcome g.scan.id t t' g answer.event := by
  obtain ⟨rfl, between, hterminate, hrest⟩ := terminateJob_ok h
  simp only [JobState.active, Bool.or_eq_true, beq_iff_eq] at hactive
  rcases hactive with hqueued | hrunning
  · have hsame := terminateAttempt_of_not_running hterminate (by simp [hqueued])
    subst hsame
    obtain ⟨row, hrow, hfocus⟩ := hrest g hg
    exact .event _ hfocus (.finishQueued _ _ _ _ hqueued (.inl rfl) hrow)
  · obtain ⟨current, earlier, hattempts, hopen, -, -, -⟩ := hinv.running_of_attempts hrunning
    have hcurrent : g.scan.currentAttemptId = some current.id := by
      rw [hinv.current, hattempts]
      rfl
    have hclosed := terminateAttempt_focus hterminate hg hrunning hattempts hcurrent
    rw [if_pos hopen] at hclosed
    obtain ⟨row, hrow, hfocus⟩ := hrest _ hclosed.after
    exact .event _ (hclosed.trans hfocus)
      (.finishRunning _ _ _ _ _ _ _ hrunning hattempts (.inr (.inl rfl))
        (terminatedState_closes hopen now) hrow)

theorem heldAttempt_ok {t t' : Tables} {g : Aggregate} {held : GuestScanAttempt × Nat}
    {current : GuestScanAttempt} {earlier : List GuestScanAttempt}
    (h : (heldAttempt g.scan).run t = .ok (held, t'))
    (hg : t.aggregate? g.scan.id = some g) (hattempts : g.attempts = current :: earlier)
    (hcurrent : g.scan.currentAttemptId = some current.id) :
    held.1 = current ∧ current.leaseExpiresAt = some held.2 ∧ t' = t := by
  have hload : t.loadAttempt g.scan.id current.id = some current :=
    (Tables.loadAttempt_eq_some hg).mpr ⟨by simp [hattempts], rfl⟩
  unfold heldAttempt at h
  rw [Tx.run_bind_get] at h
  simp only [hcurrent, Option.bind_some, hload] at h
  split at h
  · exact (Tx.run_fail_ok.mp h).elim
  · rename_i expiry hexpiry
    split at h
    · exact (Tx.run_fail_ok.mp h).elim
    · obtain ⟨rfl, rfl⟩ := Tx.run_pure_ok.mp h
      exact ⟨rfl, hexpiry, rfl⟩

/-- The branch of `acquire` for a running job: hold, hand on, or give up after
the last attempt. -/
theorem acquireRunning_outcome {createAttemptId : Option String} {now : Nat} {t t' : Tables}
    {g : Aggregate} {answer : AcquireGuestLeaseResult} (hinv : Inv g)
    (h : (acquireRunning g.scan createAttemptId now).run t = .ok (answer, t'))
    (hg : t.aggregate? g.scan.id = some g) (hrunning : g.scan.jobState = .running) :
    Outcome g.scan.id t t' g answer.event := by
  obtain ⟨current, earlier, hattempts, hopen, -, -, -⟩ := hinv.running_of_attempts hrunning
  have hcurrent : g.scan.currentAttemptId = some current.id := by
    rw [hinv.current, hattempts]
    rfl
  unfold acquireRunning at h
  rw [Tx.run_bind_ok] at h
  obtain ⟨held, _, hheld, h⟩ := h
  obtain ⟨rfl, hlease, rfl⟩ := heldAttempt_ok hheld hg hattempts hcurrent
  dsimp only at h
  split at h
  · obtain ⟨rfl, rfl⟩ := Tx.run_pure_ok.mp h
    exact .unchanged rfl
  · rename_i hlapsed
    rw [Tx.run_bind_ok] at h
    obtain ⟨_, _, hclose, h⟩ := h
    obtain ⟨_, -, -, -, -, -, hclosed⟩ := updateGuestScanAttempt_focus hclose hg
    rw [Aggregate.editAttempt_head hattempts (Tables.attempts_pairwise_of_aggregate? hg)]
      at hclosed
    have hcloses := closesTo_retiredState hopen now
    -- `scan` is still the row as loaded, and the job row has not changed
    let retired : Aggregate :=
      { g with
        attempts := (closeAttempt (retiredState held.1 now) now).apply held.1 :: earlier }
    split at h
    · obtain ⟨rfl, between, hterminate, hrest⟩ := terminateJob_ok h
      have hsame := terminateAttempt_focus (g := retired) hterminate hclosed.after hrunning rfl hcurrent
      rw [if_neg (by
        rcases hcloses with ⟨-, hstate⟩ | ⟨-, hstate | hstate⟩ <;>
          simp [closeAttempt, attemptEdit, hstate, AttemptState.active])] at hsame
      subst hsame
      obtain ⟨row, hrow, hfocus⟩ := hrest _ hclosed.after
      exact .event _ (hclosed.trans hfocus)
        (.finishRunning _ _ _ _ _ _ _ hrunning hattempts (.inl rfl) hcloses hrow)
    · rename_i hfew
      obtain ⟨attemptId, haccess, rfl, hfocus⟩ := leaseNew_focus (g := retired) h hclosed.after
      refine .event _ (hclosed.trans hfocus)
        (.leaseNext _ _ _ _ hrunning hattempts hopen (by omega) haccess ?_)
      intro expiry hexpiry
      rw [hlease, Option.mem_some_iff] at hexpiry
      omega

theorem acquireBody_outcome {id : String} {createAttemptId : Option String} {now : Nat}
    {t t' : Tables} {g : Aggregate} {answer : AcquireGuestLeaseResult} (hinv : Inv g)
    (h : (acquireBody id createAttemptId now).run t = .ok (answer, t'))
    (hg : t.aggregate? id = some g) : Outcome id t t' g answer.event := by
  have hid := Tables.scan_id_of_aggregate? hg
  subst hid
  unfold acquireBody at h
  rw [Tx.run_bind_get] at h
  simp only [(Tables.aggregate?_eq_some.mp hg).1] at h
  split at h
  · obtain ⟨rfl, rfl⟩ := Tx.run_pure_ok.mp h
    exact .unchanged rfl
  · rename_i hactive
    simp only [Bool.or_eq_true, Bool.not_eq_true', not_or, Bool.not_eq_false] at hactive
    split at h
    · exact terminateJob_expired hinv h hg hactive.2
    · split at h
      · rename_i hrunning
        exact acquireRunning_outcome hinv h hg hrunning
      · rename_i hrunning
        have hqueued : g.scan.jobState = .queued := by
          simpa [JobState.active, hrunning] using hactive.2
        obtain ⟨attemptId, haccess, rfl, hfocus⟩ := leaseNew_focus h hg
        exact .event _ hfocus (.leaseFirst _ _ hqueued haccess)

/-! ### start and renew -/

theorem joinedAttempt_eq_some {t : Tables} {id attemptId : String} {g : Aggregate}
    (hg : t.aggregate? id = some g) {scan : GuestScan} {attempt : GuestScanAttempt}
    (h : t.joinedAttempt id attemptId = some (scan, attempt)) :
    scan = g.scan ∧ attempt ∈ g.attempts ∧ attempt.id = attemptId := by
  unfold Tables.joinedAttempt at h
  rw [(Tables.aggregate?_eq_some.mp hg).1] at h
  cases hload : t.loadAttempt id attemptId with
  | none => simp [hload] at h
  | some row =>
    simp only [hload, Option.some.injEq, Prod.mk.injEq] at h
    obtain ⟨rfl, rfl⟩ := h
    exact ⟨rfl, (Tables.loadAttempt_eq_some hg).mp hload⟩

theorem currentLease_head {command : LeaseCommand} {g : Aggregate} {attempt : GuestScanAttempt}
    (hinv : Inv g) (hdistinct : g.attempts.Pairwise fun a b => a.id ≠ b.id)
    (hmem : attempt ∈ g.attempts) (hid : attempt.id = command.attemptId)
    (h : currentLease command g.scan attempt = true) :
    g.scan.jobState = .running ∧ attempt.monotonicFence = command.monotonicFence ∧
      attempt.leaseVersion = command.leaseVersion ∧
      ∃ earlier, g.attempts = attempt :: earlier := by
  simp only [currentLease, Bool.and_eq_true, beq_iff_eq] at h
  obtain ⟨⟨⟨⟨hrunning, hcurrent⟩, -⟩, hfence⟩, hversion⟩ := h
  obtain ⟨current, earlier, hattempts, -, -, -, -⟩ := hinv.running_of_attempts hrunning
  have hhead : current.id = command.attemptId := by
    have := hinv.current
    rw [hattempts, hcurrent] at this
    exact (Option.some.inj this).symm
  rw [hattempts, List.pairwise_cons] at hdistinct
  rw [hattempts] at hmem
  rcases List.mem_cons.mp hmem with rfl | hearlier
  · exact ⟨hrunning, hfence, hversion, earlier, hattempts⟩
  · exact absurd (hhead.trans hid.symm) (hdistinct.1 attempt hearlier)

def HoldsLease (g : Aggregate) (command : LeaseCommand) (now : Nat) : Prop :=
  ∃ current earlier, g.attempts = current :: earlier ∧ Holds g current command now

/-- The event behind an answer of `start`. -/
def StartGuestAttemptResult.event (command : LeaseCommand) :
    StartGuestAttemptResult → Option Event
  | .started => some (.start command)
  | _ => none

/-- `start` answered `ok`. -/
def StartGuestAttemptResult.ok : StartGuestAttemptResult → Bool
  | .started | .alreadyRunning => true
  | _ => false

theorem startBody_outcome {command : LeaseCommand} {now : Nat} {t t' : Tables} {g : Aggregate}
    {answer : StartGuestAttemptResult} (hinv : Inv g)
    (h : (startBody command now).run t = .ok (answer, t'))
    (hg : t.aggregate? command.guestScanId = some g) :
    (answer.ok = true → HoldsLease g command now) ∧
      Outcome command.guestScanId t t' g (answer.event command) := by
  unfold startBody at h
  rw [Tx.run_bind_get] at h
  split at h
  · obtain ⟨rfl, rfl⟩ := Tx.run_pure_ok.mp h
    exact ⟨by simp [StartGuestAttemptResult.ok], .unchanged rfl⟩
  · rename_i scan attempt hjoined
    obtain ⟨rfl, hmem, hid⟩ := joinedAttempt_eq_some hg hjoined
    split at h
    · obtain ⟨rfl, rfl⟩ := Tx.run_pure_ok.mp h
      exact ⟨by simp [StartGuestAttemptResult.ok], .unchanged rfl⟩
    · rename_i hcurrent
      simp only [Bool.or_eq_true, Bool.not_eq_true', not_or, Bool.not_eq_false] at hcurrent
      obtain ⟨hrunning, hfence, hversion, earlier, hattempts⟩ := currentLease_head hinv
        (Tables.attempts_pairwise_of_aggregate? hg) hmem hid hcurrent.2
      split at h
      · obtain ⟨rfl, rfl⟩ := Tx.run_pure_ok.mp h
        exact ⟨by simp [StartGuestAttemptResult.ok], .unchanged rfl⟩
      · rename_i expiry hexpiry
        split at h
        · obtain ⟨rfl, rfl⟩ := Tx.run_pure_ok.mp h
          exact ⟨by simp [StartGuestAttemptResult.ok], .unchanged rfl⟩
        · split at h
          · obtain ⟨rfl, rfl⟩ := Tx.run_pure_ok.mp h
            exact ⟨by simp [StartGuestAttemptResult.ok], .unchanged rfl⟩
          · rename_i hdeadline hlease
            have hholds : Holds g attempt command now :=
              ⟨hrunning, hid, hfence, hversion, ⟨expiry, hexpiry, by omega⟩, by omega⟩
            split at h
            · obtain ⟨rfl, rfl⟩ := Tx.run_pure_ok.mp h
              exact ⟨fun _ => ⟨attempt, earlier, hattempts, hholds⟩, .unchanged rfl⟩
            · split at h
              · obtain ⟨rfl, rfl⟩ := Tx.run_pure_ok.mp h
                exact ⟨by simp [StartGuestAttemptResult.ok], .unchanged rfl⟩
              · rename_i hleased
                rw [Tx.run_bind_ok] at h
                obtain ⟨_, _, hstart, h⟩ := h
                obtain ⟨rfl, rfl⟩ := Tx.run_pure_ok.mp h
                obtain ⟨_, -, -, -, -, -, hfocus⟩ := updateGuestScanAttempt_focus hstart hg
                rw [← hid, Aggregate.editAttempt_head hattempts
                  (Tables.attempts_pairwise_of_aggregate? hg)] at hfocus
                exact ⟨fun _ => ⟨attempt, earlier, hattempts, hholds⟩,
                  .event _ hfocus (.start _ _ _ _ hattempts hholds (not_not.mp hleased))⟩

/-- The event behind an answer of `renew`. -/
def RenewGuestLeaseResult.event (command : LeaseCommand) :
    RenewGuestLeaseResult → Option Event
  | .leaseRenewed leaseVersion leaseExpiresAt =>
    some (.renew command leaseVersion leaseExpiresAt)
  | _ => none

theorem renewBody_outcome {command : LeaseCommand} {now : Nat} {t t' : Tables} {g : Aggregate}
    {answer : RenewGuestLeaseResult} (hinv : Inv g)
    (h : (renewBody command now).run t = .ok (answer, t'))
    (hg : t.aggregate? command.guestScanId = some g) :
    Outcome command.guestScanId t t' g (answer.event command) := by
  unfold renewBody at h
  rw [Tx.run_bind_get] at h
  split at h
  · obtain ⟨rfl, rfl⟩ := Tx.run_pure_ok.mp h
    exact .unchanged rfl
  · rename_i scan attempt hjoined
    obtain ⟨rfl, hmem, hid⟩ := joinedAttempt_eq_some hg hjoined
    split at h
    · obtain ⟨rfl, rfl⟩ := Tx.run_pure_ok.mp h
      exact .unchanged rfl
    · rename_i hcurrent
      simp only [Bool.or_eq_true, Bool.not_eq_true', not_or, Bool.not_eq_false,
        bne_iff_ne, ne_eq, not_not] at hcurrent
      obtain ⟨hrunning, hfence, hversion, earlier, hattempts⟩ := currentLease_head hinv
        (Tables.attempts_pairwise_of_aggregate? hg) hmem hid hcurrent.2
      split at h
      · obtain ⟨rfl, rfl⟩ := Tx.run_pure_ok.mp h
        exact .unchanged rfl
      · rename_i expiry hexpiry
        dsimp only at h
        split at h
        · obtain ⟨rfl, rfl⟩ := Tx.run_pure_ok.mp h
          exact .unchanged rfl
        · split at h
          · obtain ⟨rfl, rfl⟩ := Tx.run_pure_ok.mp h
            exact .unchanged rfl
          · split at h
            · obtain ⟨rfl, rfl⟩ := Tx.run_pure_ok.mp h
              exact .unchanged rfl
            · rename_i hdeadline hlease hextended
              have hholds : Holds g attempt command now :=
                ⟨hrunning, hid, hfence, hversion, ⟨expiry, hexpiry, by omega⟩, by omega⟩
              rw [Tx.run_bind_ok] at h
              obtain ⟨_, _, hrenew, h⟩ := h
              obtain ⟨rfl, rfl⟩ := Tx.run_pure_ok.mp h
              obtain ⟨_, -, -, -, -, -, hfocus⟩ := updateGuestScanAttempt_focus hrenew hg
              rw [← hid, Aggregate.editAttempt_head hattempts
                (Tables.attempts_pairwise_of_aggregate? hg)] at hfocus
              refine .event _ hfocus (.renew _ _ _ _ _ hattempts hholds hcurrent.1.2
                (Nat.min_le_right _ _) ?_)
              intro previous hprevious
              rw [hexpiry, Option.mem_some_iff] at hprevious
              omega

/-! ### commit -/

theorem lockedRow_eq_some {t : Tables} {id : String} {g : Aggregate} (hinv : Inv g)
    (hg : t.aggregate? id = some g) {scan : GuestScan} {attempt : GuestScanAttempt} :
    t.lockedRow id = some (scan, attempt) ↔
      scan = g.scan ∧ ∃ earlier, g.attempts = attempt :: earlier := by
  have hid := Tables.scan_id_of_aggregate? hg
  have hcurrent := hinv.current
  have hfence := hinv.fence
  have hnumbered := hinv.numbered
  unfold Tables.lockedRow
  rw [(Tables.aggregate?_eq_some.mp hg).1, Option.bind_eq_bind, Option.bind_some]
  cases hattempts : g.attempts with
  | nil =>
    rw [hattempts] at hcurrent
    simp [hcurrent]
  | cons current earlier =>
    rw [hattempts] at hcurrent hfence hnumbered
    have hmem : current ∈ g.attempts := by simp [hattempts]
    have howner := Tables.attempt_owner_of_aggregate? hg hmem
    have hmonotonic : current.monotonicFence = g.scan.currentFence := by
      rw [hfence, hnumbered.2.1]
      rfl
    rw [hcurrent, List.head?_cons, Option.map_some, Option.bind_eq_bind, Option.bind_some,
      Tables.find?_attempt_of_aggregate? hg hmem, Option.bind_eq_bind, Option.bind_some,
      if_pos ⟨howner.trans hid.symm, hmonotonic⟩]
    simp only [pure, Option.some.injEq, Prod.mk.injEq, List.cons.injEq]
    constructor
    · intro h
      exact ⟨h.1.symm, earlier, h.2, rfl⟩
    · intro h
      obtain ⟨hscan, _, hattempt, -⟩ := h
      exact ⟨hscan.symm, hattempt⟩

theorem safePositiveInteger_eq_some {value : Int} {n : Nat} :
    safePositiveInteger value = some n ↔ value = n ∧ 0 < n ∧ n ≤ maxSafeInteger := by
  unfold safePositiveInteger
  split
  · simp only [Option.some.injEq]
    omega
  · simp only [reduceCtorEq, false_iff]
    omega

theorem mapLockedState_eq_some {scan : GuestScan} {attempt : GuestScanAttempt}
    {transactionNow : TransactionTime} {state : LockedResultState} :
    mapLockedState scan attempt transactionNow = some state ↔
      scan.currentAttemptId = some state.snapshot.currentAttemptId ∧
      safePositiveInteger scan.currentFence = some state.snapshot.currentFence ∧
      (attempt.leaseExpiresAt.bind fun time => safePositiveInteger time) =
        some state.snapshot.leaseExpiresAt ∧
      safePositiveInteger attempt.hardDeadline = some state.snapshot.hardDeadline ∧
      safePositiveInteger transactionNow = some state.now ∧
      mapAcceptedResult scan = some state.snapshot.acceptedResult ∧
      state.snapshot.jobState = scan.jobState ∧
      state.snapshot.attemptState = attempt.attemptState ∧
      state.canonicalTarget = scan.canonicalTarget := by
  unfold mapLockedState
  simp only [Option.bind_eq_bind, Option.bind_eq_some_iff, pure, Option.some.injEq]
  constructor
  · intro h
    obtain ⟨_, h1, _, h2, _, h3, _, h4, _, h5, _, h6, rfl⟩ := h
    exact ⟨h1, h2, h3, h4, h5, h6, rfl, rfl, rfl⟩
  · intro h
    obtain ⟨h1, h2, h3, h4, h5, h6, h7, h8, h9⟩ := h
    refine ⟨_, h1, _, h2, _, h3, _, h4, _, h5, _, h6, ?_⟩
    cases state with
    | mk snapshot canonicalTarget now =>
      cases snapshot
      simp only at h7 h8 h9
      rw [h7, h8, h9]

/-- The event behind an answer of `commit`. -/
def CommitGuestResultResult.event (submission : ResultSubmissionIdentity) (now : Nat) :
    CommitGuestResultResult → Option Event
  | .primaryCommit => some (.commit submission now)
  | _ => none

def AuthenticatedResult.row (result : AuthenticatedResult) (now : Nat) : GuestResult :=
  ⟨result.jobId, result.submission.attemptId, result.submission.fence,
    result.submission.payloadDigest, now, result.projection⟩

theorem acceptsResult_guard {t : Tables} {row : GuestResult} {scan : GuestScan}
    (h : t.acceptsResult row) (hscan : t.guestScans.find? row.guestScanId = some scan) :
    ∃ attempt, guardGuestResultWrite scan attempt row := by
  unfold Tables.acceptsResult at h
  rw [hscan] at h
  split at h
  · rename_i found attempt hfound _
    cases hfound
    exact ⟨attempt, h.2.2⟩
  · exact h.elim

theorem writeResult_focus {result : AuthenticatedResult} {now : Nat} {t t' : Tables}
    {g : Aggregate} {value : Unit} {current : GuestScanAttempt}
    {earlier : List GuestScanAttempt} (h : (writeResult result now).run t = .ok (value, t'))
    (hg : t.aggregate? result.jobId = some g) (hattempts : g.attempts = current :: earlier)
    (hid : current.id = result.submission.attemptId) :
    ∃ g', Focus result.jobId t t' g g' ∧ Step g (.commit result.submission now) g' ∧
      g'.result = some (result.row now) ∧
      ∃ attempt, guardGuestResultWrite g'.scan attempt (result.row now) := by
  simp only [writeResult] at h
  rw [Tx.run_bind_ok] at h
  obtain ⟨_, _, hattempt, h⟩ := h
  rw [Tx.run_bind_ok] at h
  obtain ⟨_, _, hscan, h⟩ := h
  rw [Tx.run_bind_ok] at h
  obtain ⟨_, _, hresult, h⟩ := h
  obtain ⟨row, hmem, hrow, ⟨hfence, hstate, hlease, hsome, hdeadline⟩, -, -, fattempt⟩ :=
    updateGuestScanAttempt_focus hattempt hg
  have hdistinct := Tables.attempts_pairwise_of_aggregate? hg
  have hcurrent : row = current := by
    have hcurrentMem : current ∈ g.attempts := by simp [hattempts]
    have hfound := Tables.find?_attempt_of_aggregate? hg hmem
    rw [hrow, ← hid, Tables.find?_attempt_of_aggregate? hg hcurrentMem] at hfound
    exact (Option.some.inj hfound).symm
  subst hcurrent
  rw [← hid, Aggregate.editAttempt_head hattempts hdistinct] at fattempt
  obtain ⟨⟨hjob, -⟩, -, -, fscan⟩ := updateGuestScan_focus hscan fattempt.after
  obtain ⟨haccepts, -, fresult⟩ := insertGuestResult_focus hresult rfl fscan.after
  obtain ⟨reservation, hreserved, freleased⟩ := release_focus h fresult.after
  refine ⟨_, ((fattempt.trans fscan).trans fresult).trans freleased, ?_, rfl,
    acceptsResult_guard haccepts (Tables.aggregate?_eq_some.mp fscan.after).1⟩
  refine .commit row earlier result.submission now _ reservation hattempts hjob hstate hid hfence
    ?_ hdeadline ⟨rfl, rfl, rfl, rfl⟩ hreserved
  obtain ⟨expiry, hexpiry⟩ := Option.ne_none_iff_exists'.mp hsome
  exact ⟨expiry, hexpiry, hlease expiry hexpiry⟩

/-- A primary commit writes the result under the newest attempt. -/
theorem persistResultBody_primary {result : AuthenticatedResult}
    {transactionNow : TransactionTime} {t t' : Tables} {g : Aggregate} (hinv : Inv g)
    (h : (persistResultBody result transactionNow).run t = .ok (.commit .primaryCommit, t'))
    (hg : t.aggregate? result.jobId = some g) :
    ∃ current earlier, g.attempts = current :: earlier ∧
      current.id = result.submission.attemptId ∧
      (writeResult result transactionNow.toNat).run t = .ok ((), t') := by
  unfold persistResultBody at h
  rw [Tx.run_bind_get] at h
  split at h
  · cases (Tx.run_pure_ok.mp h).1
  · rename_i state hstate
    obtain ⟨⟨scan, attempt⟩, hlocked, hmapped⟩ := Option.bind_eq_some_iff.mp hstate
    obtain ⟨rfl, earlier, hattempts⟩ := (lockedRow_eq_some hinv hg).mp hlocked
    obtain ⟨hcurrent, -, -, -, hnow, -⟩ := mapLockedState_eq_some.mp hmapped
    split at h
    · cases (Tx.run_pure_ok.mp h).1
    · cases (Tx.run_pure_ok.mp h).1
    · rename_i hdecision
      split at h
      · cases (Tx.run_pure_ok.mp h).1
      · rw [Tx.run_bind_ok] at h
        obtain ⟨_, _, hwrite, h⟩ := h
        obtain ⟨-, rfl⟩ := Tx.run_pure_ok.mp h
        have hnat : transactionNow.toNat = state.now := by
          rw [(safePositiveInteger_eq_some.mp hnow).1]
          rfl
        refine ⟨attempt, earlier, hattempts, ?_, hnat ▸ hwrite⟩
        have hhead := hinv.current
        rw [hattempts, hcurrent] at hhead
        have hdecided := (decideResultCommit_eq_primaryCommit.mp hdecision).2.2.2.1
        exact (Option.some.inj hhead).symm.trans hdecided.symm

theorem persistResultBody_idle {result : AuthenticatedResult} {transactionNow : TransactionTime}
    {t t' : Tables} {answer : CommitGuestResultResult}
    (h : (persistResultBody result transactionNow).run t = .ok (.commit answer, t'))
    (hanswer : answer ≠ .primaryCommit) : t' = t := by
  unfold persistResultBody at h
  rw [Tx.run_bind_get] at h
  split at h
  · exact (Tx.run_pure_ok.mp h).2
  · split at h
    · exact (Tx.run_pure_ok.mp h).2
    · exact (Tx.run_pure_ok.mp h).2
    · split at h
      · cases (Tx.run_pure_ok.mp h).1
      · rw [Tx.run_bind_ok] at h
        obtain ⟨_, _, -, h⟩ := h
        exact absurd (Verdict.commit.inj (Tx.run_pure_ok.mp h).1) hanswer

theorem persistResultBody_outcome {result : AuthenticatedResult}
    {transactionNow : TransactionTime} {t t' : Tables} {g : Aggregate}
    {answer : CommitGuestResultResult} (hinv : Inv g)
    (h : (persistResultBody result transactionNow).run t = .ok (.commit answer, t'))
    (hg : t.aggregate? result.jobId = some g) :
    Outcome result.jobId t t' g (answer.event result.submission transactionNow.toNat) := by
  cases answer with
  | primaryCommit =>
    obtain ⟨current, earlier, hattempts, hid, hwrite⟩ := persistResultBody_primary hinv h hg
    obtain ⟨g', hfocus, hstep, -⟩ := writeResult_focus hwrite hg hattempts hid
    exact .event g' hfocus hstep
  | alreadyCommitted => exact .unchanged (persistResultBody_idle h nofun)
  | failure code audit => exact .unchanged (persistResultBody_idle h nofun)

/-! ### cancel -/

/-- The event behind an answer of `cancel`. -/
def CancelGuestScanResult.event : CancelGuestScanResult → Option Event
  | .cancelled => some (.finish .cancelled)
  | _ => none

theorem cancelledState_closes {before after : AttemptState} (hactive : before.active = true)
    (h : cancelledState before = some after) : ClosesTo before after := by
  cases before with
  | leased =>
    cases h
    exact .inl ⟨rfl, rfl⟩
  | running =>
    cases h
    exact .inr ⟨rfl, .inr rfl⟩
  | _ => cases hactive

theorem cancelCurrentAttempt_focus {now : Nat} {t t' : Tables} {g : Aggregate} {value : Unit}
    {current : GuestScanAttempt} {earlier : List GuestScanAttempt}
    (h : (cancelCurrentAttempt g.scan now).run t = .ok (value, t'))
    (hg : t.aggregate? g.scan.id = some g) (hattempts : g.attempts = current :: earlier)
    (hcurrent : g.scan.currentAttemptId = some current.id) :
    ∃ state, cancelledState current.attemptState = some state ∧
      Focus g.scan.id t t' g
        { g with attempts := (closeAttempt state now).apply current :: earlier } := by
  have hload : t.loadAttempt g.scan.id current.id = some current :=
    (Tables.loadAttempt_eq_some hg).mpr ⟨by simp [hattempts], rfl⟩
  unfold cancelCurrentAttempt at h
  simp only [hcurrent] at h
  rw [Tx.run_bind_get] at h
  simp only [hload] at h
  split at h
  · exact (Tx.run_fail_ok.mp h).elim
  · split at h
    · exact (Tx.run_fail_ok.mp h).elim
    · rename_i state hstate
      rw [Tx.run_bind_ok] at h
      obtain ⟨_, _, hclose, h⟩ := h
      obtain ⟨-, rfl⟩ := Tx.run_pure_ok.mp h
      obtain ⟨_, -, -, -, -, -, hfocus⟩ := updateGuestScanAttempt_focus hclose hg
      rw [Aggregate.editAttempt_head hattempts (Tables.attempts_pairwise_of_aggregate? hg)]
        at hfocus
      exact ⟨state, hstate, hfocus⟩

theorem cancelBody_outcome {id : String} {now : Nat} {t t' : Tables} {g : Aggregate}
    {answer : CancelGuestScanResult} (hinv : Inv g)
    (h : (cancelBody id now).run t = .ok (answer, t')) (hg : t.aggregate? id = some g) :
    Outcome id t t' g answer.event := by
  have hid := Tables.scan_id_of_aggregate? hg
  subst hid
  unfold cancelBody at h
  rw [Tx.run_bind_get] at h
  simp only [(Tables.aggregate?_eq_some.mp hg).1] at h
  split at h
  · obtain ⟨rfl, rfl⟩ := Tx.run_pure_ok.mp h
    exact .unchanged rfl
  · split at h
    · rename_i hcancelled
      rw [Tx.run_bind_ok] at h
      obtain ⟨_, _, hrelease, h⟩ := h
      obtain ⟨rfl, rfl⟩ := Tx.run_pure_ok.mp h
      exact .unchanged
        (release_of_returned hrelease hg (hinv.returned_of_terminal (by rw [hcancelled]; rfl)))
    · split at h
      · obtain ⟨rfl, rfl⟩ := Tx.run_pure_ok.mp h
        exact .unchanged rfl
      · rename_i hactive
        simp only [Bool.not_eq_true', Bool.not_eq_false] at hactive
        rw [Tx.run_bind_ok] at h
        obtain ⟨_, between, hclose, h⟩ := h
        rw [Tx.run_bind_ok] at h
        obtain ⟨_, _, hjob, h⟩ := h
        rw [Tx.run_bind_ok] at h
        obtain ⟨_, _, hrelease, h⟩ := h
        obtain ⟨rfl, rfl⟩ := Tx.run_pure_ok.mp h
        simp only [JobState.active, Bool.or_eq_true, beq_iff_eq] at hactive
        rcases hactive with hqueued | hrunning
        · have hnone : g.scan.currentAttemptId = none := by
            rw [hinv.current, (hinv.queued_attempts hqueued).1]
            rfl
          have hsame : between = t := by
            unfold cancelCurrentAttempt at hclose
            rw [hnone] at hclose
            exact (Tx.run_pure_ok.mp hclose).2
          subst hsame
          obtain ⟨-, -, -, fjob⟩ := updateGuestScan_focus hjob hg
          obtain ⟨row, hrow, freleased⟩ := release_focus hrelease fjob.after
          exact .event _ (fjob.trans freleased) (.finishQueued _ _ _ _ hqueued (.inr rfl) hrow)
        · obtain ⟨current, earlier, hattempts, hopen, -, -, -⟩ :=
            hinv.running_of_attempts hrunning
          have hcurrent : g.scan.currentAttemptId = some current.id := by
            rw [hinv.current, hattempts]
            rfl
          obtain ⟨state, hstate, fclosed⟩ :=
            cancelCurrentAttempt_focus hclose hg hattempts hcurrent
          obtain ⟨-, -, -, fjob⟩ := updateGuestScan_focus hjob fclosed.after
          obtain ⟨row, hrow, freleased⟩ := release_focus hrelease fjob.after
          exact .event _ ((fclosed.trans fjob).trans freleased)
            (.finishRunning _ _ _ _ _ _ _ hrunning hattempts (.inr (.inr rfl))
              (cancelledState_closes hopen hstate) hrow)

end Outscan

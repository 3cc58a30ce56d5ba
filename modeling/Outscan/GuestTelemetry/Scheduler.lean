import Outscan.GuestTelemetry.Conservation

/-! The flush schedule of a worker and its shutdown: `stop` waits for a flush
under way and makes one more. -/
namespace Outscan

/-- `inFlight`: no promise; one whose flush is queued behind the current task;
one that awaits the buffer; one that has its outcome to report. -/
inductive InFlight where
  | none
  | queued
  | running
  | reporting (outcome : GuestQueueTelemetryFlushResult)
deriving DecidableEq, Repr

/-- `stopping`: no promise; one that awaits the flush under way; one that
awaits the final flush; a resolved one. -/
inductive Stopping where
  | none
  | waiting
  | flushing
  | resolved (outcome : GuestQueueTelemetryFlushResult)
deriving DecidableEq, Repr

/-- The variables of `startGuestQueueTelemetryScheduler` and its buffer.
`atFinalFlush` remembers the buffer that the final flush found. -/
structure SchedulerWorld where
  telemetry : TelemetryWorld
  stopped : Bool
  timer : Bool
  rescheduling : Bool
  inFlight : InFlight
  stopping : Stopping
  atFinalFlush : Option TelemetryRuntime

def SchedulerWorld.initial : SchedulerWorld :=
  ⟨.initial, false, true, false, .none, .none, none⟩

inductive SchedulerEvent where
  | record (outcome : GuestQueueOutcome) (now : ClockReading)
  | timer
  | operate (batchId : Option String) (now : ClockReading)
  | storeCommits (batch : GuestQueueTelemetryBatch)
  | storeAnswers (answer : StoreAnswer)
  | settle
  | report
  | resume
  | stop

/-- The `flush` of the scheduler: it joins the promise there is. -/
def InFlight.join : InFlight → InFlight
  | .none => .queued
  | inFlight => inFlight

def SchedulerWorld.withTelemetry (s : SchedulerWorld) (event : TelemetryEvent) : SchedulerWorld :=
  { s with telemetry := s.telemetry.next event }

/-- The queued call of the buffer's `flush`. -/
def SchedulerWorld.operate (s : SchedulerWorld) (batchId : Option String) (now : ClockReading) :
    SchedulerWorld :=
  match s.inFlight with
  | .queued =>
    { s.withTelemetry (.flush batchId now) with
      inFlight := .running
      atFinalFlush := if s.stopping = .flushing then some s.telemetry.runtime else s.atFinalFlush }
  | _ => s

/-- The buffer's promise resolves behind its `finally`. -/
def SchedulerWorld.settle (s : SchedulerWorld) : SchedulerWorld :=
  match s.inFlight, s.telemetry.runtime.flushing with
  | .running, .settling outcome => { s.withTelemetry .settle with inFlight := .reporting outcome }
  | _, _ => s.withTelemetry .settle

def SchedulerWorld.report (s : SchedulerWorld) : SchedulerWorld :=
  match s.inFlight with
  | .reporting outcome =>
    { s with
      inFlight := .none
      timer := s.timer || (s.rescheduling && !s.stopped)
      rescheduling := false
      stopping := match s.stopping with
        | .flushing => .resolved outcome
        | stopping => stopping }
  | _ => s

/-- `stop` behind its `await`. -/
def SchedulerWorld.resume (s : SchedulerWorld) : SchedulerWorld :=
  match s.stopping, s.inFlight with
  | .waiting, .none => { s with inFlight := .queued, stopping := .flushing }
  | _, _ => s

def SchedulerWorld.stop (s : SchedulerWorld) : SchedulerWorld :=
  match s.stopping with
  | .none =>
    match s.inFlight with
    | .none =>
      { s with stopped := true, timer := false, inFlight := .queued, stopping := .flushing }
    | _ => { s with stopped := true, timer := false, stopping := .waiting }
  | _ => { s with stopped := true, timer := false }

def SchedulerWorld.next (s : SchedulerWorld) : SchedulerEvent → SchedulerWorld
  | .record outcome now => s.withTelemetry (.record outcome now)
  | .timer =>
    if s.timer then { s with timer := false, rescheduling := true, inFlight := s.inFlight.join }
    else s
  | .operate batchId now => s.operate batchId now
  | .storeCommits batch => s.withTelemetry (.storeCommits batch)
  | .storeAnswers answer => s.withTelemetry (.storeAnswers answer)
  | .settle => s.settle
  | .report => s.report
  | .resume => s.resume
  | .stop => s.stop

def schedulerStep (s : SchedulerWorld) (event : SchedulerEvent) : Unit × SchedulerWorld :=
  ((), s.next event)

/-- No call of `record` follows `stop`, and the store and the batch ids keep to
what the buffer relies on. -/
def SchedulerAllowed (s : SchedulerWorld) : SchedulerEvent → Prop
  | .record _ _ => s.stopped = false
  | .operate batchId now => s.inFlight = .queued → TelemetryAllowed s.telemetry (.flush batchId now)
  | .storeCommits batch => TelemetryAllowed s.telemetry (.storeCommits batch)
  | .storeAnswers answer => TelemetryAllowed s.telemetry (.storeAnswers answer)
  | .timer | .settle | .report | .resume | .stop => True

/-- Every call of `record` is in a stored batch, or was refused by a saturated
one: nothing is pending, and no counter is open. -/
structure NothingLeft (w : TelemetryWorld) : Prop where
  stored : ∀ outcome, w.recordedCount outcome = totalOf w.stored outcome + w.refusedCount outcome
  pending : w.runtime.pending = none
  active : ∀ outcome, w.runtime.active outcome = 0

def GuestQueueTelemetryFlushResult.ok : GuestQueueTelemetryFlushResult → Bool
  | .empty | .stored _ => true
  | .failure _ => false

/-- An earlier batch is still pending while later outcomes were recorded: the
one flush to come sends the batch only. -/
def TelemetryRuntime.Backlog (r : TelemetryRuntime) : Prop :=
  r.pending ≠ none ∧ r.activeStartedAt ≠ none

variable {w : TelemetryWorld}
  {made : List (GuestQueueTelemetryBatch × List (GuestQueueOutcome × Bool))}
  {current : List (GuestQueueOutcome × Bool)}

theorem Ledger.active_eq_zero (h : Ledger w made current) :
    (∀ outcome, w.runtime.active outcome = 0) ↔ w.runtime.activeStartedAt = none := by
  rw [h.started]
  constructor
  · intro hzero
    cases hcurrent : current with
    | nil => rfl
    | cons call rest =>
      obtain ⟨outcome, counted⟩ := call
      have hactive := hzero outcome
      cases counted with
      | true =>
        rw [h.active.count outcome, hcurrent, List.count_cons_self] at hactive
        cases hactive
      | false =>
        rw [h.active.full outcome (by rw [hcurrent]; exact List.mem_cons_self)] at hactive
        cases hactive
  · rintro hnil outcome
    rw [h.active.count outcome, hnil]
    rfl

theorem Ledger.nothingLeft (h : Ledger w made current) :
    NothingLeft w ↔ w.runtime.pending = none ∧ w.runtime.activeStartedAt = none := by
  constructor
  · intro hleft
    exact ⟨hleft.pending, h.active_eq_zero.mp hleft.active⟩
  · rintro ⟨hpending, hstarted⟩
    have hactive := h.active_eq_zero.mpr hstarted
    refine ⟨fun outcome => ?_, hpending, hactive⟩
    rw [h.conserved outcome, hpending, hactive outcome]
    rfl

/-- The buffer behind the final flush that found `found`, once it has the
outcome `outcome`. -/
def FinalOutcome (found r : TelemetryRuntime) (outcome : GuestQueueTelemetryFlushResult) : Prop :=
  outcome.ok = true → r.pending = none ∧ (r.activeStartedAt = none ↔ ¬ found.Backlog)

structure SchedulerInv (s : SchedulerWorld) : Prop where
  ledger : ∃ made current, Ledger s.telemetry made current
  idle : s.inFlight ≠ .running → s.telemetry.runtime.flushing = .idle
  busy : s.inFlight = .running → s.telemetry.runtime.flushing ≠ .idle
  timer : s.stopped = true → s.timer = false
  stopped : s.stopping ≠ .none → s.stopped = true
  notFinal : (s.stopping = .none ∨ s.stopping = .waiting ∨
    s.stopping = .flushing ∧ s.inFlight = .queued) → s.atFinalFlush = none
  inFlight : s.stopping = .flushing → s.inFlight ≠ .none
  running : s.stopping = .flushing → s.inFlight = .running →
    ∃ found, s.atFinalFlush = some found ∧
      (s.telemetry.runtime.flushing = .storing →
        (s.telemetry.runtime.activeStartedAt = none ↔ ¬ found.Backlog)) ∧
      ∀ outcome, s.telemetry.runtime.flushing = .settling outcome →
        FinalOutcome found s.telemetry.runtime outcome
  reporting : ∀ outcome, s.stopping = .flushing → s.inFlight = .reporting outcome →
    ∃ found, s.atFinalFlush = some found ∧ FinalOutcome found s.telemetry.runtime outcome
  resolved : ∀ outcome, s.stopping = .resolved outcome → s.inFlight = .none ∧
    ∃ found, s.atFinalFlush = some found ∧ FinalOutcome found s.telemetry.runtime outcome

theorem SchedulerInv.initial : SchedulerInv .initial where
  ledger := ⟨[], [], .initial⟩
  idle _ := rfl
  busy h := nomatch h
  timer h := nomatch h
  stopped h := absurd rfl h
  notFinal _ := rfl
  inFlight h := nomatch h
  running h := nomatch h
  reporting _ h := nomatch h
  resolved _ h := nomatch h

/-! ### One event -/

theorem flushing_recorded (w : TelemetryWorld) (outcome : GuestQueueOutcome) (now : ClockReading) :
    (w.recorded outcome now).runtime.flushing = w.runtime.flushing := by
  have hcount : ∀ r : TelemetryRuntime, (countOutcome r outcome).2.flushing = r.flushing := by
    intro r
    rw [countOutcome]
    split <;> rfl
  have hrecord : (w.runtime.record outcome now).2.flushing = w.runtime.flushing := by
    rw [TelemetryRuntime.record]
    split
    · exact hcount _
    · split
      · rfl
      · exact hcount _
  rw [TelemetryWorld.recorded]
  generalize w.runtime.record outcome now = result at hrecord ⊢
  obtain ⟨answer, runtime⟩ := result
  cases answer <;> exact hrecord

variable {s : SchedulerWorld}

theorem SchedulerInv.record (h : SchedulerInv s) {outcome : GuestQueueOutcome} {now : ClockReading}
    (hrunning : s.stopped = false) :
    SchedulerInv (s.withTelemetry (.record outcome now)) := by
  have hflushing := flushing_recorded s.telemetry outcome now
  have hstopping : s.stopping = .none := by
    by_contra hne
    rw [h.stopped hne] at hrunning
    cases hrunning
  obtain ⟨made, current, hledger⟩ := h.ledger
  exact {
    ledger := hledger.next (.record outcome now) trivial
    idle := fun hnot => hflushing.trans (h.idle hnot)
    busy := fun hrun hidle => h.busy hrun (hflushing.symm.trans hidle)
    timer := h.timer
    stopped := h.stopped
    notFinal := h.notFinal
    inFlight := h.inFlight
    running := fun hfinal => absurd (hstopping.symm.trans hfinal) (by simp)
    reporting := fun _ hfinal => absurd (hstopping.symm.trans hfinal) (by simp)
    resolved := fun _ hresolved => absurd (hstopping.symm.trans hresolved) (by simp) }

theorem SchedulerInv.timerFires (h : SchedulerInv s) : SchedulerInv (s.next .timer) := by
  rw [SchedulerWorld.next]
  split
  · rename_i harmed
    have hrunning : ¬ s.stopped = true := fun hstopped => by
      rw [h.timer hstopped] at harmed
      cases harmed
    have hstopping : s.stopping = .none := by
      by_contra hne
      exact hrunning (h.stopped hne)
    have hjoin : s.inFlight.join = .running ↔ s.inFlight = .running := by
      cases s.inFlight <;> simp [InFlight.join]
    exact {
      ledger := h.ledger
      idle := fun hnot => h.idle fun hrun => hnot (hjoin.mpr hrun)
      busy := fun hrun => h.busy (hjoin.mp hrun)
      timer := fun _ => rfl
      stopped := h.stopped
      notFinal := fun _ => h.notFinal (Or.inl hstopping)
      inFlight := fun hfinal => absurd (hstopping.symm.trans hfinal) (by simp)
      running := fun hfinal => absurd (hstopping.symm.trans hfinal) (by simp)
      reporting := fun _ hfinal => absurd (hstopping.symm.trans hfinal) (by simp)
      resolved := fun _ hresolved => absurd (hstopping.symm.trans hresolved) (by simp) }
  · exact h

theorem flush_found (found : TelemetryRuntime) (hidle : found.flushing = .idle)
    (batchId : Option String) (now : ClockReading) :
    (found.flush batchId now).2.flushing ≠ .idle ∧
      ((found.flush batchId now).2.flushing = .storing →
        ((found.flush batchId now).2.activeStartedAt = none ↔ ¬ found.Backlog)) ∧
      ∀ outcome, (found.flush batchId now).2.flushing = .settling outcome →
        FinalOutcome found (found.flush batchId now).2 outcome := by
  cases hpending : found.pending with
  | some batch =>
    rw [TelemetryRuntime.flush_resend hidle hpending]
    refine ⟨by simp, fun _ => ?_, fun _ h => nomatch h⟩
    simp [TelemetryRuntime.Backlog, hpending]
  | none =>
    have hnone : ¬ found.Backlog := fun h => h.1 hpending
    cases hstarted : found.activeStartedAt with
    | none =>
      rw [TelemetryRuntime.flush_empty hidle hpending hstarted]
      exact ⟨by simp, fun h => (nomatch h), fun _ _ _ => ⟨hpending, by simp [hstarted, hnone]⟩⟩
    | some startedAt =>
      cases hbatch : validateGuestQueueTelemetryBatch batchId (activeBatch found startedAt now) with
      | none =>
        rw [TelemetryRuntime.flush_invalid hidle hpending hstarted hbatch]
        refine ⟨by simp, fun h => (nomatch h), fun outcome hsettling hok => ?_⟩
        cases hsettling
        cases hok
      | some batch =>
        rw [TelemetryRuntime.flush_close hidle hpending hstarted hbatch]
        exact ⟨by simp, fun _ => by simp [hnone], fun _ h => nomatch h⟩

theorem SchedulerInv.operate (h : SchedulerInv s) {batchId : Option String} {now : ClockReading}
    (hallowed : s.inFlight = .queued → TelemetryAllowed s.telemetry (.flush batchId now)) :
    SchedulerInv (s.operate batchId now) := by
  rw [SchedulerWorld.operate]
  split
  · rename_i hqueued
    have hidle := h.idle (by rw [hqueued]; simp)
    obtain ⟨hbusy, hsending, hsettled⟩ := flush_found s.telemetry.runtime hidle batchId now
    obtain ⟨made, current, hledger⟩ := h.ledger
    exact {
      ledger := hledger.next _ (hallowed hqueued)
      idle := fun hnot => absurd rfl hnot
      busy := fun _ => hbusy
      timer := h.timer
      stopped := h.stopped
      notFinal := by
        intro hstopping
        dsimp only [SchedulerWorld.withTelemetry] at hstopping ⊢
        have hnot : s.stopping ≠ .flushing := by
          rcases hstopping with hnone | hwaiting | ⟨-, hinFlight⟩
          · rw [hnone]; simp
          · rw [hwaiting]; simp
          · cases hinFlight
        rw [if_neg hnot]
        rcases hstopping with hnone | hwaiting | ⟨-, hinFlight⟩
        · exact h.notFinal (Or.inl hnone)
        · exact h.notFinal (Or.inr (Or.inl hwaiting))
        · cases hinFlight
      inFlight := fun _ => by simp
      running := by
        intro hfinal _
        exact ⟨s.telemetry.runtime, if_pos hfinal, hsending, hsettled⟩
      reporting := fun _ _ hreporting => nomatch hreporting
      resolved := by
        intro outcome hresolved
        have hnone := (h.resolved outcome hresolved).1
        rw [hqueued] at hnone
        cases hnone }
  · exact h

theorem SchedulerInv.withLedger (h : SchedulerInv s) {telemetry : TelemetryWorld}
    (hruntime : telemetry.runtime = s.telemetry.runtime)
    (hledger : ∃ made current, Ledger telemetry made current) :
    SchedulerInv { s with telemetry } where
  ledger := hledger
  idle := by rw [hruntime]; exact h.idle
  busy := by rw [hruntime]; exact h.busy
  timer := h.timer
  stopped := h.stopped
  notFinal := h.notFinal
  inFlight := h.inFlight
  running := by rw [hruntime]; exact h.running
  reporting := by rw [hruntime]; exact h.reporting
  resolved := by rw [hruntime]; exact h.resolved

theorem SchedulerInv.storeAnswers (h : SchedulerInv s) {answer : StoreAnswer}
    (hallowed : TelemetryAllowed s.telemetry (.storeAnswers answer)) :
    SchedulerInv (s.withTelemetry (.storeAnswers answer)) := by
  obtain ⟨made, current, hledger⟩ := h.ledger
  have hnext := hledger.next _ hallowed
  by_cases hstoring : s.telemetry.runtime.flushing = .storing
  · have hrunning : s.inFlight = .running := by
      by_contra hnot
      rw [h.idle hnot] at hstoring
      cases hstoring
    have hanswered : ∃ outcome,
        (s.telemetry.runtime.answered answer).flushing = .settling outcome ∧
        (s.telemetry.runtime.answered answer).activeStartedAt =
          s.telemetry.runtime.activeStartedAt ∧
        (outcome.ok = true → (s.telemetry.runtime.answered answer).pending = none) := by
      unfold TelemetryRuntime.answered
      rw [hstoring]
      cases answer with
      | rejected => exact ⟨_, rfl, rfl, fun hok => nomatch hok⟩
      | unusable => exact ⟨_, rfl, rfl, fun hok => nomatch hok⟩
      | stored duplicate => exact ⟨_, rfl, rfl, fun _ => rfl⟩
    obtain ⟨outcome, hsettling, hactive, hpending⟩ := hanswered
    exact {
      ledger := hnext
      idle := fun hnot => absurd hrunning hnot
      busy := by
        intro _ hidle
        rw [show (s.withTelemetry (.storeAnswers answer)).telemetry.runtime =
          s.telemetry.runtime.answered answer from rfl, hsettling] at hidle
        cases hidle
      timer := h.timer
      stopped := h.stopped
      notFinal := h.notFinal
      inFlight := h.inFlight
      running := by
        intro hfinal _
        obtain ⟨found, hfound, hsending, -⟩ := h.running hfinal hrunning
        refine ⟨found, hfound, ?_, ?_⟩
        · intro hstill
          rw [show (s.withTelemetry (.storeAnswers answer)).telemetry.runtime =
            s.telemetry.runtime.answered answer from rfl, hsettling] at hstill
          cases hstill
        · intro settled hsettled hok
          rw [show (s.withTelemetry (.storeAnswers answer)).telemetry.runtime =
            s.telemetry.runtime.answered answer from rfl] at hsettled ⊢
          rw [hsettling] at hsettled
          cases hsettled
          exact ⟨hpending hok, by rw [hactive]; exact hsending hstoring⟩
      reporting := by
        intro settled _ hreporting
        change s.inFlight = _ at hreporting
        rw [hrunning] at hreporting
        cases hreporting
      resolved := by
        intro settled hresolved
        have hnone := (h.resolved settled hresolved).1
        rw [hrunning] at hnone
        cases hnone }
  · have hruntime : s.telemetry.runtime.answered answer = s.telemetry.runtime := by
      unfold TelemetryRuntime.answered
      cases hflushing : s.telemetry.runtime.flushing with
      | idle => rfl
      | settling outcome => rfl
      | storing => exact absurd hflushing hstoring
    exact h.withLedger hruntime hnext

theorem SchedulerInv.settle (h : SchedulerInv s) : SchedulerInv s.settle := by
  obtain ⟨made, current, hledger⟩ := h.ledger
  have hnext := hledger.next .settle trivial
  rw [SchedulerWorld.settle]
  split
  · rename_i outcome hrunning hsettling
    have hruntime : s.telemetry.runtime.settle = { s.telemetry.runtime with flushing := .idle } := by
      unfold TelemetryRuntime.settle
      rw [hsettling]
    exact {
      ledger := hnext
      idle := by
        intro _
        change s.telemetry.runtime.settle.flushing = .idle
        rw [hruntime]
      busy := fun hrun => nomatch hrun
      timer := h.timer
      stopped := h.stopped
      notFinal := by
        rintro (hnone | hwaiting | ⟨-, hqueued⟩)
        · exact h.notFinal (Or.inl hnone)
        · exact h.notFinal (Or.inr (Or.inl hwaiting))
        · cases hqueued
      inFlight := fun _ => by simp
      running := fun _ hrun => nomatch hrun
      reporting := by
        intro reported hfinal hreporting
        cases hreporting
        obtain ⟨found, hfound, -, hsettled⟩ := h.running hfinal hrunning
        refine ⟨found, hfound, fun hok => ?_⟩
        change s.telemetry.runtime.settle.pending = none ∧ _
        rw [show ((s.withTelemetry .settle).telemetry.runtime) = s.telemetry.runtime.settle from rfl,
          hruntime]
        exact hsettled outcome hsettling hok
      resolved := by
        intro settled hresolved
        have hnone := (h.resolved settled hresolved).1
        rw [hrunning] at hnone
        cases hnone }
  · rename_i hother
    by_cases hrunning : s.inFlight = .running
    · have hruntime : s.telemetry.runtime.settle = s.telemetry.runtime := by
        unfold TelemetryRuntime.settle
        cases hflushing : s.telemetry.runtime.flushing with
        | idle => rfl
        | storing => rfl
        | settling outcome => exact absurd hflushing (hother outcome hrunning)
      exact h.withLedger hruntime hnext
    · have hruntime : s.telemetry.runtime.settle = s.telemetry.runtime := by
        unfold TelemetryRuntime.settle
        rw [h.idle hrunning]
      exact h.withLedger hruntime hnext

theorem SchedulerInv.report (h : SchedulerInv s) : SchedulerInv s.report := by
  rw [SchedulerWorld.report]
  split
  · rename_i outcome hreporting
    have hidle := h.idle (by rw [hreporting]; simp)
    refine {
      ledger := h.ledger
      idle := fun _ => hidle
      busy := fun hrun => nomatch hrun
      timer := ?_
      stopped := ?_
      notFinal := ?_
      inFlight := ?_
      running := fun _ hrun => nomatch hrun
      reporting := fun _ _ hrun => nomatch hrun
      resolved := ?_ }
    · intro hstopped
      change s.stopped = true at hstopped
      dsimp only
      rw [h.timer hstopped, hstopped, Bool.not_true, Bool.and_false, Bool.or_self]
    · intro hne
      apply h.stopped
      intro hnone
      dsimp only at hne
      rw [hnone] at hne
      exact hne rfl
    · cases hstopping : s.stopping with
      | none => exact fun _ => h.notFinal (Or.inl hstopping)
      | waiting => exact fun _ => h.notFinal (Or.inr (Or.inl hstopping))
      | flushing => simp
      | resolved other => simp
    · cases s.stopping <;> simp
    · cases hstopping : s.stopping with
      | none => simp
      | waiting => simp
      | flushing =>
        intro resolved hresolved
        cases hresolved
        exact ⟨rfl, h.reporting outcome hstopping hreporting⟩
      | resolved other =>
        have hnone := (h.resolved other hstopping).1
        rw [hreporting] at hnone
        cases hnone
  · exact h

theorem SchedulerInv.resume (h : SchedulerInv s) : SchedulerInv s.resume := by
  rw [SchedulerWorld.resume]
  split
  · rename_i hwaiting hnone
    have hidle := h.idle (by rw [hnone]; simp)
    exact {
      ledger := h.ledger
      idle := fun _ => hidle
      busy := fun hrun => nomatch hrun
      timer := h.timer
      stopped := fun _ => h.stopped (by rw [hwaiting]; simp)
      notFinal := fun _ => h.notFinal (Or.inr (Or.inl hwaiting))
      inFlight := fun _ => by simp
      running := fun _ hrun => nomatch hrun
      reporting := fun _ _ hrun => nomatch hrun
      resolved := fun _ hresolved => nomatch hresolved }
  · exact h

theorem SchedulerInv.stop (h : SchedulerInv s) : SchedulerInv s.stop := by
  rw [SchedulerWorld.stop]
  split
  · rename_i hstopping
    split
    · rename_i hnone
      have hidle := h.idle (by rw [hnone]; simp)
      exact {
        ledger := h.ledger
        idle := fun _ => hidle
        busy := fun hrun => nomatch hrun
        timer := fun _ => rfl
        stopped := fun _ => rfl
        notFinal := fun _ => h.notFinal (Or.inl hstopping)
        inFlight := fun _ => by simp
        running := fun _ hrun => nomatch hrun
        reporting := fun _ _ hrun => nomatch hrun
        resolved := fun _ hresolved => nomatch hresolved }
    · exact {
        ledger := h.ledger
        idle := h.idle
        busy := h.busy
        timer := fun _ => rfl
        stopped := fun _ => rfl
        notFinal := fun _ => h.notFinal (Or.inl hstopping)
        inFlight := fun hfinal => nomatch hfinal
        running := fun hfinal => nomatch hfinal
        reporting := fun _ hfinal => nomatch hfinal
        resolved := fun _ hresolved => nomatch hresolved }
  · exact {
      ledger := h.ledger
      idle := h.idle
      busy := h.busy
      timer := fun _ => rfl
      stopped := fun _ => rfl
      notFinal := h.notFinal
      inFlight := h.inFlight
      running := h.running
      reporting := h.reporting
      resolved := h.resolved }

theorem SchedulerInv.next (h : SchedulerInv s) {event : SchedulerEvent}
    (hallowed : SchedulerAllowed s event) : SchedulerInv (s.next event) := by
  obtain ⟨made, current, hledger⟩ := h.ledger
  cases event with
  | record outcome now => exact h.record hallowed
  | timer => exact h.timerFires
  | operate batchId now => exact h.operate hallowed
  | storeCommits batch =>
    exact h.withLedger rfl (hledger.next (.storeCommits batch) hallowed)
  | storeAnswers answer => exact h.storeAnswers hallowed
  | settle => exact h.settle
  | report => exact h.report
  | resume => exact h.resume
  | stop => exact h.stop

theorem scheduler_inv {events : List SchedulerEvent}
    (h : Machine.Along schedulerStep SchedulerAllowed .initial events) :
    SchedulerInv (Machine.run schedulerStep .initial events) :=
  Machine.run_preserves (fun _ _ hallowed hinv => hinv.next hallowed) h .initial

/-- When `stop` resolves with success, nothing is left exactly if the final
flush did not find a backlog. -/
theorem stop_nothingLeft_iff {events : List SchedulerEvent}
    (h : Machine.Along schedulerStep SchedulerAllowed .initial events)
    {outcome : GuestQueueTelemetryFlushResult}
    (hresolved : (Machine.run schedulerStep .initial events).stopping = .resolved outcome)
    (hok : outcome.ok = true) :
    ∃ found, (Machine.run schedulerStep .initial events).atFinalFlush = some found ∧
      (NothingLeft (Machine.run schedulerStep .initial events).telemetry ↔ ¬ found.Backlog) := by
  have hinv := scheduler_inv h
  obtain ⟨-, found, hfound, houtcome⟩ := hinv.resolved outcome hresolved
  obtain ⟨made, current, hledger⟩ := hinv.ledger
  obtain ⟨hpending, hbacklog⟩ := houtcome hok
  refine ⟨found, hfound, ?_⟩
  rw [hledger.nothingLeft, hbacklog]
  exact and_iff_right hpending

/-! ### Runs -/

/-- One outcome, stored by the flush that `stop` makes. -/
def quietShutdown : List SchedulerEvent :=
  [.record .committed (some 100), .stop, .operate (some "batch-1") (some 101)] ++
    [.storeCommits sampleBatch, .storeAnswers (.stored false), .settle, .report]

/-- The store fails once, another outcome is recorded, and `stop` sends only the
batch that failed. -/
def shutdownAfterFailure : List SchedulerEvent :=
  [.record .committed (some 100), .timer, .operate (some "batch-1") (some 101)] ++
    [.storeAnswers .unusable, .settle, .report, .record .committed (some 102), .stop,
      .operate none none, .storeCommits sampleBatch, .storeAnswers (.stored false), .settle,
      .report]

theorem quietShutdown_allowed :
    Machine.Along schedulerStep SchedulerAllowed .initial quietShutdown := by
  have hfirst : Machine.run schedulerStep .initial
      [.record .committed (some 100), .stop, .operate (some "batch-1") (some 101)] =
      { telemetry := samplePending, stopped := true, timer := false, rescheduling := false,
        inFlight := .running, stopping := .flushing,
        atFinalFlush := some (TelemetryRuntime.initial.record .committed (some 100)).2 } := by
    rw [← samplePending_eq]
    rfl
  rw [quietShutdown, Machine.along_append, hfirst]
  simp only [Machine.Along, schedulerStep, SchedulerWorld.next, SchedulerAllowed]
  refine ⟨⟨rfl, trivial, fun _ _ _ _ hid => (by cases hid), trivial⟩, List.mem_singleton.mpr rfl, ?_,
    trivial, trivial, trivial⟩
  intro batch hbatch
  cases hbatch
  exact List.mem_singleton.mpr rfl

theorem shutdownAfterFailure_allowed :
    Machine.Along schedulerStep SchedulerAllowed .initial shutdownAfterFailure := by
  have hfirst : Machine.run schedulerStep .initial
      [.record .committed (some 100), .timer, .operate (some "batch-1") (some 101)] =
      { telemetry := samplePending, stopped := false, timer := false, rescheduling := true,
        inFlight := .running, stopping := .none, atFinalFlush := none } := by
    rw [← samplePending_eq]
    rfl
  rw [shutdownAfterFailure, Machine.along_append, hfirst]
  simp only [Machine.Along, schedulerStep, SchedulerWorld.next, SchedulerAllowed]
  refine ⟨⟨rfl, trivial, fun _ _ _ _ hid => (by cases hid), trivial⟩, fun _ hnone => (by cases hnone),
    trivial, trivial, rfl, trivial, fun _ hneeds => (by cases hneeds),
    List.mem_cons_self, ?_, trivial, trivial, trivial⟩
  intro batch hbatch
  cases hbatch
  exact List.mem_singleton.mpr rfl

theorem stop_nothingLeft_iff_sample :
    ∃ found, (Machine.run schedulerStep .initial quietShutdown).atFinalFlush = some found ∧
      (NothingLeft (Machine.run schedulerStep .initial quietShutdown).telemetry ↔
        ¬ found.Backlog) :=
  have hresolved : (Machine.run schedulerStep .initial quietShutdown).stopping =
      .resolved (.stored false) := by decide +kernel
  stop_nothingLeft_iff quietShutdown_allowed hresolved rfl

/-- Shutdown can answer success and lose an outcome. -/
theorem shutdown_loses_outcome :
    Machine.Along schedulerStep SchedulerAllowed .initial shutdownAfterFailure ∧
      (Machine.run schedulerStep .initial shutdownAfterFailure).stopping =
        .resolved (.stored false) ∧
      ¬ NothingLeft (Machine.run schedulerStep .initial shutdownAfterFailure).telemetry := by
  refine ⟨shutdownAfterFailure_allowed, by decide +kernel, fun hleft => ?_⟩
  have hopen : (Machine.run schedulerStep .initial shutdownAfterFailure).telemetry.runtime.active
      .committed = 1 := by decide +kernel
  rw [hleft.active .committed] at hopen
  cases hopen

end Outscan

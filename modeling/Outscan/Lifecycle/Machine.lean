import Outscan.Lifecycle.Aggregate
import Outscan.Quota.Active

/-! The life of one scan: what may happen to its aggregate, and the invariant
that every such event keeps. -/
namespace Outscan

open Relational Transactional

def newLease (scan : GuestScan) (attemptId : String) (attemptNo fence now : Nat) :
    GuestScanAttempt :=
  let hardDeadline := min (now + guestAttemptHardDeadlineSeconds) scan.resultAccessExpiresAt
  { id := attemptId, guestScanId := scan.id, attemptNo, monotonicFence := fence,
    leaseVersion := 1,
    leaseExpiresAt := some (min (now + guestAttemptLeaseSeconds) hardDeadline), hardDeadline,
    attemptState := .leased, createdAt := now, updatedAt := now, startedAt := none,
    finishedAt := none }

def leaseOf (scan : GuestScan) (attempt : GuestScanAttempt) : GuestAttemptLease where
  guestScanId := scan.id
  attemptId := attempt.id
  attemptNo := attempt.attemptNo
  monotonicFence := attempt.monotonicFence
  leaseVersion := attempt.leaseVersion
  canonicalTarget := scan.canonicalTarget
  leaseExpiresAt := attempt.leaseExpiresAt.getD 0
  hardDeadline := attempt.hardDeadline

def Reservation.release (row : Reservation) (now : Nat) (reason : ReleaseReason) : Reservation :=
  if row.released.isSome then row else { row with released := some (now, reason) }

namespace Lifecycle

/-- The states in which an attempt that did not succeed is closed. -/
def closed (state : AttemptState) : Bool :=
  state == .superseded || state == .timedOut || state == .cancelled

def ClosesTo (before after : AttemptState) : Prop :=
  (before.active = true ∧ after = .superseded) ∨
    (before = .running ∧ (after = .timedOut ∨ after = .cancelled))

inductive Event where
  | lease (lease : GuestAttemptLease)
  | start (command : LeaseCommand)
  | renew (command : LeaseCommand) (leaseVersion leaseExpiresAt : Nat)
  | commit (submission : ResultSubmissionIdentity) (now : Nat)
  | finish (job : JobState)

/-- The command names the newest attempt and its lease, which has not run out. -/
structure Holds (g : Aggregate) (current : GuestScanAttempt) (command : LeaseCommand)
    (now : Nat) : Prop where
  running : g.scan.jobState = .running
  attempt : current.id = command.attemptId
  fence : current.monotonicFence = command.monotonicFence
  version : current.leaseVersion = command.leaseVersion
  lease : ∃ expiry, current.leaseExpiresAt = some expiry ∧ now < expiry
  deadline : now < current.hardDeadline

inductive Step : Aggregate → Event → Aggregate → Prop where
  | leaseFirst {g : Aggregate} (attemptId : String) (now : Nat)
      (queued : g.scan.jobState = .queued) (access : now < g.scan.resultAccessExpiresAt) :
      Step g (.lease (leaseOf g.scan (newLease g.scan attemptId 1 1 now)))
        { g with
          scan := (runJob attemptId 1 now).apply g.scan
          attempts := newLease g.scan attemptId 1 1 now :: g.attempts }
  | leaseNext {g : Aggregate} (current : GuestScanAttempt) (earlier : List GuestScanAttempt)
      (attemptId : String) (now : Nat) (running : g.scan.jobState = .running)
      (attempts : g.attempts = current :: earlier)
      (active : current.attemptState.active = true)
      (few : current.attemptNo < guestMaxAttempts)
      (access : now < g.scan.resultAccessExpiresAt)
      (lapsed : ∀ expiry ∈ current.leaseExpiresAt, expiry ≤ now ∨ current.hardDeadline ≤ now) :
      Step g
        (.lease (leaseOf g.scan
          (newLease g.scan attemptId (current.attemptNo + 1) (current.monotonicFence + 1) now)))
        { g with
          scan := (runJob attemptId (current.monotonicFence + 1) now).apply g.scan
          attempts :=
            newLease g.scan attemptId (current.attemptNo + 1) (current.monotonicFence + 1) now ::
              (closeAttempt (retiredState current now) now).apply current :: earlier }
  | start {g : Aggregate} (current : GuestScanAttempt) (earlier : List GuestScanAttempt)
      (command : LeaseCommand) (now : Nat) (attempts : g.attempts = current :: earlier)
      (holds : Holds g current command now) (leased : current.attemptState = .leased) :
      Step g (.start command)
        { g with attempts := (startAttempt now).apply current :: earlier }
  | renew {g : Aggregate} (current : GuestScanAttempt) (earlier : List GuestScanAttempt)
      (command : LeaseCommand) (now expiry : Nat) (attempts : g.attempts = current :: earlier)
      (holds : Holds g current command now) (running : current.attemptState = .running)
      (expiry_le : expiry ≤ current.hardDeadline)
      (extended : ∀ previous ∈ current.leaseExpiresAt, previous < expiry) :
      Step g (.renew command (command.leaseVersion + 1) expiry)
        { g with
          attempts := (renewAttempt (command.leaseVersion + 1) expiry now).apply current ::
            earlier }
  | commit {g : Aggregate} (current : GuestScanAttempt) (earlier : List GuestScanAttempt)
      (submission : ResultSubmissionIdentity) (now : Nat) (row : GuestResult)
      (reservation : Reservation) (attempts : g.attempts = current :: earlier)
      (jobRunning : g.scan.jobState = .running) (running : current.attemptState = .running)
      (attempt : current.id = submission.attemptId)
      (fence : current.monotonicFence = submission.fence)
      (lease : ∃ expiry, current.leaseExpiresAt = some expiry ∧ now < expiry)
      (deadline : now < current.hardDeadline)
      (accepted : row.acceptedAttemptId = submission.attemptId ∧
        row.acceptedFence = submission.fence ∧ row.payloadDigest = submission.payloadDigest ∧
        row.completedAt = now)
      (reserved : g.reservation = some reservation) :
      Step g (.commit submission now)
        { scan := (succeedScan submission now).apply g.scan
          attempts := (succeedAttempt now).apply current :: earlier
          result := some row
          reservation := some (reservation.release now .terminalResult) }
  | finishQueued {g : Aggregate} (job : JobState) (now : Nat) (reason : ReleaseReason)
      (reservation : Reservation) (queued : g.scan.jobState = .queued)
      (ends : job = .expired ∨ job = .cancelled) (reserved : g.reservation = some reservation) :
      Step g (.finish job)
        { g with
          scan := (endJob job now).apply g.scan
          reservation := some (reservation.release now reason) }
  | finishRunning {g : Aggregate} (current : GuestScanAttempt)
      (earlier : List GuestScanAttempt) (job : JobState) (state : AttemptState) (now : Nat)
      (reason : ReleaseReason) (reservation : Reservation)
      (running : g.scan.jobState = .running) (attempts : g.attempts = current :: earlier)
      (ends : job = .failed ∨ job = .expired ∨ job = .cancelled)
      (closes : ClosesTo current.attemptState state)
      (reserved : g.reservation = some reservation) :
      Step g (.finish job)
        { g with
          scan := (endJob job now).apply g.scan
          attempts := (closeAttempt state now).apply current :: earlier
          reservation := some (reservation.release now reason) }

/-! ### The invariant -/

def Numbered : List GuestScanAttempt → Prop
  | [] => True
  | attempt :: earlier =>
    attempt.attemptNo = earlier.length + 1 ∧ attempt.monotonicFence = earlier.length + 1 ∧
      Numbered earlier

def Held (g : Aggregate) : Prop := ∃ row, g.reservation = some row ∧ row.released = none

def Returned (g : Aggregate) : Prop :=
  ∃ row, g.reservation = some row ∧ row.released.isSome = true

inductive Phase (g : Aggregate) : Prop where
  | queued (job : g.scan.jobState = .queued) (attempts : g.attempts = [])
      (result : g.result = none) (held : Held g)
  | running (current : GuestScanAttempt) (earlier : List GuestScanAttempt)
      (job : g.scan.jobState = .running) (attempts : g.attempts = current :: earlier)
      (active : current.attemptState.active = true)
      (updated : g.scan.updatedAt = current.createdAt)
      (result : g.result = none) (held : Held g)
  | succeeded (current : GuestScanAttempt) (earlier : List GuestScanAttempt)
      (row : GuestResult) (job : g.scan.jobState = .succeeded)
      (attempts : g.attempts = current :: earlier)
      (attempt : current.attemptState = .succeeded) (result : g.result = some row)
      (acceptedAttempt : g.scan.acceptedAttemptId = some row.acceptedAttemptId)
      (acceptedFence : g.scan.acceptedFence = some row.acceptedFence)
      (acceptedDigest : g.scan.acceptedPayloadDigest = some row.payloadDigest)
      (isCurrent : row.acceptedAttemptId = current.id ∧
        row.acceptedFence = current.monotonicFence)
      (returned : Returned g)
  | ended (job : g.scan.jobState = .failed ∨ g.scan.jobState = .cancelled ∨
        g.scan.jobState = .expired)
      (attempt : ∀ current ∈ g.attempts.head?, closed current.attemptState = true)
      (result : g.result = none) (returned : Returned g)

/-- The attempts form one numbered chain under the scan, of which only the
newest may be open. -/
structure Chain (g : Aggregate) : Prop where
  numbered : Numbered g.attempts
  few : g.attempts.length ≤ guestMaxAttempts
  current : g.scan.currentAttemptId = g.attempts.head?.map GuestScanAttempt.id
  fence : g.scan.currentFence = g.attempts.length
  earlier : ∀ attempt ∈ g.attempts.tail, closed attempt.attemptState = true
  deadline : ∀ attempt ∈ g.attempts, attempt.hardDeadline ≤ g.scan.resultAccessExpiresAt

structure Inv (g : Aggregate) : Prop extends Chain g where
  phase : Phase g

theorem release_isSome (row : Reservation) (now : Nat) (reason : ReleaseReason) :
    (row.release now reason).released.isSome = true := by
  unfold Reservation.release
  split
  · rename_i h
    exact h
  · rfl

theorem closed_of_closesTo {before after : AttemptState} (h : ClosesTo before after) :
    closed after = true := by
  rcases h with ⟨-, rfl⟩ | ⟨-, rfl | rfl⟩ <;> rfl

theorem closesTo_retiredState {attempt : GuestScanAttempt}
    (hactive : attempt.attemptState.active = true) (now : Nat) :
    ClosesTo attempt.attemptState (retiredState attempt now) := by
  unfold retiredState
  split
  · rename_i h
    exact .inr ⟨h.1, .inl rfl⟩
  · exact .inl ⟨hactive, rfl⟩

theorem Chain.replace {g g' : Aggregate} {current changed : GuestScanAttempt}
    {earlier : List GuestScanAttempt} (h : Chain g) (hattempts : g.attempts = current :: earlier)
    (hattempts' : g'.attempts = changed :: earlier)
    (hsame : changed.id = current.id ∧ changed.attemptNo = current.attemptNo ∧
      changed.monotonicFence = current.monotonicFence ∧
      changed.hardDeadline = current.hardDeadline)
    (hscan : g'.scan.currentAttemptId = g.scan.currentAttemptId ∧
      g'.scan.currentFence = g.scan.currentFence ∧
      g'.scan.resultAccessExpiresAt = g.scan.resultAccessExpiresAt) : Chain g' := by
  obtain ⟨hnumbered, hfew, hcurrent, hfence, hearlier, hdeadline⟩ := h
  obtain ⟨hid, hno, hmonotonic, hhard⟩ := hsame
  obtain ⟨hscanCurrent, hscanFence, haccess⟩ := hscan
  rw [hattempts] at hnumbered hfew hcurrent hfence hearlier hdeadline
  refine ⟨?_, ?_, ?_, ?_, ?_, ?_⟩
  · rw [hattempts']
    exact ⟨hno.trans hnumbered.1, hmonotonic.trans hnumbered.2.1, hnumbered.2.2⟩
  · rw [hattempts']
    exact hfew
  · rw [hattempts', hscanCurrent, hcurrent, List.head?_cons, List.head?_cons, Option.map_some,
      Option.map_some, hid]
  · rw [hattempts', hscanFence, hfence]
    rfl
  · rw [hattempts']
    exact hearlier
  · rw [hattempts', haccess]
    intro attempt hattempt
    rcases List.mem_cons.mp hattempt with rfl | hattempt
    · rw [hhard]
      exact hdeadline current (List.mem_cons_self ..)
    · exact hdeadline attempt (List.mem_cons_of_mem _ hattempt)

namespace Inv

variable {g : Aggregate}

theorem running_of_attempts (h : Inv g) (hjob : g.scan.jobState = .running) :
    ∃ current earlier, g.attempts = current :: earlier ∧
      current.attemptState.active = true ∧ g.scan.updatedAt = current.createdAt ∧
      g.result = none ∧ Held g := by
  cases h.phase with
  | queued job => rw [hjob] at job; cases job
  | running current earlier job attempts active updated result held =>
    exact ⟨current, earlier, attempts, active, updated, result, held⟩
  | succeeded _ _ _ job => rw [hjob] at job; cases job
  | ended job => rw [hjob] at job; simp at job

theorem queued_attempts (h : Inv g) (hjob : g.scan.jobState = .queued) :
    g.attempts = [] ∧ g.result = none ∧ Held g := by
  cases h.phase with
  | queued _ attempts result held => exact ⟨attempts, result, held⟩
  | running _ _ job => rw [hjob] at job; cases job
  | succeeded _ _ _ job => rw [hjob] at job; cases job
  | ended job => rw [hjob] at job; simp at job

theorem currentFence_eq {current : GuestScanAttempt} {earlier : List GuestScanAttempt}
    (hinv : Inv g) (h : g.attempts = current :: earlier) :
    g.scan.currentFence = current.monotonicFence := by
  have hfence := hinv.fence
  have hnumbered := hinv.numbered
  rw [h] at hfence hnumbered
  rw [hfence, hnumbered.2.1]
  rfl

theorem returned_of_terminal (h : Inv g) (hjob : g.scan.jobState.active = false) :
    Returned g := by
  cases h.phase with
  | queued job => rw [job] at hjob; cases hjob
  | running _ _ job => rw [job] at hjob; cases hjob
  | succeeded _ _ _ _ _ _ _ _ _ _ _ returned => exact returned
  | ended _ _ _ returned => exact returned

end Inv

/-- The step lemma: every event keeps the invariant. -/
theorem Inv.step {g g' : Aggregate} {event : Event} (h : Inv g) (hstep : Step g event g') :
    Inv g' := by
  cases hstep with
  | leaseFirst attemptId now queued access =>
    obtain ⟨hattempts, hresult, hheld⟩ := h.queued_attempts queued
    refine ⟨⟨?_, ?_, rfl, ?_, ?_, ?_⟩, ?_⟩
    · simp [hattempts, Numbered, newLease]
    · simp [hattempts, guestMaxAttempts]
    · simp [hattempts, runJob, scanEdit]
    · simp [hattempts]
    · intro attempt hattempt
      simp only [hattempts, List.mem_singleton] at hattempt
      subst hattempt
      exact Nat.min_le_right _ _
    · exact .running _ _ rfl rfl rfl rfl hresult hheld
  | leaseNext current earlier attemptId now running attempts active few access lapsed =>
    obtain ⟨-, -, -, -, -, hresult, hheld⟩ := h.running_of_attempts running
    have hnumbered := h.numbered
    have hearlier := h.earlier
    have hdeadline := h.deadline
    rw [attempts] at hnumbered hearlier hdeadline
    obtain ⟨hno, hfence, hrest⟩ := hnumbered
    have hclosed := closed_of_closesTo (closesTo_retiredState active now)
    refine ⟨⟨⟨?_, ?_, ?_, ?_, hrest⟩, ?_, rfl, ?_, ?_, ?_⟩, ?_⟩
    · simp [newLease, hno]
    · simp [newLease, hfence]
    · exact hno
    · exact hfence
    · simp only [List.length_cons]
      omega
    · change current.monotonicFence + 1 = _
      simp [hfence]
    · intro attempt hattempt
      rcases List.mem_cons.mp hattempt with rfl | hattempt
      · exact hclosed
      · exact hearlier attempt hattempt
    · intro attempt hattempt
      rcases List.mem_cons.mp hattempt with rfl | hattempt
      · exact Nat.min_le_right _ _
      · rcases List.mem_cons.mp hattempt with rfl | hattempt
        · exact hdeadline current (List.mem_cons_self ..)
        · exact hdeadline attempt (List.mem_cons_of_mem _ hattempt)
    · exact .running _ _ rfl rfl rfl rfl hresult hheld
  | start current earlier command now attempts holds leased =>
    obtain ⟨_, _, hattempts, -, hupdated, hresult, hheld⟩ := h.running_of_attempts holds.running
    rw [attempts] at hattempts
    cases hattempts
    exact ⟨h.toChain.replace attempts rfl ⟨rfl, rfl, rfl, rfl⟩ ⟨rfl, rfl, rfl⟩,
      .running _ _ holds.running rfl rfl hupdated hresult hheld⟩
  | renew current earlier command now expiry attempts holds running expiry_le extended =>
    obtain ⟨_, _, hattempts, hactive, hupdated, hresult, hheld⟩ :=
      h.running_of_attempts holds.running
    rw [attempts] at hattempts
    cases hattempts
    exact ⟨h.toChain.replace attempts rfl ⟨rfl, rfl, rfl, rfl⟩ ⟨rfl, rfl, rfl⟩,
      .running _ _ holds.running rfl hactive hupdated hresult hheld⟩
  | commit current earlier submission now row reservation attempts jobRunning running attempt
      fence lease deadline accepted reserved =>
    obtain ⟨hid, hfence, hdigest, -⟩ := accepted
    refine ⟨h.toChain.replace attempts rfl ⟨rfl, rfl, rfl, rfl⟩ ⟨rfl, rfl, rfl⟩, ?_⟩
    refine .succeeded _ _ row rfl rfl rfl rfl ?_ ?_ ?_ ⟨?_, ?_⟩ ⟨_, rfl, release_isSome _ _ _⟩
    · rw [hid]
      rfl
    · rw [hfence]
      rfl
    · rw [hdigest]
      rfl
    · exact hid.trans attempt.symm
    · exact hfence.trans fence.symm
  | finishQueued job now reason reservation queued ends reserved =>
    obtain ⟨hattempts, hresult, -⟩ := h.queued_attempts queued
    obtain ⟨hnumbered, hfew, hcurrent, hfence, hearlier, hdeadline⟩ := h.toChain
    refine ⟨⟨hnumbered, hfew, hcurrent, hfence, hearlier, hdeadline⟩, .ended ?_ ?_ hresult
      ⟨_, rfl, release_isSome _ _ _⟩⟩
    · rcases ends with rfl | rfl
      · exact .inr (.inr rfl)
      · exact .inr (.inl rfl)
    · intro current hcurrent
      simp [hattempts] at hcurrent
  | finishRunning current earlier job state now reason reservation running attempts ends closes
      reserved =>
    obtain ⟨-, -, -, -, -, hresult, -⟩ := h.running_of_attempts running
    refine ⟨h.toChain.replace attempts rfl ⟨rfl, rfl, rfl, rfl⟩ ⟨rfl, rfl, rfl⟩, .ended ?_ ?_
      hresult ⟨_, rfl, release_isSome _ _ _⟩⟩
    · rcases ends with rfl | rfl | rfl
      · exact .inl rfl
      · exact .inr (.inr rfl)
      · exact .inr (.inl rfl)
    · intro closedAttempt hclosed
      rw [List.head?_cons, Option.mem_some_iff] at hclosed
      subst hclosed
      exact closed_of_closesTo closes

end Lifecycle

end Outscan

import Outscan.GuestQueue.Heartbeat
import Outscan.Lifecycle.Writes

/-! The lease a worker holds and the rows behind it: what keeps it, and what a
start or a renewal makes of it. -/
namespace Outscan

open Relational Transactional Lifecycle

/-- The lease is that of the newest attempt, which is open under a running job. -/
structure Standing (lease : GuestAttemptLease) (current : GuestScanAttempt) (g : Aggregate) :
    Prop where
  job : g.scan.jobState = .running
  newest : g.attempts.head? = some current
  active : current.attemptState.active = true
  lease : leaseOf g.scan current = lease

namespace Standing

variable {lease : GuestAttemptLease} {current : GuestScanAttempt} {g : Aggregate}

theorem cons (h : Standing lease current g) : g.attempts = current :: g.attempts.tail :=
  (List.cons_head?_tail h.newest).symm

theorem mem (h : Standing lease current g) : current ∈ g.attempts := by
  rw [h.cons]
  exact List.mem_cons_self

theorem scanId (h : Standing lease current g) : g.scan.id = lease.guestScanId :=
  congrArg GuestAttemptLease.guestScanId h.lease

theorem attemptId (h : Standing lease current g) : current.id = lease.attemptId :=
  congrArg GuestAttemptLease.attemptId h.lease

theorem fence (h : Standing lease current g) : current.monotonicFence = lease.monotonicFence :=
  congrArg GuestAttemptLease.monotonicFence h.lease

theorem version (h : Standing lease current g) : current.leaseVersion = lease.leaseVersion :=
  congrArg GuestAttemptLease.leaseVersion h.lease

theorem deadline (h : Standing lease current g) : current.hardDeadline = lease.hardDeadline :=
  congrArg GuestAttemptLease.hardDeadline h.lease

theorem expiry (h : Standing lease current g) (hcheck : current.Constraints) :
    current.leaseExpiresAt = some lease.leaseExpiresAt := by
  obtain ⟨expiry, hexpiry⟩ := lease_of_active hcheck h.active
  have hlease := congrArg GuestAttemptLease.leaseExpiresAt h.lease
  change current.leaseExpiresAt.getD 0 = _ at hlease
  rw [hexpiry] at hlease ⊢
  exact congrArg some hlease

end Standing

/-! ### Acquisition -/

theorem Lifecycle.Step.standing {lease : GuestAttemptLease} {g g' : Aggregate}
    (h : Step g (.lease lease) g') :
    ∃ current, Standing lease current g' ∧ current.attemptState = .leased ∧
      lease.leaseVersion = 1 := by
  cases h with
  | leaseFirst attemptId now queued access => exact ⟨_, ⟨rfl, rfl, rfl, rfl⟩, rfl, rfl⟩
  | leaseNext current earlier attemptId now running attempts active few access lapsed =>
    exact ⟨_, ⟨rfl, rfl, rfl, rfl⟩, rfl, rfl⟩

theorem acquire_standing {db : Database} (hsound : Sound db.val) {guestScanId : String}
    {createAttemptId : Option String} {clock : ClockReading} {lease : GuestAttemptLease}
    (h : (acquire guestScanId createAttemptId clock db).1 = .leaseAcquired lease) :
    ∃ g current,
      (acquire guestScanId createAttemptId clock db).2.val.aggregate? lease.guestScanId = some g ∧
      Standing lease current g ∧ current.attemptState = .leased ∧ lease.leaseVersion = 1 := by
  have houtcome := acquire_outcome hsound guestScanId createAttemptId clock
  rw [h] at houtcome
  cases houtcome with
  | event g g' focus step =>
    obtain ⟨current, hstanding, hleased, hversion⟩ := step.standing
    have hid := Tables.scan_id_of_aggregate? focus.after
    rw [hstanding.scanId] at hid
    exact ⟨g', current, hid ▸ focus.after, hstanding, hleased, hversion⟩

/-! ### Calls of other parties -/

def Lifecycle.Event.attemptId? : Event → Option String
  | .start command => some command.attemptId
  | .renew command _ _ => some command.attemptId
  | .commit submission _ => some submission.attemptId
  | _ => none

theorem Lifecycle.Step.attemptId {g g' : Aggregate} {event : Event} (h : Step g event g')
    {attemptId : String} (hid : event.attemptId? = some attemptId) :
    g.attempts.head?.map GuestScanAttempt.id = some attemptId := by
  cases h with
  | start current earlier command now attempts holds leased =>
    rw [attempts]
    exact (congrArg some holds.attempt).trans hid
  | renew current earlier command now expiry attempts holds running expiry_le extended =>
    rw [attempts]
    exact (congrArg some holds.attempt).trans hid
  | commit current earlier submission now row reservation attempts jobRunning running attempt =>
    rw [attempts]
    exact (congrArg some attempt).trans hid
  | _ => cases hid

theorem event_start {command : LeaseCommand} {clock : ClockReading} {answer : Answer}
    {event : Event} (h : (Call.start command clock).event answer = some event) :
    event.attemptId? = some command.attemptId := by
  unfold Call.event StartGuestAttemptResult.event at h
  grind [Event.attemptId?]

theorem event_renew {command : LeaseCommand} {clock : ClockReading} {answer : Answer}
    {event : Event} (h : (Call.renew command clock).event answer = some event) :
    event.attemptId? = some command.attemptId := by
  unfold Call.event RenewGuestLeaseResult.event at h
  grind [Event.attemptId?]

theorem event_commit {result : AuthenticatedResult} {transactionNow : TransactionTime}
    {answer : Answer} {event : Event}
    (h : (Call.commit (some result) transactionNow).event answer = some event) :
    event.attemptId? = some result.submission.attemptId := by
  unfold Call.event CommitGuestResultResult.event at h
  grind [Event.attemptId?]

theorem Standing.spared {node : NodeRuntime} {db : Database} (hsound : Sound db.val)
    {lease : GuestAttemptLease} {current : GuestScanAttempt} {g : Aggregate}
    (hg : db.val.aggregate? lease.guestScanId = some g) (hstanding : Standing lease current g)
    {call : Call} (hspares : call.Spares lease) :
    (exec node db call).2.val.aggregate? lease.guestScanId = some g := by
  have hdeadline : lease.hardDeadline ≤ g.scan.resultAccessExpiresAt :=
    hstanding.deadline ▸ (hsound _ g hg).deadline current hstanding.mem
  have htime := (Tables.scan_check_of_aggregate? hg).time
  cases exec_change node hsound call lease.guestScanId with
  | kept same quiet => exact same.trans hg
  | created g' before after sound =>
    rw [hg] at before
    cases before
  | deleted deletes after =>
    cases call with
    | createOrReplay dependencies request =>
      have hexpired := createOrReplay_deletes hg deletes
      have hbefore : request.trustedNow < lease.hardDeadline := hspares
      have haccess := htime.access
      omega
    | runBatch batchSize clock locked =>
      obtain ⟨now, hnow, hdue⟩ := runBatch_deletes hg deletes
      have hbefore : now < lease.hardDeadline := hspares now hnow
      have hwindow := htime.idempotency
      have haccess := htime.access
      have hdeletion := htime.deletion
      omega
    | _ => exact deletes.elim
  | event event g₀ g' scan answer before after step =>
    rw [hg] at before
    cases before
    have hother : ∀ attemptId, event.attemptId? = some attemptId → attemptId = lease.attemptId := by
      intro attemptId hid
      have hhead := step.attemptId hid
      rw [hstanding.newest] at hhead
      exact (Option.some.inj hhead).symm.trans hstanding.attemptId
    cases call with
    | acquire guestScanId createAttemptId clock => exact absurd (Option.some.inj scan) hspares
    | cancel guestScanId clock => exact absurd (Option.some.inj scan) hspares
    | start command clock => exact absurd (hother _ (event_start answer)) hspares
    | renew command clock => exact absurd (hother _ (event_renew answer)) hspares
    | commit result transactionNow =>
      cases result with
      | none => cases scan
      | some result => exact absurd (hother _ (event_commit answer)) (hspares result rfl)
    | _ => cases scan

/-! ### start and renew -/

@[simp] theorem leaseCommand_guestScanId (lease : GuestAttemptLease) :
    (leaseCommand lease).guestScanId = lease.guestScanId := rfl

@[simp] theorem leaseCommand_attemptId (lease : GuestAttemptLease) :
    (leaseCommand lease).attemptId = lease.attemptId := rfl

theorem nowValue_natCast (now : Nat) :
    nowValue (some (now : Int)) = if now ≤ maxSafeInteger then some now else none := by
  simp only [nowValue, Int.toNat_natCast]
  split <;> split <;> first | rfl | omega

section Command

variable {db : Database} {lease : GuestAttemptLease} {current : GuestScanAttempt} {g : Aggregate}

theorem Standing.joined (h : Standing lease current g)
    (hg : db.val.aggregate? lease.guestScanId = some g) :
    db.val.joinedAttempt lease.guestScanId lease.attemptId = some (g.scan, current) := by
  unfold Tables.joinedAttempt
  rw [(Tables.aggregate?_eq_some.mp hg).1,
    (Tables.loadAttempt_eq_some hg).mpr ⟨h.mem, h.attemptId⟩]

theorem Standing.currentLease (h : Standing lease current g) (hinv : Inv g) :
    currentLease (leaseCommand lease) g.scan current = true := by
  have hattempt : g.scan.currentAttemptId = some lease.attemptId := by
    rw [hinv.current, h.newest, Option.map_some, h.attemptId]
  simp only [Outscan.currentLease, leaseCommand, Bool.and_eq_true, beq_iff_eq]
  exact ⟨⟨⟨⟨h.job, hattempt⟩, (hinv.currentFence_eq h.cons).trans h.fence⟩, h.fence⟩, h.version⟩

theorem Standing.validLeaseCommand (h : Standing lease current g)
    (hg : db.val.aggregate? lease.guestScanId = some g) :
    validLeaseCommand (leaseCommand lease) = true := by
  have hcheck := Tables.attempt_check_of_aggregate? hg h.mem
  have hscan := (Tables.scan_check_of_aggregate? hg).id_valid
  obtain ⟨⟨hversion, -⟩, -⟩ := open_shape hcheck h.active
  rw [h.scanId] at hscan
  simp only [Outscan.validLeaseCommand, leaseCommand, Bool.and_eq_true]
  refine ⟨⟨⟨hscan, h.attemptId ▸ hcheck.id_valid⟩, ?_⟩, ?_⟩
  · exact isPositiveSafeInteger_iff.mpr (h.fence ▸ hcheck.fence)
  · exact isPositiveSafeInteger_iff.mpr (h.version ▸ ⟨hversion, hcheck.version⟩)

theorem Standing.start (hsound : Sound db.val) (h : Standing lease current g)
    (hg : db.val.aggregate? lease.guestScanId = some g) (hleased : current.attemptState = .leased)
    {now : Nat} (hok : (start (leaseCommand lease) (some (now : Int)) db).1.ok = true) :
    ∃ g', (Outscan.start (leaseCommand lease) (some (now : Int)) db).2.val.aggregate?
        lease.guestScanId = some g' ∧
      Standing lease ((startAttempt now).apply current) g' := by
  have hcheck := Tables.attempt_check_of_aggregate? hg h.mem
  unfold Outscan.start at hok ⊢
  rw [h.validLeaseCommand hg] at hok ⊢
  simp only [Bool.not_true, Bool.false_eq_true, if_false] at hok ⊢
  by_cases hsafe : now ≤ maxSafeInteger
  swap
  · rw [nowValue_natCast, if_neg hsafe] at hok
    cases hok
  rw [nowValue_natCast, if_pos hsafe] at hok ⊢
  dsimp only at hok ⊢
  rcases transaction_cases .unavailable (startBody (leaseCommand lease) now) db with hrun | hfailed
  · generalize Outscan.transaction StartGuestAttemptResult.unavailable
      (startBody (leaseCommand lease) now) db = result at hok hrun ⊢
    obtain ⟨answer, db'⟩ := result
    unfold startBody at hrun
    rw [Tx.run_bind_get] at hrun
    simp only [leaseCommand_guestScanId, leaseCommand_attemptId, h.joined hg,
      validAttempt_of_constraints hcheck, h.currentLease (hsound _ g hg), h.expiry hcheck,
      Bool.not_true, Bool.or_self, Bool.false_eq_true, if_false, hleased] at hrun
    split at hrun
    · obtain ⟨rfl, -⟩ := Tx.run_pure_ok.mp hrun
      cases hok
    · split at hrun
      · obtain ⟨rfl, -⟩ := Tx.run_pure_ok.mp hrun
        cases hok
      · rw [if_neg (by decide), if_neg (not_not.mpr rfl), Tx.run_bind_ok] at hrun
        obtain ⟨_, _, hstart, hrun⟩ := hrun
        obtain ⟨-, rfl⟩ := Tx.run_pure_ok.mp hrun
        obtain ⟨_, -, -, -, -, -, hfocus⟩ := updateGuestScanAttempt_focus hstart hg
        rw [← h.attemptId, Aggregate.editAttempt_head h.cons
          (Tables.attempts_pairwise_of_aggregate? hg)] at hfocus
        exact ⟨_, hfocus.after, ⟨h.job, rfl, rfl, h.lease⟩⟩
  · rw [hfailed] at hok
    cases hok

def GuestAttemptLease.renewed (lease : GuestAttemptLease) (now : Nat) : GuestAttemptLease :=
  { lease with
    leaseVersion := lease.leaseVersion + 1
    leaseExpiresAt := min (now + guestAttemptLeaseSeconds) lease.hardDeadline }

theorem Standing.leaseOf_renewed (h : Standing lease current g) (now : Nat) :
    leaseOf g.scan ((renewAttempt (lease.renewed now).leaseVersion
      (lease.renewed now).leaseExpiresAt now).apply current) = lease.renewed now := by
  obtain ⟨-, -, -, rfl⟩ := h
  rfl

theorem renewAttempt_allowed {version expiry previous now : Nat} (hcheck : current.Constraints)
    (hrunning : current.attemptState = .running) (hupdated : current.updatedAt ≤ now)
    (hnow : now < timestampEnd) (hversion : current.leaseVersion < version)
    (hsafe : version ≤ maxSafeInteger) (hprevious : current.leaseExpiresAt = some previous)
    (hlater : previous < expiry) (hdeadline : expiry ≤ current.hardDeadline) :
    guardGuestAttemptUpdate current ((renewAttempt version expiry now).apply current) ∧
      ((renewAttempt version expiry now).apply current).Constraints := by
  have htime := hcheck.time
  have hactive : current.attemptState.active = true := AttemptState.active_iff.mpr (.inr hrunning)
  obtain ⟨-, hunfinished, hstarted⟩ := open_shape hcheck hactive
  refine ⟨⟨⟨rfl, rfl, rfl, rfl, rfl, rfl⟩, hupdated, hversion.le, fun _ => hversion, fun _ => rfl,
    fun _ => rfl, ?_⟩, ?_⟩
  · change attemptUpdateAllowed current.attemptState current.attemptState = true
    rw [hrunning]
    rfl
  refine ⟨hcheck.id_valid, hcheck.number, hcheck.fence, hsafe,
    ⟨htime.hard, htime.updated.trans hupdated, ?_, ?_, ?_⟩, ⟨hcheck.range.1, hnow⟩, ?_, ?_,
    hcheck.terminal_shape, ?_⟩
  · intro time htimes
    cases htimes
    exact ⟨(htime.lease previous hprevious).1.trans hlater, hdeadline⟩
  · intro time htimes
    exact ⟨(htime.started time htimes).1, (htime.started time htimes).2.trans hupdated⟩
  · intro time htimes
    change current.finishedAt = some time at htimes
    rw [hunfinished] at htimes
    cases htimes
  · have hstate : ((renewAttempt version expiry now).apply current).attemptState = .running :=
      hrunning
    rw [GuestScanAttempt.LeaseShape, hstate]
    exact ⟨show 0 < version by omega, show some expiry ≠ none by simp⟩
  · have hstate : ((renewAttempt version expiry now).apply current).attemptState = .running :=
      hrunning
    rw [GuestScanAttempt.StartedShape, hstate]
    exact hstarted hrunning
  · intro hsucceeded
    change current.attemptState = .succeeded at hsucceeded
    rw [hrunning] at hsucceeded
    cases hsucceeded

/-- A renewal of a running attempt, before its lease and its deadline run out,
is granted exactly when it extends the lease. -/
theorem Standing.renew (hsound : Sound db.val) (h : Standing lease current g)
    (hg : db.val.aggregate? lease.guestScanId = some g) (hrunning : current.attemptState = .running)
    (hversion : lease.leaseVersion ≤ lease.leaseExpiresAt) {now : Nat}
    (hupdated : current.updatedAt ≤ now) (hlease : now < lease.leaseExpiresAt)
    (hdeadline : now < lease.hardDeadline) :
    if lease.leaseExpiresAt < (lease.renewed now).leaseExpiresAt then
      ∃ db' g', Outscan.renew (leaseCommand lease) (some (now : Int)) db =
          (.leaseRenewed (lease.renewed now).leaseVersion (lease.renewed now).leaseExpiresAt, db') ∧
        db'.val.aggregate? lease.guestScanId = some g' ∧
        Standing (lease.renewed now) ((renewAttempt (lease.renewed now).leaseVersion
          (lease.renewed now).leaseExpiresAt now).apply current) g'
    else (Outscan.renew (leaseCommand lease) (some (now : Int)) db).1 = .leaseNotExtended := by
  have hcheck := Tables.attempt_check_of_aggregate? hg h.mem
  have hinv := hsound _ g hg
  have hrange := hcheck.range.1
  rw [h.deadline] at hrange
  have hsafe : timestampEnd ≤ maxSafeInteger := by decide
  have hclock : nowValue (some (now : Int)) = some now := by
    rw [nowValue_natCast, if_pos (by omega)]
  have hexpiry := h.expiry hcheck
  have hbody : (renewBody (leaseCommand lease) now).run db.val =
      (if (lease.renewed now).leaseExpiresAt ≤ lease.leaseExpiresAt then pure .leaseNotExtended
      else do
        let _ ← updateGuestScanAttempt .renewCas lease.guestScanId current.id
          (fun row => row.monotonicFence = lease.monotonicFence ∧
            row.leaseVersion = lease.leaseVersion ∧ row.attemptState = .running)
          (renewAttempt (lease.renewed now).leaseVersion (lease.renewed now).leaseExpiresAt now)
        pure (.leaseRenewed (lease.renewed now).leaseVersion
          (lease.renewed now).leaseExpiresAt) : Sql RenewGuestLeaseResult).run db.val := by
    unfold renewBody
    rw [Tx.run_bind_get]
    simp only [leaseCommand_guestScanId, leaseCommand_attemptId, h.joined hg,
      validAttempt_of_constraints hcheck, h.currentLease hinv, hexpiry, Bool.not_true,
      Bool.or_self, Bool.false_eq_true, if_false, hrunning, bne_self_eq_false, h.deadline,
      if_neg (show ¬ now ≥ lease.hardDeadline by omega),
      if_neg (show ¬ now ≥ lease.leaseExpiresAt by omega), h.attemptId]
    rfl
  unfold Outscan.renew
  simp only [h.validLeaseCommand hg, hclock, Bool.not_true, Bool.false_eq_true, if_false]
  split
  · rename_i hextends
    rw [if_neg (by omega)] at hbody
    have hle : (lease.renewed now).leaseExpiresAt ≤ lease.hardDeadline := Nat.min_le_right _ _
    obtain ⟨t', hupdate, hfocus⟩ := updateNewestAttempt_of .renewCas
      (fun row => row.monotonicFence = lease.monotonicFence ∧
        row.leaseVersion = lease.leaseVersion ∧ row.attemptState = .running)
      (renewAttempt (lease.renewed now).leaseVersion (lease.renewed now).leaseExpiresAt now)
      hg h.cons ⟨h.fence, h.version, hrunning⟩
      (renewAttempt_allowed hcheck hrunning hupdated (by omega)
        (by rw [h.version]; exact Nat.lt_succ_self _)
        (by change lease.leaseVersion + 1 ≤ _; omega) hexpiry hextends (h.deadline.symm ▸ hle))
    have hrun : (renewBody (leaseCommand lease) now).run db.val = .ok (.leaseRenewed
        (lease.renewed now).leaseVersion (lease.renewed now).leaseExpiresAt, t') := by
      rw [hbody, Tx.run_bind_of_ok hupdate]
      rfl
    have hkeys : ForeignKeys t' := foreignKeys_of_outcome hsound
      (quiet_owned.renewBody _ _ _ hrun) (renewBody_outcome hinv hrun hg)
    have hcommitted : transaction .unavailable (renewBody (leaseCommand lease) now) db = _ :=
      transaction_of_ok hrun hkeys
    exact ⟨⟨t', hkeys⟩, _, hcommitted, hfocus.after, ⟨h.job, rfl, h.active, h.leaseOf_renewed now⟩⟩
  · rename_i hshort
    rw [if_pos (by omega)] at hbody
    exact congrArg Prod.fst (transaction_of_ok hbody db.property)

end Command

/-! ### A lease of the small service -/

/-- The attempt of the small service, leased at 1001 until 1016 with its hard
deadline at 1046. -/
def sampleLease : GuestAttemptLease where
  guestScanId := "scan-1"
  attemptId := "attempt-1"
  attemptNo := 1
  monotonicFence := 1
  leaseVersion := 1
  canonicalTarget := "example.com"
  leaseExpiresAt := 1016
  hardDeadline := 1046

/-- The service with `scan-1` created. -/
def sampleCreated : Database := Machine.run (exec sampleNode) Database.initial (sampleCalls.take 1)

theorem sampleCreated_reachable : Reachable sampleNode sampleCreated := ⟨_, rfl⟩

end Outscan

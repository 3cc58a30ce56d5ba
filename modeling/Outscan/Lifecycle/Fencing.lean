import Outscan.Lifecycle.Acceptance

/-! Fencing: a worker whose fence or lease version has been overtaken is
refused by every transaction, at any later time. -/
namespace Outscan

open Relational Transactional Lifecycle

/-! ### Progress of one scan -/

namespace Aggregate

def newestVersion (g : Aggregate) : Nat :=
  (g.attempts.head?.map GuestScanAttempt.leaseVersion).getD 0

/-- `g'` is at least as far as `g`: a higher fence, or the same fence and no
lower lease version; and an end is final. -/
structure Advances (g g' : Aggregate) : Prop where
  fence : g.scan.currentFence ≤ g'.scan.currentFence
  version : g'.scan.currentFence = g.scan.currentFence → g.newestVersion ≤ g'.newestVersion
  ended : g.scan.jobState.terminal = true → g'.scan.jobState.terminal = true

/-- A fence and lease version that `g` has passed. -/
def Overtaken (g : Aggregate) (fence : Nat) (version : Option Nat) : Prop :=
  g.scan.jobState.terminal = true ∨ fence < g.scan.currentFence ∨
    (fence = g.scan.currentFence ∧ ∃ carried, version = some carried ∧ carried < g.newestVersion)

theorem Advances.refl (g : Aggregate) : Advances g g := ⟨le_rfl, fun _ => le_rfl, id⟩

theorem Advances.trans {g₁ g₂ g₃ : Aggregate} (first : Advances g₁ g₂) (second : Advances g₂ g₃) :
    Advances g₁ g₃ := by
  have hfirst := first.fence
  have hsecond := second.fence
  refine ⟨by omega, fun hsame => ?_, fun h => second.ended (first.ended h)⟩
  have h₁ := first.version (by omega)
  have h₂ := second.version (by omega)
  omega

end Aggregate

open Aggregate

/-! ### What each event does to fence and version -/

namespace Lifecycle

variable {g g' : Aggregate}

theorem newestVersion_cons {current : GuestScanAttempt} {earlier : List GuestScanAttempt}
    (h : g.attempts = current :: earlier) : g.newestVersion = current.leaseVersion := by
  rw [newestVersion, h]
  rfl

theorem Step.lease_fence {lease : GuestAttemptLease} (hinv : Inv g)
    (h : Step g (.lease lease) g') :
    lease.monotonicFence = g.scan.currentFence + 1 ∧
      g'.scan.currentFence = lease.monotonicFence := by
  cases h with
  | leaseFirst attemptId now queued access =>
    have hfence := hinv.fence
    rw [(hinv.queued_attempts queued).1] at hfence
    exact ⟨by rw [hfence]; rfl, rfl⟩
  | leaseNext current earlier attemptId now running attempts active few access lapsed =>
    exact ⟨by rw [hinv.currentFence_eq attempts]; rfl, rfl⟩

theorem Step.renew_version {command : LeaseCommand} {version expiry : Nat} (hinv : Inv g)
    (h : Step g (.renew command version expiry) g') :
    command.monotonicFence = g.scan.currentFence ∧ command.leaseVersion = g.newestVersion ∧
      version = command.leaseVersion + 1 ∧ g'.scan.currentFence = g.scan.currentFence ∧
      g'.newestVersion = version := by
  cases h with
  | renew current earlier command now expiry attempts holds running expiry_le extended =>
    refine ⟨?_, ?_, rfl, rfl, rfl⟩
    · rw [hinv.currentFence_eq attempts, holds.fence]
    · rw [newestVersion_cons attempts, holds.version]

theorem Step.finish_terminal {job : JobState} (h : Step g (.finish job) g') :
    g'.scan.jobState.terminal = true := by
  cases h with
  | finishQueued job now reason reservation queued ends reserved =>
    rcases ends with rfl | rfl <;> rfl
  | finishRunning current earlier job state now reason reservation running attempts ends closes
      reserved =>
    rcases ends with rfl | rfl | rfl <;> rfl

/-- The step lemma of fencing. -/
theorem Step.advances {event : Event} (hinv : Inv g) (h : Step g event g') : Advances g g' := by
  have hopen := h.not_terminal
  have hended : g.scan.jobState.terminal = true → g'.scan.jobState.terminal = true := by
    intro hterminal
    rw [hopen] at hterminal
    cases hterminal
  cases event with
  | lease lease =>
    obtain ⟨hlease, hafter⟩ := h.lease_fence hinv
    exact ⟨by omega, by omega, hended⟩
  | start command =>
    cases h with
    | start current earlier command now attempts holds leased =>
      refine ⟨le_rfl, fun _ => ?_, hended⟩
      rw [newestVersion_cons attempts]
      exact le_rfl
  | renew command version expiry =>
    obtain ⟨-, hversion, hnext, hfence, hafter⟩ := h.renew_version hinv
    exact ⟨by omega, by omega, hended⟩
  | commit submission now =>
    cases h with
    | commit current earlier submission now row reservation attempts =>
      refine ⟨le_rfl, fun _ => ?_, hended⟩
      rw [newestVersion_cons attempts]
      exact le_rfl
  | finish job =>
    cases h with
    | finishQueued => exact ⟨le_rfl, fun _ => le_rfl, hended⟩
    | finishRunning current earlier job state now reason reservation running attempts =>
      refine ⟨le_rfl, fun _ => ?_, hended⟩
      rw [newestVersion_cons attempts]
      exact le_rfl

end Lifecycle

/-! ### Runs -/

theorem run_advances (node : NodeRuntime) {db : Database} (hsound : Sound db.val) {id : String}
    {g : Aggregate} (hg : db.val.aggregate? id = some g) {calls : List Call}
    (hkept : Machine.Along (exec node) (fun db call => ¬ Deletes node db call id) db calls) :
    Sound (Machine.run (exec node) db calls).val ∧
      ∃ g', (Machine.run (exec node) db calls).val.aggregate? id = some g' ∧ Advances g g' := by
  refine Machine.run_preserves
    (P := fun db => Sound db.val ∧ ∃ g', db.val.aggregate? id = some g' ∧ Advances g g')
    (fun db call hcall h => ?_) hkept ⟨hsound, g, hg, .refl g⟩
  obtain ⟨hsound, g', hg', hadvances⟩ := h
  refine ⟨exec_sound node hsound call, ?_⟩
  cases exec_change node hsound call id with
  | kept same quiet => exact ⟨g', same.trans hg', hadvances⟩
  | event event g₀ g'' scan answer before after step =>
    rw [hg'] at before
    cases before
    exact ⟨g'', after, hadvances.trans (step.advances (hsound id g' hg'))⟩
  | created g'' before after sound =>
    rw [hg'] at before
    cases before
  | deleted deletes after => exact absurd deletes hcall

/-! ### Refusal -/

def Call.carries : Call → Option (String × Nat × Option Nat)
  | .start command _ =>
    some (command.guestScanId, command.monotonicFence, some command.leaseVersion)
  | .renew command _ =>
    some (command.guestScanId, command.monotonicFence, some command.leaseVersion)
  | .commit (some result) _ => some (result.jobId, result.submission.fence, none)
  | _ => none

def Succeeds : Answer → Prop
  | .start result => result.ok = true
  | .renew (.leaseRenewed _ _) => True
  | .commit .primaryCommit => True
  | _ => False

def Refused (node : NodeRuntime) (db : Database) (call : Call) : Prop :=
  ¬ Succeeds (exec node db call).1 ∧ (exec node db call).2 = db

theorem start_holds {db : Database} (hsound : Sound db.val) {command : LeaseCommand}
    {clock : ClockReading} (hok : (start command clock db).1.ok = true) :
    ∃ g now, db.val.aggregate? command.guestScanId = some g ∧ HoldsLease g command now := by
  unfold start at hok
  split at hok
  · cases hok
  · cases hclock : nowValue clock with
    | none =>
      rw [hclock] at hok
      cases hok
    | some now =>
      rw [hclock] at hok
      dsimp only at hok
      rcases transaction_cases .unavailable (startBody command now) db with h | h
      · cases hg : db.val.aggregate? command.guestScanId with
        | none =>
          rw [(startBody_absent h (Tables.aggregate?_eq_none.mp hg)).1] at hok
          cases hok
        | some g => exact ⟨g, now, rfl, (startBody_outcome (hsound _ g hg) h hg).1 hok⟩
      · rw [h] at hok
        cases hok

theorem HoldsLease.not_overtaken {g : Aggregate} (hinv : Inv g) {command : LeaseCommand}
    {now : Nat} (h : HoldsLease g command now) :
    ¬ g.Overtaken command.monotonicFence (some command.leaseVersion) := by
  obtain ⟨current, earlier, hattempts, hholds⟩ := h
  have hfence := hinv.currentFence_eq hattempts
  have hversion := newestVersion_cons hattempts
  have hholdsFence := hholds.fence
  have hholdsVersion := hholds.version
  intro hovertaken
  rcases hovertaken with hended | hless | ⟨-, carried, hcarried, hlower⟩
  · rw [hholds.running] at hended
    cases hended
  · omega
  · cases hcarried
    omega

theorem Lifecycle.Step.commit_current {g g' : Aggregate} {submission : ResultSubmissionIdentity}
    {now : Nat} (hinv : Inv g) (h : Step g (.commit submission now) g') :
    submission.fence = g.scan.currentFence := by
  cases h with
  | commit current earlier submission now row reservation attempts jobRunning running attempt
      fence => rw [hinv.currentFence_eq attempts, fence]

/-- A call that carries an overtaken fence or version is refused. -/
theorem refused_of_overtaken (node : NodeRuntime) {db : Database} (hsound : Sound db.val)
    {id : String} {g : Aggregate} (hg : db.val.aggregate? id = some g) {call : Call} {fence : Nat}
    {version : Option Nat} (hcarries : call.carries = some (id, fence, version))
    (hovertaken : g.Overtaken fence version) : Refused node db call := by
  have hinv := hsound id g hg
  have hscan : call.scan? = some id := by
    cases call with
    | start command clock => cases hcarries; rfl
    | renew command clock => cases hcarries; rfl
    | commit result transactionNow =>
      cases result with
      | none => cases hcarries
      | some result => cases hcarries; rfl
    | _ => cases hcarries
  have houtcome := exec_outcome node hsound hscan
  have hrefused : ¬ Succeeds (exec node db call).1 := by
    intro hsucceeds
    cases call with
    | start command clock =>
      cases hcarries
      obtain ⟨held, now, hheld, hholds⟩ := start_holds hsound hsucceeds
      rw [hg] at hheld
      cases hheld
      exact hholds.not_overtaken hinv hovertaken
    | renew command clock =>
      cases hcarries
      change Succeeds (.renew (renew command clock db).1) at hsucceeds
      change CallOutcome _ db _ ((renew command clock db).1.event command) at houtcome
      cases hanswer : (renew command clock db).1 with
      | leaseRenewed next expiry =>
        rw [hanswer] at houtcome
        cases houtcome with
        | event g₀ g' focus step =>
          have hsame := focus.before
          rw [hg] at hsame
          cases hsame
          obtain ⟨hfence, hversion, -⟩ := step.renew_version hinv
          have hopen := step.not_terminal
          rcases hovertaken with hended | hless | ⟨-, carried, hcarried, hlower⟩
          · rw [hopen] at hended
            cases hended
          · omega
          · cases hcarried
            omega
      | _ =>
        rw [hanswer] at hsucceeds
        exact hsucceeds
    | commit result transactionNow =>
      cases result with
      | none => cases hcarries
      | some result =>
        cases hcarries
        change Succeeds (.commit (commit (some result) transactionNow db).1) at hsucceeds
        change CallOutcome _ db _ ((commit (some result) transactionNow db).1.event _ _)
          at houtcome
        cases hanswer : (commit (some result) transactionNow db).1 with
        | primaryCommit =>
          rw [hanswer] at houtcome
          cases houtcome with
          | event g₀ g' focus step =>
            have hsame := focus.before
            rw [hg] at hsame
            cases hsame
            have hfence := step.commit_current hinv
            have hopen := step.not_terminal
            rcases hovertaken with hended | hless | ⟨-, carried, hcarried, -⟩
            · rw [hopen] at hended
              cases hended
            · omega
            · cases hcarried
        | _ =>
          rw [hanswer] at hsucceeds
          exact hsucceeds
    | _ => cases hcarries
  refine ⟨hrefused, ?_⟩
  generalize hevent : call.event (exec node db call).1 = event at houtcome
  cases houtcome with
  | unchanged same => exact same
  | event g₀ g' focus step =>
    refine absurd ?_ hrefused
    cases call with
    | start command clock =>
      change (start command clock db).1.event command = _ at hevent
      change (start command clock db).1.ok = true
      cases hanswer : (start command clock db).1 with
      | started => rfl
      | _ => rw [hanswer] at hevent; cases hevent
    | renew command clock =>
      change (renew command clock db).1.event command = _ at hevent
      change Succeeds (.renew (renew command clock db).1)
      cases hanswer : (renew command clock db).1 with
      | leaseRenewed next expiry => trivial
      | _ => rw [hanswer] at hevent; cases hevent
    | commit result transactionNow =>
      cases result with
      | none => cases hcarries
      | some result =>
        change (commit (some result) transactionNow db).1.event _ _ = _ at hevent
        change Succeeds (.commit (commit (some result) transactionNow db).1)
        cases hanswer : (commit (some result) transactionNow db).1 with
        | primaryCommit => trivial
        | _ => rw [hanswer] at hevent; cases hevent
    | _ => cases hcarries

/-! ### Every run -/

theorem event_step (node : NodeRuntime) {db : Database} (hsound : Sound db.val) {id : String}
    {call : Call} (hscan : call.scan? = some id) {event : Event}
    (hevent : call.event (exec node db call).1 = some event) :
    ∃ g g', Focus id db.val (exec node db call).2.val g g' ∧ Step g event g' := by
  have houtcome := exec_outcome node hsound hscan
  rw [hevent] at houtcome
  cases houtcome with
  | event g g' focus step => exact ⟨g, g', focus, step⟩

theorem primaryCommit_in_time {db : Database} (hsound : Sound db.val)
    {result : AuthenticatedResult} {transactionNow : TransactionTime}
    (hprimary : (commit (some result) transactionNow db).1 = .primaryCommit) :
    ∃ attempt expiry,
      db.val.guestScanAttempts.find? result.submission.attemptId = some attempt ∧
      attempt.guestScanId = result.jobId ∧ attempt.leaseExpiresAt = some expiry ∧
      (transactionNow : Int) < expiry ∧ (transactionNow : Int) < attempt.hardDeadline := by
  have houtcome := commit_outcome hsound result transactionNow
  rw [hprimary] at houtcome
  cases houtcome with
  | event g g' focus step =>
    cases step with
    | commit current earlier submission now row reservation attempts jobRunning running attempt
        fence lease deadline =>
      obtain ⟨expiry, hexpiry, hbefore⟩ := lease
      have hmem : current ∈ g.attempts := by simp [attempts]
      have hfound := Tables.find?_attempt_of_aggregate? focus.before hmem
      have howner := Tables.attempt_owner_of_aggregate? focus.before hmem
      have hreading := Int.self_le_toNat transactionNow
      rw [attempt] at hfound
      exact ⟨current, expiry, hfound, howner, hexpiry, hreading.trans_lt (by exact_mod_cast hbefore),
        hreading.trans_lt (by exact_mod_cast deadline)⟩

section After

variable {node : NodeRuntime} {db : Database} {id : String} {g g' g'' : Aggregate} {later : Call}

theorem lease_fences (hsound : Sound db.val) {lease : GuestAttemptLease} (hinv : Inv g)
    (hstep : Step g (.lease lease) g') (hg' : db.val.aggregate? id = some g'')
    (hadvances : Advances g' g'') :
    (∀ {next}, later.scan? = some id →
      later.event (exec node db later).1 = some (.lease next) →
      lease.monotonicFence < next.monotonicFence) ∧
    ∀ {fence version}, later.carries = some (id, fence, version) →
      fence < lease.monotonicFence → Refused node db later := by
  obtain ⟨-, hissued⟩ := hstep.lease_fence hinv
  have hfence := hadvances.fence
  refine ⟨fun hscan hnext => ?_, fun hcarries hless => ?_⟩
  · obtain ⟨g₁, g₂, hfocus, hstep'⟩ := event_step node hsound hscan hnext
    have hsame := hfocus.before
    rw [hg'] at hsame
    cases hsame
    have hnextFence := (hstep'.lease_fence (hsound _ _ hg')).1
    omega
  · exact refused_of_overtaken node hsound hg' hcarries (.inr (.inl (by omega)))

theorem renewal_fences (hsound : Sound db.val) {command : LeaseCommand} {version expiry : Nat}
    (hinv : Inv g) (hstep : Step g (.renew command version expiry) g')
    (hg' : db.val.aggregate? id = some g'') (hadvances : Advances g' g'') :
    (∀ {next nextVersion nextExpiry}, later.scan? = some id →
      later.event (exec node db later).1 = some (.renew next nextVersion nextExpiry) →
      next.monotonicFence = command.monotonicFence → version < nextVersion) ∧
    ∀ {carried}, later.carries = some (id, command.monotonicFence, some carried) →
      carried < version → Refused node db later := by
  obtain ⟨hcommand, -, hversion, hfence, hissued⟩ := hstep.renew_version hinv
  have hfence' := hadvances.fence
  refine ⟨fun hscan hnext hsameFence => ?_, fun hcarries hless => ?_⟩
  · obtain ⟨g₁, g₂, hfocus, hstep'⟩ := event_step node hsound hscan hnext
    have hsame := hfocus.before
    rw [hg'] at hsame
    cases hsame
    obtain ⟨hnextFence, hcurrent, hnextVersion, -⟩ := hstep'.renew_version (hsound _ _ hg')
    have hle := hadvances.version (by omega)
    omega
  · refine refused_of_overtaken node hsound hg' hcarries ?_
    by_cases hequal : g''.scan.currentFence = g'.scan.currentFence
    · have hle := hadvances.version hequal
      exact .inr (.inr ⟨by omega, _, rfl, by omega⟩)
    · exact .inr (.inl (by omega))

end After

theorem event_of_leaseAcquired {node : NodeRuntime} {db : Database} {call : Call}
    {lease : GuestAttemptLease} (h : (exec node db call).1 = .acquire (.leaseAcquired lease)) :
    call.event (exec node db call).1 = some (.lease lease) := by
  cases call with
  | acquire guestScanId createAttemptId clock => rw [h]; rfl
  | _ => cases h

theorem event_of_ended {node : NodeRuntime} {db : Database} {call : Call}
    (h : (∃ terminal, (exec node db call).1 = .acquire (.jobTerminated terminal)) ∨
      (exec node db call).1 = .cancel .cancelled) :
    ∃ job, call.event (exec node db call).1 = some (.finish job) := by
  rcases h with ⟨terminal, h⟩ | h
  · cases call with
    | acquire guestScanId createAttemptId clock => exact ⟨terminal.jobState, by rw [h]; rfl⟩
    | _ => cases h
  · cases call with
    | cancel guestScanId clock => exact ⟨.cancelled, by rw [h]; rfl⟩
    | _ => cases h

/-- Fencing. What a call about `id` issued stays the newest of its kind: later
leases carry a larger fence, later renewals of the same lease a larger version,
and whoever carries less is refused in every later state until the scan is
deleted. The end of a job refuses everyone. -/
theorem fencing {node : NodeRuntime} {db : Database} (hreach : Reachable node db) {id : String}
    {call : Call} (hscan : call.scan? = some id) {calls : List Call}
    (hkept : Machine.Along (exec node) (fun db call => ¬ Deletes node db call id)
      (exec node db call).2 calls) :
    let answer := (exec node db call).1
    let after := (exec node db call).2
    let final := Machine.run (exec node) after calls
    (∀ lease, answer = .acquire (.leaseAcquired lease) →
      (∀ attemptId clock next,
        (exec node final (.acquire id attemptId clock)).1 = .acquire (.leaseAcquired next) →
        lease.monotonicFence < next.monotonicFence) ∧
      ∀ (later : Call) (fence : Nat) (version : Option Nat),
        later.carries = some (id, fence, version) → fence < lease.monotonicFence →
        Refused node final later) ∧
    ((∃ terminal, answer = .acquire (.jobTerminated terminal)) ∨ answer = .cancel .cancelled ∨
        (∃ row, after.val.guestScans.find? id = some row ∧ row.jobState.terminal = true) →
      ∀ (later : Call) (fence : Nat) (version : Option Nat),
        later.carries = some (id, fence, version) → Refused node final later) ∧
    (∀ command clock version expiry, call = .renew command clock →
      answer = .renew (.leaseRenewed version expiry) →
      command.leaseVersion < version ∧
      (∀ (later : LeaseCommand) clock version' expiry', later.guestScanId = id →
        later.monotonicFence = command.monotonicFence →
        (exec node final (.renew later clock)).1 = .renew (.leaseRenewed version' expiry') →
        version < version') ∧
      ∀ (later : Call) (carried : Nat),
        later.carries = some (id, command.monotonicFence, some carried) → carried < version →
        Refused node final later) ∧
    (∀ result transactionNow, call = .commit (some result) transactionNow →
      answer = .commit .primaryCommit →
      ∃ attempt expiry,
        db.val.guestScanAttempts.find? result.submission.attemptId = some attempt ∧
        attempt.guestScanId = id ∧ attempt.leaseExpiresAt = some expiry ∧
        (transactionNow : Int) < expiry ∧ (transactionNow : Int) < attempt.hardDeadline) := by
  intro answer after final
  have hsound := hreach.sound
  -- the scan after the call, and how far it has come in the final state
  have hreached : ∀ {event : Event}, call.event (exec node db call).1 = some event →
      ∃ g g' g'', Inv g ∧ Step g event g' ∧ Sound final.val ∧
        final.val.aggregate? id = some g'' ∧ Advances g' g'' := by
    intro event hevent
    obtain ⟨g, g', hfocus, hstep⟩ := event_step node hsound hscan hevent
    obtain ⟨hsoundFinal, g'', hg'', hadvances⟩ :=
      run_advances node (exec_sound node hsound call) hfocus.after hkept
    exact ⟨g, g', g'', hsound _ _ hfocus.before, hstep, hsoundFinal, hg'', hadvances⟩
  refine ⟨fun lease hlease => ?_, fun hended => ?_, fun command clock version expiry hcall
    hrenewed => ?_, fun result transactionNow hcall hprimary => ?_⟩
  · obtain ⟨g, g', g'', hinv, hstep, hsoundFinal, hg'', hadvances⟩ :=
      hreached (event_of_leaseAcquired hlease)
    refine ⟨fun attemptId clock next hnext => ?_, fun later fence version => ?_⟩
    · exact (lease_fences hsoundFinal hinv hstep hg'' hadvances).1 rfl
        (event_of_leaseAcquired hnext)
    · exact (lease_fences hsoundFinal hinv hstep hg'' hadvances).2
  · obtain ⟨hsoundFinal, g, hg, hterminal⟩ : Sound final.val ∧ ∃ g,
        final.val.aggregate? id = some g ∧ g.scan.jobState.terminal = true := by
      rw [← or_assoc] at hended
      rcases hended with hanswer | ⟨row, hrow, hterminal⟩
      · obtain ⟨job, hevent⟩ := event_of_ended hanswer
        obtain ⟨g, g', g'', hinv, hstep, hsoundFinal, hg'', hadvances⟩ := hreached hevent
        exact ⟨hsoundFinal, g'', hg'', hadvances.ended hstep.finish_terminal⟩
      · have hstored : after.val.aggregate? id = some ⟨row, _, _, _⟩ :=
          Tables.aggregate?_eq_some.mpr ⟨hrow, rfl, rfl, rfl⟩
        obtain ⟨hsoundFinal, g', hg', hadvances⟩ :=
          run_advances node (exec_sound node hsound call) hstored hkept
        exact ⟨hsoundFinal, g', hg', hadvances.ended hterminal⟩
    intro later fence version hcarries
    exact refused_of_overtaken node hsoundFinal hg hcarries (.inl hterminal)
  · subst hcall
    have hevent : (Call.renew command clock).event (exec node db (.renew command clock)).1 =
        some (.renew command version expiry) := by
      rw [show (exec node db (.renew command clock)).1 = _ from hrenewed]
      rfl
    obtain ⟨g, g', g'', hinv, hstep, hsoundFinal, hg'', hadvances⟩ := hreached hevent
    obtain ⟨-, -, hversion, -⟩ := hstep.renew_version hinv
    refine ⟨by omega, fun later clock version' expiry' hid hsame hnext => ?_,
      fun later carried => ?_⟩
    · have hnextEvent : (Call.renew later clock).event (exec node final (.renew later clock)).1 =
          some (.renew later version' expiry') := by
        rw [hnext]
        rfl
      have hnextScan : (Call.renew later clock).scan? = some id := congrArg some hid
      exact (renewal_fences hsoundFinal hinv hstep hg'' hadvances).1 hnextScan hnextEvent hsame
    · exact (renewal_fences hsoundFinal hinv hstep hg'' hadvances).2
  · subst hcall
    cases hscan
    exact primaryCommit_in_time hsound (Answer.commit.inj hprimary)

/-- The worker of the small service stalls until its lease has lapsed and a
second worker has taken over under fence 2. -/
theorem fencing_sample :
    let after := (exec sampleNode sampleDatabase
      (.acquire "scan-1" (some "attempt-2") (some 1030))).2
    let final := Machine.run (exec sampleNode) after
      [.start ⟨"scan-1", "attempt-2", 2, 1⟩ (some 1031)]
    Refused sampleNode final (.renew ⟨"scan-1", "attempt-1", 1, 1⟩ (some 1032)) ∧
      Refused sampleNode final (.commit (some (sampleResult 5)) 1033) := by
  intro after final
  have hissued : (exec sampleNode sampleDatabase
      (.acquire "scan-1" (some "attempt-2") (some 1030))).1 =
      .acquire (.leaseAcquired
        ⟨"scan-1", "attempt-2", 2, 2, 1, "example.com", 1045, 1075⟩) := by
    decide +kernel
  have hkept : Machine.Along (exec sampleNode)
      (fun db call => ¬ Deletes sampleNode db call "scan-1") after
      [.start ⟨"scan-1", "attempt-2", 2, 1⟩ (some 1031)] := ⟨id, trivial⟩
  have hfenced := ((fencing sampleDatabase_reachable rfl hkept).1 _ hissued).2
  refine ⟨hfenced _ 1 (some 1) rfl ?_, hfenced _ 1 none rfl ?_⟩
  · exact (by decide : 1 < 2)
  · exact (by decide : 1 < 2)

end Outscan

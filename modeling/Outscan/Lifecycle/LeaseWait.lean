import Outscan.Lifecycle.Transitions
import Outscan.Quota.RetryAdvice

/-! How long a lease keeps other workers off: until the wait they were told is
over, and not beyond. -/
namespace Outscan

open Relational Transactional Lifecycle

/-- Until `limit` the current attempt of the scan holds its lease. -/
structure LeaseStands (t : Tables) (id : String) (limit : Nat) (g : Aggregate)
    (current : GuestScanAttempt) (earlier : List GuestScanAttempt) : Prop where
  aggregate : t.aggregate? id = some g
  running : g.scan.jobState = .running
  attempts : g.attempts = current :: earlier
  lease : ∃ expiry, current.leaseExpiresAt = some expiry ∧
    min expiry current.hardDeadline = limit

/-- A call that neither renews, commits nor cancels the scan, made before `limit` if
it can lease or remove it. -/
def LeavesLease (id : String) (limit : Nat) : Call → Prop
  | .acquire guestScanId _ clock => guestScanId = id → ∀ now ∈ nowValue clock, now < limit
  | .renew command _ => command.guestScanId ≠ id
  | .commit result _ => result.map AuthenticatedResult.jobId ≠ some id
  | .cancel guestScanId _ => guestScanId ≠ id
  | .createOrReplay _ request => request.trustedNow < limit
  | .runBatch _ clock _ => ∀ now ∈ nowValue clock, now < limit
  | .start _ _ => True
  | .setServiceState _ => True

/-! ### What a held lease says -/

/-- The rows behind the answer `LEASE_HELD`. -/
structure HeldBy (t : Tables) (id : String) (now wait : Nat) (scan : GuestScan)
    (attempt : GuestScanAttempt) (expiry : Nat) : Prop where
  stored : t.guestScans.find? id = some scan
  running : scan.jobState = .running
  loaded : scan.currentAttemptId.bind (t.loadAttempt scan.id) = some attempt
  lease : attempt.leaseExpiresAt = some expiry
  before : now < expiry ∧ now < attempt.hardDeadline
  advice : wait = min expiry attempt.hardDeadline - now

theorem heldAttempt_run {scan : GuestScan} {t t' : Tables} {held : GuestScanAttempt × Nat}
    (h : (heldAttempt scan).run t = .ok (held, t')) :
    scan.currentAttemptId.bind (t.loadAttempt scan.id) = some held.1 ∧
      held.1.leaseExpiresAt = some held.2 ∧ t' = t := by
  unfold heldAttempt at h
  rw [Tx.run_bind_get] at h
  split at h
  · exact (Tx.run_fail_ok.mp h).elim
  · rename_i attempt hattempt
    split at h
    · exact (Tx.run_fail_ok.mp h).elim
    · rename_i expiry hexpiry
      split at h
      · exact (Tx.run_fail_ok.mp h).elim
      · obtain ⟨rfl, rfl⟩ := Tx.run_pure_ok.mp h
        exact ⟨hattempt, hexpiry, rfl⟩

theorem terminateJob_answer {scan : GuestScan} {now : Nat} {terminal : TerminalState}
    {t t' : Tables} {answer : AcquireGuestLeaseResult}
    (h : (terminateJob scan now terminal).run t = .ok (answer, t')) :
    answer = .jobTerminated terminal := by
  unfold terminateJob at h
  rw [Tx.run_bind_ok] at h
  obtain ⟨_, _, -, h⟩ := h
  rw [Tx.run_bind_ok] at h
  obtain ⟨_, _, -, h⟩ := h
  rw [Tx.run_bind_ok] at h
  obtain ⟨_, _, -, h⟩ := h
  rw [Tx.run_bind_ok] at h
  obtain ⟨_, _, -, h⟩ := h
  exact (Tx.run_pure_ok.mp h).1

theorem leaseNew_answer {scan : GuestScan} {createAttemptId : Option String}
    {attemptNo fence now : Nat} {t t' : Tables} {answer : AcquireGuestLeaseResult}
    (h : (leaseNew scan createAttemptId attemptNo fence now).run t = .ok (answer, t')) :
    ∃ lease, answer = .leaseAcquired lease := by
  unfold leaseNew at h
  split at h
  · exact (Tx.run_fail_ok.mp h).elim
  · split at h
    · exact (Tx.run_fail_ok.mp h).elim
    · rw [Tx.run_bind_ok] at h
      obtain ⟨lease, _, -, h⟩ := h
      exact ⟨lease, (Tx.run_pure_ok.mp h).1⟩

theorem acquireBody_held {id : String} {createAttemptId : Option String} {now wait : Nat}
    {t t' : Tables}
    (h : (acquireBody id createAttemptId now).run t = .ok (.leaseHeld wait, t')) :
    ∃ scan attempt expiry, HeldBy t id now wait scan attempt expiry := by
  unfold acquireBody at h
  rw [Tx.run_bind_get] at h
  split at h
  · cases (Tx.run_pure_ok.mp h).1
  · rename_i scan hscan
    split at h
    · cases (Tx.run_pure_ok.mp h).1
    · split at h
      · cases terminateJob_answer h
      · split at h
        · rename_i hrunning
          unfold acquireRunning at h
          rw [Tx.run_bind_ok] at h
          obtain ⟨held, _, hheld, h⟩ := h
          obtain ⟨hattempt, hlease, rfl⟩ := heldAttempt_run hheld
          dsimp only at h
          split at h
          · rename_i hbefore
            obtain ⟨hwait, -⟩ := Tx.run_pure_ok.mp h
            exact ⟨scan, held.1, held.2, hscan, hrunning, hattempt, hlease, hbefore,
              AcquireGuestLeaseResult.leaseHeld.inj hwait⟩
          · rw [Tx.run_bind_ok] at h
            obtain ⟨_, _, -, h⟩ := h
            split at h
            · cases terminateJob_answer h
            · obtain ⟨_, hanswer⟩ := leaseNew_answer h
              cases hanswer
        · obtain ⟨_, hanswer⟩ := leaseNew_answer h
          cases hanswer

theorem acquire_held {id : String} {createAttemptId : Option String} {clock : ClockReading}
    {db : Database} {wait : Nat}
    (h : (acquire id createAttemptId clock db).1 = .leaseHeld wait) :
    ∃ now scan attempt expiry, nowValue clock = some now ∧
      HeldBy db.val id now wait scan attempt expiry := by
  unfold acquire at h
  split at h
  · cases h
  · split at h
    · cases h
    · rename_i now hnow
      rcases transaction_cases .unavailable (acquireBody id createAttemptId now) db with hrun | hfail
      · rw [h] at hrun
        obtain ⟨scan, attempt, expiry, hheld⟩ := acquireBody_held hrun
        exact ⟨now, scan, attempt, expiry, hnow, hheld⟩
      · rw [hfail] at h
        cases h

/-! ### While the lease stands -/

section Standing

variable (node : NodeRuntime) {db : Database} {id : String} {limit : Nat} {g : Aggregate}
  {current : GuestScanAttempt} {earlier : List GuestScanAttempt}

theorem LeaseStands.load (h : LeaseStands db.val id limit g current earlier) (hinv : Inv g) :
    g.scan.currentAttemptId.bind (db.val.loadAttempt g.scan.id) = some current := by
  have hid := Tables.scan_id_of_aggregate? h.aggregate
  rw [hinv.current, h.attempts, List.head?_cons, Option.map_some, Option.bind_some, hid]
  refine (Tables.loadAttempt_eq_some h.aggregate).mpr ⟨?_, rfl⟩
  rw [h.attempts]
  exact List.mem_cons_self

theorem LeaseStands.limit_le (h : LeaseStands db.val id limit g current earlier) (hinv : Inv g) :
    limit ≤ g.scan.resultAccessExpiresAt := by
  obtain ⟨expiry, -, hlimit⟩ := h.lease
  have hdeadline := hinv.deadline current (by rw [h.attempts]; exact List.mem_cons_self)
  omega

theorem LeaseStands.acquire_unchanged (h : LeaseStands db.val id limit g current earlier)
    (hinv : Inv g) {clock : ClockReading} (hbefore : ∀ now ∈ nowValue clock, now < limit)
    (createAttemptId : Option String) : (acquire id createAttemptId clock db).2 = db := by
  have hlimit := h.limit_le hinv
  obtain ⟨expiry, hexpiry, hmin⟩ := h.lease
  unfold acquire
  split
  · rfl
  · cases hnow : nowValue clock with
    | none => rfl
    | some now =>
      have hlt := hbefore now hnow
      dsimp only
      rcases transaction_cases .unavailable (acquireBody id createAttemptId now) db with hrun | hsame
      · refine Subtype.ext ?_
        generalize transaction AcquireGuestLeaseResult.unavailable
          (acquireBody id createAttemptId now) db = result at hrun ⊢
        unfold acquireBody at hrun
        rw [Tx.run_bind_get] at hrun
        simp only [(Tables.aggregate?_eq_some.mp h.aggregate).1] at hrun
        split at hrun
        · exact (Tx.run_pure_ok.mp hrun).2
        · rw [if_neg (by omega), if_pos h.running] at hrun
          unfold acquireRunning at hrun
          rw [Tx.run_bind_ok] at hrun
          obtain ⟨held, _, hheld, hrun⟩ := hrun
          obtain ⟨hattempt, hlease, rfl⟩ := heldAttempt_run hheld
          rw [h.load hinv] at hattempt
          cases hattempt
          rw [hexpiry] at hlease
          cases hlease
          dsimp only at hrun
          rw [if_pos (by omega)] at hrun
          exact (Tx.run_pure_ok.mp hrun).2
      · rw [hsame]

theorem LeaseStands.acquire_free (h : LeaseStands db.val id limit g current earlier) (hinv : Inv g)
    {clock : ClockReading} (hafter : ∀ now ∈ nowValue clock, limit ≤ now)
    (createAttemptId : Option String) (wait : Nat) :
    (acquire id createAttemptId clock db).1 ≠ .leaseHeld wait := by
  intro hheld
  obtain ⟨now, scan, attempt, expiry, hnow, hheld⟩ := acquire_held hheld
  have hscan := hheld.stored
  rw [(Tables.aggregate?_eq_some.mp h.aggregate).1] at hscan
  cases hscan
  have hloaded := hheld.loaded
  rw [h.load hinv] at hloaded
  cases hloaded
  obtain ⟨found, hfound, hlimit⟩ := h.lease
  have hlease := hheld.lease
  rw [hfound] at hlease
  cases hlease
  have hlt := hheld.before
  have hle := hafter now hnow
  omega

/-- The step lemma: a call before the limit that neither renews, commits nor cancels
leaves the lease as it stands. -/
theorem LeaseStands.step (hsound : Sound db.val)
    (h : LeaseStands db.val id limit g current earlier) {call : Call}
    (hleaves : LeavesLease id limit call) :
    ∃ g' current' earlier', LeaseStands (exec node db call).2.val id limit g' current' earlier' := by
  have hinv := hsound id g h.aggregate
  have hlimit := h.limit_le hinv
  have htime := (Tables.scan_check_of_aggregate? h.aggregate).time
  have haccess := htime.access
  have hidempotency := htime.idempotency
  have hdeletion := htime.deletion
  cases exec_change node hsound call id with
  | kept same quiet =>
    exact ⟨g, current, earlier, same.trans h.aggregate, h.running, h.attempts, h.lease⟩
  | created g' before after sound =>
    rw [h.aggregate] at before
    cases before
  | deleted deletes after =>
    cases call with
    | createOrReplay dependencies request =>
      have hexpired := createOrReplay_deletes h.aggregate deletes
      have hbefore : request.trustedNow < limit := hleaves
      omega
    | runBatch batchSize clock locked =>
      obtain ⟨now, hnow, hdue⟩ := runBatch_deletes h.aggregate deletes
      have hbefore : now < limit := hleaves now hnow
      omega
    | _ => exact deletes.elim
  | event event g₀ g' scan answer before after step =>
    rw [h.aggregate] at before
    cases before
    cases call with
    | acquire guestScanId createAttemptId clock =>
      cases scan
      have hsame : (exec node db (.acquire id createAttemptId clock)).2 = db :=
        h.acquire_unchanged hinv (hleaves rfl) createAttemptId
      rw [hsame]
      exact ⟨g, current, earlier, h⟩
    | start command clock =>
      cases scan
      have hstart : event = .start command := by
        change (start command clock db).1.event command = _ at answer
        cases hresult : (start command clock db).1 with
        | started =>
          rw [hresult] at answer
          exact (Option.some.inj answer).symm
        | _ =>
          rw [hresult] at answer
          cases answer
      subst hstart
      cases step with
      | start current' earlier' command now attempts holds leased =>
        rw [h.attempts] at attempts
        cases attempts
        exact ⟨_, (startAttempt now).apply current, earlier, after, h.running, rfl, h.lease⟩
    | renew command clock => exact absurd (Option.some.inj scan) hleaves
    | commit result transactionNow => exact absurd scan hleaves
    | cancel guestScanId clock => exact absurd (Option.some.inj scan) hleaves
    | createOrReplay dependencies request => cases scan
    | runBatch batchSize clock locked => cases scan
    | setServiceState state => cases scan

/-- The run lemma. -/
theorem LeaseStands.run (hsound : Sound db.val)
    (h : LeaseStands db.val id limit g current earlier) {calls : List Call}
    (hleaves : ∀ call ∈ calls, LeavesLease id limit call) :
    Sound (Machine.run (exec node) db calls).val ∧ ∃ g' current' earlier',
      LeaseStands (Machine.run (exec node) db calls).val id limit g' current' earlier' := by
  induction calls generalizing db g current earlier with
  | nil => exact ⟨hsound, g, current, earlier, h⟩
  | cons call rest ih =>
    obtain ⟨g', current', earlier', hstep⟩ := h.step node hsound (hleaves call (by simp))
    exact ih (exec_sound node hsound call) hstep fun other hother => hleaves other (by simp [hother])

end Standing

/-- The wait of a held lease is over after at least a second, and then the lease is
not held any more, whatever else happened meanwhile except for its renewal, a commit
or a cancellation. -/
theorem acquire_held_wait {node : NodeRuntime} {db : Database} (hreach : Reachable node db)
    {id : String} {createAttemptId : Option String} {clock : ClockReading} {wait : Nat}
    (h : (acquire id createAttemptId clock db).1 = .leaseHeld wait) :
    ∃ now, nowValue clock = some now ∧ 1 ≤ wait ∧
      ∀ calls, (∀ call ∈ calls, LeavesLease id (now + wait) call) →
        ∀ createAttemptId' wait',
          (acquire id createAttemptId' (some ((now + wait : Nat) : Int))
            (Machine.run (exec node) db calls)).1 ≠ .leaseHeld wait' := by
  obtain ⟨now, scan, attempt, expiry, hnow, hheld⟩ := acquire_held h
  have hbefore := hheld.before
  have hadvice := hheld.advice
  refine ⟨now, hnow, by omega, fun calls hleaves createAttemptId' wait' => ?_⟩
  have hmem := Table.find?_mem hheld.stored
  obtain ⟨g, hg, rfl⟩ := aggregate?_of_scan hmem
  have hid : g.scan.id = id := Table.find?_key hheld.stored
  rw [hid] at hg
  have hinv := hreach.sound id g hg
  obtain ⟨current, earlier, hattempts, -⟩ := hinv.running_of_attempts hheld.running
  have hstands : LeaseStands db.val id (now + wait) g current earlier := by
    have hloaded := hheld.loaded
    rw [hinv.current, hattempts, List.head?_cons, Option.map_some, Option.bind_some, hid,
      Tables.loadAttempt_eq_some hg, hattempts] at hloaded
    have hsame : attempt = current := by
      have hcurrent : current ∈ g.attempts := by
        rw [hattempts]
        exact List.mem_cons_self
      have hmine : attempt ∈ g.attempts := by
        rw [hattempts]
        exact hloaded.1
      have hfind := Tables.find?_attempt_of_aggregate? hg hmine
      rw [hloaded.2, Tables.find?_attempt_of_aggregate? hg hcurrent] at hfind
      exact (Option.some.inj hfind).symm
    subst hsame
    exact ⟨hg, hheld.running, hattempts, expiry, hheld.lease, by omega⟩
  obtain ⟨hsound, g', current', earlier', hlater⟩ := hstands.run node hreach.sound hleaves
  refine hlater.acquire_free (hsound id g' hlater.aggregate) (fun later hlaterNow => ?_)
    createAttemptId' wait'
  simp only [nowValue] at hlaterNow
  split at hlaterNow
  · have hsame := Option.mem_some_iff.mp hlaterNow
    omega
  · cases hlaterNow

/-- Both pieces of advice are sound. -/
theorem retryAdvice_sound (node : NodeRuntime) (db : Database) :
    (∀ dependencies request code wait,
      (createOrReplay node dependencies request db).1 = .abuseLimitExceeded code (some wait) →
      (1 ≤ wait ∧ wait ≤ 86400) ∧
        ∀ calls dependencies' retryAfterSeconds, charges node db calls = [] →
          (createOrReplay node dependencies'
            { request with trustedNow := request.trustedNow + wait }
            (Machine.run (exec node) db calls)).1 ≠ .abuseLimitExceeded code retryAfterSeconds) ∧
    (Reachable node db → ∀ id createAttemptId clock wait,
      (acquire id createAttemptId clock db).1 = .leaseHeld wait →
      ∃ now, nowValue clock = some now ∧ 1 ≤ wait ∧
        ∀ calls, (∀ call ∈ calls, LeavesLease id (now + wait) call) →
          ∀ createAttemptId' wait',
            (acquire id createAttemptId' (some ((now + wait : Nat) : Int))
              (Machine.run (exec node) db calls)).1 ≠ .leaseHeld wait') :=
  ⟨fun _ _ _ _ h => retry_after_window node h, fun hreach _ _ _ _ h => acquire_held_wait hreach h⟩

/-- Session 1 creates and cancels a scan under the `i`th key and id. -/
def sampleCancelled (i : String) : List Call :=
  [.createOrReplay (sampleDependencies ("scan-" ++ i))
      { sampleRequest 1 1000 with idempotencyKey := "key-" ++ i },
    .cancel ("scan-" ++ i) (some 1000)]

def KeepsAway : Call → Prop
  | .renew _ _ | .commit _ _ | .cancel _ _ => False
  | _ => True

/-- The advice of a held lease alone is not enough: another worker who comes at the advised second
is first, and the lease is held again. -/
theorem retryAdvice_overtaken :
    let db := Machine.run (exec sampleNode) Database.initial
      [.createOrReplay (sampleDependencies "scan-8") (sampleRequest 2 1000),
        .acquire "scan-8" (some "attempt-1") (some 1001)]
    let between := [Call.acquire "scan-8" (some "attempt-2") (some 1016)]
    Reachable sampleNode db ∧ (∀ call ∈ between, KeepsAway call) ∧
      (acquire "scan-8" none (some 1003) db).1 = .leaseHeld 13 ∧
      (acquire "scan-8" none (some (1003 + 13)) (Machine.run (exec sampleNode) db between)).1 =
        .leaseHeld 15 := by
  refine ⟨⟨_, rfl⟩, ?_, ?_, ?_⟩
  · intro call hcall
    rw [List.mem_singleton.mp hcall]
    trivial
  · decide +kernel
  · decide +kernel

theorem retryAdvice_sound_sample :
    let db := Machine.run (exec sampleNode) Database.initial
      (["3", "4", "5"].flatMap sampleCancelled ++
        [.createOrReplay (sampleDependencies "scan-8") (sampleRequest 2 1000),
          .acquire "scan-8" (some "attempt-1") (some 1001)])
    ((createOrReplay sampleNode (sampleDependencies "scan-1") (sampleRequest 1 1010) db).1 =
        .abuseLimitExceeded .sessionBurstLimit (some 590) ∧
      (createOrReplay sampleNode (sampleDependencies "scan-1") (sampleRequest 1 1600) db).1 ≠
        .abuseLimitExceeded .sessionBurstLimit (some 590)) ∧
    ((acquire "scan-8" none (some 1003) db).1 = .leaseHeld 13 ∧
      (acquire "scan-8" none (some 1016) db).1 ≠ .leaseHeld 13) := by
  dsimp only
  generalize hdb : Machine.run (exec sampleNode) Database.initial _ = db
  have hrefused : (createOrReplay sampleNode (sampleDependencies "scan-1") (sampleRequest 1 1010)
      db).1 = .abuseLimitExceeded .sessionBurstLimit (some 590) := by
    rw [← hdb]
    decide +kernel
  have hheld : (acquire "scan-8" none (some 1003) db).1 = .leaseHeld 13 := by
    rw [← hdb]
    decide +kernel
  have hsound := retryAdvice_sound sampleNode db
  refine ⟨⟨hrefused, ?_⟩, hheld, ?_⟩
  · exact (hsound.1 _ _ _ _ hrefused).2 [] _ _ rfl
  · obtain ⟨now, hnow, -, hlater⟩ := hsound.2 ⟨_, hdb⟩ _ _ _ _ hheld
    have hsame : now = 1003 := by
      have hread : nowValue (some 1003) = some 1003 := by decide
      rw [hread] at hnow
      exact (Option.some.inj hnow).symm
    subst hsame
    exact hlater [] (by simp) none 13

end Outscan

import Mathlib.Data.Option.Basic
import Outscan.GuestRetention.Runtime
import Outscan.Lifecycle.Drain

/-! Every audit record of a retention cycle can be stored: the validator of the
store and the CHECKs of its table accept whatever the cycle adds up. -/
namespace Outscan

open Relational Transactional Dynamic ThreeValued

/-! ### Reading checked values -/

theorem count_countDatum {n maximum : Nat} (h : n ≤ maximum) :
    count (countDatum n) maximum = some n := by
  simp [count, countDatum, Datum.natural?, Option.filter, h]

theorem second_bigint (n : Nat) : second (.bigint n) = some n := by
  simp [second, Datum.bigint?, Option.filter]

theorem integer_countDatum {n minimum maximum : Nat} (hmin : minimum ≤ n) (hmax : n ≤ maximum) :
    integer (countDatum n) minimum maximum = some n := by
  simp [integer, countDatum, Datum.natural?, Option.filter, hmin, hmax]

theorem integer_eq_some {value : Datum} {minimum maximum n : Nat}
    (h : integer value minimum maximum = some n) : minimum ≤ n ∧ n ≤ maximum := by
  simpa using (Option.filter_eq_some_iff.mp h).2

theorem validSuccessResult_bounds {value : Datum} {batchSize : Nat} {result : RetentionSuccess}
    (h : validSuccessResult value batchSize = some result) :
    result.dueScansSelected ≤ batchSize ∧ result.scansDeleted ≤ result.dueScansSelected ∧
      result.activeCounterDecrements ≤ result.scansDeleted * 2 ∧
      result.staleWindowsDeleted ≤ batchSize ∧
      result.inconsistencies ≤ result.scansDeleted * 2 := by
  simp only [validSuccessResult, Option.bind_eq_bind, Option.bind_eq_some_iff,
    Option.guard_eq_some', Option.pure_def, Option.some.injEq, exists_const] at h
  obtain ⟨-, -, observedAt, -, due, -, scans, -, decrements, -, stale, -, inconsistencies, -, hdue,
    hscans, hstale, hdecrements, hinconsistencies, moreWork, -, -, rfl⟩ := h
  exact ⟨hdue, hscans, hdecrements, hstale, hinconsistencies⟩

theorem validPruneResult_bound {value : Datum} {batchSize deleted : Nat} {moreWork : Bool}
    (h : validPruneResult value batchSize = some (deleted, moreWork)) : deleted ≤ batchSize := by
  simp only [validPruneResult, Option.bind_eq_bind, Option.bind_eq_some_iff,
    Option.guard_eq_some', Option.pure_def, Option.some.injEq, exists_const, Prod.mk.injEq] at h
  obtain ⟨-, -, found, hfound, found', -, rfl, rfl⟩ := h
  exact (integer_eq_some hfound).2

/-! ### What the cycle adds up -/

/-- The counts of a record after batches that select up to `bound` rows together. -/
structure Tallied (record : GuestRetentionRunRecord) (bound : Nat) : Prop where
  due : record.dueScansSelected ≤ bound
  scans : record.scansDeleted ≤ record.dueScansSelected
  decrements : record.activeCounterDecrements ≤ record.scansDeleted * 2
  stale : record.staleWindowsDeleted ≤ bound
  inconsistencies : record.inconsistencies ≤ record.scansDeleted * 2
  revocations : record.sessionRevocationsDeleted ≤ bound

inductive Shaped (record : GuestRetentionRunRecord) : Prop where
  | failed (status : record.status = .failed) (more : record.moreWork = none)
      (failure : record.failureCode = some .unavailable)
      (alert : record.alertCode = some .unavailable)
  | done (observed : Nat) (moreWork : Bool) (observedAt : record.observedAt = some observed)
      (more : record.moreWork = some moreWork)
      (status : record.status = if moreWork then .partialRun else .succeeded)
      (failure : record.failureCode = none)
      (alert : record.alertCode =
        if 0 < record.inconsistencies then some .inconsistency else none)

theorem Tallied.mono {record : GuestRetentionRunRecord} {bound bound' : Nat}
    (h : Tallied record bound) (hle : bound ≤ bound') : Tallied record bound' :=
  { h with
    due := h.due.trans hle
    stale := h.stale.trans hle
    revocations := h.revocations.trans hle }

theorem Tallied.addBatch {record : GuestRetentionRunRecord} {bound batchSize : Nat} {value : Datum}
    {result : RetentionSuccess} (h : Tallied record bound)
    (hresult : validSuccessResult value batchSize = some result) :
    Tallied (record.addBatch result) (bound + batchSize) := by
  obtain ⟨hdue, hscans, hdecrements, hstale, hinconsistencies⟩ := validSuccessResult_bounds hresult
  obtain ⟨hdue', hscans', hdecrements', hstale', hinconsistencies', hrevocations'⟩ := h
  constructor <;> dsimp only [GuestRetentionRunRecord.addBatch] <;> omega

structure Recorded (batchSize batch left : Nat) (start record : GuestRetentionRunRecord) : Prop where
  shaped : Shaped record
  batches : batch < record.batchCount ∧ record.batchCount ≤ batch + left
  tallied : Tallied record (record.batchCount * batchSize)
  identity : record.runId = start.runId ∧ record.startedAt = start.startedAt

/-- The loop: whatever the worker and the pruner do, the record fits together. -/
theorem runBatches_recorded (dependencies : RetentionDependencies) (batchSize : Nat)
    {left batch : Nat} {start : GuestRetentionRunRecord} (hleft : 0 < left)
    (hstart : Tallied start (batch * batchSize)) :
    Recorded batchSize batch left start (runBatches dependencies batchSize left batch start) := by
  induction left generalizing batch start with
  | zero => omega
  | succ left ih =>
    have hbound : (batch + 1) * batchSize = batch * batchSize + batchSize := Nat.succ_mul ..
    have hcounted : Tallied { start with batchCount := batch + 1 } (batch * batchSize) :=
      { hstart with }
    unfold runBatches
    dsimp only
    split
    · refine ⟨.failed rfl rfl rfl rfl, ⟨?_, ?_⟩, ?_, rfl, rfl⟩
      · exact Nat.lt_succ_self batch
      · change batch + 1 ≤ batch + (left + 1)
        omega
      · exact { hcounted.mono (by omega : _ ≤ (batch + 1) * batchSize) with }
    · rename_i result hresult
      obtain ⟨value, -, hvalid⟩ := Option.bind_eq_some_iff.mp hresult
      have hadded := hcounted.addBatch hvalid
      rw [← hbound] at hadded
      split
      · refine ⟨.failed rfl rfl rfl rfl, ⟨?_, ?_⟩, { hadded with }, rfl, rfl⟩
        · exact Nat.lt_succ_self batch
        · change batch + 1 ≤ batch + (left + 1)
          omega
      · rename_i deleted pruneMoreWork hpruned
        obtain ⟨answer, -, hanswer⟩ := Option.bind_eq_some_iff.mp hpruned
        have hdeleted := validPruneResult_bound hanswer
        have hrevocations := hstart.revocations
        have hnext : Tallied ((({ start with batchCount := batch + 1 } :
            GuestRetentionRunRecord).addBatch result).addPruned deleted
              (result.moreWork || pruneMoreWork)) ((batch + 1) * batchSize) := by
          refine { hadded with revocations := ?_ }
          change start.sessionRevocationsDeleted + deleted ≤ _
          omega
        have hshaped : Shaped ((({ start with batchCount := batch + 1 } :
            GuestRetentionRunRecord).addBatch result).addPruned deleted
              (result.moreWork || pruneMoreWork)) := .done _ _ rfl rfl rfl rfl rfl
        have hlast : Recorded batchSize batch (left + 1) start ((({ start with
            batchCount := batch + 1 } : GuestRetentionRunRecord).addBatch result).addPruned deleted
              (result.moreWork || pruneMoreWork)) := by
          refine ⟨hshaped, ⟨?_, ?_⟩, hnext, rfl, rfl⟩
          · exact Nat.lt_succ_self batch
          · change batch + 1 ≤ batch + (left + 1)
            omega
        split
        · cases left with
          | zero => exact hlast
          | succ left =>
            obtain ⟨hshape, hbatches, htallied, hid, hstarted⟩ := ih (Nat.succ_pos left) hnext
            exact ⟨hshape, ⟨by omega, by omega⟩, htallied, hid, hstarted⟩
        · exact hlast

/-! ### Both statements of the invariant -/

/-- What the cycle checks and establishes of the record it hands over. -/
structure Storable (record : GuestRetentionRunRecord) : Prop where
  runId : validId record.runId = true
  finished : record.startedAt ≤ record.finishedAt
  observed : observedInRun record record.finishedAt = true
  shaped : Shaped record
  batches : 1 ≤ record.batchCount ∧ record.batchCount ≤ 100
  tallied : Tallied record (record.batchCount * 1000)

theorem cycleRecord_storable {dependencies : RetentionDependencies} {options : Datum}
    {record : GuestRetentionRunRecord} (h : cycleRecord dependencies options = some record) :
    Storable record := by
  simp only [cycleRecord, Option.bind_eq_bind, Option.bind_eq_some_iff, Option.guard_eq_some',
    Option.pure_def, Option.some.injEq, exists_const] at h
  obtain ⟨cycle, hoptions, startedAt, -, runId, -, hid, finishedAt, -, hfinished, hobserved, rfl⟩ :=
    h
  simp only [validCycleOptions, Option.bind_eq_bind, Option.bind_eq_some_iff, Option.pure_def,
    Option.some.injEq] at hoptions
  obtain ⟨batchSize, hsize, maxBatches, hmax, rfl⟩ := hoptions
  obtain ⟨-, hsize⟩ := integer_eq_some hsize
  obtain ⟨hpositive, hmax⟩ := integer_eq_some hmax
  have hempty : Tallied (emptyRecord runId startedAt) (0 * batchSize) := by
    constructor <;> exact Nat.zero_le _
  obtain ⟨hshaped, hbatches, htallied, hsameId, hsameStart⟩ :=
    runBatches_recorded dependencies batchSize hpositive hempty
  dsimp only at hobserved ⊢
  generalize runBatches dependencies batchSize maxBatches 0 (emptyRecord runId startedAt) = record
    at hshaped hbatches htallied hsameId hsameStart hobserved ⊢
  refine ⟨?_, ?_, hobserved, ?_, ?_, ?_⟩
  · exact hsameId ▸ hid
  · exact hsameStart ▸ hfinished
  · cases hshaped with
    | failed status more failure alert => exact .failed status more failure alert
    | done observed moreWork observedAt more status failure alert =>
      exact .done observed moreWork observedAt more status failure alert
  · change 1 ≤ record.batchCount ∧ record.batchCount ≤ 100
    rw [maxBatchesPerCycle] at hmax
    omega
  · exact { htallied.mono (Nat.mul_le_mul_left _ hsize) with }

theorem Storable.observed_within {record : GuestRetentionRunRecord} (h : Storable record)
    {observed : Nat} (hobserved : record.observedAt = some observed) :
    observedWithin (.bigint observed) record.startedAt record.finishedAt = true := by
  have hrun := h.observed
  rw [observedInRun, hobserved] at hrun
  rw [observedWithin, second_bigint]
  exact hrun

theorem Storable.status_accepted {record : GuestRetentionRunRecord} (h : Storable record) :
    statusAccepted record.toDatum record.startedAt record.finishedAt record.inconsistencies =
      true := by
  cases h.shaped with
  | failed status more failure alert =>
    have hobserved : (isNullDatum (nullable (fun second : Nat => .bigint second) record.observedAt) ||
        observedWithin (nullable (fun second : Nat => .bigint second) record.observedAt)
          record.startedAt record.finishedAt) = true := by
      cases hrecord : record.observedAt with
      | none => rfl
      | some observed => exact h.observed_within hrecord
    simp [statusAccepted, GuestRetentionRunRecord.toDatum, Datum.get_object_cons, status,
      more, failure, alert, GuestRetentionRunStatus.text, Datum.string?, nullable, isNullDatum,
      GuestRetentionFailureCode.text, GuestRetentionAlertCode.text] at hobserved ⊢
    exact hobserved
  | done observed moreWork observedAt more status failure alert =>
    have hwithin := h.observed_within observedAt
    by_cases hzero : record.inconsistencies = 0 <;> cases moreWork <;>
      simp [statusAccepted, GuestRetentionRunRecord.toDatum, Datum.get_object_cons, status,
        more, failure, alert, observedAt, hwithin, hzero, GuestRetentionRunStatus.text,
        Datum.string?, Datum.bool?, nullable, isNullDatum, GuestRetentionAlertCode.text,
        Nat.pos_iff_ne_zero]

theorem Storable.validated {record : GuestRetentionRunRecord} (h : Storable record) :
    validateGuestRetentionRunRecord record.toDatum = some record.toDatum := by
  have hkeys : record.toDatum.hasExactKeys retentionRunKeys = true := by
    have hall : (decide (retentionRunKeys.length = retentionRunKeys.length) &&
        retentionRunKeys.all fun key => retentionRunKeys.contains key) = true := by decide
    exact hall
  obtain ⟨hdue, hscans, hdecrements, hstale, hinconsistencies, hrevocations⟩ := h.tallied
  obtain ⟨hfirst, hlast⟩ := h.batches
  have hmax : retentionMaxCount = 200000 := rfl
  have hbatchMax : retentionMaxBatches = 100 := rfl
  have hget : record.toDatum.get "run_id" = .string record.runId ∧
      record.toDatum.get "started_at_unix_seconds" = .bigint record.startedAt ∧
      record.toDatum.get "finished_at_unix_seconds" = .bigint record.finishedAt ∧
      record.toDatum.get "batch_count" = countDatum record.batchCount ∧
      record.toDatum.get "due_scans_selected" = countDatum record.dueScansSelected ∧
      record.toDatum.get "scans_deleted" = countDatum record.scansDeleted ∧
      record.toDatum.get "active_counter_decrements" =
        countDatum record.activeCounterDecrements ∧
      record.toDatum.get "stale_windows_deleted" = countDatum record.staleWindowsDeleted ∧
      record.toDatum.get "session_revocations_deleted" =
        countDatum record.sessionRevocationsDeleted ∧
      record.toDatum.get "inconsistencies" = countDatum record.inconsistencies := by
    simp [GuestRetentionRunRecord.toDatum, Datum.get_object_cons]
  obtain ⟨hrunId, hstarted, hfinished, hbatch, hdueGet, hscansGet, hdecrementsGet, hstaleGet,
    hrevocationsGet, hinconsistenciesGet⟩ := hget
  simp only [validateGuestRetentionRunRecord, Option.bind_eq_bind, Option.bind_eq_some_iff,
    Option.guard_eq_some', Option.pure_def, exists_const]
  exact ⟨hkeys, record.runId, by rw [hrunId]; rfl, h.runId, record.startedAt,
    by rw [hstarted, second_bigint], record.finishedAt, by rw [hfinished, second_bigint], h.finished,
    record.batchCount, by rw [hbatch, count_countDatum (by omega)], hfirst,
    _, by rw [hdueGet, count_countDatum (by omega)], _, by rw [hscansGet, count_countDatum (by omega)],
    _, by rw [hdecrementsGet, count_countDatum (by omega)],
    _, by rw [hstaleGet, count_countDatum (by omega)],
    _, by rw [hrevocationsGet, count_countDatum (by omega)],
    record.inconsistencies, by rw [hinconsistenciesGet, count_countDatum (by omega)],
    h.status_accepted, trivial⟩

theorem Storable.accepted {record : GuestRetentionRunRecord} (h : Storable record) :
    RetentionRunAccepted record := by
  refine ⟨passes_of ?_, passes_of ?_, passes_of (known_of h.tallied.revocations)⟩
  · refine anyOf_of ?_
    cases h.shaped with
    | failed status more failure alert =>
      refine List.mem_cons.mpr (.inl (allOf_of ?_).symm)
      simp [status, more, failure, alert, known, isNull, equal]
    | done observed moreWork observedAt more status failure alert =>
      refine List.mem_cons_of_mem _ (List.mem_singleton.mpr (allOf_of ?_).symm)
      have hcodes : anyOf [
          allOf [known (record.inconsistencies = 0), isNull record.alertCode],
          allOf [known (0 < record.inconsistencies),
            equal record.alertCode (some .inconsistency)]] = some true := by
        by_cases hzero : record.inconsistencies = 0
        · refine anyOf_of (List.mem_cons.mpr (.inl (allOf_of ?_).symm))
          simp [hzero, alert, known, isNull]
        · refine anyOf_of (List.mem_cons_of_mem _ (List.mem_singleton.mpr (allOf_of ?_).symm))
          simp [Nat.pos_iff_ne_zero.mpr hzero, alert, known, equal]
      simp only [List.forall_mem_cons]
      refine ⟨?_, ?_, ?_, ?_, hcodes, by simp⟩
      · cases moreWork <;> simp [status, known]
      · simp [observedAt, isNotNull]
      · simp [failure, isNull]
      · cases moreWork <;> simp [status, more, equal]
  · refine allOf_of ?_
    have htallied := h.tallied
    simp [known, h.batches, htallied.due, htallied.scans, htallied.decrements, htallied.stale,
      htallied.inconsistencies]

/-! ### The worker's own results -/

theorem validSuccessResult_runBatch {batchSize now : Nat} {clock : ClockReading}
    (hsize : 1 ≤ batchSize ∧ batchSize ≤ maxBatchSize) (hclock : nowValue clock = some now)
    (hnow : now < timestampEnd) (locked : LockedRows) (db : Database) :
    (validSuccessResult (runBatch batchSize clock locked db).1.toDatum batchSize).isSome = true := by
  obtain ⟨final, active, hanswer, -, hsummed⟩ := runBatch_run hsize hclock hnow locked db
  have hdue : (db.val.dueScans now batchSize locked).length ≤ batchSize := length_dueScans_le
  have hstale : (db.val.staleWindows now batchSize locked).length ≤ batchSize :=
    length_staleWindows_le
  obtain ⟨hdeleted, hdecrements, hinconsistencies, -⟩ := hsummed
  dsimp only at hdeleted hdecrements hinconsistencies
  rw [hanswer]
  generalize (db.val.dueScans now batchSize locked).length = due at *
  generalize (db.val.staleWindows now batchSize locked).length = stale at *
  generalize (db.val.afterBatch now batchSize locked active).moreWork now = moreWork
  have hvalid : validSuccessResult (GuestRetentionBatchResult.toDatum (.ok now due
      final.scansDeleted final.activeCounterDecrements stale final.inconsistencies moreWork
      (decide (0 < final.inconsistencies)))) batchSize =
      some ⟨now, due, final.scansDeleted, final.activeCounterDecrements, stale,
        final.inconsistencies, moreWork⟩ := by
    have hkeys : (GuestRetentionBatchResult.toDatum (.ok now due final.scansDeleted
        final.activeCounterDecrements stale final.inconsistencies moreWork
        (decide (0 < final.inconsistencies)))).hasExactKeys batchResultKeys = true := by
      have hall : (decide (batchResultKeys.length = batchResultKeys.length) &&
          batchResultKeys.all fun key => batchResultKeys.contains key) = true := by decide
      exact hall
    simp only [validSuccessResult, Option.bind_eq_bind, Option.bind_eq_some_iff,
      Option.guard_eq_some', Option.pure_def, Option.some.injEq, exists_const]
    refine ⟨hkeys, rfl, now, second_bigint now, due, ?_, final.scansDeleted, ?_,
      final.activeCounterDecrements, ?_, stale, ?_, final.inconsistencies, ?_, hdue, ?_, hstale, ?_,
      ?_, moreWork, rfl, rfl, rfl⟩
    · exact integer_countDatum (Nat.zero_le _) (by omega)
    · exact integer_countDatum (Nat.zero_le _) (by omega)
    · exact integer_countDatum (Nat.zero_le _) (by omega)
    · exact integer_countDatum (Nat.zero_le _) (by omega)
    · exact integer_countDatum (Nat.zero_le _) (by omega)
    · omega
    · omega
    · omega
  rw [hvalid]
  rfl

theorem runBatch_outOfRange {batchSize now : Nat} {clock : ClockReading}
    (hclock : nowValue clock = some now) (hnow : timestampEnd ≤ now) (locked : LockedRows)
    (db : Database) : (runBatch batchSize clock locked db).1 = .invalidRequest ∨
      (runBatch batchSize clock locked db).1 = .unavailable := by
  unfold runBatch
  split
  · exact .inl rfl
  · rw [hclock]
    rcases transaction_cases .unavailable (runBatchBody batchSize now locked) db with hrun | hfailed
    · unfold runBatchBody at hrun
      rw [Tx.run_bind_ok] at hrun
      obtain ⟨_, _, hensure, -⟩ := hrun
      have hlt := (Tx.run_ensure_ok.mp hensure).1
      omega
    · exact .inr (congrArg Prod.fst hfailed)

/-- Audit records are storable: a batch fails or its result passes the check of the
cycle, and whatever the worker, the pruner and the clock do, the record that
`runGuestRetentionCycle` hands to the store passes the validator and the CHECKs. -/
theorem retentionRecords_storable :
    (∀ batchSize clock locked db, (runBatch batchSize clock locked db).1 = .invalidRequest ∨
      (runBatch batchSize clock locked db).1 = .unavailable ∨
      (validSuccessResult (runBatch batchSize clock locked db).1.toDatum batchSize).isSome = true) ∧
    ∀ dependencies options record, cycleRecord dependencies options = some record →
      validateGuestRetentionRunRecord record.toDatum = some record.toDatum ∧
        RetentionRunAccepted record := by
  refine ⟨fun batchSize clock locked db => ?_, fun dependencies options record h => ?_⟩
  · by_cases hsize : 1 ≤ batchSize ∧ batchSize ≤ maxBatchSize
    · cases hclock : nowValue clock with
      | none =>
        refine .inr (.inl ?_)
        unfold runBatch
        rw [if_neg (by omega), hclock]
      | some now =>
        by_cases hnow : now < timestampEnd
        · exact .inr (.inr (validSuccessResult_runBatch hsize hclock hnow locked db))
        · rcases runBatch_outOfRange hclock (not_lt.mp hnow) locked db with hfailed | hfailed
          · exact .inl hfailed
          · exact .inr (.inl hfailed)
    · refine .inl ?_
      unfold runBatch
      rw [if_pos (by omega)]
  · have hstorable := cycleRecord_storable h
    exact ⟨hstorable.validated, hstorable.accepted⟩

def sampleCycle : RetentionDependencies where
  worker := fun batch =>
    if batch = 0 then some (GuestRetentionBatchResult.toDatum (.ok 1000 5 5 8 5 2 true true)) else none
  revocationPruner := fun _ =>
    some (.object [("ok", .bool true), ("deleted", countDatum 3), ("more_work", .bool false)])
  createRunId := some "run-1"
  startClock := some 990
  finishClock := some 1010

def sampleCycleOptions : Datum :=
  .object [("batch_size", countDatum 5), ("max_batches", countDatum 10)]

def sampleCycleRecord : GuestRetentionRunRecord where
  runId := "run-1"
  startedAt := 990
  finishedAt := 1010
  status := .failed
  observedAt := some 1000
  batchCount := 2
  dueScansSelected := 5
  scansDeleted := 5
  activeCounterDecrements := 8
  staleWindowsDeleted := 5
  sessionRevocationsDeleted := 3
  inconsistencies := 2
  moreWork := none
  failureCode := some .unavailable
  alertCode := some .unavailable

theorem retentionRecords_storable_sample :
    cycleRecord sampleCycle sampleCycleOptions = some sampleCycleRecord ∧
      validateGuestRetentionRunRecord sampleCycleRecord.toDatum = some sampleCycleRecord.toDatum ∧
        RetentionRunAccepted sampleCycleRecord := by
  have hrecord : cycleRecord sampleCycle sampleCycleOptions = some sampleCycleRecord := by
    decide +kernel
  exact ⟨hrecord, retentionRecords_storable.2 _ _ _ hrecord⟩

end Outscan

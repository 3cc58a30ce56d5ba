import Outscan.GuestTelemetry.Conservation
import Outscan.Persistence.Schema

/-! The PostgreSQL store of the batches. What it does with the batch on its way
is among the behaviours the buffer is proved against. -/
namespace Outscan

open Relational

/-- A row of `platform_guest_queue_telemetry_batches`. -/
structure TelemetryRow where
  batch : GuestQueueTelemetryBatch
  retentionDeadline : Int

/-- The CHECKs of the table. They repeat the checks of the service, except that
the start of a batch may lie before 1970, and fix the retention deadline. -/
def telemetryRowCheck (row : TelemetryRow) : Bool :=
  validId row.batch.batchId && decide (row.batch.startedAt ≤ row.batch.finishedAt) &&
    decide (row.retentionDeadline = row.batch.finishedAt + 2592000) &&
    decide (row.retentionDeadline < timestampEnd) &&
    (guestQueueOutcomes.all fun outcome =>
      decide (row.batch.counts outcome ≤ guestQueueMaxOutcomeCount)) &&
    !(guestQueueOutcomes.all fun outcome => decide (row.batch.counts outcome = 0)) &&
    decide (row.batch.alertCode =
      classifyGuestQueueAlert row.batch.counts row.batch.counterSaturated)

instance : Schema TelemetryRow String where
  key row := row.batch.batchId
  Distinct a b := a.batch.batchId ≠ b.batch.batchId
  Check row := telemetryRowCheck row = true
  distinct_symm h := h.symm
  key_ne h := h
  distinctDec _ _ := inferInstance
  checkDec _ := inferInstance

/-- The columns of a stored batch are those of `record`. -/
def matchesRecord (row record : GuestQueueTelemetryBatch) : Bool :=
  decide (row.batchId = record.batchId) && decide (row.startedAt = record.startedAt) &&
    decide (row.finishedAt = record.finishedAt) &&
    (guestQueueOutcomes.all fun outcome => decide (row.counts outcome = record.counts outcome)) &&
    decide (row.counterSaturated = record.counterSaturated) &&
    decide (row.alertCode = record.alertCode)

theorem matchesRecord_iff {row record : GuestQueueTelemetryBatch} :
    matchesRecord row record = true ↔ row = record := by
  constructor
  · intro h
    simp only [matchesRecord, Bool.and_eq_true, decide_eq_true_eq, List.all_eq_true] at h
    obtain ⟨⟨⟨⟨⟨hid, hstarted⟩, hfinished⟩, hcounts⟩, hsaturated⟩, halert⟩ := h
    have hsame : row.counts = record.counts := by
      funext outcome
      exact hcounts outcome (mem_guestQueueOutcomes outcome)
    cases row
    cases record
    dsimp only at hid hstarted hfinished hsame hsaturated halert
    rw [hid, hstarted, hfinished, hsame, hsaturated, halert]
  · rintro rfl
    simp [matchesRecord]

inductive StoreFault where
  | none
  | connect
  | beforeCommit
  | afterCommit
deriving DecidableEq, Repr

/-- The transaction of `persist`: prune, insert unless the id is there, and
insist that the row of that id is this batch. `none` is a rollback. -/
def persist (table : Table TelemetryRow) (record : GuestQueueTelemetryBatch) :
    Option (Bool × Table TelemetryRow) :=
  let pruned := table.erase fun row => decide (row.retentionDeadline ≤ record.finishedAt)
  match pruned.find? record.batchId with
  | some row => if matchesRecord row.batch record then some (false, pruned) else none
  | none =>
    match pruned.insert ⟨record, record.finishedAt + 2592000⟩ with
    | .ok after => some (true, after)
    | .error _ => none

/-- `recordAndPrune` under a fault; every failure is answered alike. -/
def recordAndPrune (table : Table TelemetryRow) (record : GuestQueueTelemetryBatch)
    (fault : StoreFault) : StoreAnswer × Table TelemetryRow :=
  if !validGuestQueueTelemetryBatch record then (.unusable, table)
  else
    match persist table record with
    | none => (.unusable, table)
    | some (inserted, after) =>
      match fault with
      | .connect | .beforeCommit => (.unusable, table)
      | .afterCommit => (.unusable, after)
      | .none => (.stored (!inserted), after)

theorem persist_eq_some {table after : Table TelemetryRow} {record : GuestQueueTelemetryBatch}
    {inserted : Bool} (h : persist table record = some (inserted, after)) :
    (∃ row ∈ after.rows, row.batch = record) ∧
      ∀ row ∈ after.rows, row ∈ table.rows ∨ row.batch = record := by
  rw [persist] at h
  generalize hpruned : (table.erase fun row =>
    decide (row.retentionDeadline ≤ record.finishedAt)) = pruned at h
  have hsubset : ∀ row ∈ pruned.rows, row ∈ table.rows := by
    intro row hrow
    rw [← hpruned] at hrow
    exact (List.mem_filter.mp hrow).1
  split at h
  · rename_i row hfind
    split at h
    · rename_i hmatches
      cases h
      exact ⟨⟨row, Table.find?_mem hfind, matchesRecord_iff.mp hmatches⟩,
        fun other hother => Or.inl (hsubset other hother)⟩
    · cases h
  · split at h
    · rename_i hinsert
      cases h
      obtain ⟨-, -, hrows⟩ := Table.insert_eq_ok.mp hinsert
      rw [hrows]
      refine ⟨⟨_, List.mem_append_right _ (List.mem_singleton.mpr rfl), rfl⟩, ?_⟩
      intro row hrow
      rcases List.mem_append.mp hrow with hold | hnew
      · exact Or.inl (hsubset row hold)
      · rw [List.mem_singleton.mp hnew]
        exact Or.inr rfl
    · cases h

/-- What a call of the store is to the buffer: a commit, when the table has the
batch afterwards, and the answer. -/
def storeEvents (table : Table TelemetryRow) (record : GuestQueueTelemetryBatch)
    (fault : StoreFault) : List TelemetryEvent :=
  let (answer, after) := recordAndPrune table record fault
  if after.rows.any fun row => matchesRecord row.batch record then
    [.storeCommits record, .storeAnswers answer]
  else [.storeAnswers answer]

def Backed (table : Table TelemetryRow) (w : TelemetryWorld) : Prop :=
  ∀ row ∈ table.rows, row.batch ∈ w.stored

theorem mem_storeBatch {stored : List GuestQueueTelemetryBatch} {batch : GuestQueueTelemetryBatch}
    (h : ∀ row ∈ stored, row.batchId = batch.batchId → row = batch) :
    batch ∈ storeBatch stored batch ∧ ∀ row ∈ stored, row ∈ storeBatch stored batch := by
  rw [storeBatch]
  split
  · rename_i hany
    obtain ⟨row, hrow, hid⟩ := List.any_eq_true.mp hany
    rw [← h row hrow (of_decide_eq_true hid)]
    exact ⟨hrow, fun other hother => hother⟩
  · exact ⟨by simp, fun other hother => List.mem_append_left _ hother⟩

/-- The table after a call holds nothing but old rows and the batch; a success
means that it holds the batch. -/
theorem recordAndPrune_sound (table : Table TelemetryRow) (record : GuestQueueTelemetryBatch)
    (fault : StoreFault) :
    (∀ row ∈ (recordAndPrune table record fault).2.rows,
      row ∈ table.rows ∨ row.batch = record) ∧
    ∀ duplicate, (recordAndPrune table record fault).1 = .stored duplicate →
      ∃ row ∈ (recordAndPrune table record fault).2.rows, row.batch = record := by
  rw [recordAndPrune]
  split
  · exact ⟨fun row hrow => Or.inl hrow, fun _ h => nomatch h⟩
  · cases hpersist : persist table record with
    | none => exact ⟨fun row hrow => Or.inl hrow, fun _ h => nomatch h⟩
    | some result =>
      obtain ⟨inserted, after⟩ := result
      obtain ⟨hpresent, hrows⟩ := persist_eq_some hpersist
      cases fault with
      | none => exact ⟨hrows, fun _ _ => hpresent⟩
      | connect => exact ⟨fun row hrow => Or.inl hrow, fun _ h => nomatch h⟩
      | beforeCommit => exact ⟨fun row hrow => Or.inl hrow, fun _ h => nomatch h⟩
      | afterCommit => exact ⟨hrows, fun _ h => nomatch h⟩

/-- The store behaves as the buffer may rely on, and its table stays backed by
the batches stored. -/
theorem recordAndPrune_allowed {w : TelemetryWorld}
    {made : List (GuestQueueTelemetryBatch × List (GuestQueueOutcome × Bool))}
    {current : List (GuestQueueOutcome × Bool)} (h : Ledger w made current)
    {record : GuestQueueTelemetryBatch} (hpending : w.runtime.pending = some record)
    {table : Table TelemetryRow} (hbacked : Backed table w) (fault : StoreFault) :
    Machine.Along telemetryStep TelemetryAllowed w (storeEvents table record fault) ∧
      Backed (recordAndPrune table record fault).2
        (Machine.run telemetryStep w (storeEvents table record fault)) := by
  have hsent : Traffic.sent record ∈ w.traffic := by
    have hlast := h.last
    rw [hpending] at hlast
    exact List.mem_of_getLast? hlast
  -- Ids are unique among the batches made, so a stored row of this id is the batch.
  have hunique : ∀ row ∈ w.stored, row.batchId = record.batchId → row = record := by
    intro row hrow hid
    have hrowMade : row ∈ made.map Prod.fst :=
      h.batches.mem_iff.mpr (List.mem_append_left _ hrow)
    obtain ⟨entry, hentry, rfl⟩ := List.mem_map.mp hrowMade
    obtain ⟨other, hother, rfl⟩ := List.mem_map.mp (h.pending record hpending)
    rw [List.inj_on_of_nodup_map h.unique hentry hother hid]
  obtain ⟨hrows, hsuccess⟩ := recordAndPrune_sound table record fault
  obtain ⟨hself, hkept⟩ := mem_storeBatch hunique
  have hacknowledged : ∀ answer, w.runtime.acknowledges answer = none ∨
      (w.runtime.acknowledges answer = some record ∧ ∃ duplicate, answer = .stored duplicate) := by
    intro answer
    cases hflushing : w.runtime.flushing with
    | idle => exact Or.inl (by simp [TelemetryRuntime.acknowledges, hflushing])
    | settling result => exact Or.inl (by simp [TelemetryRuntime.acknowledges, hflushing])
    | storing =>
      cases answer with
      | rejected => exact Or.inl (by simp [TelemetryRuntime.acknowledges, hflushing])
      | unusable => exact Or.inl (by simp [TelemetryRuntime.acknowledges, hflushing])
      | stored duplicate =>
        exact Or.inr ⟨by simp [TelemetryRuntime.acknowledges, hflushing, hpending], _, rfl⟩
  rw [storeEvents]
  generalize recordAndPrune table record fault = result at hrows hsuccess ⊢
  obtain ⟨answer, after⟩ := result
  dsimp only at hrows hsuccess ⊢
  split
  · refine ⟨⟨hsent, ?_, trivial⟩, ?_⟩
    · intro batch hbatch
      change batch ∈ w.runtime.acknowledges answer at hbatch
      rcases hacknowledged answer with hnone | ⟨hsome, -⟩
      · rw [hnone] at hbatch
        cases hbatch
      · rw [hsome] at hbatch
        cases hbatch
        exact hself
    · intro row hrow
      rcases hrows row hrow with hold | heq
      · exact hkept _ (hbacked row hold)
      · rw [heq]
        exact hself
  · rename_i habsent
    have hnotHere : ∀ row ∈ after.rows, row.batch ≠ record := by
      intro row hrow heq
      exact habsent (List.any_eq_true.mpr ⟨row, hrow, matchesRecord_iff.mpr heq⟩)
    refine ⟨⟨?_, trivial⟩, ?_⟩
    · intro batch hbatch
      rcases hacknowledged answer with hnone | ⟨-, duplicate, hstored⟩
      · rw [hnone] at hbatch
        cases hbatch
      · obtain ⟨row, hrow, heq⟩ := hsuccess duplicate hstored
        exact absurd heq (hnotHere row hrow)
    · intro row hrow
      rcases hrows row hrow with hold | heq
      · exact hbacked row hold
      · exact absurd heq (hnotHere row hrow)

end Outscan

import Outscan.Library.Expiring
import Outscan.GuestRetention.Storable
import Outscan.GuestTelemetry.Store

/-! The audit trail of the retention cycles: the store of their records, and what is left in it
after any cycles with any faults. -/
namespace Outscan

open Relational

def retentionRunSeconds : Nat := 2592000

/-- A row of `platform_guest_retention_runs`. -/
structure RetentionRunRow where
  record : GuestRetentionRunRecord
  retentionDeadline : Nat

structure RetentionRunRow.Constraints (row : RetentionRunRow) : Prop where
  id_valid : validId row.record.runId = true
  finished : row.record.startedAt ≤ row.record.finishedAt
  observed : observedInRun row.record row.record.finishedAt = true
  status_shape : ThreeValued.Passes (retentionRunStatusShape row.record)
  counter_bounds : ThreeValued.Passes (retentionRunCounterBounds row.record)
  revocation_bounds : ThreeValued.Passes (retentionRunRevocationBounds row.record)
  deadline : row.retentionDeadline = row.record.finishedAt + retentionRunSeconds
  range : row.retentionDeadline < timestampEnd

instance instDecidableRetentionRunConstraints : DecidablePred RetentionRunRow.Constraints :=
  fun row => decidable_of_iff
    (validId row.record.runId = true ∧ row.record.startedAt ≤ row.record.finishedAt ∧
      observedInRun row.record row.record.finishedAt = true ∧
      ThreeValued.Passes (retentionRunStatusShape row.record) ∧
      ThreeValued.Passes (retentionRunCounterBounds row.record) ∧
      ThreeValued.Passes (retentionRunRevocationBounds row.record) ∧
      row.retentionDeadline = row.record.finishedAt + retentionRunSeconds ∧
      row.retentionDeadline < timestampEnd)
    ⟨fun ⟨a, b, c, d, e, f, g, h⟩ => ⟨a, b, c, d, e, f, g, h⟩,
      fun ⟨a, b, c, d, e, f, g, h⟩ => ⟨a, b, c, d, e, f, g, h⟩⟩

instance instSchemaRetentionRunRow : Schema RetentionRunRow String where
  key := fun row => row.record.runId
  Distinct := fun a b => a.record.runId ≠ b.record.runId
  Check := RetentionRunRow.Constraints
  distinct_symm := fun h => h.symm
  key_ne := id

abbrev RetentionRuns := Table RetentionRunRow

/-- `DELETE`, at the head of `persist`. -/
def prunedRuns (table : RetentionRuns) (finishedAt : Nat) : RetentionRuns :=
  table.erase fun row => decide (row.retentionDeadline ≤ finishedAt)

/-- The transaction of `persist`: whether the record was inserted. `none` is a rollback. -/
def persistRun (table : RetentionRuns) (record : GuestRetentionRunRecord) :
    Option (Bool × RetentionRuns) :=
  let pruned := prunedRuns table record.finishedAt
  match pruned.find? record.runId with
  | some row => if row.record = record then some (false, pruned) else none
  | none =>
    match pruned.insert ⟨record, record.finishedAt + retentionRunSeconds⟩ with
    | .ok after => some (true, after)
    | .error _ => none

def committedRun (table : RetentionRuns) (record : GuestRetentionRunRecord) (fault : StoreFault) :
    Option (Bool × RetentionRuns) :=
  if fault = .connect ∨ fault = .beforeCommit then none
  else (validateGuestRetentionRunRecord record.toDatum).bind fun _ => persistRun table record

/-- What the dependencies of a cycle do, with the fault of its store. -/
structure RetentionCycle where
  dependencies : RetentionDependencies
  options : Dynamic.Datum
  fault : StoreFault

def RetentionCycle.record (cycle : RetentionCycle) : Option GuestRetentionRunRecord :=
  cycleRecord cycle.dependencies cycle.options

def RetentionCycle.committed (cycle : RetentionCycle) (table : RetentionRuns) :
    Option (Bool × RetentionRuns) :=
  cycle.record.bind fun record => committedRun table record cycle.fault

/-- A cycle on the table of the audit records. An answer that is lost is a failure. -/
def retentionCycle (table : RetentionRuns) (cycle : RetentionCycle) :
    GuestRetentionCycleResult × RetentionRuns :=
  let committed := cycle.committed table
  let answer := if cycle.fault = .none then committed.map fun stored => !stored.1 else none
  (runGuestRetentionCycle cycle.dependencies cycle.options fun _ => answer,
    (committed.map Prod.snd).getD table)

/-! ### What one call changes -/

theorem mem_prunedRuns {table : RetentionRuns} {finishedAt : Nat} {row : RetentionRunRow} :
    row ∈ (prunedRuns table finishedAt).rows ↔
      row ∈ table.rows ∧ finishedAt < row.retentionDeadline := by
  simp [prunedRuns, List.mem_filter]

theorem persistRun_eq_some {table after : RetentionRuns} {record : GuestRetentionRunRecord}
    {inserted : Bool} (h : persistRun table record = some (inserted, after)) :
    let pruned := prunedRuns table record.finishedAt
    (inserted = true ∧ pruned.find? record.runId = none ∧
        after.rows = pruned.rows ++ [⟨record, record.finishedAt + retentionRunSeconds⟩]) ∨
      (inserted = false ∧ after = pruned ∧ ∃ row ∈ pruned.rows, row.record = record) := by
  unfold persistRun at h
  dsimp only at h
  split at h
  · rename_i row hfind
    split at h
    · rename_i hrecord
      cases h
      exact .inr ⟨rfl, rfl, row, Table.find?_mem hfind, hrecord⟩
    · cases h
  · rename_i hfind
    split at h
    · rename_i hinsert
      cases h
      exact .inl ⟨rfl, hfind, (Table.insert_eq_ok.mp hinsert).2.2⟩
    · cases h

theorem committedRun_eq_some {table : RetentionRuns} {record : GuestRetentionRunRecord}
    {fault : StoreFault} {stored : Bool × RetentionRuns}
    (h : committedRun table record fault = some stored) :
    persistRun table record = some stored := by
  unfold committedRun at h
  split at h
  · cases h
  · obtain ⟨-, -, hpersist⟩ := Option.bind_eq_some_iff.mp h
    exact hpersist

def keptUntil (table : RetentionRuns) : Expiring.Holds GuestRetentionRunRecord Nat :=
  fun record => ((table.find? record.runId).filter fun row => decide (row.record = record)).map
    RetentionRunRow.retentionDeadline

theorem keptUntil_eq_some {table : RetentionRuns} {record : GuestRetentionRunRecord}
    {expiry : Nat} : keptUntil table record = some expiry ↔
      (⟨record, expiry⟩ : RetentionRunRow) ∈ table.rows := by
  simp only [keptUntil, Option.map_eq_some_iff, Option.filter_eq_some_iff, decide_eq_true_eq]
  constructor
  · rintro ⟨row, ⟨hfind, rfl⟩, rfl⟩
    exact Table.find?_mem hfind
  · intro hmem
    exact ⟨_, ⟨Table.find?_of_mem hmem, rfl⟩, rfl⟩

theorem keptUntil_congr {before after : RetentionRuns} {record : GuestRetentionRunRecord}
    (h : ∀ expiry, (⟨record, expiry⟩ : RetentionRunRow) ∈ after.rows ↔
      (⟨record, expiry⟩ : RetentionRunRow) ∈ before.rows) :
    keptUntil after record = keptUntil before record := by
  apply Option.ext
  intro expiry
  rw [keptUntil_eq_some, keptUntil_eq_some]
  exact h expiry

theorem keptUntil_pruned (table : RetentionRuns) (finishedAt : Nat)
    (record : GuestRetentionRunRecord) :
    keptUntil (prunedRuns table finishedAt) record = keptUntil table record ∨
      keptUntil (prunedRuns table finishedAt) record = none ∧
        ¬ Expiring.Held (keptUntil table) record finishedAt := by
  by_cases hheld : Expiring.Held (keptUntil table) record finishedAt
  · obtain ⟨expiry, hkept, hlater⟩ := hheld
    refine .inl (hkept ▸ keptUntil_eq_some.mpr (mem_prunedRuns.mpr ⟨?_, hlater⟩))
    exact keptUntil_eq_some.mp hkept
  · refine .inr ⟨Option.eq_none_iff_forall_ne_some.mpr fun expiry hkept => hheld ?_, hheld⟩
    obtain ⟨hmem, hlater⟩ := mem_prunedRuns.mp (keptUntil_eq_some.mp hkept)
    exact ⟨expiry, keptUntil_eq_some.mpr hmem, hlater⟩

def grantedRun (record : GuestRetentionRunRecord) : Option (Bool × RetentionRuns) →
    Option (GuestRetentionRunRecord × Nat)
  | some (true, _) => some (record, record.finishedAt + retentionRunSeconds)
  | _ => none

theorem persistRun_expiring {table after : RetentionRuns} {record : GuestRetentionRunRecord}
    {inserted : Bool} (h : persistRun table record = some (inserted, after)) :
    Expiring.Step (keptUntil table) (keptUntil after) record.finishedAt
      (grantedRun record (some (inserted, after))) := by
  rcases persistRun_eq_some h with ⟨rfl, hnone, hrows⟩ | ⟨rfl, rfl, -⟩
  · have hmem : ∀ row, row ∈ after.rows ↔
        row ∈ (prunedRuns table record.finishedAt).rows ∨
          row = ⟨record, record.finishedAt + retentionRunSeconds⟩ := by
      intro row
      rw [hrows, List.mem_append, List.mem_singleton]
    constructor
    · rintro key expiry hgranted ⟨until', hkept, hlater⟩
      cases hgranted
      have hrow := mem_prunedRuns.mpr ⟨keptUntil_eq_some.mp hkept, hlater⟩
      exact Table.find?_eq_none.mp hnone _ hrow rfl
    · intro key expiry hgranted
      cases hgranted
      exact keptUntil_eq_some.mpr ((hmem _).mpr (.inr rfl))
    · intro key hother
      have hne : key ≠ record := fun heq =>
        hother (record.finishedAt + retentionRunSeconds) (by rw [heq]; rfl)
      have hsame : keptUntil after key =
          keptUntil (prunedRuns table record.finishedAt) key := by
        apply keptUntil_congr
        intro expiry
        rw [hmem]
        refine ⟨fun hrow => hrow.resolve_right fun heq => hne ?_, .inl⟩
        exact congrArg RetentionRunRow.record heq
      rw [hsame]
      exact keptUntil_pruned table record.finishedAt key
  · exact .drop (keptUntil_pruned table record.finishedAt)

/-- When a cycle commits, and what it grants. -/
def RetentionCycle.entry (table : RetentionRuns) (cycle : RetentionCycle) :
    Nat × Option (GuestRetentionRunRecord × Nat) :=
  match cycle.record with
  | none => (0, none)
  | some record => (record.finishedAt, grantedRun record (cycle.committed table))

theorem retentionCycle_expiring (table : RetentionRuns) (cycle : RetentionCycle) :
    Expiring.Step (keptUntil table) (keptUntil (retentionCycle table cycle).2)
      (cycle.entry table).1 (cycle.entry table).2 := by
  cases hrecord : cycle.record with
  | none =>
    have hcommitted : cycle.committed table = none := by rw [RetentionCycle.committed, hrecord]; rfl
    rw [retentionCycle, RetentionCycle.entry, hrecord, hcommitted]
    exact .idle _ _
  | some record =>
    cases hcommitted : cycle.committed table with
    | none =>
      rw [retentionCycle, RetentionCycle.entry, hrecord, hcommitted]
      exact .idle _ _
    | some stored =>
      have hpersist : persistRun table record = some stored := by
        rw [RetentionCycle.committed, hrecord] at hcommitted
        exact committedRun_eq_some hcommitted
      rw [retentionCycle, RetentionCycle.entry, hrecord, hcommitted]
      exact persistRun_expiring hpersist

/-! ### Whole runs -/

def runsAfter (cycles : List RetentionCycle) : RetentionRuns :=
  Machine.run retentionCycle Table.empty cycles

def grantedRuns (cycles : List RetentionCycle) :
    List (Nat × Option (GuestRetentionRunRecord × Nat)) :=
  Expiring.grants retentionCycle (fun table cycle => cycle.entry table) Table.empty cycles

theorem runs_history (cycles : List RetentionCycle) :
    Expiring.History (keptUntil (runsAfter cycles)) (grantedRuns cycles) := by
  apply Expiring.history_of_run
  · exact retentionCycle_expiring
  · rfl

theorem mem_grantedRuns {cycles : List RetentionCycle}
    {granted : Nat × Option (GuestRetentionRunRecord × Nat)} :
    granted ∈ grantedRuns cycles ↔ ∃ first cycle rest, cycles = first ++ cycle :: rest ∧
      cycle.entry (runsAfter first) = granted :=
  Expiring.mem_grants

theorem mem_grantedRuns_append {first rest : List RetentionCycle}
    {granted : Nat × Option (GuestRetentionRunRecord × Nat)} (h : granted ∈ grantedRuns first) :
    granted ∈ grantedRuns (first ++ rest) := by
  obtain ⟨front, cycle, back, rfl, hentry⟩ := mem_grantedRuns.mp h
  exact mem_grantedRuns.mpr ⟨front, cycle, back ++ rest, by simp, hentry⟩

theorem entry_granted {table : RetentionRuns} {cycle : RetentionCycle} {start expiry : Nat}
    {record : GuestRetentionRunRecord} (h : cycle.entry table = (start, some (record, expiry))) :
    cycle.record = some record := by
  unfold RetentionCycle.entry at h
  split at h
  · cases h
  · rename_i found hrecord
    obtain ⟨-, hgranted⟩ := Prod.mk.inj h
    unfold grantedRun at hgranted
    split at hgranted
    · cases hgranted
      exact hrecord
    · cases hgranted

theorem entry_le (table : RetentionRuns) {cycle : RetentionCycle} {now : Nat}
    (h : ∀ record, cycle.record = some record → record.finishedAt ≤ now) :
    (cycle.entry table).1 ≤ now := by
  unfold RetentionCycle.entry
  split
  · exact Nat.zero_le now
  · rename_i record hrecord
    exact h record hrecord

theorem retentionDeadline_eq {table : RetentionRuns} {row : RetentionRunRow}
    (h : row ∈ table.rows) :
    row.retentionDeadline = row.record.finishedAt + retentionRunSeconds :=
  (table.checked row h).deadline

theorem mem_of_persistRun {table after : RetentionRuns} {record : GuestRetentionRunRecord}
    {inserted : Bool} (h : persistRun table record = some (inserted, after)) :
    (⟨record, record.finishedAt + retentionRunSeconds⟩ : RetentionRunRow) ∈ after.rows := by
  rcases persistRun_eq_some h with ⟨-, -, hrows⟩ | ⟨-, rfl, row, hmem, rfl⟩
  · rw [hrows]
    exact List.mem_append_right _ List.mem_cons_self
  · rw [← retentionDeadline_eq hmem]
    exact hmem

theorem committed_of_record {table : RetentionRuns} {cycle : RetentionCycle}
    {record : GuestRetentionRunRecord} (hrecord : cycle.record = some record)
    (hfault : cycle.fault = .none) : cycle.committed table = persistRun table record := by
  rw [RetentionCycle.committed, hrecord, Option.bind_some, committedRun, hfault, if_neg (by simp),
    (cycleRecord_storable hrecord).validated, Option.bind_some]

theorem retentionCycle_ok {table : RetentionRuns} {cycle : RetentionCycle}
    {record : GuestRetentionRunRecord} {duplicate : Bool} :
    (retentionCycle table cycle).1 = .ok record duplicate ↔ cycle.record = some record ∧
      cycle.fault = .none ∧
      persistRun table record = some (!duplicate, (retentionCycle table cycle).2) := by
  simp only [retentionCycle, runGuestRetentionCycle]
  constructor
  · intro h
    split at h
    · cases h
    · rename_i found hfound
      have hrecord : cycle.record = some found := hfound
      split at h
      · cases h
      · rename_i answer hanswer
        cases h
        split at hanswer
        · rename_i hfault
          obtain ⟨stored, hstored, rfl⟩ := Option.map_eq_some_iff.mp hanswer
          refine ⟨hrecord, hfault, ?_⟩
          rw [committed_of_record hrecord hfault] at hstored ⊢
          rw [hstored, Bool.not_not]
          rfl
        · cases hanswer
  · rintro ⟨hrecord, hfault, hpersist⟩
    have hfound : cycleRecord cycle.dependencies cycle.options = some record := hrecord
    rw [committed_of_record hrecord hfault] at hpersist ⊢
    rw [hfound, if_pos hfault, hpersist]
    simp

theorem granted_of_stored {first : List RetentionCycle} {cycle : RetentionCycle}
    {record : GuestRetentionRunRecord} {duplicate : Bool}
    (hok : (retentionCycle (runsAfter first) cycle).1 = .ok record duplicate) :
    ∃ start, (start, some (record, record.finishedAt + retentionRunSeconds)) ∈
      grantedRuns (first ++ [cycle]) := by
  obtain ⟨-, -, hpersist⟩ := retentionCycle_ok.mp hok
  apply (runs_history (first ++ [cycle])).granted
  rw [runsAfter, Machine.run_append]
  exact keptUntil_eq_some.mpr (mem_of_persistRun hpersist)

theorem find?_of_stored {first rest : List RetentionCycle} {cycle : RetentionCycle}
    {record : GuestRetentionRunRecord} {duplicate : Bool} {now : Nat}
    (hok : (retentionCycle (runsAfter first) cycle).1 = .ok record duplicate)
    (hclock : ∀ other ∈ first ++ cycle :: rest, ∀ record, other.record = some record →
      record.finishedAt ≤ now)
    (hnow : now < record.finishedAt + retentionRunSeconds) :
    (runsAfter (first ++ cycle :: rest)).find? record.runId =
      some ⟨record, record.finishedAt + retentionRunSeconds⟩ := by
  obtain ⟨start, hgranted⟩ := granted_of_stored hok
  have hlater : (start, some (record, record.finishedAt + retentionRunSeconds)) ∈
      grantedRuns (first ++ cycle :: rest) := by
    rw [List.append_cons]
    exact mem_grantedRuns_append hgranted
  have hentries : ∀ entry ∈ grantedRuns (first ++ cycle :: rest), ∀ moment, now < moment →
      entry.1 < moment := by
    intro entry hentry moment hmoment
    obtain ⟨front, other, back, hsplit, rfl⟩ := mem_grantedRuns.mp hentry
    have hle := entry_le (runsAfter front) (hclock other (by simp [hsplit]))
    exact Nat.lt_of_le_of_lt hle hmoment
  obtain ⟨expiry, hkept, -⟩ := ((runs_history _).held_iff hentries).mpr ⟨start, _, hlater, hnow⟩
  have hmem := keptUntil_eq_some.mp hkept
  have hexpiry : expiry = record.finishedAt + retentionRunSeconds := retentionDeadline_eq hmem
  rw [← hexpiry]
  exact Table.find?_of_mem hmem

theorem persistRun_isSome_iff {table : RetentionRuns} {cycle : RetentionCycle}
    {record : GuestRetentionRunRecord} (hrecord : cycle.record = some record)
    (hrange : record.finishedAt + retentionRunSeconds < timestampEnd) :
    (∃ stored, persistRun table record = some stored) ↔
      ∀ row ∈ table.rows, row.record.runId = record.runId →
        record.finishedAt < row.retentionDeadline → row.record = record := by
  have hstorable := cycleRecord_storable hrecord
  have haccepted := hstorable.accepted
  have hcheck : RetentionRunRow.Constraints ⟨record, record.finishedAt + retentionRunSeconds⟩ :=
    ⟨hstorable.runId, hstorable.finished, hstorable.observed, haccepted.status_shape,
      haccepted.counter_bounds, haccepted.revocation_bounds, rfl, hrange⟩
  constructor
  · rintro ⟨⟨inserted, after⟩, hpersist⟩ row hmem hid hlater
    have hpruned := mem_prunedRuns.mpr ⟨hmem, hlater⟩
    rcases persistRun_eq_some hpersist with ⟨-, hnone, -⟩ | ⟨-, -, other, hother, rfl⟩
    · exact absurd hid (Table.find?_eq_none.mp hnone row hpruned)
    · exact congrArg _ (Table.eq_of_key_eq _ hpruned hother hid)
  · intro hfree
    unfold persistRun
    dsimp only
    split
    · rename_i row hfind
      obtain ⟨hmem, hlater⟩ := mem_prunedRuns.mp (Table.find?_mem hfind)
      rw [if_pos (hfree row hmem (Table.find?_key hfind) hlater)]
      exact ⟨_, rfl⟩
    · rename_i hfind
      have hdistinct : ∀ other ∈ (prunedRuns table record.finishedAt).rows,
          other.record.runId ≠ record.runId := Table.find?_eq_none.mp hfind
      obtain ⟨after, hrows⟩ : ∃ after : RetentionRuns, after.rows =
          (prunedRuns table record.finishedAt).rows ++
            [⟨record, record.finishedAt + retentionRunSeconds⟩] :=
        Table.exists_inserted hcheck hdistinct
      rw [Table.insert_eq_ok.mpr ⟨hcheck, hdistinct, hrows⟩]
      exact ⟨_, rfl⟩

/-- What the cycles leave behind for those who look into them. Every row is the record of one of
the cycles. A record that a cycle reported as stored is there, as it was, until thirty days after
its end, whatever later cycles do and whichever of them lose their answers. And a cycle whose store
does not fail is refused only where another record stands under its id. -/
theorem retention_audit_trail (cycles : List RetentionCycle) :
    (∀ row ∈ (runsAfter cycles).rows, ∃ cycle ∈ cycles, cycle.record = some row.record) ∧
    (∀ first cycle rest record duplicate now, cycles = first ++ cycle :: rest →
      (retentionCycle (runsAfter first) cycle).1 = .ok record duplicate →
      (∀ cycle ∈ cycles, ∀ record, cycle.record = some record → record.finishedAt ≤ now) →
      now < record.finishedAt + retentionRunSeconds →
      (runsAfter cycles).find? record.runId =
        some ⟨record, record.finishedAt + retentionRunSeconds⟩) ∧
    ∀ cycle record, cycle.record = some record → cycle.fault = .none →
      record.finishedAt + retentionRunSeconds < timestampEnd →
      ((∃ duplicate, (retentionCycle (runsAfter cycles) cycle).1 = .ok record duplicate) ↔
        ∀ row ∈ (runsAfter cycles).rows, row.record.runId = record.runId →
          record.finishedAt < row.retentionDeadline → row.record = record) := by
  refine ⟨?_, ?_, ?_⟩
  · intro row hrow
    obtain ⟨start, hgranted⟩ := (runs_history cycles).granted (keptUntil_eq_some.mpr hrow)
    obtain ⟨first, cycle, rest, rfl, hentry⟩ := mem_grantedRuns.mp hgranted
    exact ⟨cycle, by simp, entry_granted hentry⟩
  · rintro first cycle rest record duplicate now rfl hok hclock hnow
    exact find?_of_stored hok hclock hnow
  · intro cycle record hrecord hfault hrange
    rw [← persistRun_isSome_iff hrecord hrange]
    constructor
    · rintro ⟨duplicate, hok⟩
      exact ⟨_, (retentionCycle_ok.mp hok).2.2⟩
    · rintro ⟨⟨inserted, after⟩, hpersist⟩
      refine ⟨!inserted, retentionCycle_ok.mpr ⟨hrecord, hfault, ?_⟩⟩
      rw [Bool.not_not, hpersist, retentionCycle, committed_of_record hrecord hfault, hpersist]
      rfl

/-- The same record, after the answer of its store was lost: it was there already. -/
example : (retentionCycle (runsAfter [⟨sampleCycle, sampleCycleOptions, .afterCommit⟩])
    ⟨sampleCycle, sampleCycleOptions, .none⟩).1 = .ok sampleCycleRecord true := by decide +kernel

end Outscan

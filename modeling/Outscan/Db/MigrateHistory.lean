import Mathlib.Data.List.TakeWhile
import Outscan.Db.Migrate

/-! The ledger over a history of runs, each on a directory of its own and with failures
of its own. -/
namespace Outscan

structure MigrationRun.Loads (run : MigrationRun) : Prop where
  readable : run.fails .readDirectory = false
  some_files : migrationFiles run ≠ []
  prefixes : ((migrationFiles run).map fun file => versionPrefix file.1).Nodup
  texts : ∀ file ∈ migrationFiles run,
    run.fails (.load file.1) = false ∧ (jsTrim file.2.toList).isEmpty = false

def pendingMigrations (run : MigrationRun) (db : MigrationDatabase) : List (String × String) :=
  (migrationFiles run).filter fun file => file.1 ∉ db.ledger.map (·.version)

/-- The run comes to its first new migration, if there is one: everything applied is
there as it was, and everything new comes after it. -/
structure MigrationRun.Proceeds (runtime : MigrationRuntime) (run : MigrationRun)
    (db : MigrationDatabase) : Prop where
  loads : run.Loads
  connected : ∀ call ∈ [MigrationCall.connect, .lock, .ensureLedger, .selectLedger],
    run.fails call = false
  unaltered : ∀ row ∈ db.ledger, row ∈ (migrationFiles run).map (migrationOf runtime)
  later : ∀ file ∈ pendingMigrations run db, ∀ row ∈ db.ledger, row.version < file.1

def appliedMigrations (run : MigrationRun) (db : MigrationDatabase) : List (String × String) :=
  (pendingMigrations run db).takeWhile fun file => (run.failure file.1).isNone

/-- What the ledger says: names in order, each row for the text executed in its place. -/
structure MigrationDatabase.Recorded (runtime : MigrationRuntime) (db : MigrationDatabase) :
    Prop where
  ascending : db.ledger.Pairwise fun a b => versionPrefix a.version < versionPrefix b.version
  named : ∀ row ∈ db.ledger, isMigrationName row.version = true
  checksums : db.ledger.map (·.checksum) = db.executed.map runtime.sha256Hex

section History

variable {runtime : MigrationRuntime} {run : MigrationRun} {db : MigrationDatabase}

theorem recorded_empty : ({ executed := [], ledger := [] } : MigrationDatabase).Recorded runtime :=
  ⟨.nil, by simp, rfl⟩

theorem Recorded.versions (h : db.Recorded runtime) :
    db.ledger.Pairwise fun a b => a.version < b.version :=
  h.ascending.imp versionPrefix_lt

theorem Recorded.ordered (h : db.Recorded runtime) : runtime.orderByVersion db.ledger = db.ledger := by
  have hfrontes : (db.ledger.map fun row => versionPrefix row.version).Nodup :=
    List.pairwise_map.mpr (h.ascending.imp ne_of_lt)
  apply List.Perm.eq_of_pairwise _ (runtime.order_sorted _ hfrontes) h.ascending
    (runtime.order_perm _)
  intro a b _ _ hab hba
  exact absurd hba (lt_asymm hab)

theorem loads_iff {migrations : List AppliedMigration} :
    loadMigrations runtime run = .ok migrations ↔
      run.Loads ∧ migrations = (migrationFiles run).map (migrationOf runtime) := by
  unfold loadMigrations
  split
  · next hfails =>
    simp only [reduceCtorEq, false_iff, not_and]
    intro hloads
    simp [hloads.readable] at hfails
  next hreadable =>
  split
  · next hempty =>
    simp only [reduceCtorEq, false_iff, not_and]
    intro hloads
    exact absurd (List.isEmpty_iff.mp hempty) hloads.some_files
  next hsome =>
  rw [loadFiles_ok]
  simp only [List.not_mem_nil, not_false_eq_true, true_and]
  constructor
  · rintro ⟨rfl, hfrontes, htexts⟩
    exact ⟨⟨by simpa using hreadable, by simpa using hsome, hfrontes, htexts⟩, rfl⟩
  · rintro ⟨hloads, rfl⟩
    exact ⟨rfl, hloads.prefixes, hloads.texts⟩

theorem available_distinct :
    (((migrationFiles run).map (migrationOf runtime)).map (·.version)).Nodup := by
  rw [List.map_map]
  exact migrationFiles_distinct

theorem pending_distinct (h : db.Recorded runtime) :
    (db.ledger.map (·.version) ++ (pendingMigrations run db).map Prod.fst).Nodup := by
  apply List.Nodup.append
  · exact List.pairwise_map.mpr ((Recorded.versions h).imp ne_of_lt)
  · exact migrationFiles_distinct.sublist (List.filter_sublist.map _)
  · intro version hledger hpending
    obtain ⟨file, hfile, rfl⟩ := List.mem_map.mp hpending
    exact absurd hledger (by simpa using (List.mem_filter.mp hfile).2)

theorem migrateConnected_eq (h : db.Recorded runtime) (migrations : List AppliedMigration)
    (hcalls : ∀ call ∈ [MigrationCall.lock, .ensureLedger, .selectLedger],
      run.fails call = false) :
    migrateConnected runtime run migrations db =
      match checkDrift migrations db.ledger with
      | .error error => (.error error, db)
      | .ok alreadyApplied =>
        match applyMigrations run (db.ledger.map (·.version))
            (db.ledger.getLast?.map (·.version)) migrations db with
        | (.error error, db) => (.error error, db)
        | (.ok applied, db) => (.ok { applied, alreadyApplied }, db) := by
  simp only [List.forall_mem_cons] at hcalls
  have hworks : (run.fails .lock || run.fails .ensureLedger || run.fails .selectLedger) = false := by
    simp only [hcalls.1, hcalls.2.1, hcalls.2.2.1, Bool.or_self]
  unfold migrateConnected
  rw [hworks, Recorded.ordered h]
  exact if_neg Bool.false_ne_true

theorem last_version (h : db.Recorded runtime) {last : AppliedMigration}
    (hlast : last ∈ db.ledger.getLast?) {row : AppliedMigration} (hrow : row ∈ db.ledger) :
    row.version ≤ last.version := by
  obtain ⟨others, hledger⟩ := List.getLast?_eq_some_iff.mp hlast
  have hsorted := Recorded.versions h
  rw [hledger, List.pairwise_append] at hsorted
  rw [hledger] at hrow
  rcases List.mem_append.mp hrow with hother | hself
  · exact le_of_lt (hsorted.2.2 row hother last (List.mem_singleton_self _))
  · rw [List.mem_singleton.mp hself]

theorem applyMigrations_pending (h : db.Recorded runtime)
    (hlater : ∀ file ∈ pendingMigrations run db, ∀ row ∈ db.ledger, row.version < file.1) :
    applyMigrations run (db.ledger.map (·.version)) (db.ledger.getLast?.map (·.version))
        ((migrationFiles run).map (migrationOf runtime)) db =
      (match (pendingMigrations run db).findSome? fun file => run.failure file.1 with
        | some error => .error error
        | none => .ok ((pendingMigrations run db).map Prod.fst),
      db.extend runtime (appliedMigrations run db)) := by
  apply applyMigrations_eq
  · exact fun file hfile => (mem_migrationFiles.mp hfile).1
  · exact pending_distinct h
  · intro file hfile hnew last hlast
    obtain ⟨row, hrow, rfl⟩ := Option.mem_map.mp hlast
    have hpending : file ∈ pendingMigrations run db :=
      List.mem_filter.mpr ⟨hfile, by simpa using hnew⟩
    exact not_lt_of_gt (hlater file hpending row (List.mem_of_getLast? hrow))

theorem migrate_proceeds (h : db.Recorded runtime) (hrun : run.Proceeds runtime db) :
    migrateDatabase runtime run db =
      (if run.fails .unlock then .error .database
        else
          match (pendingMigrations run db).findSome? fun file => run.failure file.1 with
          | some error => .error error
          | none => .ok
            { applied := (pendingMigrations run db).map Prod.fst
              alreadyApplied := db.ledger.map (·.version) },
      db.extend runtime (appliedMigrations run db)) := by
  have hconnected := List.forall_mem_cons.mp hrun.connected
  have hdrift : checkDrift ((migrationFiles run).map (migrationOf runtime)) db.ledger =
      .ok (db.ledger.map (·.version)) :=
    (checkDrift_ok available_distinct).mpr ⟨rfl, hrun.unaltered⟩
  rw [migrateDatabase, loads_iff.mpr ⟨hrun.loads, rfl⟩]
  dsimp only
  rw [hconnected.1, migrateConnected_eq h _ hconnected.2, hdrift]
  dsimp only
  rw [applyMigrations_pending h hrun.later]
  cases (pendingMigrations run db).findSome? fun file => run.failure file.1 <;>
  cases run.fails .unlock <;> rfl

theorem migrate_refused (h : db.Recorded runtime) (hrun : ¬ run.Proceeds runtime db) :
    ∃ error, migrateDatabase runtime run db = (.error error, db) := by
  unfold migrateDatabase
  split
  · exact ⟨_, rfl⟩
  next migrations hmigrations =>
  obtain ⟨hloads, rfl⟩ := loads_iff.mp hmigrations
  split
  · exact ⟨_, rfl⟩
  next hconnect =>
  suffices hrefused : ∃ error, migrateConnected runtime run
      ((migrationFiles run).map (migrationOf runtime)) db = (.error error, db) by
    obtain ⟨error, hrefused⟩ := hrefused
    rw [hrefused]
    cases run.fails .unlock
    · exact ⟨_, rfl⟩
    · exact ⟨_, rfl⟩
  by_cases hcalls : ∀ call ∈ [MigrationCall.lock, .ensureLedger, .selectLedger],
      run.fails call = false
  case neg =>
    have hfails : (run.fails .lock || run.fails .ensureLedger || run.fails .selectLedger) = true := by
      simpa [imp_iff_not_or, or_assoc] using hcalls
    rw [migrateConnected, if_pos hfails]
    exact ⟨_, rfl⟩
  rw [migrateConnected_eq h _ hcalls]
  split
  · exact ⟨_, rfl⟩
  next versions hdrift =>
  have hunaltered := ((checkDrift_ok available_distinct).mp hdrift).2
  -- what is left to fail is the order of the new migrations
  have hearlier : ∃ file ∈ pendingMigrations run db, ∃ row ∈ db.ledger, ¬ row.version < file.1 := by
    by_contra hnone
    apply hrun
    refine ⟨hloads, List.forall_mem_cons.mpr ⟨by simpa using hconnect, hcalls⟩, hunaltered, ?_⟩
    intro file hfile row hrow
    by_contra hnot
    exact hnone ⟨file, hfile, row, hrow, hnot⟩
  obtain ⟨file, hfile, row, hrow, hnot⟩ := hearlier
  obtain ⟨hmem, hnew⟩ := List.mem_filter.mp hfile
  replace hnew : file.1 ∉ db.ledger.map (·.version) := by simpa using hnew
  have hne : file.1 ≠ row.version := fun hsame => hnew (hsame ▸ List.mem_map_of_mem hrow)
  obtain ⟨last, hlast⟩ := Option.isSome_iff_exists.mp
    (List.getLast?_isSome.mpr (List.ne_nil_of_mem hrow))
  have hlt : file.1 < last.version :=
    lt_of_lt_of_le (lt_of_le_of_ne (not_lt.mp hnot) hne) (last_version h hlast hrow)
  rw [hlast, Option.map_some, applyMigrations_order migrationFiles_sorted hmem hnew hlt]
  exact ⟨_, rfl⟩

theorem pending_valid {file : String × String} (h : file ∈ pendingMigrations run db) :
    isMigrationName file.1 = true :=
  (mem_migrationFiles.mp (List.mem_filter.mp h).1).2

theorem later_prefix (hrun : run.Proceeds runtime db) {file : String × String}
    (hfile : file ∈ pendingMigrations run db) {row : AppliedMigration} (hrow : row ∈ db.ledger) :
    versionPrefix row.version < versionPrefix file.1 := by
  have hlt := hrun.later file hfile row hrow
  obtain ⟨old, hold, rfl⟩ := List.mem_map.mp (hrun.unaltered row hrow)
  refine (versionPrefix_lt_iff fun hsame => ?_).mpr hlt
  have heq := List.inj_on_of_nodup_map hrun.loads.prefixes hold (List.mem_filter.mp hfile).1 hsame
  exact absurd (heq ▸ hlt) (lt_irrefl _)

theorem pending_ascending (hrun : run.Proceeds runtime db) :
    (pendingMigrations run db).Pairwise fun a b => versionPrefix a.1 < versionPrefix b.1 := by
  have hfiles : (migrationFiles run).Pairwise fun a b => versionPrefix a.1 < versionPrefix b.1 :=
    ((List.pairwise_map.mp hrun.loads.prefixes).and migrationFiles_sorted).imp
      fun h => (versionPrefix_lt_iff h.1).mpr h.2
  exact hfiles.sublist List.filter_sublist

theorem recorded_extend (h : db.Recorded runtime) (hrun : run.Proceeds runtime db) :
    (db.extend runtime (appliedMigrations run db)).Recorded runtime := by
  have hfront : (appliedMigrations run db).Sublist (pendingMigrations run db) :=
    List.takeWhile_sublist _
  refine ⟨?ascending, ?named, ?checksums⟩
  case ascending =>
    simp only [MigrationDatabase.extend, List.pairwise_append, List.pairwise_map]
    refine ⟨h.ascending, (pending_ascending hrun).sublist hfront, ?_⟩
    intro row hrow added hadded
    obtain ⟨file, hfile, rfl⟩ := List.mem_map.mp hadded
    exact later_prefix hrun (hfront.subset hfile) hrow
  case named =>
    intro row hrow
    rcases List.mem_append.mp hrow with hold | hadded
    · exact h.named row hold
    · obtain ⟨file, hfile, rfl⟩ := List.mem_map.mp hadded
      exact pending_valid (hfront.subset hfile)
  case checksums =>
    simp [MigrationDatabase.extend, h.checksums, migrationOf, Function.comp_def]

/-- One run keeps the ledger in order. -/
theorem recorded_step (h : db.Recorded runtime) (run : MigrationRun) :
    (stepMigrate runtime db run).2.Recorded runtime := by
  by_cases hrun : run.Proceeds runtime db
  · rw [stepMigrate, migrate_proceeds h hrun]
    exact recorded_extend h hrun
  · obtain ⟨error, hrefused⟩ := migrate_refused h hrun
    rw [stepMigrate, hrefused]
    exact h

theorem recorded_run (history : List MigrationRun) :
    (Machine.run (stepMigrate runtime) { executed := [], ledger := [] } history).Recorded
      runtime :=
  Machine.run_preserves (P := MigrationDatabase.Recorded runtime)
    (fun _ run _ h => recorded_step h run)
    (Machine.along_true _ _ history) recorded_empty

theorem applied_take {k : ℕ} {file : String × String}
    (hfile : (pendingMigrations run db)[k]? = some file) (hfails : (run.failure file.1).isSome)
    (hbefore : ∀ earlier ∈ (pendingMigrations run db).take k, run.failure earlier.1 = none) :
    appliedMigrations run db = (pendingMigrations run db).take k := by
  obtain ⟨hk, rfl⟩ := List.getElem?_eq_some_iff.mp hfile
  rw [appliedMigrations]
  conv_lhs => rw [← List.take_append_drop k (pendingMigrations run db)]
  rw [List.takeWhile_append_of_pos (by simpa using hbefore), List.drop_eq_getElem_cons hk,
    List.takeWhile_cons_of_neg (by simpa [Option.isSome_iff_ne_none] using hfails), List.append_nil]

end History

/-- The ledger after any history, and what the next run does to it. -/
theorem migration_history (runtime : MigrationRuntime) (history : List MigrationRun)
    (run : MigrationRun) :
    let db := Machine.run (stepMigrate runtime) { executed := [], ledger := [] } history
    let outcome := migrateDatabase runtime run db
    -- in the order in which they were applied, and each once
    (db.ledger.Pairwise fun a b => versionPrefix a.version < versionPrefix b.version) ∧
    (db.ledger.Pairwise fun a b => a.version < b.version) ∧
    db.ledger.map (·.checksum) = db.executed.map runtime.sha256Hex ∧
    -- a file that is missing, altered or new and lower
    ((∃ row ∈ db.ledger, ∀ file ∈ run.files, file.1 = row.version →
        runtime.sha256Hex file.2 ≠ row.checksum) ∨
      (∃ file ∈ run.files, isMigrationName file.1 = true ∧
        file.1 ∉ db.ledger.map (·.version) ∧ ∃ row ∈ db.ledger, file.1 < row.version) →
      ∃ error, outcome = (.error error, db)) ∧
    -- what is added, and what a failure leaves
    (¬ run.Proceeds runtime db → ∃ error, outcome = (.error error, db)) ∧
    (run.Proceeds runtime db →
      outcome.2 = db.extend runtime (appliedMigrations run db) ∧
      ((∀ file ∈ pendingMigrations run db, run.failure file.1 = none) →
        outcome.2 = db.extend runtime (pendingMigrations run db) ∧
        (run.fails .unlock = false → outcome.1 = .ok
          { applied := (pendingMigrations run db).map Prod.fst
            alreadyApplied := db.ledger.map (·.version) })) ∧
      ∀ k file error, (pendingMigrations run db)[k]? = some file →
        run.failure file.1 = some error →
        (∀ earlier ∈ (pendingMigrations run db).take k, run.failure earlier.1 = none) →
        outcome.2 = db.extend runtime ((pendingMigrations run db).take k) ∧
        ∃ error, outcome.1 = .error error) := by
  intro db outcome
  have h : db.Recorded runtime := recorded_run history
  have hrefused (hrun : ¬ run.Proceeds runtime db) : ∃ error, outcome = (.error error, db) :=
    migrate_refused h hrun
  refine ⟨h.ascending, Recorded.versions h, h.checksums, ?_, hrefused, ?_⟩
  · intro hwrong
    apply hrefused
    intro hrun
    rcases hwrong with ⟨row, hrow, hnone⟩ | ⟨file, hfile, hname, hnew, row, hrow, hlt⟩
    · obtain ⟨file, hfile, rfl⟩ := List.mem_map.mp (hrun.unaltered row hrow)
      exact hnone file (mem_migrationFiles.mp hfile).1 rfl rfl
    · have hpending : file ∈ pendingMigrations run db :=
        List.mem_filter.mpr ⟨mem_migrationFiles.mpr ⟨hfile, hname⟩, by simpa using hnew⟩
      exact lt_asymm (hrun.later file hpending row hrow) hlt
  intro hrun
  have houtcome : outcome = _ := migrate_proceeds h hrun
  refine ⟨by rw [houtcome], ?_, ?_⟩
  · intro hnone
    have happlied : appliedMigrations run db = pendingMigrations run db :=
      List.takeWhile_eq_self_iff.mpr fun file hfile => by simp [hnone file hfile]
    have hfind : (pendingMigrations run db).findSome? (fun file => run.failure file.1) = none :=
      List.findSome?_eq_none_iff.mpr hnone
    rw [houtcome, happlied, hfind]
    exact ⟨rfl, fun hunlock => by simp [hunlock]⟩
  · intro k file error hfile hfailure hbefore
    rw [houtcome, applied_take hfile (Option.isSome_iff_exists.mpr ⟨error, hfailure⟩) hbefore]
    refine ⟨rfl, ?_⟩
    have hsome : ((pendingMigrations run db).findSome? fun file => run.failure file.1).isSome :=
      List.findSome?_isSome_iff.mpr ⟨file, List.mem_of_getElem? hfile, by simp [hfailure]⟩
    obtain ⟨found, hfound⟩ := Option.isSome_iff_exists.mp hsome
    rw [hfound]
    cases run.fails .unlock
    · exact ⟨found, rfl⟩
    · exact ⟨_, rfl⟩

def sampleMigrationRuntime : MigrationRuntime where
  sha256Hex text :=
    if text = "SELECT 1;" then "17db4fd369edb9244b9f91d9aeed145c3d04ad8ba6e95d06247f07a63527d11a"
    else "8e7003d62f9d8cbd28da2f243bb0d215bfd4622c716be09be89a8764d9f4c7cb"
  orderByVersion rows :=
    rows.mergeSort fun a b => decide (versionPrefix a.version ≤ versionPrefix b.version)
  order_perm _ := List.mergeSort_perm _ _
  order_sorted _ hdistinct :=
    Unordered.mergeSort_ascending (fun _ _ => decide_eq_true_iff) hdistinct

def sampleMigrationRun : MigrationRun where
  files := [("0002_scans.sql", "SELECT 2;"), ("README.md", ""), ("0001_base.sql", "SELECT 1;")]
  distinct := by decide +kernel
  fails call := call == .insert "0002_scans.sql"

/-- The next run, with nothing in its way, goes on where the first one failed. -/
theorem migration_history_sample :
    let again : MigrationRun := { sampleMigrationRun with fails := fun _ => false }
    let db := Machine.run (stepMigrate sampleMigrationRuntime) { executed := [], ledger := [] }
      [sampleMigrationRun]
    db.executed = ["SELECT 1;"] ∧
      (migrateDatabase sampleMigrationRuntime again db).2.executed = ["SELECT 1;", "SELECT 2;"] ∧
      (migrateDatabase sampleMigrationRuntime again db).1 =
        .ok { applied := ["0002_scans.sql"], alreadyApplied := ["0001_base.sql"] } := by
  intro again db
  have hfiles : migrationFiles sampleMigrationRun =
      [("0001_base.sql", "SELECT 1;"), ("0002_scans.sql", "SELECT 2;")] := by
    apply List.Perm.eq_of_pairwise (fun _ _ _ _ hab hba => absurd hba (lt_asymm hab))
      migrationFiles_sorted
    · simpa using versionPrefix_lt (a := "0001_base.sql") (b := "0002_scans.sql") (by decide)
    · exact (List.mergeSort_perm _ _).trans (by decide +kernel)
  have hpending : pendingMigrations sampleMigrationRun { executed := [], ledger := [] } =
      [("0001_base.sql", "SELECT 1;"), ("0002_scans.sql", "SELECT 2;")] := by
    simp [pendingMigrations, hfiles]
  have hproceeds : sampleMigrationRun.Proceeds sampleMigrationRuntime
      { executed := [], ledger := [] } := by
    refine ⟨⟨rfl, by simp [hfiles], ?_, ?_⟩, by decide, by simp, by simp⟩
    · rw [hfiles]
      decide +kernel
    · rw [hfiles]
      decide +kernel
  have hfirst := ((migration_history sampleMigrationRuntime [] sampleMigrationRun).2.2.2.2.2
    hproceeds).2.2 1 ("0002_scans.sql", "SELECT 2;") .database (by rw [Machine.run_nil, hpending]; rfl)
    (by decide +kernel) (by rw [Machine.run_nil, hpending]; decide +kernel)
  rw [Machine.run_nil, hpending] at hfirst
  have hdb : db = MigrationDatabase.extend sampleMigrationRuntime { executed := [], ledger := [] }
      [("0001_base.sql", "SELECT 1;")] := hfirst.1
  have hledger : db.ledger = [migrationOf sampleMigrationRuntime ("0001_base.sql", "SELECT 1;")] :=
    congrArg MigrationDatabase.ledger hdb
  have hexecuted : db.executed = ["SELECT 1;"] := congrArg MigrationDatabase.executed hdb
  have hagain : migrationFiles again =
      [("0001_base.sql", "SELECT 1;"), ("0002_scans.sql", "SELECT 2;")] := hfiles
  have hleft : pendingMigrations again db = [("0002_scans.sql", "SELECT 2;")] := by
    simp [pendingMigrations, hagain, hledger, migrationOf]
  have hproceedsAgain : again.Proceeds sampleMigrationRuntime db := by
    obtain ⟨⟨-, hsome, hprefixes, htexts⟩, -, -, -⟩ := hproceeds
    refine ⟨⟨rfl, hsome, hprefixes, ?_⟩, fun _ _ => rfl, ?_, ?_⟩
    · exact fun file hfile => ⟨rfl, (htexts file hfile).2⟩
    · rw [hledger, hagain]
      simp
    · rw [hledger, hleft]
      simp only [List.mem_singleton, forall_eq, migrationOf]
      decide +kernel
  obtain ⟨hextended, hanswer⟩ := ((migration_history sampleMigrationRuntime [sampleMigrationRun]
    again).2.2.2.2.2 hproceedsAgain).2.1 fun _ _ => rfl
  rw [hleft] at hextended hanswer
  refine ⟨hexecuted, ?_, ?_⟩
  · rw [hextended, MigrationDatabase.extend, hexecuted]
    rfl
  · rw [hanswer rfl, hledger]
    rfl

end Outscan

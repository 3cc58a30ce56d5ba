import Mathlib.Data.String.Basic
import Mathlib.Data.List.Nodup
import Outscan.Library.Run
import Outscan.Library.Unordered
import Outscan.Target.Hostname

/-! Migrations of the database and the ledger of those that were applied. -/
namespace Outscan

structure AppliedMigration where
  version : String
  checksum : String
deriving DecidableEq, Repr

inductive MigrationError where
  | noDatabaseMigrations | duplicateMigrationVersion | emptyDatabaseMigration
  | databaseMigrationDrift | databaseMigrationOrder | fileSystem | database
deriving DecidableEq, Repr

structure MigrationResult where
  applied : List String
  alreadyApplied : List String
deriving DecidableEq, Repr

inductive MigrationCall where
  | readDirectory
  | load (name : String)
  | connect | lock | ensureLedger | selectLedger
  | read (name : String)
  | begin_ (name : String)
  | execute (name : String)
  | insert (name : String)
  | commit (name : String)
  | unlock
deriving DecidableEq, Repr

/-- One call of `migrateDatabase`: the files of the directory with their texts, and
which calls fail. -/
structure MigrationRun where
  files : List (String × String)
  distinct : (files.map Prod.fst).Nodup
  fails : MigrationCall → Bool

/-- What is committed: the texts that were executed, and the rows of the ledger in the
order in which they were inserted. A ledger that is not there yet has no rows. -/
structure MigrationDatabase where
  executed : List String
  ledger : List AppliedMigration
deriving DecidableEq, Repr

/-- `name.slice(0, 4)`. -/
def versionPrefix (name : String) : List Char := name.toList.take 4

/-- `MIGRATION_NAME`. -/
def isMigrationName (name : String) : Bool :=
  match name.toList with
  | a :: b :: c :: d :: '_' :: rest =>
    let stem := rest.take (rest.length - 4)
    [a, b, c, d].all Char.isDigit && !stem.isEmpty &&
      stem.all (fun c => c.isLower || c.isDigit || c == '_') &&
      rest.drop (rest.length - 4) == ".sql".toList
  | _ => false

/-- What the service takes from Node and from the database: the hexadecimal SHA-256 of a
text, and `ORDER BY version`, which puts names with different first four characters in
the order of these. -/
structure MigrationRuntime where
  sha256Hex : String → String
  orderByVersion : List AppliedMigration → List AppliedMigration
  order_perm : ∀ rows, (orderByVersion rows).Perm rows
  order_sorted : ∀ rows, (rows.map fun row => versionPrefix row.version).Nodup →
    (orderByVersion rows).Pairwise fun a b => versionPrefix a.version < versionPrefix b.version

section Migrate

variable (runtime : MigrationRuntime) (run : MigrationRun)

def migrationOf (file : String × String) : AppliedMigration :=
  { version := file.1, checksum := runtime.sha256Hex file.2 }

def migrationFiles : List (String × String) :=
  (run.files.filter fun file => isMigrationName file.1).mergeSort fun a b => a.1 ≤ b.1

def loadFiles (seenVersions : List (List Char)) :
    List (String × String) → Except MigrationError (List AppliedMigration)
  | [] => .ok []
  | file :: rest =>
    if versionPrefix file.1 ∈ seenVersions then .error .duplicateMigrationVersion
    else if run.fails (.load file.1) then .error .fileSystem
    else if (jsTrim file.2.toList).isEmpty then .error .emptyDatabaseMigration
    else
      match loadFiles (versionPrefix file.1 :: seenVersions) rest with
      | .error error => .error error
      | .ok others => .ok (migrationOf runtime file :: others)

def loadMigrations : Except MigrationError (List AppliedMigration) :=
  if run.fails .readDirectory then .error .fileSystem
  else if (migrationFiles run).isEmpty then .error .noDatabaseMigrations
  else loadFiles runtime run [] (migrationFiles run)

def checkDrift (available : List AppliedMigration) :
    List AppliedMigration → Except MigrationError (List String)
  | [] => .ok []
  | row :: rest =>
    match available.reverse.find? (·.version == row.version) with
    | none => .error .databaseMigrationDrift
    | some migration =>
      if migration.checksum ≠ row.checksum then .error .databaseMigrationDrift
      else
        match checkDrift available rest with
        | .error error => .error error
        | .ok versions => .ok (row.version :: versions)

/-- One migration in a transaction of its own. What fails before COMMIT is rolled
back; where ROLLBACK fails, the connection is lost and the transaction with it. -/
def applyMigration (migration : AppliedMigration) (db : MigrationDatabase) :
    Except MigrationError Unit × MigrationDatabase :=
  match run.files.lookup migration.version with
  | none => (.error .fileSystem, db)
  | some sql =>
    if run.fails (.read migration.version) then (.error .fileSystem, db)
    else if run.fails (.begin_ migration.version) then (.error .database, db)
    else if run.fails (.execute migration.version) then (.error .database, db)
    else
      let executed := { db with executed := db.executed ++ [sql] }
      if run.fails (.insert migration.version) ||
          executed.ledger.any (·.version == migration.version) then (.error .database, db)
      else
        let inserted := { executed with ledger := executed.ledger ++ [migration] }
        if run.fails (.commit migration.version) then (.error .database, db)
        else (.ok (), inserted)

def applyMigrations (completed : List String) (lastApplied : Option String) :
    List AppliedMigration → MigrationDatabase →
      Except MigrationError (List String) × MigrationDatabase
  | [], db => (.ok [], db)
  | migration :: rest, db =>
    if migration.version ∈ completed then applyMigrations completed lastApplied rest db
    else if lastApplied.any fun last => migration.version < last then
      (.error .databaseMigrationOrder, db)
    else
      match applyMigration run migration db with
      | (.error error, db) => (.error error, db)
      | (.ok (), db) =>
        match applyMigrations completed lastApplied rest db with
        | (.error error, db) => (.error error, db)
        | (.ok applied, db) => (.ok (migration.version :: applied), db)

def migrateConnected (migrations : List AppliedMigration) (db : MigrationDatabase) :
    Except MigrationError MigrationResult × MigrationDatabase :=
  if run.fails .lock || run.fails .ensureLedger || run.fails .selectLedger then
    (.error .database, db)
  else
    let rows := runtime.orderByVersion db.ledger
    match checkDrift migrations rows with
    | .error error => (.error error, db)
    | .ok alreadyApplied =>
      match applyMigrations run (rows.map (·.version)) (rows.getLast?.map (·.version))
          migrations db with
      | (.error error, db) => (.error error, db)
      | (.ok applied, db) => (.ok { applied, alreadyApplied }, db)

def migrateDatabase (db : MigrationDatabase) :
    Except MigrationError MigrationResult × MigrationDatabase :=
  match loadMigrations runtime run with
  | .error error => (.error error, db)
  | .ok migrations =>
    if run.fails .connect then (.error .database, db)
    else
      let outcome := migrateConnected runtime run migrations db
      if run.fails .unlock then (.error .database, outcome.2) else outcome

end Migrate

def stepMigrate (runtime : MigrationRuntime) (db : MigrationDatabase) (run : MigrationRun) :
    Except MigrationError MigrationResult × MigrationDatabase :=
  migrateDatabase runtime run db

/-! ### Names -/

theorem take_lt_take {n : ℕ} {a b : List Char} (h : a.take n < b.take n) : a < b := by
  induction n generalizing a b with
  | zero => exact absurd h (List.not_lt_nil _)
  | succ n ih =>
    cases a with
    | nil =>
      cases b with
      | nil => exact absurd h (List.not_lt_nil _)
      | cons y b => exact List.nil_lt_cons y b
    | cons x a =>
      cases b with
      | nil => exact absurd h (List.not_lt_nil _)
      | cons y b =>
        rw [List.take_succ_cons, List.take_succ_cons, List.cons_lt_cons_iff] at h
        rw [List.cons_lt_cons_iff]
        exact h.imp_right fun htail => ⟨htail.1, ih htail.2⟩

theorem versionPrefix_lt {a b : String} (h : versionPrefix a < versionPrefix b) : a < b :=
  String.lt_iff_toList_lt.mpr (take_lt_take h)

theorem versionPrefix_lt_iff {a b : String} (hne : versionPrefix a ≠ versionPrefix b) :
    versionPrefix a < versionPrefix b ↔ a < b := by
  refine ⟨versionPrefix_lt, fun hlt => ?_⟩
  rcases lt_trichotomy (versionPrefix a) (versionPrefix b) with h | h | h
  · exact h
  · exact absurd h hne
  · exact absurd (versionPrefix_lt h) (not_lt_of_gt hlt)

/-! ### The directory -/

section Files

variable {runtime : MigrationRuntime} {run : MigrationRun}

theorem mem_migrationFiles {file : String × String} :
    file ∈ migrationFiles run ↔ file ∈ run.files ∧ isMigrationName file.1 = true := by
  simp [migrationFiles]

theorem migrationFiles_distinct : ((migrationFiles run).map Prod.fst).Nodup := by
  have hperm : ((migrationFiles run).map Prod.fst).Perm
      ((run.files.filter fun file => isMigrationName file.1).map Prod.fst) :=
    (List.mergeSort_perm _ _).map _
  exact hperm.nodup_iff.mpr (run.distinct.sublist (List.filter_sublist.map _))

theorem migrationFiles_sorted : (migrationFiles run).Pairwise fun a b => a.1 < b.1 :=
  Unordered.mergeSort_ascending (fun _ _ => decide_eq_true_iff)
    (run.distinct.sublist (List.filter_sublist.map _))

theorem lookup_file {files : List (String × String)} (hdistinct : (files.map Prod.fst).Nodup)
    {file : String × String} (hmem : file ∈ files) : files.lookup file.1 = some file.2 := by
  induction files with
  | nil => cases hmem
  | cons head rest ih =>
    rw [List.map_cons, List.nodup_cons] at hdistinct
    rcases List.mem_cons.mp hmem with rfl | hrest
    · exact List.lookup_cons_self
    · have hne : file.1 ≠ head.1 := fun h => hdistinct.1 (h ▸ List.mem_map_of_mem hrest)
      rw [List.lookup_cons, beq_false_of_ne hne]
      exact ih hdistinct.2 hrest

theorem loadFiles_ok {seenVersions : List (List Char)} {files : List (String × String)}
    {migrations : List AppliedMigration} :
    loadFiles runtime run seenVersions files = .ok migrations ↔
      migrations = files.map (migrationOf runtime) ∧
      (files.map fun file => versionPrefix file.1).Nodup ∧
      ∀ file ∈ files, versionPrefix file.1 ∉ seenVersions ∧
        run.fails (.load file.1) = false ∧ (jsTrim file.2.toList).isEmpty = false := by
  induction files generalizing seenVersions migrations with
  | nil => simp [loadFiles, @eq_comm _ [] migrations]
  | cons file rest ih =>
    simp only [loadFiles]
    split
    · next hseen => simp [hseen]
    next hseen =>
    split
    · next hfails => simp [hfails]
    next hfails =>
    split
    · next hempty => simp_all
    next hempty =>
    have hrest := @ih (versionPrefix file.1 :: seenVersions)
    split
    · next error herror =>
      have hnot : ¬ ∃ others, loadFiles runtime run (versionPrefix file.1 :: seenVersions) rest =
          .ok others := by simp [herror]
      simp only [reduceCtorEq, false_iff]
      rintro ⟨-, hnodup, hall⟩
      simp only [List.map_cons, List.nodup_cons, List.mem_map, not_exists, not_and] at hnodup
      refine hnot ⟨_, hrest.mpr ⟨rfl, hnodup.2, fun other hother => ?_⟩⟩
      have hread := hall other (List.mem_cons_of_mem _ hother)
      exact ⟨List.not_mem_cons_of_ne_of_not_mem (hnodup.1 other hother) hread.1, hread.2⟩
    · next others hothers =>
      obtain ⟨rfl, hnodup, hall⟩ := hrest.mp hothers
      simp only [List.mem_cons, not_or] at hall
      constructor
      · intro h
        cases h
        refine ⟨rfl, ?_, ?_⟩
        · simp only [List.map_cons, List.nodup_cons, List.mem_map, not_exists, not_and]
          exact ⟨fun other hother => (hall other hother).1.1, hnodup⟩
        · simp only [List.forall_mem_cons]
          exact ⟨⟨hseen, by simpa using hfails, by simpa using hempty⟩,
            fun other hother => ⟨(hall other hother).1.2, (hall other hother).2⟩⟩
      · rintro ⟨rfl, -, -⟩
        rfl

end Files

/-! ### The ledger -/

/-- What applying the migrations of `files` in order adds. -/
def MigrationDatabase.extend (runtime : MigrationRuntime) (db : MigrationDatabase)
    (files : List (String × String)) : MigrationDatabase :=
  { executed := db.executed ++ files.map Prod.snd
    ledger := db.ledger ++ files.map (migrationOf runtime) }

def MigrationRun.failure (run : MigrationRun) (name : String) : Option MigrationError :=
  if run.fails (.read name) then some .fileSystem
  else if run.fails (.begin_ name) || run.fails (.execute name) || run.fails (.insert name) ||
      run.fails (.commit name) then some .database
  else none

section Ledger

variable {runtime : MigrationRuntime} {run : MigrationRun}

@[simp] theorem migrationOf_version (file : String × String) :
    (migrationOf runtime file).version = file.1 := rfl

@[simp] theorem extend_nil (db : MigrationDatabase) : db.extend runtime [] = db := by
  simp [MigrationDatabase.extend]

theorem extend_cons (db : MigrationDatabase) (file : String × String)
    (files : List (String × String)) :
    db.extend runtime (file :: files) = (db.extend runtime [file]).extend runtime files := by
  simp [MigrationDatabase.extend]

theorem find_available {available : List AppliedMigration}
    (hdistinct : (available.map (·.version)).Nodup) {migration : AppliedMigration}
    (hmem : migration ∈ available) :
    available.reverse.find? (·.version == migration.version) = some migration := by
  have hsome : (available.reverse.find? (·.version == migration.version)).isSome :=
    List.find?_isSome.mpr ⟨migration, List.mem_reverse.mpr hmem, beq_self_eq_true _⟩
  obtain ⟨found, hfound⟩ := Option.isSome_iff_exists.mp hsome
  have hversion : found.version = migration.version := by
    simpa using List.find?_some hfound
  have hfoundMem := List.mem_reverse.mp (List.mem_of_find?_eq_some hfound)
  rw [hfound, List.inj_on_of_nodup_map hdistinct hfoundMem hmem hversion]

theorem checkDrift_ok {available : List AppliedMigration}
    (hdistinct : (available.map (·.version)).Nodup) {rows : List AppliedMigration}
    {versions : List String} :
    checkDrift available rows = .ok versions ↔
      versions = rows.map (·.version) ∧ ∀ row ∈ rows, row ∈ available := by
  induction rows generalizing versions with
  | nil => simp [checkDrift, @eq_comm _ [] versions]
  | cons row rest ih =>
    simp only [checkDrift]
    by_cases hrow : row ∈ available
    · rw [find_available hdistinct hrow]
      simp only [ne_eq, not_true_eq_false, if_false, List.forall_mem_cons, hrow, true_and]
      cases hrest : checkDrift available rest with
      | error error =>
        simp only [reduceCtorEq, false_iff, not_and]
        intro _ hall
        have hok := ih.mpr ⟨rfl, hall⟩
        rw [hrest] at hok
        cases hok
      | ok others =>
        obtain ⟨rfl, hall⟩ := ih.mp hrest
        simp only [Except.ok.injEq, List.map_cons]
        exact ⟨fun h => ⟨h.symm, hall⟩, fun h => h.1.symm⟩
    · have herror : ¬ ∀ other ∈ row :: rest, other ∈ available :=
        fun hall => hrow (hall row List.mem_cons_self)
      simp only [herror, and_false, iff_false]
      split
      · simp
      next migration hmigration =>
      have hmem := List.mem_reverse.mp (List.mem_of_find?_eq_some hmigration)
      have hversion : migration.version = row.version := by
        simpa using List.find?_some hmigration
      have hchecksum : migration.checksum ≠ row.checksum := by
        intro hsame
        apply hrow
        have hrow : migration = row := by
          cases migration
          cases row
          simp_all
        exact hrow ▸ hmem
      simp [hchecksum]

theorem applyMigration_eq {file : String × String} (hfile : file ∈ run.files)
    {db : MigrationDatabase} (hnew : file.1 ∉ db.ledger.map (·.version)) :
    applyMigration run (migrationOf runtime file) db =
      match run.failure file.1 with
      | some error => (.error error, db)
      | none => (.ok (), db.extend runtime [file]) := by
  have hany : db.ledger.any (·.version == file.1) = false := by
    simpa using hnew
  simp only [applyMigration, migrationOf_version, lookup_file run.distinct hfile, hany,
    Bool.or_false, MigrationRun.failure, MigrationDatabase.extend, List.map_cons, List.map_nil]
  by_cases hread : run.fails (.read file.1)
  · simp [hread]
  by_cases hbegin : run.fails (.begin_ file.1)
  · simp [hread, hbegin]
  by_cases hexecute : run.fails (.execute file.1)
  · simp [hread, hbegin, hexecute]
  by_cases hinsert : run.fails (.insert file.1)
  · simp [hread, hbegin, hexecute, hinsert]
  by_cases hcommit : run.fails (.commit file.1)
  · simp [hread, hbegin, hexecute, hinsert, hcommit]
  simp [hread, hbegin, hexecute, hinsert, hcommit]

/-- Where nothing new has to precede what was applied, the new migrations are applied in
order up to the first that fails. -/
theorem applyMigrations_eq {completed : List String} {lastApplied : Option String}
    {files : List (String × String)} {db : MigrationDatabase}
    (hfiles : ∀ file ∈ files, file ∈ run.files)
    (hnew : (db.ledger.map (·.version) ++
      (files.filter fun file => file.1 ∉ completed).map Prod.fst).Nodup)
    (hlater : ∀ file ∈ files, file.1 ∉ completed → ∀ last ∈ lastApplied, ¬ file.1 < last) :
    applyMigrations run completed lastApplied (files.map (migrationOf runtime)) db =
      let pending := files.filter fun file => file.1 ∉ completed
      (match pending.findSome? fun file => run.failure file.1 with
        | some error => .error error
        | none => .ok (pending.map Prod.fst),
      db.extend runtime (pending.takeWhile fun file => (run.failure file.1).isNone)) := by
  induction files generalizing db with
  | nil => simp [applyMigrations]
  | cons file rest ih =>
    have hrest := fun other hother => hfiles other (List.mem_cons_of_mem file hother)
    have hrestLater := fun other hother => hlater other (List.mem_cons_of_mem file hother)
    rw [List.map_cons, applyMigrations, migrationOf_version]
    by_cases hcompleted : file.1 ∈ completed
    · have hskip : (file :: rest).filter (fun file => file.1 ∉ completed) =
          rest.filter fun file => file.1 ∉ completed := by
        simp [hcompleted]
      rw [if_pos hcompleted, hskip]
      rw [hskip] at hnew
      exact ih hrest hnew hrestLater
    have htake : (file :: rest).filter (fun file => file.1 ∉ completed) =
        file :: rest.filter fun file => file.1 ∉ completed := by
      simp [hcompleted]
    have horder : (lastApplied.any fun last => file.1 < last) = false := by
      rw [Option.any_eq_false]
      exact fun last hlast => by simpa using hlater file List.mem_cons_self hcompleted last hlast
    rw [htake, List.map_cons] at hnew
    have hfresh : file.1 ∉ db.ledger.map (·.version) := fun hmem =>
      List.disjoint_of_nodup_append hnew hmem List.mem_cons_self
    rw [if_neg hcompleted, horder, htake, applyMigration_eq (hfiles file List.mem_cons_self) hfresh]
    cases hfailure : run.failure file.1 with
    | some error => simp [hfailure]
    | none =>
      have hnewRest : ((db.extend runtime [file]).ledger.map (·.version) ++
          (rest.filter fun file => file.1 ∉ completed).map Prod.fst).Nodup := by
        simpa [MigrationDatabase.extend] using hnew
      simp only [ih hrest hnewRest hrestLater, List.findSome?_cons, hfailure, List.takeWhile_cons,
        Option.isNone_none, if_true, Bool.false_eq_true, if_false]
      rw [← extend_cons db file]
      cases List.findSome? (fun file => run.failure file.1)
        (rest.filter fun file => file.1 ∉ completed) <;> rfl

theorem applyMigrations_order {completed : List String} {last : String}
    {files : List (String × String)} (hsorted : files.Pairwise fun a b => a.1 < b.1)
    {file : String × String} (hfile : file ∈ files) (hnew : file.1 ∉ completed)
    (hlast : file.1 < last) (db : MigrationDatabase) :
    applyMigrations run completed (some last) (files.map (migrationOf runtime)) db =
      (.error .databaseMigrationOrder, db) := by
  induction files with
  | nil => cases hfile
  | cons head rest ih =>
    rw [List.pairwise_cons] at hsorted
    rw [List.map_cons, applyMigrations, migrationOf_version]
    rcases List.mem_cons.mp hfile with rfl | hrest
    · rw [if_neg hnew]
      exact if_pos (decide_eq_true hlast)
    · split
      · exact ih hsorted.2 hrest
      · exact if_pos (decide_eq_true (lt_trans (hsorted.1 file hrest) hlast))

end Ledger

end Outscan

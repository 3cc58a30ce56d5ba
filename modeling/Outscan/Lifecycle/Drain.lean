import Outscan.Creation.Progress
import Outscan.Library.Batch

/-! Retention as a whole: what one batch does, for every database, and how many
batches it takes until nothing is due. -/
namespace Outscan

open Relational Transactional

def noLocks : LockedRows := ⟨fun _ => false, fun _ => false⟩

namespace Tables

def due (t : Tables) (now : Nat) : List GuestScan :=
  t.guestScans.rows.filter fun row => decide (row.deletionDeadline ≤ now)

def stale (t : Tables) (now : Nat) : List WindowCounter :=
  t.windowCounters.rows.filter fun row => decide (row.resetAt ≤ now)

def withoutScans (t : Tables) : List String → Tables
  | [] => t
  | id :: rest => (t.deleteGuestScan id).withoutScans rest

def activeValue (t : Tables) (kind : ScopeKind) (digest : Bytes32) : Nat :=
  (t.activeCount (activeKey kind digest)).getD 0

def Balanced (t : Tables) : Prop := ∀ kind digest, t.activeValue kind digest = t.held kind digest

theorem moreWork_iff {t : Tables} {now : Nat} :
    t.moreWork now = true ↔ t.due now ≠ [] ∨ t.stale now ≠ [] := by
  simp [moreWork, due, stale, List.filter_eq_nil_iff]

end Tables

/-! ### Deleting scans -/

section Without

variable {t : Tables}

theorem ForeignKeys.deleteGuestScan (h : ForeignKeys t) (id : String) :
    ForeignKeys (t.deleteGuestScan id) := by
  obtain ⟨hattempt, hresult, hreservation⟩ := h.owned.deleteGuestScan id
  refine ⟨fun scan hscan attemptId hid => ?_, fun scan hscan attemptId hid fence hfence digest
    hdigest => ?_, hattempt, fun result hmem => ⟨hresult result hmem, ?_⟩, hreservation⟩
  · obtain ⟨hmem, hne⟩ := List.mem_filter.mp hscan
    obtain ⟨attempt, hrow, howner, hrest⟩ := h.current scan hmem attemptId hid
    exact ⟨attempt, List.mem_filter.mpr ⟨hrow, by simpa [howner] using hne⟩, howner, hrest⟩
  · obtain ⟨hmem, hne⟩ := List.mem_filter.mp hscan
    obtain ⟨result, hrow, howner, hrest⟩ :=
      h.accepted scan hmem attemptId hid fence hfence digest hdigest
    exact ⟨result, List.mem_filter.mpr ⟨hrow, by simpa [howner] using hne⟩, howner, hrest⟩
  · obtain ⟨hrow, hne⟩ := List.mem_filter.mp hmem
    obtain ⟨attempt, hattempt, howner, hrest⟩ := (h.result result hrow).2
    exact ⟨attempt, List.mem_filter.mpr ⟨hattempt, by simpa [howner] using hne⟩, howner, hrest⟩

theorem ForeignKeys.withoutScans (h : ForeignKeys t) (removed : List String) :
    ForeignKeys (t.withoutScans removed) := by
  induction removed generalizing t with
  | nil => exact h
  | cons id rest ih => exact ih (h.deleteGuestScan id)

theorem withoutScans_counters (t : Tables) (active : Table ActiveCounter) (removed : List String) :
    ({ t with activeCounters := active } : Tables).withoutScans removed =
      { t.withoutScans removed with activeCounters := active } := by
  induction removed generalizing t with
  | nil => rfl
  | cons id rest ih => exact ih (t.deleteGuestScan id)

theorem withoutScans_windows (t : Tables) (removed : List String) :
    (t.withoutScans removed).windowCounters = t.windowCounters := by
  induction removed generalizing t with
  | nil => rfl
  | cons id rest ih => exact ih (t.deleteGuestScan id)

theorem rows_withoutScans {ρ : Type} (rows : Tables → List ρ) (owner : ρ → String)
    (hrows : ∀ t id, rows (t.deleteGuestScan id) =
      (rows t).filter fun row => !decide (owner row = id)) (t : Tables) (removed : List String) :
    rows (t.withoutScans removed) = (rows t).filter fun row => decide (owner row ∉ removed) := by
  induction removed generalizing t with
  | nil => simp [Tables.withoutScans]
  | cons id rest ih =>
    rw [Tables.withoutScans, ih, hrows, List.filter_filter]
    refine List.filter_congr fun row _ => ?_
    by_cases hid : owner row = id <;> simp [hid]

theorem scans_withoutScans (t : Tables) (removed : List String) :
    (t.withoutScans removed).guestScans.rows =
      t.guestScans.rows.filter fun row => decide (row.id ∉ removed) :=
  rows_withoutScans (fun t => t.guestScans.rows) GuestScan.id (fun _ _ => rfl) t removed

theorem attempts_withoutScans (t : Tables) (removed : List String) :
    (t.withoutScans removed).guestScanAttempts.rows =
      t.guestScanAttempts.rows.filter fun row => decide (row.guestScanId ∉ removed) :=
  rows_withoutScans (fun t => t.guestScanAttempts.rows) GuestScanAttempt.guestScanId (fun _ _ => rfl) t
    removed

theorem results_withoutScans (t : Tables) (removed : List String) :
    (t.withoutScans removed).guestResults.rows =
      t.guestResults.rows.filter fun row => decide (row.guestScanId ∉ removed) :=
  rows_withoutScans (fun t => t.guestResults.rows) GuestResult.guestScanId (fun _ _ => rfl) t
    removed

theorem reservations_withoutScans (t : Tables) (removed : List String) :
    (t.withoutScans removed).reservations.rows =
      t.reservations.rows.filter fun row => decide (row.guestScanId ∉ removed) :=
  rows_withoutScans (fun t => t.reservations.rows) Reservation.guestScanId (fun _ _ => rfl) t
    removed

end Without

/-! ### Counters -/

theorem decrementActiveCounter_run {now : Nat} (kind : ScopeKind) (spec : ActiveCounterSpec)
    (t : Tables) (hspec : spec.key = activeKey kind spec.digest) (hnow : now < timestampEnd) :
    ∃ active, (decrementActiveCounter now spec).run t =
        .ok (decide (0 < t.activeValue kind spec.digest), { t with activeCounters := active }) ∧
      ∀ kind' digest, ({ t with activeCounters := active } : Tables).activeValue kind' digest =
        t.activeValue kind' digest -
          if kind = kind' ∧ spec.digest = digest then 1 else 0 := by
  cases hcount : t.activeValue kind spec.digest with
  | zero =>
    refine ⟨t.activeCounters, ?_, fun kind' digest => ?_⟩
    · have hzero : ∀ row, t.activeCounters.find? spec.key = some row → ¬ 0 < row.activeCount := by
        intro row hrow
        rw [Tables.activeValue, Tables.activeCount, ← hspec, hrow] at hcount
        have hvalue : row.activeCount = 0 := hcount
        omega
      have hupdate : (Tx.update activeTable TxError.database (fun _ _ => True) spec.key
          (fun row => 0 < row.activeCount) (decrementCount now)).run t = .ok (none, t) :=
        Tx.run_update_none_ok.mpr ⟨rfl, hzero⟩
      unfold decrementActiveCounter
      rw [Tx.run_bind_of_ok hupdate]
      rfl
    · change t.activeValue kind' digest = _
      split
      · rename_i hsame
        rw [← hsame.1, ← hsame.2, hcount]
      · rfl
  | succ count =>
    have hstored : t.activeCount spec.key = some (count + 1) := by
      rw [hspec]
      rw [Tables.activeValue] at hcount
      cases hvalue : t.activeCount (activeKey kind spec.digest) with
      | none =>
        rw [hvalue] at hcount
        cases hcount
      | some value =>
        rw [hvalue] at hcount
        exact congrArg some hcount
    obtain ⟨active, hdecremented, hrun⟩ := decrementAndRemove_done spec hstored hnow
    refine ⟨active, ?_, fun kind' digest => ?_⟩
    · rw [decrementActiveCounter_eq, hrun]
      simp
    · obtain ⟨value, hvalue, hactive⟩ := hdecremented
      rw [hstored] at hvalue
      cases hvalue
      change ((active.find? (activeKey kind' digest)).map ActiveCounter.activeCount).getD 0 = _
      have hkey : activeKey kind' digest = spec.key ↔ kind = kind' ∧ spec.digest = digest := by
        rw [hspec, activeKey_inj, eq_comm, @eq_comm _ digest]
      rw [hactive]
      by_cases hsame : kind = kind' ∧ spec.digest = digest
      · rw [if_pos (hkey.mpr hsame), if_pos hsame, ← hsame.1, ← hsame.2, hcount, storedCount]
        split
        · rename_i hzero
          rw [hzero]
          rfl
        · rfl
      · rw [if_neg (mt hkey.mp hsame), if_neg hsame]
        rfl

structure FreesSlot (id : String) (t : Tables) (counts : Nat × Nat)
    (active : Table ActiveCounter) : Prop where
  bounded : counts.1 ≤ 2 ∧ counts.2 ≤ 2
  balanced : t.Balanced → (({ t with activeCounters := active } : Tables).deleteGuestScan id).Balanced
  missing : t.Balanced → counts.2 = if (t.reservations.find? id).isNone then 1 else 0

theorem held_deleteGuestScan_none {t : Tables} {id : String} (h : t.reservations.find? id = none)
    (kind : ScopeKind) (digest : Bytes32) :
    (t.deleteGuestScan id).held kind digest = t.held kind digest := by
  have hrows : (t.deleteGuestScan id).reservations.rows = t.reservations.rows := by
    refine List.filter_eq_self.mpr fun row hrow => ?_
    have hne : row.guestScanId ≠ id := Table.find?_eq_none.mp h row hrow
    simp [hne]
  rw [Tables.held, Tables.held, hrows]

theorem releaseDueReservation_run {now : Nat} (id : String) (t : Tables) (hnow : now < timestampEnd) :
    ∃ counts active, (releaseDueReservation id now).run t =
        .ok (counts, { t with activeCounters := active }) ∧ FreesSlot id t counts active := by
  unfold releaseDueReservation
  rw [Tx.run_bind_get]
  cases hfind : t.reservations.find? id with
  | none =>
    refine ⟨(0, 1), t.activeCounters, rfl, by simp, fun hbalanced kind digest => ?_,
      fun _ => by rw [hfind]; rfl⟩
    exact (hbalanced kind digest).trans (held_deleteGuestScan_none hfind kind digest).symm
  | some row =>
    have hheld := held_deleteGuestScan hfind
    by_cases hreleased : row.released.isSome = true
    · refine ⟨(0, 0), t.activeCounters, ?_, by simp, fun hbalanced kind digest => ?_,
        fun _ => by rw [hfind]; rfl⟩
      · dsimp only
        rw [if_pos hreleased]
        rfl
      · have hholds : row.holds kind digest = false := by
          cases hrow : row.released with
          | none => simp [hrow] at hreleased
          | some release => simp [Reservation.holds, hrow]
        have hcount := hheld kind digest
        rw [hholds] at hcount
        exact (hbalanced kind digest).trans hcount.symm
    · have hnone : row.released = none := by simpa using hreleased
      obtain ⟨between, hsession, hbetween⟩ := decrementActiveCounter_run .session
        ⟨.session, .sessionActive, row.guestSessionScope⟩ t rfl hnow
      obtain ⟨active, hnetwork, hactive⟩ := decrementActiveCounter_run .network
        ⟨.network, .networkActive, row.networkSignalDigest⟩ { t with activeCounters := between }
        rfl hnow
      have hafter : ∀ kind digest, ({ t with activeCounters := active } : Tables).activeValue kind
          digest = t.activeValue kind digest - if row.digest kind = digest then 1 else 0 := by
        intro kind digest
        refine (hactive kind digest).trans ?_
        rw [hbetween]
        by_cases hdigest : row.digest kind = digest <;> cases kind <;> simp_all
      have hpositive : t.Balanced → ∀ kind, 0 < t.activeValue kind (row.digest kind) := by
        intro hbalanced kind
        rw [hbalanced]
        exact List.countP_pos_iff.mpr
          ⟨row, Table.find?_mem hfind, by simp [Reservation.holds, hnone]⟩
      dsimp only
      rw [if_neg hreleased, Tx.run_bind_of_ok hsession, Tx.run_bind_of_ok hnetwork]
      refine ⟨_, active, rfl, ⟨?_, ?_⟩, fun hbalanced kind digest => ?_, fun hbalanced => ?_⟩
      · exact Nat.add_le_add (Bool.toNat_le _) (Bool.toNat_le _)
      · exact Nat.add_le_add (Bool.toNat_le _) (Bool.toNat_le _)
      · have hcount := hheld kind digest
        have hholds : row.holds kind digest = decide (row.digest kind = digest) := by
          simp [Reservation.holds, hnone]
        rw [hholds] at hcount
        simp only [decide_eq_true_eq] at hcount
        refine (hafter kind digest).trans ?_
        change _ = (t.deleteGuestScan id).held kind digest
        rw [hbalanced]
        omega
      · have hkept := hbetween .network row.networkSignalDigest
        rw [if_neg (by simp), Nat.sub_zero] at hkept
        have hfirst : 0 < t.activeValue .session row.guestSessionScope := hpositive hbalanced .session
        have hsecond : 0 < t.activeValue .network row.networkSignalDigest :=
          hpositive hbalanced .network
        simp [hkept, hfirst, hsecond, hfind]

/-! ### One batch -/

theorem deleteDueScan_run {id : String} {now : Nat} {t : Tables} {scan : GuestScan}
    (hfind : t.guestScans.find? id = some scan) (hdue : scan.deletionDeadline ≤ now) :
    (deleteDueScan id now).run t = .ok ((), t.deleteGuestScan id) := by
  unfold deleteDueScan
  rw [Tx.run_bind_get]
  simp only [hfind]
  rw [Tx.run_bind_of_ok (Tx.run_ensure_of hdue _)]
  rfl

structure Summed (t : Tables) (removed : List GuestScan) (start final : BatchTotals)
    (active : Table ActiveCounter) : Prop where
  deleted : final.scansDeleted = start.scansDeleted + removed.length
  decrements : final.activeCounterDecrements ≤ start.activeCounterDecrements + removed.length * 2
  inconsistencies : final.inconsistencies ≤ start.inconsistencies + removed.length * 2
  balanced : t.Balanced →
    ({ t.withoutScans (removed.map GuestScan.id) with activeCounters := active } : Tables).Balanced ∧
      final.inconsistencies = start.inconsistencies +
        removed.countP fun scan => (t.reservations.find? scan.id).isNone

theorem deleteDueScans_run {now : Nat} (hnow : now < timestampEnd) {removed : List GuestScan}
    {t : Tables} (hstored : ∀ scan ∈ removed, t.guestScans.find? scan.id = some scan)
    (hdue : ∀ scan ∈ removed, scan.deletionDeadline ≤ now)
    (hnodup : (removed.map GuestScan.id).Nodup) (start : BatchTotals) :
    ∃ final active, (deleteDueScans now removed start).run t =
        .ok (final, { t.withoutScans (removed.map GuestScan.id) with activeCounters := active }) ∧
      Summed t removed start final active := by
  induction removed generalizing t start with
  | nil => exact ⟨start, t.activeCounters, rfl, by simp, by simp, by simp, fun h => ⟨h, by simp⟩⟩
  | cons scan rest ih =>
    obtain ⟨counts, freed, hrelease, hfrees⟩ := releaseDueReservation_run scan.id t hnow
    obtain ⟨hnew, hrest⟩ := List.nodup_cons.mp hnodup
    have hdelete := deleteDueScan_run (t := { t with activeCounters := freed })
      (hstored scan (by simp)) (hdue scan (by simp))
    have hother : ∀ other ∈ rest, other.id ≠ scan.id := fun other hother hsame =>
      hnew (hsame ▸ List.mem_map_of_mem hother)
    obtain ⟨final, active, hrun, hsummed⟩ := ih
      (t := ({ t with activeCounters := freed } : Tables).deleteGuestScan scan.id)
      (fun other hmem => by
        rw [find?_deleteGuestScan, if_neg (hother other hmem)]
        exact hstored other (by simp [hmem]))
      (fun other hmem => hdue other (by simp [hmem])) hrest
      ⟨start.activeCounterDecrements + counts.1, start.inconsistencies + counts.2,
        start.scansDeleted + 1⟩
    refine ⟨final, active, ?_, ?_⟩
    · unfold deleteDueScans
      rw [Tx.run_bind_of_ok hrelease]
      dsimp only
      rw [Tx.run_bind_of_ok hdelete, hrun]
      have hsame := withoutScans_counters (t.deleteGuestScan scan.id) freed (rest.map GuestScan.id)
      change Except.ok (final, ({ ({ t.deleteGuestScan scan.id with
        activeCounters := freed } : Tables).withoutScans (rest.map GuestScan.id) with
          activeCounters := active } : Tables)) = _
      rw [hsame]
      rfl
    · obtain ⟨hdeleted, hdecrements, hinconsistencies, hbalanced⟩ := hsummed
      have hcounts := hfrees.bounded
      dsimp only at hdeleted hdecrements hinconsistencies
      refine ⟨?_, ?_, ?_, fun hbefore => ?_⟩
      · rw [List.length_cons]
        omega
      · rw [List.length_cons]
        omega
      · rw [List.length_cons]
        omega
      · obtain ⟨hafter, htotal⟩ := hbalanced (hfrees.balanced hbefore)
        refine ⟨?_, ?_⟩
        · have hsame := withoutScans_counters (t.deleteGuestScan scan.id) freed
            (rest.map GuestScan.id)
          change ({ ({ t.deleteGuestScan scan.id with activeCounters := freed } : Tables).withoutScans
            (rest.map GuestScan.id) with activeCounters := active } : Tables).Balanced at hafter
          rw [hsame] at hafter
          exact hafter
        · have hmissing := hfrees.missing hbefore
          have hcount : (rest.countP fun scan' => ((({ t with
              activeCounters := freed } : Tables).deleteGuestScan scan.id).reservations.find?
                scan'.id).isNone) = rest.countP fun scan' =>
                  (t.reservations.find? scan'.id).isNone := by
            refine List.countP_congr fun other hmem => ?_
            rw [findReservation_deleteGuestScan, if_neg (hother other hmem)]
          rw [htotal, hcount, hmissing, List.countP_cons]
          dsimp only
          omega

theorem countP_keys {ρ κ : Type} [Schema ρ κ] [BEq κ] [LawfulBEq κ] {table : Table ρ}
    {chosen : List ρ} (hsubset : chosen ⊆ table.rows) (hnodup : chosen.Nodup) :
    (table.rows.countP fun row => (chosen.map Schema.key).contains (Schema.key row)) =
      chosen.length := by
  have hrows : table.rows.Nodup :=
    List.Nodup.of_map Schema.key (List.pairwise_map.mpr (table.distinct.imp Schema.key_ne))
  have hperm : (table.rows.filter fun row =>
      (chosen.map Schema.key).contains (Schema.key row)).Perm chosen := by
    rw [List.perm_ext_iff_of_nodup (hrows.filter _) hnodup]
    intro row
    simp only [List.mem_filter, List.contains_iff_mem, List.mem_map]
    constructor
    · intro h
      obtain ⟨hrow, other, hother, hkey⟩ := h
      rw [← table.eq_of_key_eq (hsubset hother) hrow hkey]
      exact hother
    · intro hrow
      exact ⟨hsubset hrow, row, hrow, rfl⟩
  rw [List.countP_eq_length_filter, hperm.length_eq]

section Batches

variable {t : Tables} {now batchSize : Nat} {locked : LockedRows}

theorem mem_dueScans {scan : GuestScan} (h : scan ∈ t.dueScans now batchSize locked) :
    scan ∈ t.due now := by
  obtain ⟨hrow, hdue⟩ := List.mem_filter.mp (List.mem_mergeSort.mp (List.mem_of_mem_take h))
  exact List.mem_filter.mpr ⟨hrow, (Bool.and_eq_true_iff.mp hdue).1⟩

theorem mem_staleWindows {row : WindowCounter} (h : row ∈ t.staleWindows now batchSize locked) :
    row ∈ t.stale now := by
  obtain ⟨hrow, hstale⟩ := List.mem_filter.mp (List.mem_mergeSort.mp (List.mem_of_mem_take h))
  exact List.mem_filter.mpr ⟨hrow, (Bool.and_eq_true_iff.mp hstale).1⟩

theorem nodup_dueScans : ((t.dueScans now batchSize locked).map GuestScan.id).Nodup := by
  refine List.Nodup.sublist ((List.take_sublist ..).map _) ?_
  exact (((List.mergeSort_perm _ _).map _).nodup_iff).mpr (t.guestScans.nodup_keys _)

theorem nodup_staleWindows : (t.staleWindows now batchSize locked).Nodup := by
  refine List.Nodup.sublist (List.take_sublist ..) ?_
  exact ((List.mergeSort_perm _ _).nodup_iff).mpr
    (List.Nodup.of_map _ (t.windowCounters.nodup_keys _))

theorem length_dueScans_le : (t.dueScans now batchSize locked).length ≤ batchSize :=
  List.length_take_le ..

theorem length_staleWindows_le : (t.staleWindows now batchSize locked).length ≤ batchSize :=
  List.length_take_le ..

def Tables.afterBatch (t : Tables) (now batchSize : Nat) (locked : LockedRows)
    (active : Table ActiveCounter) : Tables :=
  { t.withoutScans ((t.dueScans now batchSize locked).map GuestScan.id) with
    activeCounters := active
    windowCounters := t.windowCounters.erase fun row =>
      ((t.staleWindows now batchSize locked).map Schema.key).contains (Schema.key row) }

theorem deleteStaleWindows_run {s t : Tables} (h : s.windowCounters = t.windowCounters) :
    (deleteStaleWindows now batchSize locked).run s =
      .ok ((t.staleWindows now batchSize locked).length,
        { s with windowCounters := t.windowCounters.erase fun row =>
          ((t.staleWindows now batchSize locked).map Schema.key).contains (Schema.key row) }) := by
  have hsame : s.staleWindows now batchSize locked = t.staleWindows now batchSize locked := by
    unfold Tables.staleWindows
    rw [h]
  have hnodup : (s.staleWindows now batchSize locked).Nodup := nodup_staleWindows
  have hcount := countP_keys
    (fun row hrow => (List.mem_filter.mp (mem_staleWindows hrow)).1) hnodup
  unfold deleteStaleWindows
  rw [Tx.run_bind_get, Tx.run_delete, ← hsame, ← h]
  exact congrArg (fun count => Except.ok (count, _)) hcount

theorem runBatchBody_run (hnow : now < timestampEnd) (t : Tables) (batchSize : Nat)
    (locked : LockedRows) :
    ∃ final active, (runBatchBody batchSize now locked).run t =
        .ok (.ok now (t.dueScans now batchSize locked).length final.scansDeleted
          final.activeCounterDecrements (t.staleWindows now batchSize locked).length
          final.inconsistencies ((t.afterBatch now batchSize locked active).moreWork now)
          (decide (0 < final.inconsistencies)), t.afterBatch now batchSize locked active) ∧
      Summed t (t.dueScans now batchSize locked) ⟨0, 0, 0⟩ final active := by
  obtain ⟨final, active, hrun, hsummed⟩ := deleteDueScans_run hnow
    (fun scan (hscan : scan ∈ t.dueScans now batchSize locked) => Table.find?_of_mem (List.mem_filter.mp (mem_dueScans hscan)).1)
    (fun scan hscan => of_decide_eq_true (List.mem_filter.mp (mem_dueScans hscan)).2)
    nodup_dueScans ⟨0, 0, 0⟩
  refine ⟨final, active, ?_, hsummed⟩
  unfold runBatchBody
  rw [Tx.run_bind_of_ok (Tx.run_ensure_of hnow _), Tx.run_bind_get]
  dsimp only
  rw [Tx.run_bind_of_ok hrun]
  exact Tx.run_bind_ok.mpr
    ⟨_, _, deleteStaleWindows_run (t := t) (withoutScans_windows t _), rfl⟩

theorem foreignKeys_afterBatch (h : ForeignKeys t) (active : Table ActiveCounter) :
    ForeignKeys (t.afterBatch now batchSize locked active) := by
  have hwithout := h.withoutScans ((t.dueScans now batchSize locked).map GuestScan.id)
  exact ⟨hwithout.current, hwithout.accepted, hwithout.attempt, hwithout.result,
    hwithout.reservation⟩

end Batches

/-- A valid request at a trusted time always succeeds. -/
theorem runBatch_run {batchSize now : Nat} {clock : ClockReading}
    (hsize : 1 ≤ batchSize ∧ batchSize ≤ maxBatchSize) (hclock : nowValue clock = some now)
    (hnow : now < timestampEnd) (locked : LockedRows) (db : Database) :
    ∃ final active, (runBatch batchSize clock locked db).1 =
        .ok now (db.val.dueScans now batchSize locked).length final.scansDeleted
          final.activeCounterDecrements (db.val.staleWindows now batchSize locked).length
          final.inconsistencies ((db.val.afterBatch now batchSize locked active).moreWork now)
          (decide (0 < final.inconsistencies)) ∧
      (runBatch batchSize clock locked db).2.val = db.val.afterBatch now batchSize locked active ∧
      Summed db.val (db.val.dueScans now batchSize locked) ⟨0, 0, 0⟩ final active := by
  obtain ⟨final, active, hrun, hsummed⟩ := runBatchBody_run hnow db.val batchSize locked
  have hcommitted : transaction .unavailable (runBatchBody batchSize now locked) db = _ :=
    transaction_of_ok hrun (foreignKeys_afterBatch db.property active)
  have hbatch : runBatch batchSize clock locked db =
      transaction .unavailable (runBatchBody batchSize now locked) db := by
    unfold runBatch
    rw [if_neg (by omega), hclock]
    rfl
  rw [hbatch, hcommitted]
  exact ⟨final, active, rfl, rfl, hsummed⟩

/-! ### Batches without concurrent writers -/

/-- What a batch does when no other transaction holds a row. -/
structure Batched (batchSize now : Nat) (t t' : Tables) (removed : List GuestScan)
    (dropped : List WindowCounter) (inconsistencies : Nat) (moreWork : Bool) : Prop where
  removed_batch : Batch.IsBatch (fun a b => a.deletionDeadline ≤ b.deletionDeadline) batchSize
    (t.due now) removed
  dropped_batch : Batch.IsBatch (fun a b => a.resetAt ≤ b.resetAt) batchSize (t.stale now) dropped
  scans : t'.guestScans.rows = t.guestScans.rows.filter fun row => decide (row ∉ removed)
  attempts : t'.guestScanAttempts.rows = t.guestScanAttempts.rows.filter fun row =>
    decide (row.guestScanId ∉ removed.map GuestScan.id)
  results : t'.guestResults.rows = t.guestResults.rows.filter fun row =>
    decide (row.guestScanId ∉ removed.map GuestScan.id)
  reservations : t'.reservations.rows = t.reservations.rows.filter fun row =>
    decide (row.guestScanId ∉ removed.map GuestScan.id)
  windows : t'.windowCounters.rows = t.windowCounters.rows.filter fun row =>
    decide (row ∉ dropped)
  more : moreWork = true ↔ t'.due now ≠ [] ∨ t'.stale now ≠ []
  balanced : t.Balanced → t'.Balanced ∧
    inconsistencies = removed.countP fun scan => (t.reservations.find? scan.id).isNone

theorem deletedBefore_iff {a b : GuestScan} : deletedBefore a b = true ↔
    a.deletionDeadline < b.deletionDeadline ∨
      a.deletionDeadline = b.deletionDeadline ∧ a.id ≤ b.id := by
  simp [deletedBefore]

theorem isBatch_dueScans (t : Tables) (now batchSize : Nat) :
    Batch.IsBatch (fun a b => a.deletionDeadline ≤ b.deletionDeadline) batchSize (t.due now)
      (t.dueScans now batchSize noLocks) := by
  have hdue : (t.guestScans.rows.filter fun row =>
      decide (row.deletionDeadline ≤ now) && !noLocks.scans row.id) = t.due now := by
    simp [noLocks, Tables.due]
  unfold Tables.dueScans
  rw [hdue]
  refine Batch.isBatch_take (fun a b c hab hbc => ?_) (fun a b => ?_) (fun a b hab => ?_) batchSize
    (List.Nodup.of_map _ (t.guestScans.nodup_keys _))
  · rw [deletedBefore_iff] at hab hbc ⊢
    rcases hab with hab | ⟨hab, hid⟩ <;> rcases hbc with hbc | ⟨hbc, hid'⟩
    · exact .inl (by omega)
    · exact .inl (by omega)
    · exact .inl (by omega)
    · exact .inr ⟨hab.trans hbc, String.le_trans hid hid'⟩
  · rw [Bool.or_eq_true, deletedBefore_iff, deletedBefore_iff]
    rcases Nat.lt_trichotomy a.deletionDeadline b.deletionDeadline with h | h | h
    · exact .inl (.inl h)
    · rcases String.le_total a.id b.id with hid | hid
      · exact .inl (.inr ⟨h, hid⟩)
      · exact .inr (.inr ⟨h.symm, hid⟩)
    · exact .inr (.inl h)
  · rcases deletedBefore_iff.mp hab with h | ⟨h, -⟩ <;> omega

theorem isBatch_staleWindows (t : Tables) (now batchSize : Nat) :
    Batch.IsBatch (fun a b => a.resetAt ≤ b.resetAt) batchSize (t.stale now)
      (t.staleWindows now batchSize noLocks) := by
  have hstale : (t.windowCounters.rows.filter fun row =>
      decide (row.resetAt ≤ now) && !noLocks.windows (Schema.key row)) = t.stale now := by
    simp [noLocks, Tables.stale]
  unfold Tables.staleWindows
  rw [hstale]
  refine Batch.isBatch_take (fun a b c hab hbc => ?_) (fun a b => ?_)
    (fun a b hab => of_decide_eq_true hab) batchSize
    (List.Nodup.of_map _ (t.windowCounters.nodup_keys _))
  · exact decide_eq_true ((of_decide_eq_true hab).trans (of_decide_eq_true hbc))
  · simpa [resetBefore] using Nat.le_total a.resetAt b.resetAt

theorem mem_map_key {ρ κ : Type} [Schema ρ κ] {table : Table ρ} {chosen : List ρ}
    (hsubset : chosen ⊆ table.rows) {row : ρ} (hrow : row ∈ table.rows) :
    Schema.key row ∈ chosen.map Schema.key ↔ row ∈ chosen := by
  constructor
  · intro h
    obtain ⟨other, hother, hkey⟩ := List.mem_map.mp h
    rw [← table.eq_of_key_eq (hsubset hother) hrow hkey]
    exact hother
  · exact List.mem_map_of_mem

theorem batched_afterBatch {t : Tables} {now batchSize : Nat} {final : BatchTotals}
    {active : Table ActiveCounter}
    (h : Summed t (t.dueScans now batchSize noLocks) ⟨0, 0, 0⟩ final active) :
    Batched batchSize now t (t.afterBatch now batchSize noLocks active)
      (t.dueScans now batchSize noLocks) (t.staleWindows now batchSize noLocks)
      final.inconsistencies ((t.afterBatch now batchSize noLocks active).moreWork now) where
  removed_batch := isBatch_dueScans t now batchSize
  dropped_batch := isBatch_staleWindows t now batchSize
  scans := by
    refine (scans_withoutScans t _).trans (List.filter_congr fun row hrow => ?_)
    have hsubset : t.dueScans now batchSize noLocks ⊆ t.guestScans.rows :=
      fun scan hscan => (List.mem_filter.mp (mem_dueScans hscan)).1
    exact decide_eq_decide.mpr (not_congr (mem_map_key hsubset hrow))
  attempts := attempts_withoutScans t _
  results := results_withoutScans t _
  reservations := reservations_withoutScans t _
  windows := by
    refine List.filter_congr fun row hrow => ?_
    have hsubset : t.staleWindows now batchSize noLocks ⊆ t.windowCounters.rows :=
      fun window hwindow => (List.mem_filter.mp (mem_staleWindows hwindow)).1
    dsimp only
    rw [decide_not, ← decide_eq_decide.mpr (mem_map_key hsubset hrow), List.contains_eq_mem]
  more := Tables.moreWork_iff
  balanced := fun hbalanced => by
    obtain ⟨hafter, htotal⟩ := h.balanced hbalanced
    exact ⟨hafter, by simpa using htotal⟩

section Rounds

variable {t t' : Tables} {batchSize now : Nat} {removed : List GuestScan}
  {dropped : List WindowCounter} {inconsistencies : Nat} {moreWork : Bool}

theorem Batched.length_due (h : Batched batchSize now t t' removed dropped inconsistencies moreWork) :
    (t'.due now).length = (t.due now).length - batchSize := by
  rw [← h.removed_batch.length_left (List.Nodup.of_map _ (t.guestScans.nodup_keys _)), Tables.due,
    h.scans, Tables.due, List.filter_filter, List.filter_filter]
  simp only [Bool.and_comm]

theorem Batched.length_stale
    (h : Batched batchSize now t t' removed dropped inconsistencies moreWork) :
    (t'.stale now).length = (t.stale now).length - batchSize := by
  rw [← h.dropped_batch.length_left (List.Nodup.of_map _ (t.windowCounters.nodup_keys _)),
    Tables.stale, h.windows, Tables.stale, List.filter_filter, List.filter_filter]
  simp only [Bool.and_comm]

/-- A scan before its deadline stays, with all its rows. -/
theorem Batched.kept (h : Batched batchSize now t t' removed dropped inconsistencies moreWork)
    {scan : GuestScan} (hscan : scan ∈ t.guestScans.rows) (hlive : now < scan.deletionDeadline) :
    scan ∈ t'.guestScans.rows := by
  rw [h.scans, List.mem_filter, decide_eq_true_eq]
  refine ⟨hscan, fun hgone => ?_⟩
  have hdue := of_decide_eq_true (List.mem_filter.mp (h.removed_batch.subset hgone)).2
  omega

end Rounds

section Drain

variable (node : NodeRuntime) (db : Database) {batchSize now : Nat} {clock : ClockReading}

/-- The database after `n` batches with the same clock reading. -/
def afterBatches (batchSize : Nat) (clock : ClockReading) (n : Nat) : Database :=
  Machine.run (exec node) db (List.replicate n (.runBatch batchSize clock noLocks))

theorem afterBatches_zero (batchSize : Nat) (clock : ClockReading) :
    afterBatches node db batchSize clock 0 = db := rfl

theorem afterBatches_succ (n : Nat) :
    afterBatches node db batchSize clock (n + 1) =
      (runBatch batchSize clock noLocks (afterBatches node db batchSize clock n)).2 := by
  unfold afterBatches
  rw [List.replicate_succ', Machine.run_append]
  rfl

/-- Every batch of the sequence succeeds as specified. -/
theorem batched_afterBatches (hsize : 1 ≤ batchSize ∧ batchSize ≤ maxBatchSize)
    (hclock : nowValue clock = some now) (hnow : now < timestampEnd) (n : Nat) :
    ∃ removed dropped decrements inconsistencies moreWork,
      (runBatch batchSize clock noLocks (afterBatches node db batchSize clock n)).1 =
        .ok now removed.length removed.length decrements dropped.length inconsistencies moreWork
          (decide (0 < inconsistencies)) ∧
      Batched batchSize now (afterBatches node db batchSize clock n).val
        (afterBatches node db batchSize clock (n + 1)).val removed dropped inconsistencies
        moreWork := by
  obtain ⟨final, active, hanswer, hafter, hsummed⟩ := runBatch_run hsize hclock hnow noLocks
    (afterBatches node db batchSize clock n)
  have hdeleted := hsummed.deleted
  rw [Nat.zero_add] at hdeleted
  have hbatched := batched_afterBatch hsummed
  rw [hdeleted] at hanswer
  rw [← hafter, ← afterBatches_succ] at hanswer hbatched
  exact ⟨_, _, _, _, _, hanswer, hbatched⟩

/-- Retention drains: a failed batch writes nothing; otherwise every batch takes the
first due scans and windows, and the last one is the first that reports no more
work. -/
theorem retention_drains (batchSize : Nat) (clock : ClockReading) :
    (∀ locked, (runBatch batchSize clock locked db).1 = .invalidRequest ∨
        (runBatch batchSize clock locked db).1 = .unavailable →
      (runBatch batchSize clock locked db).2 = db) ∧
    ∀ now, 1 ≤ batchSize ∧ batchSize ≤ maxBatchSize → nowValue clock = some now →
      now < timestampEnd → ∀ n, ∃ removed dropped decrements inconsistencies moreWork,
        (runBatch batchSize clock noLocks (afterBatches node db batchSize clock n)).1 =
          .ok now removed.length removed.length decrements dropped.length inconsistencies moreWork
            (decide (0 < inconsistencies)) ∧
        Batched batchSize now (afterBatches node db batchSize clock n).val
          (afterBatches node db batchSize clock (n + 1)).val removed dropped inconsistencies
          moreWork ∧
        (moreWork = true ↔ n + 1 < max (Batch.rounds batchSize (db.val.due now).length)
          (Batch.rounds batchSize (db.val.stale now).length)) := by
  refine ⟨fun locked hfailed => ?_, fun now hsize hclock hnow n => ?_⟩
  · rcases runBatch_cases batchSize clock locked db with hsame | ⟨now, -, hrun⟩
    · exact hsame
    · unfold runBatchBody at hrun
      rw [Tx.run_bind_ok] at hrun
      obtain ⟨_, _, -, hrun⟩ := hrun
      rw [Tx.run_bind_get] at hrun
      dsimp only at hrun
      rw [Tx.run_bind_ok] at hrun
      obtain ⟨_, _, -, hrun⟩ := hrun
      rw [Tx.run_bind_ok] at hrun
      obtain ⟨_, _, -, hrun⟩ := hrun
      rw [Tx.run_bind_get] at hrun
      rcases hfailed with hfailed | hfailed <;> rw [hfailed] at hrun <;>
        cases (Tx.run_pure_ok.mp hrun).1
  · obtain ⟨removed, dropped, decrements, inconsistencies, moreWork, hanswer, hbatched⟩ :=
      batched_afterBatches node db hsize hclock hnow n
    refine ⟨removed, dropped, decrements, inconsistencies, moreWork, hanswer, hbatched, ?_⟩
    have hdue := Batch.left_after
      (fun n => ((afterBatches node db batchSize clock n).val.due now).length)
      (fun n => by
        obtain ⟨_, _, _, _, _, -, hstep⟩ := batched_afterBatches node db hsize hclock hnow n
        exact hstep.length_due) (n + 1)
    have hstale := Batch.left_after
      (fun n => ((afterBatches node db batchSize clock n).val.stale now).length)
      (fun n => by
        obtain ⟨_, _, _, _, _, -, hstep⟩ := batched_afterBatches node db hsize hclock hnow n
        exact hstep.length_stale) (n + 1)
    rw [afterBatches_zero] at hdue hstale
    rw [hbatched.more, lt_max_iff, Batch.lt_rounds hsize.1, Batch.lt_rounds hsize.1,
      ← List.length_pos_iff, ← List.length_pos_iff, hdue, hstale, Nat.sub_pos_iff_lt,
      Nat.sub_pos_iff_lt]

end Drain

/-- A day after its creation the scan of the small service is removed by one batch. -/
theorem retention_drains_sample : ∃ removed dropped decrements inconsistencies moreWork,
    (runBatch 10 (some 87400) noLocks sampleDatabase).1 =
      .ok 87400 removed.length removed.length decrements dropped.length inconsistencies moreWork
        (decide (0 < inconsistencies)) ∧
    Batched 10 87400 sampleDatabase.val (afterBatches sampleNode sampleDatabase 10 (some 87400) 1).val
      removed dropped inconsistencies moreWork := by
  obtain ⟨removed, dropped, decrements, inconsistencies, moreWork, hanswer, hbatched, -⟩ :=
    (retention_drains sampleNode sampleDatabase 10 (some 87400)).2 87400 (by decide) (by decide)
      (by decide) 0
  rw [afterBatches_zero, Nat.zero_add] at hbatched
  rw [afterBatches_zero] at hanswer
  exact ⟨removed, dropped, decrements, inconsistencies, moreWork, hanswer, hbatched⟩

end Outscan

import Outscan.Persistence.Idempotency

/-! The retention worker: delete what is past its deadline. -/
namespace Outscan

open Relational Transactional

def maxBatchSize : Nat := 1000

/-- The rows that another transaction holds when the batch selects its work;
`SKIP LOCKED` passes over them. -/
structure LockedRows where
  scans : String → Bool
  windows : WindowKey → Bool

inductive GuestRetentionBatchResult where
  | ok (observedAt dueScansSelected scansDeleted activeCounterDecrements staleWindowsDeleted
      inconsistencies : Nat) (moreWork alertRequired : Bool)
  | invalidRequest
  | unavailable
deriving DecidableEq, Repr

structure BatchTotals where
  activeCounterDecrements : Nat
  inconsistencies : Nat
  scansDeleted : Nat
deriving DecidableEq, Repr

/-- `ORDER BY deletion_deadline, id`. -/
def deletedBefore (a b : GuestScan) : Bool :=
  decide (a.deletionDeadline < b.deletionDeadline) ||
    (a.deletionDeadline == b.deletionDeadline && decide (a.id ≤ b.id))

/-- `DUE_SCANS_SQL`. -/
def Tables.dueScans (t : Tables) (now batchSize : Nat) (locked : LockedRows) : List GuestScan :=
  ((t.guestScans.rows.filter fun row =>
    decide (row.deletionDeadline ≤ now) && !locked.scans row.id).mergeSort
      deletedBefore).take batchSize

def decrementActiveCounter (now : Nat) (spec : ActiveCounterSpec) : Sql Bool := do
  match ← Tx.update activeTable .database (fun _ _ => True) spec.key
      (fun row => 0 < row.activeCount) (decrementCount now) with
  | none => pure false
  | some row =>
    if row.activeCount = 0 then do
      let removed ← Tx.delete TxError activeTable fun row =>
        decide (Schema.key row = spec.key) && decide (row.activeCount = 0)
      Tx.ensure (removed = 1) (.thrown .activeCounterRace)
    pure true

/-- `releaseDueReservation`: the decrements made and the inconsistencies met. -/
def releaseDueReservation (guestScanId : String) (now : Nat) : Sql (Nat × Nat) := do
  let t ← get
  match t.reservations.find? guestScanId with
  | none => pure (0, 1)
  | some reservation =>
    if reservation.released.isSome then pure (0, 0)
    else do
      let session ← decrementActiveCounter now
        ⟨.session, .sessionActive, reservation.guestSessionScope⟩
      let network ← decrementActiveCounter now
        ⟨.network, .networkActive, reservation.networkSignalDigest⟩
      pure (session.toNat + network.toNat, (!session).toNat + (!network).toNat)

/-- `DELETE FROM guest_scans WHERE id = $1 AND deletion_deadline <= $2`. -/
def deleteDueScan (id : String) (now : Nat) : Sql Unit := do
  let t ← get
  match t.guestScans.find? id with
  | none => throwing .guestDeleteRace
  | some scan =>
    Tx.ensure (scan.deletionDeadline ≤ now) (.thrown .guestDeleteRace)
    set (t.deleteGuestScan id)

def deleteDueScans (now : Nat) : List GuestScan → BatchTotals → Sql BatchTotals
  | [], totals => pure totals
  | scan :: rest, totals => do
    let (decrements, inconsistencies) ← releaseDueReservation scan.id now
    deleteDueScan scan.id now
    deleteDueScans now rest
      { activeCounterDecrements := totals.activeCounterDecrements + decrements
        inconsistencies := totals.inconsistencies + inconsistencies
        scansDeleted := totals.scansDeleted + 1 }

def resetBefore (a b : WindowCounter) : Bool := decide (a.resetAt ≤ b.resetAt)

/-- The stale windows `DELETE_STALE_WINDOWS_SQL` selects. Windows with one
reset time come in table order, where SQL goes on by key. -/
def Tables.staleWindows (t : Tables) (now batchSize : Nat) (locked : LockedRows) :
    List WindowCounter :=
  ((t.windowCounters.rows.filter fun row =>
    decide (row.resetAt ≤ now) && !locked.windows (Schema.key row)).mergeSort
      resetBefore).take batchSize

def deleteStaleWindows (now batchSize : Nat) (locked : LockedRows) : Sql Nat := do
  let t ← get
  let stale := (t.staleWindows now batchSize locked).map Schema.key
  Tx.delete TxError windowsTable fun row => stale.contains (Schema.key row)

/-- `MORE_WORK_SQL`. -/
def Tables.moreWork (t : Tables) (now : Nat) : Bool :=
  t.guestScans.rows.any (fun row => decide (row.deletionDeadline ≤ now)) ||
    t.windowCounters.rows.any fun row => decide (row.resetAt ≤ now)

def runBatchBody (batchSize now : Nat) (locked : LockedRows) :
    Sql GuestRetentionBatchResult := do
  -- `to_timestamp` raises on such a time in the first statement
  Tx.ensure (now < timestampEnd) (.database .outOfRange)
  let t ← get
  let due := t.dueScans now batchSize locked
  let totals ← deleteDueScans now due ⟨0, 0, 0⟩
  let staleWindowsDeleted ← deleteStaleWindows now batchSize locked
  let t ← get
  pure (.ok now due.length totals.scansDeleted totals.activeCounterDecrements
    staleWindowsDeleted totals.inconsistencies (t.moreWork now)
    (decide (0 < totals.inconsistencies)))

def runBatch (batchSize : Nat) (clock : ClockReading) (locked : LockedRows) (db : Database) :
    GuestRetentionBatchResult × Database :=
  if batchSize < 1 ∨ maxBatchSize < batchSize then (.invalidRequest, db)
  else
    match nowValue clock with
    | none => (.unavailable, db)
    | some now =>
      atomically .unavailable
        (runBatchBody batchSize now locked >>= fun answer => pure (.commit answer)) db

end Outscan

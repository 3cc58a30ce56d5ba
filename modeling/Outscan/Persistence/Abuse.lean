import Outscan.Persistence.Database

/-! Reserving and releasing the abuse counters of a scan. -/
namespace Outscan

open Relational Transactional

structure WindowCounterSpec where
  scopeKind : ScopeKind
  dimension : WindowDimension
  digest : Bytes32
  windowSeconds : Nat
deriving DecidableEq

def WindowCounterSpec.key (spec : WindowCounterSpec) : WindowKey :=
  (spec.scopeKind, spec.digest, spec.dimension)

structure ActiveCounterSpec where
  scopeKind : ScopeKind
  dimension : ActiveDimension
  digest : Bytes32
deriving DecidableEq

def ActiveCounterSpec.key (spec : ActiveCounterSpec) : ActiveKey :=
  (spec.scopeKind, spec.digest, spec.dimension)

def expectedWindowSeconds : WindowDimension → Nat
  | .sessionBurst => GuestAbusePolicy.sessionBurstWindowSeconds
  | .sessionDaily => GuestAbusePolicy.sessionDailyWindowSeconds
  | .networkBurst => GuestAbusePolicy.networkBurstWindowSeconds
  | .networkDaily => GuestAbusePolicy.networkDailyWindowSeconds

def windowSpecs (session network : Bytes32) : List WindowCounterSpec :=
  [⟨.network, .networkBurst, network, GuestAbusePolicy.networkBurstWindowSeconds⟩,
    ⟨.network, .networkDaily, network, GuestAbusePolicy.networkDailyWindowSeconds⟩,
    ⟨.session, .sessionBurst, session, GuestAbusePolicy.sessionBurstWindowSeconds⟩,
    ⟨.session, .sessionDaily, session, GuestAbusePolicy.sessionDailyWindowSeconds⟩]

def activeSpecs (session network : Bytes32) : List ActiveCounterSpec :=
  [⟨.network, .networkActive, network⟩, ⟨.session, .sessionActive, session⟩]

/-! ### Changes of one counter row -/

def windowEdit (change : WindowCounter → WindowCounter)
    (hkind : ∀ row, (change row).scopeKind = row.scopeKind)
    (hdigest : ∀ row, (change row).scopeDigest = row.scopeDigest)
    (hdimension : ∀ row, (change row).dimension = row.dimension) : Edit WindowCounter where
  apply := change
  key_apply := fun row => by
    change ((change row).scopeKind, (change row).scopeDigest, (change row).dimension) = _
    rw [hkind, hdigest, hdimension]
    rfl
  distinct_apply := fun {row other} h => by
    change ((change row).scopeKind, (change row).scopeDigest, (change row).dimension) ≠ _
    rw [hkind, hdigest, hdimension]
    exact h

def activeEdit (change : ActiveCounter → ActiveCounter)
    (hkind : ∀ row, (change row).scopeKind = row.scopeKind)
    (hdigest : ∀ row, (change row).scopeDigest = row.scopeDigest)
    (hdimension : ∀ row, (change row).dimension = row.dimension) : Edit ActiveCounter where
  apply := change
  key_apply := fun row => by
    change ((change row).scopeKind, (change row).scopeDigest, (change row).dimension) = _
    rw [hkind, hdigest, hdimension]
    rfl
  distinct_apply := fun {row other} h => by
    change ((change row).scopeKind, (change row).scopeDigest, (change row).dimension) ≠ _
    rw [hkind, hdigest, hdimension]
    exact h

def resetWindow (windowSeconds now : Nat) : Edit WindowCounter :=
  windowEdit (fun row => { row with usageCount := 0, resetAt := now + windowSeconds,
                                    updatedAt := now })
    (fun _ => rfl) (fun _ => rfl) (fun _ => rfl)

def incrementWindow (now : Nat) : Edit WindowCounter :=
  windowEdit (fun row => { row with usageCount := row.usageCount + 1, updatedAt := now })
    (fun _ => rfl) (fun _ => rfl) (fun _ => rfl)

def incrementCount (now : Nat) : Edit ActiveCounter :=
  activeEdit (fun row => { row with activeCount := row.activeCount + 1, updatedAt := now })
    (fun _ => rfl) (fun _ => rfl) (fun _ => rfl)

def decrementCount (now : Nat) : Edit ActiveCounter :=
  activeEdit (fun row => { row with activeCount := row.activeCount - 1, updatedAt := now })
    (fun _ => rfl) (fun _ => rfl) (fun _ => rfl)

def markReleased (now : Nat) (reason : ReleaseReason) : Edit Reservation where
  apply := fun row => { row with released := some (now, reason) }
  key_apply := fun _ => rfl
  distinct_apply := fun h => h

/-! ### Loading -/

/-- `INSERT_WINDOW_SQL`: open the window, or reset it once it has run out. -/
def insertWindow (now : Nat) (spec : WindowCounterSpec) : Sql Unit := do
  let t ← get
  match t.windowCounters.find? spec.key with
  | none =>
    Tx.insert windowsTable .database
      ⟨spec.scopeKind, spec.digest, spec.dimension, 0, now + spec.windowSeconds, now⟩
  | some _ => do
    let _ ← Tx.update windowsTable .database (fun _ _ => True) spec.key
      (fun row => row.resetAt ≤ now) (resetWindow spec.windowSeconds now)

/-- `INSERT_ACTIVE_SQL`: on a conflict do nothing. -/
def insertActive (now : Nat) (spec : ActiveCounterSpec) : Sql Unit := do
  let t ← get
  match t.activeCounters.find? spec.key with
  | none =>
    Tx.insert activeTable .database ⟨spec.scopeKind, spec.digest, spec.dimension, 0, now⟩
  | some _ => pure ()

def insertCurrentRows (windows : List WindowCounterSpec) (active : List ActiveCounterSpec)
    (now : Nat) : Sql Unit := do
  windows.forM (insertWindow now)
  active.forM (insertActive now)

def presented (session : Bytes32) (networkDigests : List Bytes32) (kind : ScopeKind)
    (digest : Bytes32) : Bool :=
  match kind with
  | .session => digest == session
  | .network => networkDigests.contains digest

def addWindow (now : Nat) (aggregate : WindowDimension → Option GuestAbuseWindowUsage)
    (row : WindowCounter) : WindowDimension → Option GuestAbuseWindowUsage :=
  if row.resetAt ≤ now then aggregate
  else fun dimension =>
    if dimension = row.dimension then
      match aggregate dimension with
      | none => some ⟨row.usageCount, row.resetAt⟩
      | some previous =>
        some ⟨previous.count + row.usageCount, max previous.resetAt row.resetAt⟩
    else aggregate dimension

/-- `loadWindows`. Sums and maxima do not depend on the ORDER BY. -/
def loadWindows (session : Bytes32) (networkDigests : List Bytes32) (now : Nat) :
    Sql (WindowDimension → Option GuestAbuseWindowUsage) := do
  let t ← get
  let loaded := t.windowCounters.rows.filter fun row =>
    presented session networkDigests row.scopeKind row.scopeDigest
  Tx.ensure (∀ row ∈ loaded, row.usageCount ≤ maxCounterValue ∧
    row.resetAt ≤ now + expectedWindowSeconds row.dimension) (.thrown .abuseState)
  pure (loaded.foldl (addWindow now) fun _ => none)

def addActive (aggregate : ActiveDimension → Option Nat) (row : ActiveCounter) :
    ActiveDimension → Option Nat := fun dimension =>
  if dimension = row.dimension then some ((aggregate dimension).getD 0 + row.activeCount)
  else aggregate dimension

def loadActive (session : Bytes32) (networkDigests : List Bytes32) :
    Sql (ActiveDimension → Option Nat) := do
  let t ← get
  let loaded := t.activeCounters.rows.filter fun row =>
    presented session networkDigests row.scopeKind row.scopeDigest
  Tx.ensure (∀ row ∈ loaded, row.activeCount ≤ maxCounterValue) (.thrown .abuseState)
  pure (loaded.foldl addActive fun _ => none)

/-- The usage handed to the decision; `none` when a dimension is missing. -/
def usageOf (windows : WindowDimension → Option GuestAbuseWindowUsage)
    (active : ActiveDimension → Option Nat) : Option GuestAbuseUsageSnapshot := do
  let networkBurst ← windows .networkBurst
  let networkDaily ← windows .networkDaily
  let sessionBurst ← windows .sessionBurst
  let sessionDaily ← windows .sessionDaily
  let networkActive ← active .networkActive
  let sessionActive ← active .sessionActive
  return { sessionBurst, sessionDaily, networkBurst, networkDaily, sessionActive,
           networkActive }

def loadAbuseCounterState (session activeNetwork : Bytes32) (networkDigests : List Bytes32)
    (now : Nat) : Sql GuestAbuseUsageSnapshot := do
  insertCurrentRows (windowSpecs session activeNetwork) (activeSpecs session activeNetwork) now
  let windows ← loadWindows session networkDigests now
  let active ← loadActive session networkDigests
  match usageOf windows active with
  | none => throwing .abuseState
  | some usage => pure usage

/-! ### Reserving -/

structure ReservationInput where
  guestScanId : String
  guestSessionScope : Bytes32
  networkSignalDigests : List Bytes32
  now : Nat

def incrementWindows (now : Nat) (spec : WindowCounterSpec) : Sql Unit := do
  let _ ← Tx.updateOne windowsTable .database (.thrown .abuseState) (fun _ _ => True) spec.key
    (fun _ => True) (incrementWindow now)

def incrementActive (now : Nat) (spec : ActiveCounterSpec) : Sql Unit := do
  let _ ← Tx.updateOne activeTable .database (.thrown .abuseState) (fun _ _ => True) spec.key
    (fun _ => True) (incrementCount now)

def reserveGuestAbuseCounters (input : ReservationInput) : Sql GuestAbuseDecision := do
  match input.networkSignalDigests with
  | [] => throwing .abuseState
  | activeNetwork :: _ =>
    let session := input.guestSessionScope
    let now := input.now
    let t ← get
    match t.guestAbuseControl with
    | none => throwing .abuseState
    | some serviceState =>
      let usage ← loadAbuseCounterState session activeNetwork input.networkSignalDigests now
      let decision := decideGuestAbuseAdmission ⟨session, activeNetwork, now, serviceState, usage⟩
      if decision ≠ .allowNewScan then pure decision
      else do
        (windowSpecs session activeNetwork).forM (incrementWindows now)
        (activeSpecs session activeNetwork).forM (incrementActive now)
        Tx.insert reservationsTable .database
          ⟨input.guestScanId, session, activeNetwork, now, now + 86400, none⟩
        pure decision

/-! ### Releasing -/

def decrementAndRemove (now : Nat) (spec : ActiveCounterSpec) : Sql Bool := do
  match ← Tx.update activeTable .database (fun _ _ => True) spec.key
      (fun row => 0 < row.activeCount) (decrementCount now) with
  | none => pure false
  | some row =>
    if row.activeCount ≠ 0 then pure true
    else do
      let removed ← Tx.delete TxError activeTable fun row =>
        decide (Schema.key row = spec.key) && decide (row.activeCount = 0)
      pure (removed == 1)

/-- The loop over `specs`, which stops at the first failure. -/
def decrementAll (now : Nat) : List ActiveCounterSpec → Sql Bool
  | [] => pure true
  | spec :: rest => do
    if ← decrementAndRemove now spec then decrementAll now rest else pure false

def releaseGuestAbuseReservation (guestScanId : String) (now : Nat) (reason : ReleaseReason) :
    Sql Bool := do
  let t ← get
  match t.reservations.find? guestScanId with
  | none => pure false
  | some row =>
    if row.released.isSome then pure true
    else if now < row.reservedAt ∨ row.deletionDeadline < now then pure false
    else do
      if ← decrementAll now (activeSpecs row.guestSessionScope row.networkSignalDigest) then do
        match ← Tx.update reservationsTable .database (fun _ _ => True) guestScanId
            (fun row => row.released = none) (markReleased now reason) with
        | none => pure false
        | some _ => pure true
      else pure false

end Outscan

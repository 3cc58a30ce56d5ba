import Outscan.Creation.Reorder
import Outscan.GuestAbuse.Admission
import Outscan.Quota.RetryAdvice

/-! The transaction against the pure policy: `createOrReplay` answers what
`decideGuestScanAdmission` decides on the stored record and the live counters. -/
namespace Outscan

open Relational Transactional Lifecycle

/-! ### The usage a request finds -/

def WindowCounter.live? (now : Nat) (row : WindowCounter) : Option GuestAbuseWindowUsage :=
  if now < row.resetAt then some ⟨row.usageCount, row.resetAt⟩ else none

def Tables.liveWindow (t : Tables) (now : Nat) (dimension : WindowDimension) (digest : Bytes32) :
    Option GuestAbuseWindowUsage :=
  (t.windowCounters.find? (windowKey dimension digest)).bind (WindowCounter.live? now)

/-- The usage under one of the presented digests: the first of them is charged, and
its window opens when there is none. -/
def Tables.foundWindow (t : Tables) (now : Nat) (digests : List Bytes32)
    (dimension : WindowDimension) (digest : Bytes32) : Option GuestAbuseWindowUsage :=
  (t.liveWindow now dimension digest).or
    (if digests.head? = some digest then some ⟨0, now + expectedWindowSeconds dimension⟩ else none)

def Tables.presentedWindow (t : Tables) (now : Nat) (digests : List Bytes32)
    (dimension : WindowDimension) : GuestAbuseWindowUsage :=
  let found := digests.filterMap (t.foundWindow now digests dimension)
  ⟨(found.map GuestAbuseWindowUsage.count).sum,
    (found.map GuestAbuseWindowUsage.resetAt).foldr max 0⟩

def Tables.predecessor (t : Tables) (request : SnapshotRequest) : Option Reservation :=
  ((t.lookup request.guestSessionScope request.idempotencyKey).bind fun row =>
    t.reservations.find? row.id).filter fun row => row.released.isNone

def Tables.otherActive (t : Tables) (request : SnapshotRequest) (dimension : ActiveDimension) :
    Nat :=
  t.activeUsage request.guestSessionScope request.networkSignalDigests dimension -
    (if ∃ row ∈ t.predecessor request, row.digest dimension.scopeKind ∈
        digestsOf request.guestSessionScope request.networkSignalDigests dimension.scopeKind then 1
      else 0)

def Tables.abuseUsage (t : Tables) (request : SnapshotRequest) : GuestAbuseUsageSnapshot :=
  let window := fun dimension : WindowDimension => t.presentedWindow request.now
    (digestsOf request.guestSessionScope request.networkSignalDigests dimension.scopeKind) dimension
  { sessionBurst := window .sessionBurst
    sessionDaily := window .sessionDaily
    networkBurst := window .networkBurst
    networkDaily := window .networkDaily
    sessionActive := t.otherActive request .sessionActive
    networkActive := t.otherActive request .networkActive }

/-- What the policy is asked; nothing can be asked without the row of the service state. -/
def Tables.abuseContext (t : Tables) (request : SnapshotRequest) : Option GuestAbuseRequest := do
  let serviceState ← t.guestAbuseControl
  let network ← request.networkSignalDigests.head?
  return ⟨request.guestSessionScope, network, request.now, serviceState, t.abuseUsage request⟩

def GuestScanAdmissionDecision.persisted (guestScanId token : String) (now : Nat) :
    GuestScanAdmissionDecision → PersistGuestScanResult
  | .replay storedId resultToken resultAccessExpiresAt expiresInSeconds =>
    .ok none storedId resultToken resultAccessExpiresAt expiresInSeconds
  | .proceed action _ =>
    .ok (some action) guestScanId token (now + guestIdempotencyWindowSeconds)
      guestIdempotencyWindowSeconds
  | .deny code => .failure code
  | .invalidAbuseContext => .unavailable
  | .abuseLimitExceeded code retryAfterSeconds => .abuseLimitExceeded code retryAfterSeconds

/-! ### Sums and maxima over digests -/

theorem foldr_max_le {values : List Nat} {bound : Nat} :
    values.foldr max 0 ≤ bound ↔ ∀ value ∈ values, value ≤ bound := by
  induction values with
  | nil => simp
  | cons value rest ih => simp [ih]

theorem sum_filterMap {α β : Type} (f : α → Option β) (g : β → Nat) (items : List α) :
    ((items.filterMap f).map g).sum = (items.map fun item => ((f item).map g).getD 0).sum := by
  induction items with
  | nil => rfl
  | cons item rest ih => cases hitem : f item <;> simp [hitem, ih]

theorem sum_but_one {α : Type} [DecidableEq α] {items : List α} (hitems : items.Nodup)
    {before after : α → Nat} (taken : α) (hbefore : 0 < before taken)
    (hafter : ∀ item, after item = before item - if item = taken then 1 else 0) :
    (items.map after).sum = (items.map before).sum - if taken ∈ items then 1 else 0 := by
  induction items with
  | nil => rfl
  | cons item rest ih =>
    obtain ⟨hnot, hrest⟩ := List.nodup_cons.mp hitems
    rw [List.map_cons, List.map_cons, List.sum_cons, List.sum_cons, ih hrest, hafter]
    by_cases hitem : item = taken
    · subst hitem
      rw [if_pos rfl, if_neg hnot, if_pos List.mem_cons_self]
      omega
    · rw [if_neg hitem]
      by_cases hmem : taken ∈ rest
      · have hle : before taken ≤ (rest.map before).sum :=
          List.le_sum_of_mem (List.mem_map_of_mem hmem)
        rw [if_pos hmem, if_pos (List.mem_cons_of_mem _ hmem)]
        omega
      · rw [if_neg hmem, if_neg (by simp [hmem, Ne.symm hitem])]
        omega

/-! ### Windows -/

theorem WindowCounter.live?_eq_some {now : Nat} {row : WindowCounter}
    {usage : GuestAbuseWindowUsage} :
    row.live? now = some usage ↔ now < row.resetAt ∧ usage = ⟨row.usageCount, row.resetAt⟩ := by
  unfold WindowCounter.live?
  split
  · rename_i hlive
    simp [hlive, eq_comm]
  · rename_i hdead
    simp [hdead]

section Windows

variable {t t' : Tables} {session network : Bytes32} {networks : List Bytes32} {now : Nat}

theorem presentedWindow_count (t : Tables) (now : Nat) (session : Bytes32)
    (networks : List Bytes32) (dimension : WindowDimension) :
    (t.presentedWindow now (digestsOf session networks dimension.scopeKind) dimension).count =
      t.windowUsage now session networks dimension := by
  unfold Tables.presentedWindow Tables.windowUsage
  dsimp only
  rw [sum_filterMap]
  congr 1
  apply List.map_congr_left
  intro digest _
  unfold Tables.foundWindow Tables.liveWindow Table.contribution
  cases t.windowCounters.find? (windowKey dimension digest) with
  | none =>
    rw [Option.bind_none, Option.none_or]
    split
    · rfl
    · rfl
  | some row =>
    rw [Option.bind_some, WindowCounter.live?, Option.map_some, Option.getD_some, liveUsage]
    by_cases hlive : now < row.resetAt
    · rw [if_pos hlive, if_pos hlive]
      rfl
    · rw [if_neg hlive, if_neg hlive, Option.none_or]
      split
      · rfl
      · rfl

theorem foldl_addWindow_resetAt_le {dimension : WindowDimension} (rows : List WindowCounter)
    {aggregate : WindowDimension → Option GuestAbuseWindowUsage} {bound : Nat} :
    ((rows.foldl (addWindow now) aggregate dimension).map
        GuestAbuseWindowUsage.resetAt).getD 0 ≤ bound ↔
      ((aggregate dimension).map GuestAbuseWindowUsage.resetAt).getD 0 ≤ bound ∧
        ∀ row ∈ rows, row.dimension = dimension → now < row.resetAt → row.resetAt ≤ bound := by
  induction rows generalizing aggregate with
  | nil => simp
  | cons row rest ih =>
    have hstep : ((addWindow now aggregate row dimension).map
          GuestAbuseWindowUsage.resetAt).getD 0 ≤ bound ↔
        ((aggregate dimension).map GuestAbuseWindowUsage.resetAt).getD 0 ≤ bound ∧
          (row.dimension = dimension → now < row.resetAt → row.resetAt ≤ bound) := by
      unfold addWindow
      by_cases hstale : row.resetAt ≤ now
      · rw [if_pos hstale]
        constructor
        · exact fun h => ⟨h, fun _ hlive => absurd hlive (by omega)⟩
        · exact fun h => h.1
      · rw [if_neg hstale]
        have hlive : now < row.resetAt := by omega
        by_cases hdimension : dimension = row.dimension
        · subst hdimension
          cases aggregate row.dimension with
          | none => simp [hlive]
          | some previous => simp [hlive]
        · simp [hdimension, Ne.symm hdimension]
    rw [List.foldl_cons, ih, hstep, List.forall_mem_cons, and_assoc]

theorem windowKey_mem_specs {dimension : WindowDimension} {digest : Bytes32} :
    windowKey dimension digest ∈ (windowSpecs session network).map WindowCounterSpec.key ↔
      digest ∈ digestsOf session [network] dimension.scopeKind := by
  cases dimension <;>
    simp [windowSpecs, WindowCounterSpec.key, windowKey, digestsOf, WindowDimension.scopeKind]

theorem Opened.liveWindow (h : Opened t t' session network now) (rest : List Bytes32)
    (dimension : WindowDimension) (digest : Bytes32) :
    t'.liveWindow now dimension digest =
      t.foundWindow now (digestsOf session (network :: rest) dimension.scopeKind) dimension
        digest := by
  have hhead : (digestsOf session (network :: rest) dimension.scopeKind).head? = some digest ↔
      digest ∈ digestsOf session [network] dimension.scopeKind := by
    cases dimension.scopeKind <;> simp [digestsOf, eq_comm]
  unfold Tables.foundWindow Tables.liveWindow
  by_cases hmine : windowKey dimension digest ∈
      (windowSpecs session network).map WindowCounterSpec.key
  · obtain ⟨spec, hspec, hkey⟩ := List.mem_map.mp hmine
    obtain ⟨hspecKey, hseconds, -, hpos, -⟩ := windowSpec_shape hspec
    have hdimension : spec.dimension = dimension := congrArg (fun key => key.2.2) hkey
    rw [if_pos (hhead.mpr (windowKey_mem_specs.mp hmine)), ← hkey, h.windows spec hspec,
      ← hdimension, ← hseconds]
    cases t.windowCounters.find? spec.key with
    | none =>
      have hlive : now < now + spec.windowSeconds := by omega
      simp [openedWindow, freshWindow, WindowCounter.live?, hlive]
    | some row =>
      unfold openedWindow
      by_cases hstale : row.resetAt ≤ now
      · have hlive : now < now + spec.windowSeconds := by omega
        have hdead : ¬ now < row.resetAt := by omega
        simp [hstale, WindowCounter.live?, hlive, hdead, resetWindow, windowEdit]
      · have hlive : now < row.resetAt := by omega
        simp [hstale, WindowCounter.live?, hlive]
  · rw [if_neg fun hsome => hmine (windowKey_mem_specs.mpr (hhead.mp hsome)),
      h.otherWindows _ hmine, Option.or_none]

theorem loadedWindows_resetAt_le {dimension : WindowDimension} {bound : Nat} :
    (∀ row ∈ t.loadedWindows session networks, row.dimension = dimension → now < row.resetAt →
        row.resetAt ≤ bound) ↔
      ∀ digest ∈ digestsOf session networks dimension.scopeKind,
        ∀ usage ∈ t.liveWindow now dimension digest, usage.resetAt ≤ bound := by
  constructor
  · intro h digest hdigest usage husage
    unfold Tables.liveWindow at husage
    rw [Option.mem_def, Option.bind_eq_some_iff] at husage
    obtain ⟨row, hfind, hrow⟩ := husage
    obtain ⟨hlive, rfl⟩ := WindowCounter.live?_eq_some.mp hrow
    have hkey := Table.find?_key hfind
    simp only [Schema.key, windowKey, Prod.mk.injEq] at hkey
    obtain ⟨hkind, hrowDigest, hdimension⟩ := hkey
    refine h row (List.mem_filter.mpr ⟨Table.find?_mem hfind, ?_⟩) hdimension
      hlive
    rw [hkind, hrowDigest]
    exact mem_digestsOf.mp hdigest
  · intro h row hrow hdimension hlive
    obtain ⟨hmem, hpresented⟩ := List.mem_filter.mp hrow
    have hkind := (t.windowCounters.checked row hmem).scope_shape
    have hkey : Schema.key row = windowKey dimension row.scopeDigest := by
      rw [← hdimension, windowKey, ← hkind]
      rfl
    have hfind : t.windowCounters.find? (windowKey dimension row.scopeDigest) = some row :=
      hkey ▸ Table.find?_of_mem hmem
    refine h row.scopeDigest ?_ ⟨row.usageCount, row.resetAt⟩ ?_
    · rw [← hdimension, ← hkind]
      exact mem_digestsOf.mpr hpresented
    · unfold Tables.liveWindow
      rw [hfind]
      exact WindowCounter.live?_eq_some.mpr ⟨hlive, rfl⟩

theorem presentedWindow_resetAt_le {digests : List Bytes32} {dimension : WindowDimension}
    {bound : Nat} :
    (t.presentedWindow now digests dimension).resetAt ≤ bound ↔
      ∀ digest ∈ digests, ∀ usage ∈ t.foundWindow now digests dimension digest,
        usage.resetAt ≤ bound := by
  unfold Tables.presentedWindow
  rw [foldr_max_le, List.forall_mem_map]
  constructor
  · exact fun h digest hdigest usage husage =>
      h usage (List.mem_filterMap.mpr ⟨digest, hdigest, husage⟩)
  · intro h usage husage
    obtain ⟨digest, hdigest, hfound⟩ := List.mem_filterMap.mp husage
    exact h digest hdigest usage hfound

theorem loadAbuseCounterState_window {usage : GuestAbuseUsageSnapshot} {rest : List Bytes32}
    (hnodup : (network :: rest).Nodup)
    (h : (loadAbuseCounterState session network (network :: rest) now).run t = .ok (usage, t'))
    (dimension : WindowDimension) :
    usage.window dimension = t.presentedWindow now
      (digestsOf session (network :: rest) dimension.scopeKind) dimension := by
  obtain ⟨hopened, hloaded⟩ := loadAbuseCounterState_ok hnodup h
  have hcount : (usage.window dimension).count = (t.presentedWindow now
      (digestsOf session (network :: rest) dimension.scopeKind) dimension).count := by
    rw [presentedWindow_count, hloaded.windows, hopened.windowUsage]
  have hreset : (usage.window dimension).resetAt = (t.presentedWindow now
      (digestsOf session (network :: rest) dimension.scopeKind) dimension).resetAt := by
    refine eq_of_forall_ge_iff fun bound => ?_
    have hfold := loadAbuseCounterState_windows h dimension
    have hlatest : ((Option.map GuestAbuseWindowUsage.resetAt
        (some (usage.window dimension))).getD 0 ≤ bound ↔ _) :=
      hfold ▸ foldl_addWindow_resetAt_le (t'.loadedWindows session (network :: rest))
    rw [Option.map_some, Option.getD_some] at hlatest
    rw [hlatest, presentedWindow_resetAt_le, loadedWindows_resetAt_le]
    simp only [hopened.liveWindow rest]
    simp
  generalize usage.window dimension = found at hcount hreset
  generalize t.presentedWindow now _ dimension = expected at hcount hreset
  cases found
  cases expected
  cases hcount
  cases hreset
  rfl

end Windows

/-! ### Active scans -/

theorem decremented_pos {t : Tables} {first second : ActiveKey} {between active : Table ActiveCounter}
    (hne : first ≠ second) (hfirst : decremented t first between)
    (hsecond : decremented { t with activeCounters := between } second active) {key : ActiveKey}
    (hkey : key = first ∨ key = second) : 0 < (t.activeCount key).getD 0 := by
  obtain ⟨firstCount, hfirstCount, hfirst⟩ := hfirst
  obtain ⟨secondCount, hsecondCount, -⟩ := hsecond
  rcases hkey with rfl | rfl
  · rw [hfirstCount]
    exact Nat.succ_pos firstCount
  · have hkept := hfirst key
    rw [if_neg hne.symm] at hkept
    rw [hkept.symm.trans hsecondCount]
    exact Nat.succ_pos secondCount

theorem activeDimensionKey_eq (dimension : ActiveDimension) (digest : Bytes32) :
    activeDimensionKey dimension digest = activeKey dimension.scopeKind digest := by
  cases dimension <;> rfl

theorem predecessor_of_lookup {t : Tables} {request : SnapshotRequest} {row : GuestScan}
    (hlookup : t.lookup request.guestSessionScope request.idempotencyKey = some row) :
    t.predecessor request =
      (t.reservations.find? row.id).filter fun row => row.released.isNone := by
  unfold Tables.predecessor
  rw [hlookup]
  rfl

section Active

variable {request : SnapshotRequest} {t cleared : Tables} {action : CreateAction}

theorem otherActive_of_none (h : t.predecessor request = none) (dimension : ActiveDimension) :
    t.otherActive request dimension =
      t.activeUsage request.guestSessionScope request.networkSignalDigests dimension := by
  unfold Tables.otherActive
  rw [h, if_neg (by simp), Nat.sub_zero]

theorem Released.otherActive {row : GuestScan} {released : Tables}
    (h : Released row.id request.now .expiredReplacement t released)
    (hlookup : t.lookup request.guestSessionScope request.idempotencyKey = some row)
    (hnodup : request.networkSignalDigests.Nodup) (dimension : ActiveDimension) :
    released.activeUsage request.guestSessionScope request.networkSignalDigests dimension =
      t.otherActive request dimension := by
  have hpredecessor := predecessor_of_lookup hlookup
  obtain ⟨reservation, hfind, ⟨hreleased, rfl⟩ | ⟨hnone, -, -, active, between, reservations,
    hbetween, hactive, -, rfl⟩⟩ := h
  · rw [otherActive_of_none]
    have hopen : reservation.released ≠ none := Option.isSome_iff_ne_none.mp hreleased
    rw [hpredecessor, hfind]
    simp [hopen]
  · have hheld : t.predecessor request = some reservation := by
      rw [hpredecessor, hfind]
      simp [hnone]
    have hdistinct : activeKey .network reservation.networkSignalDigest ≠
        activeKey .session reservation.guestSessionScope := by
      simp [activeKey_inj]
    have hmine : ∀ digest, (activeDimensionKey dimension digest =
          activeKey .network reservation.networkSignalDigest ∨
        activeDimensionKey dimension digest =
          activeKey .session reservation.guestSessionScope) ↔
        digest = reservation.digest dimension.scopeKind := by
      intro digest
      rw [activeDimensionKey_eq]
      cases dimension.scopeKind <;> simp [activeKey_inj]
    have hafter : ∀ digest, active.contribution ActiveCounter.activeCount
          (activeDimensionKey dimension digest) =
        t.activeCounters.contribution ActiveCounter.activeCount
            (activeDimensionKey dimension digest) -
          if digest = reservation.digest dimension.scopeKind then 1 else 0 := by
      intro digest
      unfold Table.contribution
      rw [decremented_twice hdistinct hbetween hactive]
      by_cases hdigest : digest = reservation.digest dimension.scopeKind
      · rw [if_pos ((hmine digest).mpr hdigest), if_pos hdigest]
        unfold Tables.activeCount
        cases (t.activeCounters.find? (activeDimensionKey dimension digest)).map
            ActiveCounter.activeCount with
        | none => rfl
        | some count =>
          rw [Option.bind_some, storedCount]
          split
          · rename_i hzero
            exact hzero.symm
          · rfl
      · rw [if_neg (mt (hmine digest).mp hdigest), if_neg hdigest, Nat.sub_zero]
        rfl
    unfold Tables.otherActive
    simp only [hheld, Option.mem_def, Option.some.injEq, exists_eq_left']
    exact sum_but_one (digestsOf_nodup hnodup _) (reservation.digest dimension.scopeKind)
      (decremented_pos hdistinct hbetween hactive ((hmine _).mpr rfl)) hafter

theorem Cleared.otherActive
    (h : Cleared request.now t (t.lookup request.guestSessionScope request.idempotencyKey) action
      cleared)
    (haction : action = .create →
      t.lookup request.guestSessionScope request.idempotencyKey = none)
    (hnodup : request.networkSignalDigests.Nodup) (dimension : ActiveDimension) :
    cleared.activeUsage request.guestSessionScope request.networkSignalDigests dimension =
      t.otherActive request dimension := by
  generalize hlookup : t.lookup request.guestSessionScope request.idempotencyKey = found
    at h haction
  cases h with
  | create existing =>
    rw [otherActive_of_none]
    rw [Tables.predecessor, hlookup, haction rfl]
    rfl
  | replaceExpired row released release => exact release.otherActive hlookup hnodup dimension

end Active

/-! ### The policy -/

theorem GuestAbuseUsageSnapshot.ext_of {usage other : GuestAbuseUsageSnapshot}
    (hwindow : ∀ dimension, usage.window dimension = other.window dimension)
    (hactive : ∀ dimension, usage.active dimension = other.active dimension) : usage = other := by
  cases usage
  cases other
  simp only [GuestAbuseUsageSnapshot.mk.injEq]
  exact ⟨hwindow .sessionBurst, hwindow .sessionDaily, hwindow .networkBurst,
    hwindow .networkDaily, hactive .sessionActive, hactive .networkActive⟩

theorem abuseUsage_window (t : Tables) (request : SnapshotRequest) (dimension : WindowDimension) :
    (t.abuseUsage request).window dimension = t.presentedWindow request.now
      (digestsOf request.guestSessionScope request.networkSignalDigests dimension.scopeKind)
      dimension := by
  cases dimension <;> rfl

theorem abuseUsage_active (t : Tables) (request : SnapshotRequest) (dimension : ActiveDimension) :
    (t.abuseUsage request).active dimension = t.otherActive request dimension := by
  cases dimension <;> rfl

theorem presentedWindow_congr {t t' : Tables} (h : t'.windowCounters = t.windowCounters)
    (now : Nat) (digests : List Bytes32) (dimension : WindowDimension) :
    t'.presentedWindow now digests dimension = t.presentedWindow now digests dimension := by
  unfold Tables.presentedWindow Tables.foundWindow Tables.liveWindow
  rw [h]

section Policy

variable {node : NodeRuntime} {request : SnapshotRequest} {t cleared : Tables}
  {action : CreateAction} {network : Bytes32} {rest : List Bytes32}

theorem Cleared.loaded (hwell : request.WellFormed node)
    (hnetworks : request.networkSignalDigests = network :: rest)
    (h : Cleared request.now t (t.lookup request.guestSessionScope request.idempotencyKey) action
      cleared)
    (haction : action = .create →
      t.lookup request.guestSessionScope request.idempotencyKey = none)
    {next : Table GuestScan} {usage : GuestAbuseUsageSnapshot} {opened : Tables}
    (hload : (loadAbuseCounterState request.guestSessionScope network request.networkSignalDigests
      request.now).run { cleared with guestScans := next } = .ok (usage, opened)) :
    usage = t.abuseUsage request := by
  obtain ⟨hopened, hloaded⟩ := loadAbuseCounterState_ok hwell.nodup hload
  refine GuestAbuseUsageSnapshot.ext_of (fun dimension => ?_) fun dimension => ?_
  · rw [abuseUsage_window]
    have hnodup := hwell.nodup
    rw [hnetworks] at hload hnodup ⊢
    rw [loadAbuseCounterState_window hnodup hload]
    exact presentedWindow_congr h.windows _ _ _
  · rw [abuseUsage_active, hloaded.active, hopened.activeUsage, ← h.otherActive haction hwell.nodup]
    rfl

theorem notAhead_of_valid (hvalid : validUsage request.now (t.abuseUsage request) = true) :
    NotAhead t request.now request.guestSessionScope request.networkSignalDigests := by
  have hwindow : ∀ dimension, (t.presentedWindow request.now
      (digestsOf request.guestSessionScope request.networkSignalDigests dimension.scopeKind)
      dimension).resetAt ≤ request.now + expectedWindowSeconds dimension := by
    unfold validUsage validWindowUsage at hvalid
    simp only [Bool.and_eq_true, decide_eq_true_eq] at hvalid
    obtain ⟨⟨⟨⟨⟨hsessionBurst, hsessionDaily⟩, hnetworkBurst⟩, hnetworkDaily⟩, -⟩, -⟩ := hvalid
    intro dimension
    cases dimension with
    | sessionBurst => exact hsessionBurst.2
    | sessionDaily => exact hsessionDaily.2
    | networkBurst => exact hnetworkBurst.2
    | networkDaily => exact hnetworkDaily.2
  intro row hrow hpresented
  by_cases hlive : request.now < row.resetAt
  · have hlatest := presentedWindow_resetAt_le.mp (hwindow row.dimension) row.scopeDigest
    have hkind := (t.windowCounters.checked row hrow).scope_shape
    rw [hkind] at hpresented
    have hkey : Schema.key row = windowKey row.dimension row.scopeDigest := by
      rw [windowKey, ← hkind]
      rfl
    have hfound : t.foundWindow request.now (digestsOf request.guestSessionScope
        request.networkSignalDigests row.dimension.scopeKind) row.dimension row.scopeDigest =
        some ⟨row.usageCount, row.resetAt⟩ := by
      unfold Tables.foundWindow Tables.liveWindow
      rw [← hkey, Table.find?_of_mem hrow, Option.bind_some,
        WindowCounter.live?_eq_some.mpr ⟨hlive, rfl⟩, Option.some_or]
    exact hlatest (mem_digestsOf.mpr hpresented) _ hfound
  · omega

theorem decide_of_invalid (context : GuestAbuseRequest)
    (h : validUsage context.now context.usage ≠ true) :
    decideGuestAbuseAdmission context = .invalidAbuseContext := by
  unfold decideGuestAbuseAdmission
  simp [h]

end Policy

/-! ### The reservation -/

section Reservation

variable {node : NodeRuntime} {request : SnapshotRequest} {t cleared : Tables}
  {action : CreateAction} {guestScanId : String}

theorem abuseContext_eq_some {context : GuestAbuseRequest} :
    t.abuseContext request = some context ↔ ∃ serviceState network,
      t.guestAbuseControl = some serviceState ∧ request.networkSignalDigests.head? = some network ∧
      context = ⟨request.guestSessionScope, network, request.now, serviceState,
        t.abuseUsage request⟩ := by
  unfold Tables.abuseContext
  simp only [Option.bind_eq_bind, Option.bind_eq_some_iff, Option.pure_def, Option.some.injEq]
  constructor
  · intro h
    obtain ⟨serviceState, hcontrol, network, hnetwork, rfl⟩ := h
    exact ⟨serviceState, network, hcontrol, hnetwork, rfl⟩
  · intro h
    obtain ⟨serviceState, network, hcontrol, hnetwork, rfl⟩ := h
    exact ⟨serviceState, hcontrol, network, hnetwork, rfl⟩

theorem Cleared.reserve_decided (hwell : request.WellFormed node)
    (h : Cleared request.now t (t.lookup request.guestSessionScope request.idempotencyKey) action
      cleared)
    (haction : action = .create →
      t.lookup request.guestSessionScope request.idempotencyKey = none)
    (hfresh : cleared.reservations.find? guestScanId = none)
    (hahead : NotAhead t request.now request.guestSessionScope request.networkSignalDigests)
    {context : GuestAbuseRequest} (hcontext : t.abuseContext request = some context)
    (next : Table GuestScan) :
    ∃ decision t', (reserveGuestAbuseCounters
      ⟨guestScanId, request.guestSessionScope, request.networkSignalDigests, request.now⟩).run
        { cleared with guestScans := next } = .ok (decision, t') ∧
      decision = decideGuestAbuseAdmission context := by
  obtain ⟨serviceState, network, hcontrol, hnetwork, rfl⟩ := abuseContext_eq_some.mp hcontext
  obtain ⟨rest, hnetworks⟩ := List.head?_eq_some_iff.mp hnetwork
  have hmem : network ∈ request.networkSignalDigests := List.mem_of_mem_head? hnetwork
  have hahead' : NotAhead { cleared with guestScans := next } request.now
      request.guestSessionScope request.networkSignalDigests := by
    intro row hrow
    change row ∈ cleared.windowCounters.rows at hrow
    rw [h.windows] at hrow
    exact hahead row hrow
  obtain ⟨usage, opened, hload⟩ := loadAbuseCounterState_of hmem hahead' hwell.range
  have husage := h.loaded hwell hnetworks haction hload
  obtain ⟨t', hrun⟩ := reserve_of_loaded ⟨guestScanId, request.guestSessionScope,
    request.networkSignalDigests, request.now⟩ { cleared with guestScans := next }
    hnetworks hwell.nodup hwell.range (h.control.trans hcontrol) hload hfresh
  exact ⟨_, t', hrun, by rw [husage]⟩

theorem Cleared.reserve_undecided (hwell : request.WellFormed node)
    (h : Cleared request.now t (t.lookup request.guestSessionScope request.idempotencyKey) action
      cleared)
    (hmissing : t.guestAbuseControl = none ∨
      ¬ NotAhead t request.now request.guestSessionScope request.networkSignalDigests)
    (next : Table GuestScan) :
    ∃ error, (reserveGuestAbuseCounters
      ⟨guestScanId, request.guestSessionScope, request.networkSignalDigests, request.now⟩).run
        { cleared with guestScans := next } = .error error := by
  cases hrun : (reserveGuestAbuseCounters
      ⟨guestScanId, request.guestSessionScope, request.networkSignalDigests, request.now⟩).run
        { cleared with guestScans := next } with
  | error error => exact ⟨error, rfl⟩
  | ok outcome =>
    obtain ⟨network, rest, serviceState, usage, opened, -, hcontrol, hload, -⟩ := reserve_ok hrun
    rcases hmissing with hnone | hahead
    · rw [show _ = t.guestAbuseControl from h.control, hnone] at hcontrol
      cases hcontrol
    · obtain ⟨hopened, hloaded⟩ := loadAbuseCounterState_ok hwell.nodup hload
      have hbefore := (hopened.notAhead_iff _).mp hloaded.notAhead
      refine absurd (fun row hrow => ?_) hahead
      rw [← h.windows] at hrow
      exact hbefore row hrow

theorem persisted_of_undecided {token : String} {ring : GuestResultTokenKeyring}
    (hdecision : decideGuestScanIdempotency node request.idempotency
      (existingRecord (t.lookup request.guestSessionScope request.idempotencyKey)) ring =
        .proceed action)
    (hmissing : t.guestAbuseControl = none ∨
      ¬ NotAhead t request.now request.guestSessionScope request.networkSignalDigests) :
    (decideGuestScanAdmission node request.idempotency
      (existingRecord (t.lookup request.guestSessionScope request.idempotencyKey)) ring
      (t.abuseContext request)).persisted guestScanId token request.now = .unavailable := by
  unfold decideGuestScanAdmission
  rw [hdecision]
  cases hcontext : t.abuseContext request with
  | none => rfl
  | some context =>
    obtain ⟨serviceState, network, hcontrol, -, rfl⟩ := abuseContext_eq_some.mp hcontext
    rcases hmissing with hnone | hahead
    · rw [hnone] at hcontrol
      cases hcontrol
    · have hinvalid := decide_of_invalid ⟨request.guestSessionScope, network,
        request.now, serviceState, t.abuseUsage request⟩ (mt notAhead_of_valid hahead)
      simp only [hinvalid]
      rfl

theorem persisted_of_decided {token : String} {ring : GuestResultTokenKeyring}
    (hdecision : decideGuestScanIdempotency node request.idempotency
      (existingRecord (t.lookup request.guestSessionScope request.idempotencyKey)) ring =
        .proceed action)
    {context : GuestAbuseRequest} (hcontext : t.abuseContext request = some context) :
    (decideGuestScanAdmission node request.idempotency
      (existingRecord (t.lookup request.guestSessionScope request.idempotencyKey)) ring
      (t.abuseContext request)).persisted guestScanId token request.now =
      (decideGuestAbuseAdmission context).answer action guestScanId token request.now := by
  unfold decideGuestScanAdmission
  rw [hdecision, hcontext]
  obtain ⟨serviceState, network, -, -, rfl⟩ := abuseContext_eq_some.mp hcontext
  dsimp only
  cases decideGuestAbuseAdmission ⟨request.guestSessionScope, network, request.now, serviceState,
      t.abuseUsage request⟩ with
  | invalidAbuseContext => rfl
  | deny code retryAfterSeconds => rfl
  | allowNewScan =>
    have hmine : ¬ (request.idempotency.guestSessionScope ≠ request.guestSessionScope ∨
        request.idempotency.now + guestIdempotencyWindowSeconds - guestIdempotencyWindowSeconds ≠
          request.now) := by
      simp [SnapshotRequest.idempotency]
    exact congrArg (GuestScanAdmissionDecision.persisted guestScanId token request.now)
      (if_neg hmine)

end Reservation

/-! ### The call -/

/-- Nothing but the policy can refuse the request: the dependencies deliver a token under an id
that is free, and the expired scan can be removed. -/
structure Unobstructed (node : NodeRuntime) (dependencies : GuestPersistenceDependencies)
    (request : SnapshotRequest) (t : Tables) (guestScanId token : String) : Prop where
  issued : dependencies.createGuestScanId = some guestScanId
  material : ∃ nonce, tokenMaterial node dependencies guestScanId
    (request.now + guestIdempotencyWindowSeconds) = some (token, nonce)
  removed : ∀ row, t.lookup request.guestSessionScope request.idempotencyKey = some row →
    ∃ cleared, (removeExpired (some row) request.now .replaceExpired).run t = .ok ((), cleared)
  free : t.storedId request = some guestScanId ∨ t.guestScans.find? guestScanId = none

section Call

variable {node : NodeRuntime} {dependencies : GuestPersistenceDependencies}
  {request : SnapshotRequest} {db : Database} {action : CreateAction} {guestScanId token : String}

theorem createOrReplay_answered (hwell : request.WellFormed node)
    {answer : PersistGuestScanResult}
    (hbody : (createOrReplayBody node dependencies request).run db.val =
      .ok (.commit answer, db.val)) :
    (createOrReplay node dependencies request.persist db).1 = answer := by
  have hsnapshot : snapshotPersistGuestScanRequest node request.persist = some request :=
    snapshotPersistGuestScanRequest_eq_some.mpr ⟨hwell, rfl⟩
  unfold createOrReplay
  simp only [hsnapshot]
  exact congrArg Prod.fst (atomically_of_commit hbody db.property)

theorem createOrReplay_proceeds (hwell : request.WellFormed node)
    (hdecision : decideGuestScanIdempotency node request.idempotency
      (existingRecord (db.val.lookup request.guestSessionScope request.idempotencyKey))
      dependencies.tokenKeyring = .proceed action)
    (hfree : Unobstructed node dependencies request db.val guestScanId token) :
    (createOrReplay node dependencies request.persist db).1 =
      (decideGuestScanAdmission node request.idempotency
        (existingRecord (db.val.lookup request.guestSessionScope request.idempotencyKey))
        dependencies.tokenKeyring (db.val.abuseContext request)).persisted guestScanId token
          request.now := by
  obtain ⟨nonce, hmaterial⟩ := hfree.material
  have hoffered : Offered node dependencies request db.val action guestScanId token nonce :=
    ⟨hdecision, hfree.issued, hmaterial⟩
  have hexisting := hoffered.existing hwell
  have haction : action = .create →
      db.val.lookup request.guestSessionScope request.idempotencyKey = none := by
    intro hcreate
    rcases hexisting with ⟨-, hnone⟩ | ⟨_, hreplace, -⟩
    · exact hnone
    · rw [hcreate] at hreplace
      cases hreplace
  obtain ⟨cleared, hclear, hcleared⟩ : ∃ cleared,
      (removeExpired (db.val.lookup request.guestSessionScope request.idempotencyKey) request.now
        action).run db.val = .ok ((), cleared) ∧
      Cleared request.now db.val (db.val.lookup request.guestSessionScope request.idempotencyKey)
        action cleared := by
    rcases hexisting with ⟨rfl, hnone⟩ | ⟨row, rfl, hlookup, -⟩
    · exact ⟨db.val, rfl, .create _⟩
    · obtain ⟨cleared, hclear⟩ := hfree.removed row hlookup
      rw [hlookup]
      exact ⟨cleared, hclear, removeExpired_ok hclear⟩
  have hfresh := (free_cleared_iff hwell hoffered hcleared).mpr hfree.free
  by_cases hmissing : db.val.guestAbuseControl = none ∨
      ¬ NotAhead db.val request.now request.guestSessionScope request.networkSignalDigests
  · rw [persisted_of_undecided hdecision hmissing]
    exact createOrReplay_unreadable hwell hoffered hclear hcleared hfresh
      (hcleared.reserve_undecided hwell hmissing)
  · rw [not_or, not_not] at hmissing
    obtain ⟨hcontrol, hahead⟩ := hmissing
    obtain ⟨serviceState, hcontrol⟩ := Option.ne_none_iff_exists'.mp hcontrol
    obtain ⟨network, rest, hnetworks⟩ := List.exists_cons_of_ne_nil hwell.networks
    have hcontext := abuseContext_eq_some.mpr
      ⟨serviceState, network, hcontrol, by rw [hnetworks]; rfl, rfl⟩
    have hnone := hcleared.noOrphans db.property.noOrphans
    obtain ⟨decision, hdecided, hanswer⟩ := createOrReplay_decision hwell hoffered hclear hcleared
      hfresh (hcleared.reserve_decided hwell haction (hnone guestScanId hfresh).2.2 hahead hcontext)
    rw [hanswer, persisted_of_decided hdecision hcontext, hdecided]

/-- Of a reachable state, an expired scan can be removed until its deletion is due, and
afterwards once its slot has been released. -/
theorem Reachable.removed {row : GuestScan} (hreach : Reachable node db)
    (hlookup : db.val.lookup request.guestSessionScope request.idempotencyKey = some row)
    (hexpired : row.idempotencyExpiresAt ≤ request.now)
    (hwindow : row.jobState.active = true → request.now ≤ row.deletionDeadline) :
    ∃ cleared, (removeExpired (some row) request.now .replaceExpired).run db.val =
      .ok ((), cleared) := by
  have hmem := (lookup_eq_some.mp hlookup).1
  obtain ⟨reservation, hfind, hopen⟩ := hreach.sound.reservation hmem
  refine removeExpired_of hreach.counted ⟨Option.isSome_iff_exists.mpr
    ⟨_, Table.find?_of_mem hmem⟩, reservation, hfind, fun hnone => ?_⟩
  · obtain ⟨scan, hscan, hid, -, hreserved, hdeadline⟩ :=
      db.property.reservation reservation (Table.find?_mem hfind)
    have hkey : reservation.guestScanId = row.id := Table.find?_key hfind
    have hsame := db.val.guestScans.eq_of_key_eq hscan hmem (hid.trans hkey)
    subst hsame
    have hidempotency := (db.val.guestScans.checked scan hmem).time.idempotency
    have hbefore := hwindow (hopen.mp hnone)
    omega

/-- In every state of the database the answer to a request is the pure decision on the stored
record and on the live counters of the presented digests, of which an expired predecessor
holds none; a context that is not valid is answered as unavailable. In the states the service
reaches, only a slot held beyond the deletion deadline keeps an expired scan in its place. -/
theorem createOrReplay_admission (node : NodeRuntime) (dependencies : GuestPersistenceDependencies)
    (request : PersistGuestScanRequest) (db : Database) :
    (snapshotPersistGuestScanRequest node request = none →
      (createOrReplay node dependencies request db).1 = .failure .invalidRequest) ∧
    (∀ snapshot guestScanId token, snapshotPersistGuestScanRequest node request = some snapshot →
      (∀ action, decideGuestScanIdempotency node snapshot.idempotency
        (existingRecord (db.val.lookup snapshot.guestSessionScope snapshot.idempotencyKey))
        dependencies.tokenKeyring = .proceed action →
          Unobstructed node dependencies snapshot db.val guestScanId token) →
      (createOrReplay node dependencies request db).1 =
        (decideGuestScanAdmission node snapshot.idempotency
          (existingRecord (db.val.lookup snapshot.guestSessionScope snapshot.idempotencyKey))
          dependencies.tokenKeyring (db.val.abuseContext snapshot)).persisted guestScanId token
            snapshot.now) ∧
    (Reachable node db → ∀ (snapshot : SnapshotRequest) row,
      db.val.lookup snapshot.guestSessionScope snapshot.idempotencyKey = some row →
      row.idempotencyExpiresAt ≤ snapshot.now →
      (row.jobState.active = true → snapshot.now ≤ row.deletionDeadline) →
      ∃ cleared, (removeExpired (some row) snapshot.now .replaceExpired).run db.val =
        .ok ((), cleared)) := by
  refine ⟨fun hnone => ?_, fun snapshot guestScanId token hsnapshot hfree => ?_,
    fun hreach _ _ => hreach.removed⟩
  · unfold createOrReplay
    rw [hnone]
  · obtain ⟨hwell, rfl⟩ := snapshotPersistGuestScanRequest_eq_some.mp hsnapshot
    cases hdecision : decideGuestScanIdempotency node snapshot.idempotency
        (existingRecord (db.val.lookup snapshot.guestSessionScope snapshot.idempotencyKey))
        dependencies.tokenKeyring with
    | proceed action => exact createOrReplay_proceeds hwell hdecision (hfree action hdecision)
    | deny code =>
      have hbody : (createOrReplayBody node dependencies snapshot).run db.val =
          .ok (.commit (.failure code), db.val) := by
        unfold SnapshotRequest.idempotency at hdecision
        unfold createOrReplayBody
        rw [Tx.run_bind_get]
        simp only [hdecision]
        rfl
      rw [createOrReplay_answered hwell hbody]
      unfold decideGuestScanAdmission
      rw [hdecision]
      rfl
    | replay storedId resultToken expiresAt expiresIn =>
      have hbody : (createOrReplayBody node dependencies snapshot).run db.val =
          .ok (.commit (.ok none storedId resultToken expiresAt expiresIn), db.val) := by
        unfold SnapshotRequest.idempotency at hdecision
        unfold createOrReplayBody
        rw [Tx.run_bind_get]
        simp only [hdecision]
        rfl
      rw [createOrReplay_answered hwell hbody]
      unfold decideGuestScanAdmission
      rw [hdecision]
      rfl

end Call

/-- At its deletion deadline the running scan of the small service is replaced, as the policy
says: the slot of the scan itself does not stand in its way. -/
theorem createOrReplay_admission_sample :
    ∃ token, (createOrReplay sampleNode (sampleDependencies "scan-2") (sampleRequest 1 87400)
        sampleDatabase).1 =
      (decideGuestScanAdmission sampleNode (sampleSnapshot 1 87400).idempotency
        (existingRecord (sampleDatabase.val.lookup (sampleSnapshot 1 87400).guestSessionScope
          (sampleSnapshot 1 87400).idempotencyKey))
        (sampleDependencies "scan-2").tokenKeyring
        (sampleDatabase.val.abuseContext (sampleSnapshot 1 87400))).persisted "scan-2" token
          (sampleSnapshot 1 87400).now := by
  have hsnapshot : snapshotPersistGuestScanRequest sampleNode (sampleRequest 1 87400) =
      some (sampleSnapshot 1 87400) := by
    decide +kernel
  have hmaterial : (tokenMaterial sampleNode (sampleDependencies "scan-2") "scan-2"
      ((sampleSnapshot 1 87400).now + guestIdempotencyWindowSeconds)).isSome = true := by
    decide +kernel
  obtain ⟨⟨token, nonce⟩, hmaterial⟩ := Option.isSome_iff_exists.mp hmaterial
  have hstored : ((sampleDatabase.val.lookup (sampleSnapshot 1 87400).guestSessionScope
      (sampleSnapshot 1 87400).idempotencyKey).all fun row =>
        decide (row.idempotencyExpiresAt ≤ 87400 ∧ 87400 ≤ row.deletionDeadline)) = true := by
    decide +kernel
  obtain ⟨-, hanswer, hremoved⟩ := createOrReplay_admission sampleNode
    (sampleDependencies "scan-2") (sampleRequest 1 87400) sampleDatabase
  refine ⟨token, hanswer _ "scan-2" token hsnapshot fun action _ => ⟨rfl, ⟨nonce, hmaterial⟩,
    fun row hlookup => ?_, .inr (by decide +kernel)⟩⟩
  rw [hlookup, Option.all_some] at hstored
  obtain ⟨hexpired, hdeadline⟩ := of_decide_eq_true hstored
  exact hremoved sampleDatabase_reachable _ row hlookup hexpired fun _ => hdeadline

end Outscan

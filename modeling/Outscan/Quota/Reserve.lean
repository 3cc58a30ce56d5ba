import Mathlib.Algebra.Order.BigOperators.Group.List
import Mathlib.Algebra.Order.Group.Nat
import Outscan.Quota.Active

/-! Reserving the counters of a new scan: when the policy admits it, and what
the admission leaves in the tables. -/
namespace Outscan

open Relational Transactional

/-! ### Usage -/

def windowLimit : WindowDimension → Nat
  | .sessionBurst => GuestAbusePolicy.sessionBurstLimit
  | .sessionDaily => GuestAbusePolicy.sessionDailyLimit
  | .networkBurst => GuestAbusePolicy.networkBurstLimit
  | .networkDaily => GuestAbusePolicy.networkDailyLimit

def activeLimit : ActiveDimension → Nat
  | .sessionActive => GuestAbusePolicy.sessionConcurrencyLimit
  | .networkActive => GuestAbusePolicy.networkConcurrencyLimit

/-- What a window row counts at `now`: nothing once it has run out. -/
def liveUsage (now : Nat) (row : WindowCounter) : Nat :=
  if now < row.resetAt then row.usageCount else 0

def windowKey (dimension : WindowDimension) (digest : Bytes32) : WindowKey :=
  (dimension.scopeKind, digest, dimension)

def activeDimensionKey (dimension : ActiveDimension) (digest : Bytes32) : ActiveKey :=
  (dimension.scopeKind, digest, dimension)

def digestsOf (session : Bytes32) (networks : List Bytes32) : ScopeKind → List Bytes32
  | .session => [session]
  | .network => networks

/-- The live usage of one dimension over all presented digests. -/
def Tables.windowUsage (t : Tables) (now : Nat) (session : Bytes32) (networks : List Bytes32)
    (dimension : WindowDimension) : Nat :=
  ((digestsOf session networks dimension.scopeKind).map fun digest =>
    t.windowCounters.contribution (liveUsage now) (windowKey dimension digest)).sum

def Tables.activeUsage (t : Tables) (session : Bytes32) (networks : List Bytes32)
    (dimension : ActiveDimension) : Nat :=
  ((digestsOf session networks dimension.scopeKind).map fun digest =>
    t.activeCounters.contribution ActiveCounter.activeCount
      (activeDimensionKey dimension digest)).sum

/-- No presented window ends later than one opened at `now` would. -/
def NotAhead (t : Tables) (now : Nat) (session : Bytes32) (networks : List Bytes32) : Prop :=
  ∀ row ∈ t.windowCounters.rows,
    presented session networks row.scopeKind row.scopeDigest = true →
      row.resetAt ≤ now + expectedWindowSeconds row.dimension

structure Admissible (t : Tables) (now : Nat) (session : Bytes32) (networks : List Bytes32) :
    Prop where
  control : t.guestAbuseControl = some .opened
  notAhead : NotAhead t now session networks
  windows : ∀ dimension, t.windowUsage now session networks dimension < windowLimit dimension
  active : ∀ dimension, t.activeUsage session networks dimension < activeLimit dimension

theorem mem_digestsOf {session : Bytes32} {networks : List Bytes32} {kind : ScopeKind}
    {digest : Bytes32} :
    digest ∈ digestsOf session networks kind ↔
      presented session networks kind digest = true := by
  cases kind <;> simp [digestsOf, presented]

theorem digestsOf_nodup {session : Bytes32} {networks : List Bytes32} (h : networks.Nodup)
    (kind : ScopeKind) : (digestsOf session networks kind).Nodup := by
  cases kind with
  | session => exact List.nodup_singleton _
  | network => exact h

/-! ### The specs -/

theorem windowSpec_shape {session network : Bytes32} {spec : WindowCounterSpec}
    (h : spec ∈ windowSpecs session network) :
    spec.key = windowKey spec.dimension spec.digest ∧
      spec.windowSeconds = expectedWindowSeconds spec.dimension ∧
      spec.windowSeconds = spec.dimension.maximumInterval ∧
      0 < spec.windowSeconds ∧ spec.windowSeconds ≤ 86400 := by
  simp only [windowSpecs, List.mem_cons, List.not_mem_nil, or_false] at h
  rcases h with rfl | rfl | rfl | rfl <;> exact ⟨rfl, rfl, rfl, by dsimp only; decide, by dsimp only; decide⟩

theorem activeSpec_shape {session network : Bytes32} {spec : ActiveCounterSpec}
    (h : spec ∈ activeSpecs session network) :
    spec.key = activeDimensionKey spec.dimension spec.digest := by
  simp only [activeSpecs, List.mem_cons, List.not_mem_nil, or_false] at h
  rcases h with rfl | rfl <;> rfl

theorem windowSpecs_nodup (session network : Bytes32) :
    ((windowSpecs session network).map WindowCounterSpec.key).Nodup := by
  simp [windowSpecs, WindowCounterSpec.key]

theorem activeSpecs_nodup (session network : Bytes32) :
    ((activeSpecs session network).map ActiveCounterSpec.key).Nodup := by
  simp [activeSpecs, ActiveCounterSpec.key]

theorem exists_windowSpec (session network : Bytes32) (dimension : WindowDimension) :
    ∃ spec ∈ windowSpecs session network, spec.dimension = dimension ∧
      spec.digest ∈ digestsOf session [network] dimension.scopeKind := by
  cases dimension <;> simp [windowSpecs, digestsOf, WindowDimension.scopeKind]

theorem exists_activeSpec (session network : Bytes32) (dimension : ActiveDimension) :
    ∃ spec ∈ activeSpecs session network, spec.dimension = dimension ∧
      spec.digest ∈ digestsOf session [network] dimension.scopeKind := by
  cases dimension <;> simp [activeSpecs, digestsOf, ActiveDimension.scopeKind]

theorem mem_digestsOf_of_mem {session network digest : Bytes32} {networks : List Bytes32}
    {kind : ScopeKind} (hmem : network ∈ networks)
    (hdigest : digest ∈ digestsOf session [network] kind) :
    digest ∈ digestsOf session networks kind := by
  cases kind with
  | session => exact hdigest
  | network => exact List.mem_singleton.mp hdigest ▸ hmem

theorem windowSpec_digest {session network : Bytes32} {spec : WindowCounterSpec}
    (h : spec ∈ windowSpecs session network) :
    spec.digest ∈ digestsOf session [network] spec.dimension.scopeKind := by
  simp only [windowSpecs, List.mem_cons, List.not_mem_nil, or_false] at h
  rcases h with rfl | rfl | rfl | rfl <;> exact List.mem_singleton_self _

theorem activeSpec_digest {session network : Bytes32} {spec : ActiveCounterSpec}
    (h : spec ∈ activeSpecs session network) :
    spec.digest ∈ digestsOf session [network] spec.dimension.scopeKind := by
  simp only [activeSpecs, List.mem_cons, List.not_mem_nil, or_false] at h
  rcases h with rfl | rfl <;> exact List.mem_singleton_self _

/-! ### Statements on one counter -/

def freshWindow (now : Nat) (spec : WindowCounterSpec) : WindowCounter :=
  ⟨spec.scopeKind, spec.digest, spec.dimension, 0, now + spec.windowSeconds, now⟩

/-- The window after `insertWindow`. -/
def openedWindow (now : Nat) (spec : WindowCounterSpec) :
    Option WindowCounter → Option WindowCounter
  | none => some (freshWindow now spec)
  | some row =>
    some (if row.resetAt ≤ now then (resetWindow spec.windowSeconds now).apply row else row)

def openedActive (now : Nat) (spec : ActiveCounterSpec) :
    Option ActiveCounter → Option ActiveCounter
  | none => some ⟨spec.scopeKind, spec.digest, spec.dimension, 0, now⟩
  | some row => some row

theorem insertWindow_changes (now : Nat) :
    Tx.Changes windowsTable (insertWindow now) WindowCounterSpec.key (openedWindow now) := by
  intro spec t value t' h
  unfold insertWindow at h
  rw [Tx.run_bind_get] at h
  cases hfind : t.windowCounters.find? spec.key with
  | none =>
    simp only [hfind] at h
    obtain ⟨-, -, next, hrows, rfl⟩ := Tx.run_insert_ok.mp h
    refine ⟨next, rfl, fun k => ?_⟩
    rw [Table.find?_of_rows_append hrows]
    by_cases hk : k = spec.key
    · subst hk
      rw [if_pos rfl]
      change (t.windowCounters.find? spec.key).or _ =
        openedWindow now spec (t.windowCounters.find? spec.key)
      rw [hfind]
      exact if_pos rfl
    · rw [if_neg hk, if_neg (fun heq => hk heq.symm), Option.or_none]
  | some row =>
    simp only [hfind] at h
    rw [Tx.run_bind_ok] at h
    obtain ⟨result, mid, hupdate, h⟩ := h
    obtain ⟨-, rfl⟩ := Tx.run_pure_ok.mp h
    cases result with
    | none =>
      obtain ⟨rfl, hlive⟩ := Tx.run_update_none_ok.mp hupdate
      refine ⟨t'.windowCounters, rfl, fun k => ?_⟩
      by_cases hk : k = spec.key
      · subst hk
        rw [if_pos rfl]
        change t'.windowCounters.find? spec.key =
          openedWindow now spec (t'.windowCounters.find? spec.key)
        rw [hfind, openedWindow, if_neg (hlive row hfind)]
      · rw [if_neg hk]
        rfl
    | some returned =>
      obtain ⟨old, hold, hstale, -, -, -, next, hrows, rfl⟩ := Tx.run_update_some_ok.mp hupdate
      refine ⟨next, rfl, fun k => ?_⟩
      rw [Table.find?_of_rows_edited hrows]
      by_cases hk : k = spec.key
      · subst hk
        rw [if_pos rfl, if_pos rfl]
        change t.windowCounters.find? spec.key = some old at hold
        change (t.windowCounters.find? spec.key).map _ =
          openedWindow now spec (t.windowCounters.find? spec.key)
        rw [hold, openedWindow, if_pos hstale]
        rfl
      · rw [if_neg hk, if_neg hk]

theorem insertActive_changes (now : Nat) :
    Tx.Changes activeTable (insertActive now) ActiveCounterSpec.key (openedActive now) := by
  intro spec t value t' h
  unfold insertActive at h
  rw [Tx.run_bind_get] at h
  cases hfind : t.activeCounters.find? spec.key with
  | none =>
    simp only [hfind] at h
    obtain ⟨-, -, next, hrows, rfl⟩ := Tx.run_insert_ok.mp h
    refine ⟨next, rfl, fun k => ?_⟩
    rw [Table.find?_of_rows_append hrows]
    by_cases hk : k = spec.key
    · subst hk
      rw [if_pos rfl]
      change (t.activeCounters.find? spec.key).or _ =
        openedActive now spec (t.activeCounters.find? spec.key)
      rw [hfind]
      exact if_pos rfl
    · rw [if_neg hk, if_neg (fun heq => hk heq.symm), Option.or_none]
  | some row =>
    simp only [hfind] at h
    obtain ⟨-, rfl⟩ := Tx.run_pure_ok.mp h
    refine ⟨t'.activeCounters, rfl, fun k => ?_⟩
    by_cases hk : k = spec.key
    · subst hk
      rw [if_pos rfl]
      change t'.activeCounters.find? spec.key =
        openedActive now spec (t'.activeCounters.find? spec.key)
      rw [hfind]
      rfl
    · rw [if_neg hk]
      rfl

private theorem updateOne_changes {ρ κ ι : Type} [Schema ρ κ] {lens : Lens Tables (Table ρ)}
    {missing : TxError} {keyOf : ι → κ} {edit : Edit ρ} {action : ι → Sql Unit}
    (haction : ∀ i, action i = do
      let _ ← Tx.updateOne lens .database missing (fun _ _ => True) (keyOf i) (fun _ => True)
        edit) :
    Tx.Changes lens action keyOf fun _ found => found.map edit.apply := by
  intro i t value t' h
  rw [haction, Tx.run_bind_ok] at h
  obtain ⟨_, mid, hupdate, h⟩ := h
  obtain ⟨-, rfl⟩ := Tx.run_pure_ok.mp h
  obtain ⟨old, hold, -, -, -, -, next, hrows, rfl⟩ := Tx.run_updateOne_ok.mp hupdate
  refine ⟨next, rfl, fun k => ?_⟩
  rw [Table.find?_of_rows_edited hrows]
  by_cases hk : k = keyOf i
  · subst hk
    rw [if_pos rfl]
  · rw [if_neg hk, if_neg hk]

theorem incrementWindows_changes (now : Nat) :
    Tx.Changes windowsTable (incrementWindows now) WindowCounterSpec.key
      fun _ found => found.map (incrementWindow now).apply :=
  updateOne_changes fun _ => rfl

theorem incrementActive_changes (now : Nat) :
    Tx.Changes activeTable (incrementActive now) ActiveCounterSpec.key
      fun _ found => found.map (incrementCount now).apply :=
  updateOne_changes fun _ => rfl

/-! ### Loading -/

theorem addWindow_count (now : Nat) (aggregate : WindowDimension → Option GuestAbuseWindowUsage)
    (row : WindowCounter) (dimension : WindowDimension) :
    ((addWindow now aggregate row dimension).map GuestAbuseWindowUsage.count).getD 0 =
      ((aggregate dimension).map GuestAbuseWindowUsage.count).getD 0 +
        if row.dimension = dimension then liveUsage now row else 0 := by
  unfold addWindow liveUsage
  by_cases hstale : row.resetAt ≤ now
  · have hdead : ¬ now < row.resetAt := by omega
    simp [hstale, hdead]
  · rw [if_neg hstale]
    by_cases hdimension : dimension = row.dimension
    · subst hdimension
      cases aggregate row.dimension with
      | none => simp [Nat.lt_of_not_le hstale]
      | some previous => simp [Nat.lt_of_not_le hstale]
    · simp [hdimension, Ne.symm hdimension]

theorem foldl_addWindow_count (now : Nat) (rows : List WindowCounter)
    (aggregate : WindowDimension → Option GuestAbuseWindowUsage) (dimension : WindowDimension) :
    ((rows.foldl (addWindow now) aggregate dimension).map GuestAbuseWindowUsage.count).getD 0 =
      ((aggregate dimension).map GuestAbuseWindowUsage.count).getD 0 +
        ((rows.filter fun row => decide (row.dimension = dimension)).map
          (liveUsage now)).sum := by
  induction rows generalizing aggregate with
  | nil => simp
  | cons row rest ih =>
    rw [List.foldl_cons, ih, addWindow_count]
    by_cases hdimension : row.dimension = dimension
    · simp [hdimension, Nat.add_assoc]
    · simp [hdimension]

theorem foldl_addWindow_isSome (now : Nat) (rows : List WindowCounter)
    (aggregate : WindowDimension → Option GuestAbuseWindowUsage) (dimension : WindowDimension)
    (h : (aggregate dimension).isSome = true ∨
      ∃ row ∈ rows, row.dimension = dimension ∧ now < row.resetAt) :
    (rows.foldl (addWindow now) aggregate dimension).isSome = true := by
  induction rows generalizing aggregate with
  | nil => simpa using h
  | cons row rest ih =>
    refine ih _ ?_
    rcases h with hsome | ⟨found, hfound, hdimension, hlive⟩
    · refine .inl ?_
      unfold addWindow
      split
      · exact hsome
      · dsimp only
        split
        · split <;> rfl
        · exact hsome
    · rcases List.mem_cons.mp hfound with rfl | hfound
      · refine .inl ?_
        unfold addWindow
        rw [if_neg (by omega), if_pos hdimension.symm]
        split <;> rfl
      · exact .inr ⟨found, hfound, hdimension, hlive⟩

theorem foldl_addWindow_reset {now bound : Nat} {rows : List WindowCounter}
    {aggregate : WindowDimension → Option GuestAbuseWindowUsage} {dimension : WindowDimension}
    (hrows : ∀ row ∈ rows, row.dimension = dimension → row.resetAt ≤ bound)
    (haggregate : ∀ usage ∈ aggregate dimension, now < usage.resetAt ∧ usage.resetAt ≤ bound) :
    ∀ usage ∈ rows.foldl (addWindow now) aggregate dimension,
      now < usage.resetAt ∧ usage.resetAt ≤ bound := by
  induction rows generalizing aggregate with
  | nil => exact haggregate
  | cons row rest ih =>
    refine ih (fun other hother => hrows other (List.mem_cons_of_mem _ hother)) ?_
    intro usage husage
    unfold addWindow at husage
    split at husage
    · exact haggregate usage husage
    · rename_i hlive
      dsimp only at husage
      split at husage
      · rename_i hdimension
        have hbound := hrows row (List.mem_cons_self ..) hdimension.symm
        split at husage
        · cases husage
          exact ⟨by simpa using hlive, hbound⟩
        · rename_i previous hprevious
          cases husage
          have hbefore := haggregate previous (by rw [hprevious]; rfl)
          dsimp only
          omega
      · exact haggregate usage husage

theorem foldl_addActive_count (rows : List ActiveCounter)
    (aggregate : ActiveDimension → Option Nat) (dimension : ActiveDimension) :
    ((rows.foldl addActive aggregate) dimension).getD 0 =
      (aggregate dimension).getD 0 +
        ((rows.filter fun row => decide (row.dimension = dimension)).map
          ActiveCounter.activeCount).sum := by
  induction rows generalizing aggregate with
  | nil => simp
  | cons row rest ih =>
    rw [List.foldl_cons, ih]
    unfold addActive
    by_cases hdimension : row.dimension = dimension
    · subst hdimension
      simp [Nat.add_assoc]
    · simp [hdimension, Ne.symm hdimension]

theorem foldl_addActive_isSome (rows : List ActiveCounter)
    (aggregate : ActiveDimension → Option Nat) (dimension : ActiveDimension)
    (h : (aggregate dimension).isSome = true ∨ ∃ row ∈ rows, row.dimension = dimension) :
    ((rows.foldl addActive aggregate) dimension).isSome = true := by
  induction rows generalizing aggregate with
  | nil => simpa using h
  | cons row rest ih =>
    refine ih _ ?_
    rcases h with hsome | ⟨found, hfound, hdimension⟩
    · refine .inl ?_
      unfold addActive
      split
      · rfl
      · exact hsome
    · rcases List.mem_cons.mp hfound with rfl | hfound
      · refine .inl ?_
        unfold addActive
        rw [if_pos hdimension.symm]
        rfl
      · exact .inr ⟨found, hfound, hdimension⟩

theorem sum_loaded {ρ δ : Type} [DecidableEq δ] [Schema ρ (ScopeKind × Bytes32 × δ)]
    {table : Table ρ} {kindOf : δ → ScopeKind} {kind : ρ → ScopeKind} {digest : ρ → Bytes32}
    {dimensionOf : ρ → δ} (hkey : ∀ row, Schema.key row = (kind row, digest row, dimensionOf row))
    (hshape : ∀ row ∈ table.rows, kind row = kindOf (dimensionOf row)) (usage : ρ → Nat)
    (session : Bytes32) {networks : List Bytes32} (hnetworks : networks.Nodup) (dimension : δ) :
    (((table.rows.filter fun row => presented session networks (kind row) (digest row)).filter
        fun row => decide (dimensionOf row = dimension)).map usage).sum =
      ((digestsOf session networks (kindOf dimension)).map fun digest =>
        table.contribution usage (kindOf dimension, digest, dimension)).sum := by
  have hkeys : ((digestsOf session networks (kindOf dimension)).map
      fun digest => (kindOf dimension, digest, dimension)).Nodup := by
    refine List.Nodup.map ?_ (digestsOf_nodup hnetworks _)
    intro a b h
    simpa using h
  have hsum := Table.sum_filter_keys table usage hkeys
    (p := fun row => decide (dimensionOf row = dimension) &&
      presented session networks (kind row) (digest row)) ?_
  · rw [List.filter_filter, hsum, List.map_map]
    rfl
  · intro row hrow
    have hrowShape := hshape row hrow
    simp only [Bool.and_eq_true, decide_eq_true_eq, List.mem_map, mem_digestsOf, hkey,
      Prod.mk.injEq]
    constructor
    · rintro ⟨rfl, hpresented⟩
      exact ⟨digest row, hrowShape ▸ hpresented, hrowShape.symm, rfl, rfl⟩
    · rintro ⟨found, hfound, hkind, rfl, rfl⟩
      exact ⟨rfl, hrowShape ▸ hfound⟩

theorem sum_loaded_windows (t : Tables) (now : Nat) (session : Bytes32)
    {networks : List Bytes32} (hnetworks : networks.Nodup) (dimension : WindowDimension) :
    (((t.windowCounters.rows.filter fun row =>
        presented session networks row.scopeKind row.scopeDigest).filter fun row =>
        decide (row.dimension = dimension)).map (liveUsage now)).sum =
      t.windowUsage now session networks dimension :=
  sum_loaded (fun _ => rfl) (fun row hrow => (t.windowCounters.checked row hrow).scope_shape) _
    session hnetworks dimension

theorem sum_loaded_active (t : Tables) (session : Bytes32) {networks : List Bytes32}
    (hnetworks : networks.Nodup) (dimension : ActiveDimension) :
    (((t.activeCounters.rows.filter fun row =>
        presented session networks row.scopeKind row.scopeDigest).filter fun row =>
        decide (row.dimension = dimension)).map ActiveCounter.activeCount).sum =
      t.activeUsage session networks dimension :=
  sum_loaded (fun _ => rfl) (fun row hrow => (t.activeCounters.checked row hrow).scope_shape) _
    session hnetworks dimension

/-! ### The opened rows -/

/-- What `insertCurrentRows` leaves: every counter of the request is there, and
its windows are live. -/
structure Opened (t t' : Tables) (session network : Bytes32) (now : Nat) : Prop where
  windows : ∀ spec ∈ windowSpecs session network, t'.windowCounters.find? spec.key =
    openedWindow now spec (t.windowCounters.find? spec.key)
  otherWindows : ∀ k, k ∉ (windowSpecs session network).map WindowCounterSpec.key →
    t'.windowCounters.find? k = t.windowCounters.find? k
  active : ∀ spec ∈ activeSpecs session network, t'.activeCounters.find? spec.key =
    openedActive now spec (t.activeCounters.find? spec.key)
  otherActive : ∀ k, k ∉ (activeSpecs session network).map ActiveCounterSpec.key →
    t'.activeCounters.find? k = t.activeCounters.find? k
  rest : t' = { t with windowCounters := t'.windowCounters, activeCounters := t'.activeCounters }

theorem insertCurrentRows_ok {session network : Bytes32} {now : Nat} {t t' : Tables}
    {value : Unit}
    (h : (insertCurrentRows (windowSpecs session network) (activeSpecs session network) now).run
      t = .ok (value, t')) : Opened t t' session network now := by
  unfold insertCurrentRows at h
  rw [Tx.run_bind_ok] at h
  obtain ⟨_, mid, hwindows, hactive⟩ := h
  obtain ⟨windows, rfl, hopened, hother⟩ :=
    (insertWindow_changes now).forM (windowSpecs_nodup session network) hwindows
  obtain ⟨active, rfl, hactive, hrest⟩ :=
    (insertActive_changes now).forM (activeSpecs_nodup session network) hactive
  exact ⟨hopened, hother, hactive, hrest, rfl⟩

theorem insertWindow_of {session network : Bytes32} {spec : WindowCounterSpec} {now : Nat}
    (hspec : spec ∈ windowSpecs session network) (hnow : now + 86400 < timestampEnd)
    (t : Tables) : ∃ t', (insertWindow now spec).run t = .ok ((), t') := by
  obtain ⟨hkey, -, hseconds, hpos, hle⟩ := windowSpec_shape hspec
  have hkind : spec.scopeKind = spec.dimension.scopeKind := congrArg Prod.fst hkey
  unfold insertWindow
  rw [Tx.run_bind_get]
  cases hfind : t.windowCounters.find? spec.key with
  | none =>
    dsimp only
    have hcheck : (freshWindow now spec).Constraints :=
      ⟨Nat.zero_le _, hkind, by simp only [freshWindow]; omega,
        by simp only [freshWindow]; omega, by simp only [freshWindow]; omega⟩
    have hdistinct : ∀ other ∈ t.windowCounters.rows,
        Schema.Distinct other (freshWindow now spec) :=
      fun other hother => Table.find?_eq_none.mp hfind other hother
    obtain ⟨next, hnext⟩ := Table.exists_inserted hcheck hdistinct
    exact ⟨_, Tx.run_insert_ok.mpr ⟨hcheck, hdistinct, next, hnext, rfl⟩⟩
  | some row =>
    dsimp only
    by_cases hstale : row.resetAt ≤ now
    · have hrow : row.Constraints := Table.find?_check hfind
      have hdimension : row.dimension = spec.dimension :=
        congrArg (fun key => key.2.2) (Table.find?_key hfind)
      have hcheck : ((resetWindow spec.windowSeconds now).apply row).Constraints := by
        refine ⟨Nat.zero_le _, hrow.scope_shape, ?_, ?_, ?_⟩
        · change now < now + spec.windowSeconds
          omega
        · change now + spec.windowSeconds ≤ now + row.dimension.maximumInterval
          rw [hdimension]
          omega
        · change now + spec.windowSeconds < timestampEnd
          omega
      obtain ⟨next, hnext⟩ := Table.exists_edited hfind hcheck
      exact ⟨_, Tx.run_bind_ok.mpr ⟨_, _, Tx.run_update_some_ok.mpr
        ⟨row, hfind, hstale, trivial, hcheck, rfl, next, hnext, rfl⟩, rfl⟩⟩
    · have hlive : ∀ other, t.windowCounters.find? spec.key = some other →
          ¬ other.resetAt ≤ now := by
        intro other hother
        rw [Option.some.inj (hother.symm.trans hfind)]
        exact hstale
      exact ⟨_, Tx.run_bind_ok.mpr ⟨_, _, Tx.run_update_none_ok.mpr ⟨rfl, hlive⟩, rfl⟩⟩

theorem insertActive_of {session network : Bytes32} {spec : ActiveCounterSpec} {now : Nat}
    (hspec : spec ∈ activeSpecs session network) (hnow : now < timestampEnd) (t : Tables) :
    ∃ t', (insertActive now spec).run t = .ok ((), t') := by
  have hkind : spec.scopeKind = spec.dimension.scopeKind :=
    congrArg Prod.fst (activeSpec_shape hspec)
  unfold insertActive
  rw [Tx.run_bind_get]
  cases hfind : t.activeCounters.find? spec.key with
  | none =>
    dsimp only
    have hcheck : ActiveCounter.Constraints ⟨spec.scopeKind, spec.digest, spec.dimension, 0, now⟩ :=
      ⟨Nat.zero_le _, hkind, hnow⟩
    have hdistinct : ∀ other ∈ t.activeCounters.rows, Schema.Distinct other
        (⟨spec.scopeKind, spec.digest, spec.dimension, 0, now⟩ : ActiveCounter) :=
      fun other hother => Table.find?_eq_none.mp hfind other hother
    obtain ⟨next, hnext⟩ := Table.exists_inserted hcheck hdistinct
    exact ⟨_, Tx.run_insert_ok.mpr ⟨hcheck, hdistinct, next, hnext, rfl⟩⟩
  | some row => exact ⟨t, rfl⟩

private theorem forM_of {ι : Type} {items : List ι} {action : ι → Sql Unit}
    (h : ∀ i ∈ items, ∀ t, ∃ t', (action i).run t = .ok ((), t')) (t : Tables) :
    ∃ t', (items.forM action).run t = .ok ((), t') := by
  induction items generalizing t with
  | nil => exact ⟨t, rfl⟩
  | cons item rest ih =>
    obtain ⟨mid, hitem⟩ := h item (List.mem_cons_self ..) t
    obtain ⟨t', hrest⟩ := ih (fun i hi => h i (List.mem_cons_of_mem _ hi)) mid
    exact ⟨t', Tx.run_bind_ok.mpr ⟨(), mid, hitem, hrest⟩⟩

theorem insertCurrentRows_of (session network : Bytes32) {now : Nat}
    (hnow : now + 86400 < timestampEnd) (t : Tables) :
    ∃ t', (insertCurrentRows (windowSpecs session network) (activeSpecs session network) now).run
      t = .ok ((), t') := by
  have hnow' : now < timestampEnd := by omega
  obtain ⟨mid, hwindows⟩ := forM_of (fun _ hspec => insertWindow_of hspec hnow) t
  obtain ⟨t', hactive⟩ := forM_of (fun _ hspec => insertActive_of hspec hnow') mid
  unfold insertCurrentRows
  rw [Tx.run_bind_of_ok hwindows]
  exact ⟨t', hactive⟩

namespace Opened

variable {t t' : Tables} {session network : Bytes32} {now : Nat}

theorem window_cases (h : Opened t t' session network now) (k : WindowKey) :
    (∃ spec ∈ windowSpecs session network, spec.key = k ∧
        t'.windowCounters.find? k = openedWindow now spec (t.windowCounters.find? k)) ∨
      t'.windowCounters.find? k = t.windowCounters.find? k := by
  by_cases hk : k ∈ (windowSpecs session network).map WindowCounterSpec.key
  · obtain ⟨spec, hspec, rfl⟩ := List.mem_map.mp hk
    exact .inl ⟨spec, hspec, rfl, h.windows spec hspec⟩
  · exact .inr (h.otherWindows k hk)

theorem active_cases (h : Opened t t' session network now) (k : ActiveKey) :
    (∃ spec ∈ activeSpecs session network, spec.key = k ∧
        t'.activeCounters.find? k = openedActive now spec (t.activeCounters.find? k)) ∨
      t'.activeCounters.find? k = t.activeCounters.find? k := by
  by_cases hk : k ∈ (activeSpecs session network).map ActiveCounterSpec.key
  · obtain ⟨spec, hspec, rfl⟩ := List.mem_map.mp hk
    exact .inl ⟨spec, hspec, rfl, h.active spec hspec⟩
  · exact .inr (h.otherActive k hk)

theorem window_contribution (h : Opened t t' session network now) (k : WindowKey) :
    t'.windowCounters.contribution (liveUsage now) k =
      t.windowCounters.contribution (liveUsage now) k := by
  unfold Table.contribution
  rcases h.window_cases k with ⟨spec, -, -, hfind⟩ | hfind
  · rw [hfind]
    cases t.windowCounters.find? k with
    | none => simp [openedWindow, freshWindow, liveUsage]
    | some row =>
      unfold openedWindow
      dsimp only
      split
      · rename_i hstale
        have hdead : ¬ now < row.resetAt := by omega
        simp [resetWindow, windowEdit, liveUsage, hdead]
      · rfl
  · rw [hfind]

theorem active_contribution (h : Opened t t' session network now) (k : ActiveKey) :
    t'.activeCounters.contribution ActiveCounter.activeCount k =
      t.activeCounters.contribution ActiveCounter.activeCount k := by
  unfold Table.contribution
  rcases h.active_cases k with ⟨spec, -, -, hfind⟩ | hfind
  · rw [hfind]
    cases t.activeCounters.find? k with
    | none => rfl
    | some row => rfl
  · rw [hfind]

theorem windowUsage (h : Opened t t' session network now) (networks : List Bytes32)
    (dimension : WindowDimension) :
    t'.windowUsage now session networks dimension =
      t.windowUsage now session networks dimension := by
  unfold Tables.windowUsage
  congr 1
  exact List.map_congr_left fun digest _ => h.window_contribution _

theorem activeUsage (h : Opened t t' session network now) (networks : List Bytes32)
    (dimension : ActiveDimension) :
    t'.activeUsage session networks dimension = t.activeUsage session networks dimension := by
  unfold Tables.activeUsage
  congr 1
  exact List.map_congr_left fun digest _ => h.active_contribution _

theorem notAhead_iff (h : Opened t t' session network now) (networks : List Bytes32) :
    NotAhead t' now session networks ↔ NotAhead t now session networks := by
  constructor
  · intro hahead row hrow hpresented
    have hfind := Table.find?_of_mem hrow
    rcases h.window_cases (Schema.key row) with ⟨spec, -, -, hopened⟩ | hsame
    · rw [hfind, openedWindow] at hopened
      split at hopened
      · omega
      · exact hahead row (Table.find?_mem hopened) hpresented
    · exact hahead row (Table.find?_mem (hsame.trans hfind)) hpresented
  · intro hahead row hrow hpresented
    have hfind := Table.find?_of_mem hrow
    rcases h.window_cases (Schema.key row) with ⟨spec, hspec, hkey, hopened⟩ | hsame
    · have hdimension : spec.dimension = row.dimension := congrArg (fun key => key.2.2) hkey
      have hseconds := (windowSpec_shape hspec).2.1
      rw [hfind] at hopened
      cases hold : t.windowCounters.find? (Schema.key row) with
      | none =>
        rw [hold, openedWindow, Option.some.injEq] at hopened
        have hreset : row.resetAt = now + spec.windowSeconds := by
          rw [hopened]
          rfl
        exact Nat.le_of_eq (by rw [hreset, hseconds, hdimension])
      | some old =>
        rw [hold, openedWindow] at hopened
        split at hopened
        · have hreset : row.resetAt = now + spec.windowSeconds := by
            rw [Option.some.inj hopened]
            rfl
          exact Nat.le_of_eq (by rw [hreset, hseconds, hdimension])
        · rw [Option.some.inj hopened] at hpresented ⊢
          exact hahead old (Table.find?_mem hold) hpresented
    · exact hahead row (Table.find?_mem (hsame.symm.trans hfind)) hpresented

theorem live (h : Opened t t' session network now) {spec : WindowCounterSpec}
    (hspec : spec ∈ windowSpecs session network) :
    ∃ row, t'.windowCounters.find? spec.key = some row ∧ now < row.resetAt := by
  have hpos := (windowSpec_shape hspec).2.2.2.1
  rw [h.windows spec hspec]
  cases t.windowCounters.find? spec.key with
  | none => exact ⟨_, rfl, by simp only [freshWindow]; omega⟩
  | some row =>
    refine ⟨_, rfl, ?_⟩
    split
    · change now < now + spec.windowSeconds
      omega
    · omega

theorem counted (h : Opened t t' session network now) {spec : ActiveCounterSpec}
    (hspec : spec ∈ activeSpecs session network) :
    ∃ row, t'.activeCounters.find? spec.key = some row := by
  rw [h.active spec hspec]
  cases t.activeCounters.find? spec.key with
  | none => exact ⟨_, rfl⟩
  | some row => exact ⟨_, rfl⟩

end Opened

/-! ### The loaded usage -/

def GuestAbuseUsageSnapshot.window (usage : GuestAbuseUsageSnapshot) :
    WindowDimension → GuestAbuseWindowUsage
  | .sessionBurst => usage.sessionBurst
  | .sessionDaily => usage.sessionDaily
  | .networkBurst => usage.networkBurst
  | .networkDaily => usage.networkDaily

def GuestAbuseUsageSnapshot.active (usage : GuestAbuseUsageSnapshot) : ActiveDimension → Nat
  | .sessionActive => usage.sessionActive
  | .networkActive => usage.networkActive

theorem usageOf_eq_some {windows : WindowDimension → Option GuestAbuseWindowUsage}
    {active : ActiveDimension → Option Nat} {usage : GuestAbuseUsageSnapshot} :
    usageOf windows active = some usage ↔
      (∀ dimension, windows dimension = some (usage.window dimension)) ∧
        ∀ dimension, active dimension = some (usage.active dimension) := by
  unfold usageOf
  simp only [Option.bind_eq_bind, Option.bind_eq_some_iff, pure, Option.some.injEq]
  constructor
  · intro h
    obtain ⟨_, h1, _, h2, _, h3, _, h4, _, h5, _, h6, rfl⟩ := h
    constructor
    · intro dimension
      cases dimension with
      | sessionBurst => exact h3
      | sessionDaily => exact h4
      | networkBurst => exact h1
      | networkDaily => exact h2
    · intro dimension
      cases dimension with
      | sessionActive => exact h6
      | networkActive => exact h5
  · intro h
    exact ⟨_, h.1 .networkBurst, _, h.1 .networkDaily, _, h.1 .sessionBurst, _,
      h.1 .sessionDaily, _, h.2 .networkActive, _, h.2 .sessionActive, rfl⟩

theorem exists_usageOf {windows : WindowDimension → Option GuestAbuseWindowUsage}
    {active : ActiveDimension → Option Nat}
    (hwindows : ∀ dimension, (windows dimension).isSome = true)
    (hactive : ∀ dimension, (active dimension).isSome = true) :
    ∃ usage, usageOf windows active = some usage := by
  let usage : GuestAbuseUsageSnapshot :=
    ⟨(windows .sessionBurst).get (hwindows _), (windows .sessionDaily).get (hwindows _),
      (windows .networkBurst).get (hwindows _), (windows .networkDaily).get (hwindows _),
      (active .sessionActive).get (hactive _), (active .networkActive).get (hactive _)⟩
  refine ⟨usage, usageOf_eq_some.mpr ⟨fun dimension => ?_, fun dimension => ?_⟩⟩
  · cases dimension <;> exact (Option.some_get _).symm
  · cases dimension <;> exact (Option.some_get _).symm

theorem belowLimits_iff {usage : GuestAbuseUsageSnapshot} :
    BelowLimits usage ↔ (∀ dimension, (usage.window dimension).count < windowLimit dimension) ∧
      ∀ dimension, usage.active dimension < activeLimit dimension := by
  constructor
  · intro h
    constructor
    · intro dimension
      cases dimension with
      | sessionBurst => exact h.sessionBurst
      | sessionDaily => exact h.sessionDaily
      | networkBurst => exact h.networkBurst
      | networkDaily => exact h.networkDaily
    · intro dimension
      cases dimension with
      | sessionActive => exact h.sessionActive
      | networkActive => exact h.networkActive
  · intro h
    exact ⟨h.2 .sessionActive, h.1 .sessionBurst, h.1 .sessionDaily, h.2 .networkActive,
      h.1 .networkBurst, h.1 .networkDaily⟩

/-- The rows `LOAD_WINDOWS_SQL` selects. -/
def Tables.loadedWindows (t : Tables) (session : Bytes32) (networks : List Bytes32) :
    List WindowCounter :=
  t.windowCounters.rows.filter fun row =>
    presented session networks row.scopeKind row.scopeDigest

theorem loadWindows_ok {t t' : Tables} {session : Bytes32} {networks : List Bytes32} {now : Nat}
    {windows : WindowDimension → Option GuestAbuseWindowUsage} :
    (loadWindows session networks now).run t = .ok (windows, t') ↔
      NotAhead t now session networks ∧
        windows = (t.loadedWindows session networks).foldl (addWindow now) (fun _ => none) ∧
        t' = t := by
  unfold loadWindows
  rw [Tx.run_bind_get, Tx.run_bind_ok]
  have hchecked : (∀ row ∈ t.loadedWindows session networks, row.usageCount ≤ maxCounterValue ∧
      row.resetAt ≤ now + expectedWindowSeconds row.dimension) ↔
      NotAhead t now session networks := by
    constructor
    · intro h row hrow hpresented
      exact (h row (List.mem_filter.mpr ⟨hrow, hpresented⟩)).2
    · intro h row hrow
      obtain ⟨hmem, hpresented⟩ := List.mem_filter.mp hrow
      exact ⟨(t.windowCounters.checked row hmem).usage, h row hmem hpresented⟩
  constructor
  · intro h
    obtain ⟨_, _, hensure, h⟩ := h
    obtain ⟨hcheck, rfl⟩ := Tx.run_ensure_ok.mp hensure
    obtain ⟨rfl, rfl⟩ := Tx.run_pure_ok.mp h
    exact ⟨hchecked.mp hcheck, rfl, rfl⟩
  · intro h
    obtain ⟨hcheck, rfl, rfl⟩ := h
    exact ⟨(), t', Tx.run_ensure_of (hchecked.mpr hcheck) _, rfl⟩

def Tables.loadedActive (t : Tables) (session : Bytes32) (networks : List Bytes32) :
    List ActiveCounter :=
  t.activeCounters.rows.filter fun row =>
    presented session networks row.scopeKind row.scopeDigest

theorem loadActive_ok {t t' : Tables} {session : Bytes32} {networks : List Bytes32}
    {active : ActiveDimension → Option Nat} :
    (loadActive session networks).run t = .ok (active, t') ↔
      active = (t.loadedActive session networks).foldl addActive (fun _ => none) ∧ t' = t := by
  unfold loadActive
  rw [Tx.run_bind_get, Tx.run_bind_ok]
  constructor
  · intro h
    obtain ⟨_, _, hensure, h⟩ := h
    obtain ⟨-, rfl⟩ := Tx.run_ensure_ok.mp hensure
    obtain ⟨rfl, rfl⟩ := Tx.run_pure_ok.mp h
    exact ⟨rfl, rfl⟩
  · intro h
    obtain ⟨rfl, rfl⟩ := h
    have hcheck : ∀ row ∈ t'.activeCounters.rows.filter fun row =>
        presented session networks row.scopeKind row.scopeDigest,
        row.activeCount ≤ maxCounterValue := by
      intro row hrow
      exact (t'.activeCounters.checked row (List.mem_filter.mp hrow).1).active
    exact ⟨(), t', Tx.run_ensure_of hcheck _, rfl⟩

theorem loaded_window_count (t : Tables) (now : Nat) (session : Bytes32)
    {networks : List Bytes32} (hnetworks : networks.Nodup) (dimension : WindowDimension) :
    (((t.loadedWindows session networks).foldl (addWindow now) (fun _ => none) dimension).map
        GuestAbuseWindowUsage.count).getD 0 =
      t.windowUsage now session networks dimension := by
  rw [foldl_addWindow_count, ← sum_loaded_windows t now session hnetworks]
  exact Nat.zero_add _

theorem loaded_active_count (t : Tables) (session : Bytes32) {networks : List Bytes32}
    (hnetworks : networks.Nodup) (dimension : ActiveDimension) :
    ((t.loadedActive session networks).foldl addActive (fun _ => none) dimension).getD 0 =
      t.activeUsage session networks dimension := by
  rw [foldl_addActive_count, ← sum_loaded_active t session hnetworks]
  exact Nat.zero_add _

/-- The usage is what the tables count, and every reset lies in its window. -/
structure Loaded (t : Tables) (now : Nat) (session : Bytes32) (networks : List Bytes32)
    (usage : GuestAbuseUsageSnapshot) : Prop where
  notAhead : NotAhead t now session networks
  windows : ∀ dimension,
    (usage.window dimension).count = t.windowUsage now session networks dimension
  resets : ∀ dimension, now < (usage.window dimension).resetAt ∧
    (usage.window dimension).resetAt ≤ now + expectedWindowSeconds dimension
  active : ∀ dimension, usage.active dimension = t.activeUsage session networks dimension

theorem loadAbuseCounterState_ok {t t' : Tables} {session network : Bytes32}
    {networks : List Bytes32} {now : Nat} {usage : GuestAbuseUsageSnapshot}
    (hnetworks : networks.Nodup)
    (h : (loadAbuseCounterState session network networks now).run t = .ok (usage, t')) :
    Opened t t' session network now ∧ Loaded t' now session networks usage := by
  unfold loadAbuseCounterState at h
  rw [Tx.run_bind_ok] at h
  obtain ⟨_, mid, hinsert, h⟩ := h
  rw [Tx.run_bind_ok] at h
  obtain ⟨windows, _, hwindows, h⟩ := h
  obtain ⟨hahead, rfl, rfl⟩ := loadWindows_ok.mp hwindows
  rw [Tx.run_bind_ok] at h
  obtain ⟨active, _, hactive, h⟩ := h
  obtain ⟨rfl, rfl⟩ := loadActive_ok.mp hactive
  split at h
  · exact (Tx.run_fail_ok.mp h).elim
  · rename_i found husage
    obtain ⟨rfl, rfl⟩ := Tx.run_pure_ok.mp h
    obtain ⟨hcounts, hactiveCounts⟩ := usageOf_eq_some.mp husage
    refine ⟨insertCurrentRows_ok hinsert, hahead, ?_, ?_, ?_⟩
    · intro dimension
      rw [← loaded_window_count t' now session hnetworks dimension, hcounts]
      rfl
    · intro dimension
      refine foldl_addWindow_reset ?_ ?_ (usage.window dimension) (hcounts dimension)
      · intro row hrow hdimension
        rw [← hdimension]
        exact hahead row (List.mem_filter.mp hrow).1 (List.mem_filter.mp hrow).2
      · intro usage husage
        cases husage
    · intro dimension
      rw [← loaded_active_count t' session hnetworks dimension, hactiveCounts]
      rfl

/-- Loading fails only when a presented window is ahead. -/
theorem loadAbuseCounterState_of {t : Tables} {session network : Bytes32}
    {networks : List Bytes32} {now : Nat} (hmem : network ∈ networks)
    (hahead : NotAhead t now session networks) (hnow : now + 86400 < timestampEnd) :
    ∃ usage t',
      (loadAbuseCounterState session network networks now).run t = .ok (usage, t') := by
  obtain ⟨mid, hinsert⟩ := insertCurrentRows_of session network hnow t
  have hopened := insertCurrentRows_ok hinsert
  have hpresent : ∀ kind digest, digest ∈ digestsOf session [network] kind →
      presented session networks kind digest = true :=
    fun kind digest hdigest => mem_digestsOf.mp (mem_digestsOf_of_mem hmem hdigest)
  have hwindows : ∀ dimension, ((mid.loadedWindows session networks).foldl (addWindow now)
      (fun _ => none) dimension).isSome = true := by
    intro dimension
    obtain ⟨spec, hspec, rfl, hdigest⟩ := exists_windowSpec session network dimension
    obtain ⟨row, hfind, hlive⟩ := hopened.live hspec
    have hkey : Schema.key row = windowKey spec.dimension spec.digest :=
      (Table.find?_key hfind).trans (windowSpec_shape hspec).1
    simp only [Schema.key, windowKey, Prod.mk.injEq] at hkey
    refine foldl_addWindow_isSome _ _ _ _ (.inr ⟨row, List.mem_filter.mpr
      ⟨Table.find?_mem hfind, ?_⟩, hkey.2.2, hlive⟩)
    rw [hkey.1, hkey.2.1]
    exact hpresent _ _ hdigest
  have hactive : ∀ dimension, ((mid.loadedActive session networks).foldl addActive
      (fun _ => none) dimension).isSome = true := by
    intro dimension
    obtain ⟨spec, hspec, rfl, hdigest⟩ := exists_activeSpec session network dimension
    obtain ⟨row, hfind⟩ := hopened.counted hspec
    have hkey : Schema.key row = activeDimensionKey spec.dimension spec.digest :=
      (Table.find?_key hfind).trans (activeSpec_shape hspec)
    simp only [Schema.key, activeDimensionKey, Prod.mk.injEq] at hkey
    refine foldl_addActive_isSome _ _ _ (.inr ⟨row, List.mem_filter.mpr
      ⟨Table.find?_mem hfind, ?_⟩, hkey.2.2⟩)
    rw [hkey.1, hkey.2.1]
    exact hpresent _ _ hdigest
  obtain ⟨usage, husage⟩ := exists_usageOf hwindows hactive
  refine ⟨usage, mid, ?_⟩
  unfold loadAbuseCounterState
  rw [Tx.run_bind_of_ok hinsert,
    Tx.run_bind_of_ok (loadWindows_ok.mpr ⟨(hopened.notAhead_iff networks).mpr hahead, rfl, rfl⟩),
    Tx.run_bind_of_ok (loadActive_ok.mpr ⟨rfl, rfl⟩), husage]
  rfl

theorem Loaded.valid {t : Tables} {now : Nat} {session : Bytes32} {networks : List Bytes32}
    {usage : GuestAbuseUsageSnapshot} (hloaded : Loaded t now session networks usage)
    (hnow : now + 86400 < timestampEnd)
    (hwindows : ∀ dimension, t.windowUsage now session networks dimension ≤ maxCounterValue)
    (hactive : ∀ dimension, t.activeUsage session networks dimension ≤ maxCounterValue) :
    validUsage now usage = true := by
  have hend : timestampEnd ≤ uint64Max := by decide
  have hvalid : ∀ dimension, validWindowUsage now (expectedWindowSeconds dimension)
      (usage.window dimension) = true := by
    intro dimension
    have hcount := hwindows dimension
    have hreset := hloaded.resets dimension
    have hseconds : expectedWindowSeconds dimension ≤ 86400 := by cases dimension <;> decide
    rw [← hloaded.windows] at hcount
    simp only [validWindowUsage, Bool.and_eq_true, decide_eq_true_eq]
    omega
  have hcount : ∀ dimension, usage.active dimension ≤ maxCounterValue := by
    intro dimension
    rw [hloaded.active]
    exact hactive dimension
  simp only [validUsage, Bool.and_eq_true, decide_eq_true_eq]
  exact ⟨⟨⟨⟨⟨hvalid .sessionBurst, hvalid .sessionDaily⟩, hvalid .networkBurst⟩,
    hvalid .networkDaily⟩, hcount .sessionActive⟩, hcount .networkActive⟩

theorem decide_loaded {t : Tables} {now : Nat} {session network : Bytes32}
    {networks : List Bytes32} {usage : GuestAbuseUsageSnapshot} {serviceState : ServiceState}
    (hloaded : Loaded t now session networks usage) (hnow : now + 86400 < timestampEnd) :
    decideGuestAbuseAdmission ⟨session, network, now, serviceState, usage⟩ = .allowNewScan ↔
      serviceState = .opened ∧
        (∀ dimension, t.windowUsage now session networks dimension < windowLimit dimension) ∧
        ∀ dimension, t.activeUsage session networks dimension < activeLimit dimension := by
  rw [decideGuestAbuseAdmission_eq_allow, belowLimits_iff]
  simp only [hloaded.windows, hloaded.active]
  constructor
  · intro h
    exact h.2.2
  · intro h
    have hend : timestampEnd ≤ uint64Max := by decide
    refine ⟨by omega, hloaded.valid hnow (fun dimension => ?_) fun dimension => ?_, h⟩
    · have hlimit : windowLimit dimension ≤ maxCounterValue := by cases dimension <;> decide
      exact (h.2.1 dimension).le.trans hlimit
    · have hlimit : activeLimit dimension ≤ maxCounterValue := by cases dimension <;> decide
      exact (h.2.2 dimension).le.trans hlimit

/-! ### Admission -/

/-- What an admission leaves: its counters opened and one higher, and the new
reservation. -/
structure Reserved (t t' : Tables) (guestScanId : String) (session network : Bytes32) (now : Nat) :
    Prop where
  windows : ∀ spec ∈ windowSpecs session network, t'.windowCounters.find? spec.key =
    (openedWindow now spec (t.windowCounters.find? spec.key)).map (incrementWindow now).apply
  otherWindows : ∀ k, k ∉ (windowSpecs session network).map WindowCounterSpec.key →
    t'.windowCounters.find? k = t.windowCounters.find? k
  active : ∀ spec ∈ activeSpecs session network, t'.activeCounters.find? spec.key =
    (openedActive now spec (t.activeCounters.find? spec.key)).map (incrementCount now).apply
  otherActive : ∀ k, k ∉ (activeSpecs session network).map ActiveCounterSpec.key →
    t'.activeCounters.find? k = t.activeCounters.find? k
  reservations : t'.reservations.rows = t.reservations.rows ++
    [⟨guestScanId, session, network, now, now + 86400, none⟩]
  rest : t' = { t with windowCounters := t'.windowCounters, activeCounters := t'.activeCounters,
                       reservations := t'.reservations }

theorem reserve_allow {input : ReservationInput} {network : Bytes32} {rest : List Bytes32}
    {t t' : Tables} (hnetworks : input.networkSignalDigests = network :: rest)
    (hnodup : input.networkSignalDigests.Nodup)
    (hnow : input.now + 86400 < timestampEnd)
    (h : (reserveGuestAbuseCounters input).run t = .ok (.allowNewScan, t')) :
    Admissible t input.now input.guestSessionScope input.networkSignalDigests ∧
      Reserved t t' input.guestScanId input.guestSessionScope network input.now := by
  unfold reserveGuestAbuseCounters at h
  simp only [hnetworks] at h
  rw [← hnetworks, Tx.run_bind_get] at h
  split at h
  · exact (Tx.run_fail_ok.mp h).elim
  · rename_i serviceState hcontrol
    rw [Tx.run_bind_ok] at h
    obtain ⟨usage, opened, hload, h⟩ := h
    obtain ⟨hopened, hloaded⟩ := loadAbuseCounterState_ok hnodup hload
    split at h
    · rename_i hdecision
      exact absurd (Tx.run_pure_ok.mp h).1.symm hdecision
    · rename_i hdecision
      rw [not_not, decide_loaded hloaded hnow] at hdecision
      obtain ⟨rfl, hwindows, hactive⟩ := hdecision
      refine ⟨⟨hcontrol, (hopened.notAhead_iff _).mp hloaded.notAhead, ?_, ?_⟩, ?_⟩
      · intro dimension
        rw [← hopened.windowUsage]
        exact hwindows dimension
      · intro dimension
        rw [← hopened.activeUsage]
        exact hactive dimension
      · rw [Tx.run_bind_ok] at h
        obtain ⟨_, _, hincrement, h⟩ := h
        obtain ⟨nextWindows, rfl, hnextWindows, hkeptWindows⟩ :=
          (incrementWindows_changes _).forM (windowSpecs_nodup _ network) hincrement
        rw [Tx.run_bind_ok] at h
        obtain ⟨_, _, hincrement, h⟩ := h
        obtain ⟨nextActive, rfl, hnextActive, hkeptActive⟩ :=
          (incrementActive_changes _).forM (activeSpecs_nodup _ network) hincrement
        rw [Tx.run_bind_ok] at h
        obtain ⟨_, _, hinsert, h⟩ := h
        obtain ⟨-, -, reservations, hrows, rfl⟩ := Tx.run_insert_ok.mp hinsert
        obtain ⟨-, rfl⟩ := Tx.run_pure_ok.mp h
        have hrest := hopened.rest
        have hreservations : opened.reservations = t.reservations := by rw [hrest]
        refine ⟨?_, ?_, ?_, ?_, ?_, ?_⟩
        · intro spec hspec
          exact (hnextWindows spec hspec).trans
            (congrArg (Option.map _) (hopened.windows spec hspec))
        · intro k hk
          exact (hkeptWindows k hk).trans (hopened.otherWindows k hk)
        · intro spec hspec
          exact (hnextActive spec hspec).trans
            (congrArg (Option.map _) (hopened.active spec hspec))
        · intro k hk
          exact (hkeptActive k hk).trans (hopened.otherActive k hk)
        · rw [← hreservations]
          exact hrows
        · rw [hrest]
          rfl

theorem contribution_le_windowUsage (t : Tables) (now : Nat) {session digest : Bytes32}
    {networks : List Bytes32} {dimension : WindowDimension}
    (hdigest : digest ∈ digestsOf session networks dimension.scopeKind) :
    t.windowCounters.contribution (liveUsage now) (windowKey dimension digest) ≤
      t.windowUsage now session networks dimension :=
  List.le_sum_of_mem (List.mem_map.mpr ⟨digest, hdigest, rfl⟩)

theorem contribution_le_activeUsage (t : Tables) {session digest : Bytes32}
    {networks : List Bytes32} {dimension : ActiveDimension}
    (hdigest : digest ∈ digestsOf session networks dimension.scopeKind) :
    t.activeCounters.contribution ActiveCounter.activeCount (activeDimensionKey dimension digest) ≤
      t.activeUsage session networks dimension :=
  List.le_sum_of_mem (List.mem_map.mpr ⟨digest, hdigest, rfl⟩)

def WindowReady (now : Nat) (found : Option WindowCounter) : Prop :=
  ∃ row, found = some row ∧ now < row.resetAt ∧
    row.resetAt ≤ now + row.dimension.maximumInterval ∧ row.usageCount < 1000000

def ActiveReady (found : Option ActiveCounter) : Prop :=
  ∃ row, found = some row ∧ row.activeCount < 1000000

theorem incrementWindows_of {now : Nat} {spec : WindowCounterSpec} {t : Tables}
    (h : WindowReady now (t.windowCounters.find? spec.key)) :
    ∃ t', (incrementWindows now spec).run t = .ok ((), t') := by
  obtain ⟨row, hfind, hlive, hbound, hcount⟩ := h
  have hrow : row.Constraints := Table.find?_check hfind
  have hcheck : ((incrementWindow now).apply row).Constraints :=
    ⟨hcount, hrow.scope_shape, hlive, hbound, hrow.range⟩
  exact Tx.exists_updateOne_unit hfind trivial trivial hcheck

theorem incrementActive_of {now : Nat} {spec : ActiveCounterSpec} {t : Tables}
    (hnow : now < timestampEnd) (h : ActiveReady (t.activeCounters.find? spec.key)) :
    ∃ t', (incrementActive now spec).run t = .ok ((), t') := by
  obtain ⟨row, hfind, hcount⟩ := h
  have hrow : row.Constraints := Table.find?_check hfind
  have hcheck : ((incrementCount now).apply row).Constraints :=
    ⟨hcount, hrow.scope_shape, hnow⟩
  exact Tx.exists_updateOne_unit hfind trivial trivial hcheck

theorem Opened.window_ready {t t' : Tables} {session network : Bytes32} {networks : List Bytes32}
    {now : Nat} {spec : WindowCounterSpec} (h : Opened t t' session network now)
    (hmem : network ∈ networks) (hadmissible : Admissible t now session networks)
    (hspec : spec ∈ windowSpecs session network) :
    WindowReady now (t'.windowCounters.find? spec.key) := by
  obtain ⟨row, hfind, hlive⟩ := h.live hspec
  obtain ⟨hkey, hseconds, hinterval, -, -⟩ := windowSpec_shape hspec
  have hrowKey : Schema.key row = windowKey spec.dimension spec.digest :=
    (Table.find?_key hfind).trans hkey
  simp only [Schema.key, windowKey, Prod.mk.injEq] at hrowKey
  obtain ⟨hkind, hdigest, hdimension⟩ := hrowKey
  have hpresented := mem_digestsOf_of_mem hmem (windowSpec_digest hspec)
  refine ⟨row, hfind, hlive, ?_, ?_⟩
  · have hahead := (h.notAhead_iff networks).mpr hadmissible.notAhead row (Table.find?_mem hfind)
      (by rw [hkind, hdigest]; exact mem_digestsOf.mp hpresented)
    rw [hdimension] at hahead ⊢
    omega
  · have hle := contribution_le_windowUsage t' now hpresented
    rw [h.windowUsage, ← hkey, Table.contribution, hfind, Option.map_some, Option.getD_some,
      liveUsage, if_pos hlive] at hle
    have hlimit := hadmissible.windows spec.dimension
    have hmax : windowLimit spec.dimension ≤ 1000000 := by cases spec.dimension <;> decide
    omega

theorem Opened.active_ready {t t' : Tables} {session network : Bytes32} {networks : List Bytes32}
    {now : Nat} {spec : ActiveCounterSpec} (h : Opened t t' session network now)
    (hmem : network ∈ networks) (hadmissible : Admissible t now session networks)
    (hspec : spec ∈ activeSpecs session network) :
    ActiveReady (t'.activeCounters.find? spec.key) := by
  obtain ⟨row, hfind⟩ := h.counted hspec
  refine ⟨row, hfind, ?_⟩
  have hle := contribution_le_activeUsage t' (mem_digestsOf_of_mem hmem (activeSpec_digest hspec))
  rw [h.activeUsage, ← activeSpec_shape hspec, Table.contribution, hfind, Option.map_some,
    Option.getD_some] at hle
  have hlimit := hadmissible.active spec.dimension
  have hmax : activeLimit spec.dimension ≤ 1000000 := by cases spec.dimension <;> decide
  omega

/-- An admissible request is admitted. -/
theorem reserve_of_admissible {input : ReservationInput} {network : Bytes32}
    {rest : List Bytes32} {t : Tables}
    (hnetworks : input.networkSignalDigests = network :: rest)
    (hnodup : input.networkSignalDigests.Nodup) (hnow : input.now + 86400 < timestampEnd)
    (hadmissible : Admissible t input.now input.guestSessionScope input.networkSignalDigests)
    (hfresh : t.reservations.find? input.guestScanId = none) :
    ∃ t', (reserveGuestAbuseCounters input).run t = .ok (.allowNewScan, t') := by
  have hmem : network ∈ input.networkSignalDigests := by simp [hnetworks]
  have hnow' : input.now < timestampEnd := by omega
  obtain ⟨usage, opened, hload⟩ := loadAbuseCounterState_of
    (t := t) hmem hadmissible.notAhead hnow
  obtain ⟨hopened, hloaded⟩ := loadAbuseCounterState_ok hnodup hload
  have hdecision : decideGuestAbuseAdmission
      ⟨input.guestSessionScope, network, input.now, .opened, usage⟩ = .allowNewScan := by
    refine (decide_loaded hloaded hnow).mpr ⟨rfl, fun dimension => ?_, fun dimension => ?_⟩
    · rw [hopened.windowUsage]
      exact hadmissible.windows dimension
    · rw [hopened.activeUsage]
      exact hadmissible.active dimension
  obtain ⟨windowsDone, hwindows⟩ := (incrementWindows_changes input.now).forM_ok
    (fun _ => WindowReady input.now) (fun _ _ _ hready => incrementWindows_of hready)
    (windowSpecs_nodup input.guestSessionScope network)
    (fun _ hspec => hopened.window_ready hmem hadmissible hspec)
  obtain ⟨nextWindows, rfl, -, -⟩ :=
    (incrementWindows_changes _).forM (windowSpecs_nodup _ network) hwindows
  obtain ⟨activeDone, hactive⟩ := (incrementActive_changes input.now).forM_ok
    (s := windowsTable.put nextWindows opened)
    (fun _ => ActiveReady) (fun _ _ _ hready => incrementActive_of hnow' hready)
    (activeSpecs_nodup input.guestSessionScope network)
    (fun _ hspec => hopened.active_ready hmem hadmissible hspec)
  obtain ⟨nextActive, rfl, -, -⟩ :=
    (incrementActive_changes _).forM (activeSpecs_nodup _ network) hactive
  have hreservations : opened.reservations = t.reservations := by rw [hopened.rest]
  let reservation : Reservation :=
    ⟨input.guestScanId, input.guestSessionScope, network, input.now, input.now + 86400, none⟩
  have hcheck : reservation.Constraints := ⟨rfl, by simp [reservation], hnow⟩
  have hdistinct : ∀ other ∈ opened.reservations.rows, Schema.Distinct other reservation := by
    rw [hreservations]
    exact Table.find?_eq_none.mp hfresh
  obtain ⟨reservations, hrows⟩ := Table.exists_inserted hcheck hdistinct
  unfold reserveGuestAbuseCounters
  simp only [hnetworks]
  rw [← hnetworks, Tx.run_bind_get]
  simp only [hadmissible.control]
  rw [Tx.run_bind_of_ok hload]
  simp only [hdecision, ne_eq, not_true, if_false]
  rw [Tx.run_bind_of_ok hwindows, Tx.run_bind_of_ok hactive]
  exact ⟨_, Tx.run_bind_ok.mpr ⟨(), _, Tx.run_insert_ok.mpr
    ⟨hcheck, hdistinct, reservations, hrows, rfl⟩, rfl⟩⟩

end Outscan

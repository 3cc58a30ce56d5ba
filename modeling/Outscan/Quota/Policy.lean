import Outscan.Quota.Slots
import Outscan.Quota.Windows

/-! Counters within their limits: in every reachable state the policy has a
valid context to decide on. -/
namespace Outscan

open Relational Transactional Lifecycle

/-! ### Windows -/

def WindowsBounded (t : Tables) : Prop :=
  ∀ row ∈ t.windowCounters.rows, row.usageCount ≤ windowLimit row.dimension

theorem WindowsBounded.congr {t t' : Tables} (h : WindowsBounded t)
    (hsame : t'.windowCounters = t.windowCounters) : WindowsBounded t' := by
  unfold WindowsBounded at h ⊢
  rw [hsame]
  exact h

theorem windowLimit_pos (dimension : WindowDimension) : 0 < windowLimit dimension := by
  cases dimension <;> decide

theorem Reserved.windowsBounded {t t' : Tables} {id : String} {session network : Bytes32}
    {networks : List Bytes32} {now : Nat} (h : Reserved t t' id session network now)
    (hmem : network ∈ networks)
    (hbelow : ∀ dimension, t.windowUsage now session networks dimension < windowLimit dimension)
    (hbounded : WindowsBounded t) : WindowsBounded t' := by
  intro row hrow
  have hfind := Table.find?_of_mem hrow
  by_cases hcase : Schema.key row ∈ (windowSpecs session network).map WindowCounterSpec.key
  · obtain ⟨spec, hspec, hkey⟩ := List.mem_map.mp hcase
    have hcontribution := h.window_contribution spec.dimension spec.digest
    have hlimit := hbelow spec.dimension
    have hle := contribution_le_windowUsage t now
      (mem_digestsOf_of_mem hmem (windowSpec_digest hspec))
    have hdimension : row.dimension = spec.dimension := congrArg (fun key => key.2.2) hkey.symm
    have hlive : now < row.resetAt := by
      rw [← hkey, h.windows spec hspec] at hfind
      obtain ⟨-, -, -, hseconds, -⟩ := windowSpec_shape hspec
      cases hold : t.windowCounters.find? spec.key with
      | none =>
        rw [hold] at hfind
        cases hfind
        change now < now + spec.windowSeconds
        omega
      | some old =>
        rw [hold] at hfind
        simp only [openedWindow, Option.map_some, Option.some.injEq] at hfind
        subst hfind
        split
        · change now < now + spec.windowSeconds
          omega
        · rename_i hlive
          exact Nat.lt_of_not_le hlive
    rw [← (windowSpec_shape hspec).1, Table.contribution, hkey, hfind, Option.map_some,
      Option.getD_some, liveUsage, if_pos hlive, ← hkey, (windowSpec_shape hspec).1]
      at hcontribution
    rw [hdimension]
    split at hcontribution <;> omega
  · rw [h.otherWindows _ hcase] at hfind
    exact hbounded row (Table.find?_mem hfind)

theorem exec_windowsBounded (node : NodeRuntime) {db : Database} (h : WindowsBounded db.val)
    (call : Call) : WindowsBounded (exec node db call).2.val := by
  cases htrusted : call.trustedNow with
  | none => exact h.congr (exec_windows_of_none node db htrusted).1
  | some now =>
    cases call with
    | createOrReplay dependencies request =>
      change WindowsBounded (createOrReplay node dependencies request db).2.val
      exact createOrReplay_tables node dependencies request h fun _ networks clear admission =>
        admission.reserved.windowsBounded (by simp [networks]) admission.admissible.windows
          (h.congr clear.windows)
    | runBatch batchSize clock locked =>
      change WindowsBounded (runBatch batchSize clock locked db).2.val
      rcases runBatch_cases batchSize clock locked db with hsame | ⟨_, -, hrun⟩
      · rw [hsame]
        exact h
      · intro row hrow
        have hfind := Table.find?_of_mem hrow
        rcases (runBatchBody_ok hrun).2 (Schema.key row) with hkept | ⟨hnone, -⟩
        · exact h row (Table.find?_mem (hkept.symm.trans hfind))
        · rw [hnone] at hfind
          cases hfind
    | _ => cases htrusted

/-! ### The service state -/

theorem quiet_control : Quiet fun t t' => t'.guestAbuseControl = t.guestAbuseControl :=
  .ofView Tables.guestAbuseControl (fun _ _ => rfl) (fun _ _ => rfl) (fun _ _ => rfl)
    fun _ _ _ => rfl

theorem deleteDueScans_control {now : Nat} {due : List GuestScan} {totals final : BatchTotals}
    {t t' : Tables} (h : (deleteDueScans now due totals).run t = .ok (final, t')) :
    t'.guestAbuseControl = t.guestAbuseControl :=
  deleteDueScans_rel (R := fun t t' => t'.guestAbuseControl = t.guestAbuseControl)
    (fun _ => rfl) (fun hfirst hsecond => hsecond.trans hfirst) (fun _ _ _ => rfl) h

theorem exec_control (node : NodeRuntime) {db : Database} (h : db.val.guestAbuseControl ≠ none)
    (call : Call) : (exec node db call).2.val.guestAbuseControl ≠ none := by
  cases hscan : call.scan? with
  | some id =>
    rw [quiet_control.exec node db hscan]
    exact h
  | none =>
    cases call with
    | createOrReplay dependencies request =>
      change (createOrReplay node dependencies request db).2.val.guestAbuseControl ≠ none
      refine createOrReplay_tables (P := fun t => t.guestAbuseControl ≠ none) node dependencies
        request h fun {_ _ _ _ _ _ cleared _} _ _ clear admission => ?_
      rw [admission.reserved.rest]
      change cleared.guestAbuseControl ≠ none
      rw [clear.control]
      exact h
    | runBatch batchSize clock locked =>
      change (runBatch batchSize clock locked db).2.val.guestAbuseControl ≠ none
      rcases runBatch_cases batchSize clock locked db with hsame | ⟨_, -, hrun⟩
      · rw [hsame]
        exact h
      · obtain ⟨final, swept, windows, hdue, hafter, -⟩ := runBatchBody_swept hrun
        rw [hafter]
        change swept.guestAbuseControl ≠ none
        rw [deleteDueScans_control hdue]
        exact h
    | setServiceState state => exact fun hnone => by cases hnone
    | commit result transactionNow =>
      cases result with
      | none => exact h
      | some result => cases hscan
    | _ => cases hscan

/-! ### Every reachable state -/

theorem covers_digest (kind : ScopeKind) (digest : Bytes32) (db : Database) (call : Call) :
    Covers kind (fun other => decide (other = digest)) db call := by
  cases call with
  | createOrReplay dependencies request =>
    intro network hnetwork charged hcharged hscope row _ _ hrow
    simp only [decide_eq_true_eq] at hscope hrow
    rw [hrow, ← hscope]
    exact mem_digestsOf_of_mem (List.mem_of_mem_head? hnetwork) hcharged
  | _ => trivial

structure Orderly (t : Tables) : Prop where
  control : t.guestAbuseControl ≠ none
  windows : WindowsBounded t
  counted : Counted t
  held : ∀ kind digest, t.held kind digest ≤ activeLimit (activeOf kind)

theorem Reachable.orderly {node : NodeRuntime} {db : Database} (h : Reachable node db) :
    Orderly db.val := by
  refine ⟨?_, ?_, h.counted, fun kind digest => ?_⟩
  · exact Machine.Reachable.invariant (P := fun db => db.val.guestAbuseControl ≠ none)
      (fun hnone => by cases hnone) (fun _ call hdb => exec_control node hdb call) h
  · exact Machine.Reachable.invariant (P := fun db => WindowsBounded db.val)
      (fun _ hrow => by cases hrow) (fun _ call hdb => exec_windowsBounded node hdb call) h
  · obtain ⟨calls, rfl⟩ := h
    have hslots := run_heldIn_le node (Machine.Along.imp _
      (fun db call _ => covers_digest kind digest db call) (Machine.along_true _ _ calls))
    exact hslots

theorem sum_map_le {α : Type} (items : List α) (f : α → Nat) (bound : Nat)
    (h : ∀ item ∈ items, f item ≤ bound) : (items.map f).sum ≤ items.length * bound := by
  induction items with
  | nil => exact Nat.zero_le _
  | cons item rest ih =>
    have hitem := h item (List.mem_cons_self ..)
    have hrest := ih fun other hother => h other (List.mem_cons_of_mem _ hother)
    rw [List.map_cons, List.sum_cons, List.length_cons, Nat.add_one_mul]
    omega

section Usage

variable {t : Tables} {session : Bytes32} {networks : List Bytes32}

theorem digestsOf_length_le (hfew : networks.length ≤ 3) (kind : ScopeKind) :
    (digestsOf session networks kind).length ≤ 3 := by
  cases kind with
  | session =>
    change 1 ≤ 3
    decide
  | network => exact hfew

theorem Orderly.windowUsage_le (h : Orderly t) (now : Nat) (hfew : networks.length ≤ 3)
    (dimension : WindowDimension) :
    t.windowUsage now session networks dimension ≤ maxCounterValue := by
  have hsum := sum_map_le (digestsOf session networks dimension.scopeKind)
    (fun digest => t.windowCounters.contribution (liveUsage now) (windowKey dimension digest)) 100
    fun digest _ => by
      unfold Table.contribution
      cases hfind : t.windowCounters.find? (windowKey dimension digest) with
      | none => exact Nat.zero_le _
      | some row =>
        have hrow := h.windows row (Table.find?_mem hfind)
        have hlimit : windowLimit row.dimension ≤ 100 := by cases row.dimension <;> decide
        change liveUsage now row ≤ 100
        unfold liveUsage
        split <;> omega
  have hlength := @digestsOf_length_le session _ hfew dimension.scopeKind
  unfold Tables.windowUsage maxCounterValue
  omega

theorem Orderly.activeUsage_le (h : Orderly t) (hfew : networks.length ≤ 3)
    (dimension : ActiveDimension) : t.activeUsage session networks dimension ≤ maxCounterValue := by
  obtain ⟨kind, rfl⟩ : ∃ kind, dimension = activeOf kind := by
    cases dimension with
    | sessionActive => exact ⟨.session, rfl⟩
    | networkActive => exact ⟨.network, rfl⟩
  rw [h.counted.activeUsage_eq]
  have hsum := sum_map_le (digestsOf session networks kind) (t.held kind) 4 fun digest _ => by
    have hheld := h.held kind digest
    have hlimit : activeLimit (activeOf kind) ≤ 4 := by cases kind <;> decide
    exact hheld.trans hlimit
  have hlength := @digestsOf_length_le session _ hfew kind
  unfold maxCounterValue
  omega

end Usage

theorem reserve_of_loaded (input : ReservationInput) (t : Tables) {opened : Tables} {network : Bytes32}
    {rest : List Bytes32} {serviceState : ServiceState} {usage : GuestAbuseUsageSnapshot}
    (hnetworks : input.networkSignalDigests = network :: rest)
    (hnodup : input.networkSignalDigests.Nodup) (hnow : input.now + 86400 < timestampEnd)
    (hcontrol : t.guestAbuseControl = some serviceState)
    (hload : (loadAbuseCounterState input.guestSessionScope network input.networkSignalDigests
      input.now).run t = .ok (usage, opened))
    (hfresh : t.reservations.find? input.guestScanId = none) :
    ∃ t', (reserveGuestAbuseCounters input).run t = .ok (decideGuestAbuseAdmission
      ⟨input.guestSessionScope, network, input.now, serviceState, usage⟩, t') := by
  obtain ⟨hopened, hloaded⟩ := loadAbuseCounterState_ok hnodup hload
  by_cases hallow : decideGuestAbuseAdmission
      ⟨input.guestSessionScope, network, input.now, serviceState, usage⟩ = .allowNewScan
  · obtain ⟨hopen, hwindows, hactive⟩ := (decide_loaded hloaded hnow).mp hallow
    have hahead := (hopened.notAhead_iff _).mp hloaded.notAhead
    have hadmissible : Admissible t input.now input.guestSessionScope
        input.networkSignalDigests := by
      refine ⟨by rw [hcontrol, hopen], hahead, fun dimension => ?_, fun dimension => ?_⟩
      · rw [← hopened.windowUsage]
        exact hwindows dimension
      · rw [← hopened.activeUsage]
        exact hactive dimension
    rw [hallow]
    exact reserve_of_admissible hnetworks hnodup hnow hadmissible hfresh
  · refine ⟨opened, ?_⟩
    unfold reserveGuestAbuseCounters
    simp only [hnetworks]
    rw [← hnetworks, Tx.run_bind_get]
    simp only [hcontrol]
    rw [Tx.run_bind_of_ok hload]
    simp only [hallow, ne_eq, not_false_iff, if_true]
    rfl

/-- In an orderly state the policy decides on every request that is not behind
the windows it presents. -/
theorem reserve_decides {input : ReservationInput} {t : Tables} (horderly : Orderly t)
    (hne : input.networkSignalDigests ≠ []) (hfew : input.networkSignalDigests.length ≤ 3)
    (hnodup : input.networkSignalDigests.Nodup) (hnow : input.now + 86400 < timestampEnd)
    (hahead : NotAhead t input.now input.guestSessionScope input.networkSignalDigests)
    (hfresh : t.reservations.find? input.guestScanId = none) :
    ∃ decision t', (reserveGuestAbuseCounters input).run t = .ok (decision, t') ∧
      decision ≠ .invalidAbuseContext := by
  obtain ⟨network, rest, hnetworks⟩ := List.exists_cons_of_ne_nil hne
  have hmem : network ∈ input.networkSignalDigests := by simp [hnetworks]
  obtain ⟨serviceState, hcontrol⟩ := Option.ne_none_iff_exists'.mp horderly.control
  obtain ⟨usage, opened, hload⟩ := loadAbuseCounterState_of (t := t) hmem hahead hnow
  obtain ⟨hopened, hloaded⟩ := loadAbuseCounterState_ok hnodup hload
  have hvalid := hloaded.valid hnow
    (fun dimension => hopened.windowUsage _ dimension ▸ horderly.windowUsage_le _ hfew dimension)
    (fun dimension => hopened.activeUsage _ dimension ▸ horderly.activeUsage_le hfew dimension)
  have hle : input.now ≤ uint64Max := by
    have hend : timestampEnd ≤ uint64Max := by decide
    omega
  have hdecided : decideGuestAbuseAdmission
      ⟨input.guestSessionScope, network, input.now, serviceState, usage⟩ ≠ .invalidAbuseContext :=
    decideGuestAbuseAdmission_ne_invalid hle hvalid
  obtain ⟨t', hrun⟩ := reserve_of_loaded input t hnetworks hnodup hnow hcontrol hload hfresh
  exact ⟨_, t', hrun, hdecided⟩

end Outscan

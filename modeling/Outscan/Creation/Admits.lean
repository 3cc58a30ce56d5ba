import Outscan.Creation.Progress
import Outscan.Quota.Slots

/-! The exact condition under which a request is admitted, in terms of the tables
it finds. -/
namespace Outscan

open Relational Transactional Lifecycle

def Admits (node : NodeRuntime) (dependencies : GuestPersistenceDependencies)
    (request : PersistGuestScanRequest) (db : Database) : Prop :=
  ∃ action guestScanId token expiresAt expiresIn,
    (createOrReplay node dependencies request db).1 =
      .ok (some action) guestScanId token expiresAt expiresIn

def PersistGuestScanResult.isNew : PersistGuestScanResult → Bool
  | .ok (some _) _ _ _ _ => true
  | _ => false

theorem admits_iff_isNew {node : NodeRuntime} {dependencies : GuestPersistenceDependencies}
    {request : PersistGuestScanRequest} {db : Database} :
    Admits node dependencies request db ↔
      (createOrReplay node dependencies request db).1.isNew = true := by
  unfold Admits
  cases (createOrReplay node dependencies request db).1 with
  | ok action guestScanId token expiresAt expiresIn =>
    cases action <;> simp [PersistGuestScanResult.isNew]
  | _ => simp [PersistGuestScanResult.isNew]

instance (node : NodeRuntime) (dependencies : GuestPersistenceDependencies)
    (request : PersistGuestScanRequest) (db : Database) :
    Decidable (Admits node dependencies request db) :=
  decidable_of_iff _ admits_iff_isNew.symm

def Tables.storedId (t : Tables) (request : SnapshotRequest) : Option String :=
  (t.lookup request.guestSessionScope request.idempotencyKey).map GuestScan.id

/-- The open slots of these digests, but for those of the scans in `gone`. -/
def Tables.slots (t : Tables) (kind : ScopeKind) (digests : List Bytes32)
    (gone : List (Option String)) : Nat :=
  t.reservations.rows.countP fun row => row.released.isNone &&
    decide (row.digest kind ∈ digests) && !gone.contains (some row.guestScanId)

/-! ### Slots -/

theorem sum_countP_eq {ρ : Type} (rows : List ρ) (p : ρ → Bool) (f : ρ → Bytes32)
    {digests : List Bytes32} (hnodup : digests.Nodup) :
    (digests.map fun digest => rows.countP fun row => p row && decide (f row = digest)).sum =
      rows.countP fun row => p row && decide (f row ∈ digests) := by
  induction rows with
  | nil => simp
  | cons row rest ih =>
    simp only [List.countP_cons, Bool.and_eq_true, decide_eq_true_eq]
    rw [← ih, List.sum_map_add]
    congr 1
    by_cases hp : p row = true
    · simp only [hp, true_and]
      clear ih
      induction digests with
      | nil => simp
      | cons digest others ihd =>
        obtain ⟨hnot, hothers⟩ := List.nodup_cons.mp hnodup
        rw [List.map_cons, List.sum_cons, ihd hothers]
        by_cases heq : f row = digest
        · have hmem : f row ∉ others := heq ▸ hnot
          simp [heq, hnot]
        · simp [heq]
    · simp [hp]

theorem Counted.activeUsage_eq_slots {t : Tables} (hcounted : Counted t) (session : Bytes32)
    {networks : List Bytes32} (hnodup : networks.Nodup) (kind : ScopeKind) :
    t.activeUsage session networks (activeOf kind) =
      t.slots kind (digestsOf session networks kind) [] := by
  rw [hcounted.activeUsage_eq]
  have hsum := sum_countP_eq t.reservations.rows (fun row => row.released.isNone)
    (fun row => row.digest kind) (@digestsOf_nodup session _ hnodup kind)
  refine hsum.trans (List.countP_congr fun row _ => ?_)
  simp

section Cleared

variable {now : Nat} {t cleared : Tables} {existing : Option GuestScan} {action : CreateAction}

theorem Cleared.reservations_rows (h : Cleared now t existing action cleared) :
    cleared.reservations.rows =
      t.reservations.rows.filter fun row =>
        !decide (action.removes existing = some row.guestScanId) := by
  cases h with
  | create existing =>
    exact (List.filter_eq_self.mpr fun row _ => by simp [CreateAction.removes]).symm
  | replaceExpired row released release =>
    have hgone : ∀ rows : List Reservation,
        (rows.filter fun other => !decide (other.guestScanId = row.id)) =
          rows.filter fun other =>
            !decide (CreateAction.replaceExpired.removes (some row) = some other.guestScanId) := by
      intro rows
      refine List.filter_congr fun other _ => ?_
      simp [CreateAction.removes, eq_comm]
    rw [← hgone]
    change (released.reservations.rows.filter fun other => !decide (other.guestScanId = row.id)) = _
    obtain ⟨_, -, ⟨-, rfl⟩ | ⟨-, -, -, active, -, reservations, -, -, hrows, rfl⟩⟩ := release
    · rfl
    · change (reservations.rows.filter fun other => !decide (other.guestScanId = row.id)) = _
      rw [hrows]
      refine Table.filter_edited _ _ _ fun other hkey => ?_
      have hid : other.guestScanId = row.id := hkey
      simp [hid]

theorem Cleared.slots (h : Cleared now t existing action cleared) (kind : ScopeKind)
    (digests : List Bytes32) (gone : List (Option String)) :
    cleared.slots kind digests gone = t.slots kind digests (action.removes existing :: gone) := by
  unfold Tables.slots
  rw [h.reservations_rows, List.countP_filter]
  refine List.countP_congr fun row _ => ?_
  rw [List.contains_cons]
  by_cases hgone : action.removes existing = some row.guestScanId
  · simp [hgone]
  · have hgone' : ¬ some row.guestScanId = action.removes existing := fun heq => hgone heq.symm
    simp [hgone, hgone']

end Cleared

theorem Released.removable {id : String} {now : Nat} {reason : ReleaseReason} {t t' : Tables}
    (h : Released id now reason t t') (hscan : (t.guestScans.find? id).isSome = true) :
    Removable t id now := by
  obtain ⟨row, hfind, hcase⟩ := h
  refine ⟨hscan, row, hfind, fun hnone => ?_⟩
  rcases hcase with ⟨hreleased, -⟩ | ⟨-, hreserved, hdeadline, -⟩
  · rw [hnone] at hreleased
    cases hreleased
  · exact ⟨hreserved, hdeadline⟩

/-! ### The condition -/

/-- The tables have room for the request: a free id, an old scan that can be
removed, an open service and no limit reached. -/
structure Ready (t : Tables) (request : SnapshotRequest) (guestScanId : String) : Prop where
  free : t.storedId request = some guestScanId ∨ t.guestScans.find? guestScanId = none
  removable : ∀ id ∈ t.storedId request, Removable t id request.now
  control : t.guestAbuseControl = some .opened
  notAhead : NotAhead t request.now request.guestSessionScope request.networkSignalDigests
  windows : ∀ dimension, t.windowUsage request.now request.guestSessionScope
    request.networkSignalDigests dimension < windowLimit dimension
  slots : ∀ kind, t.slots kind (digestsOf request.guestSessionScope request.networkSignalDigests
    kind) [t.storedId request] < activeLimit (activeOf kind)

section Admission

variable {node : NodeRuntime} {dependencies : GuestPersistenceDependencies}
  {request : SnapshotRequest} {t cleared : Tables} {action : CreateAction}
  {guestScanId token : String} {nonce : Bytes32}

theorem Offered.removes (hwell : request.WellFormed node)
    (h : Offered node dependencies request t action guestScanId token nonce) :
    action.removes (t.lookup request.guestSessionScope request.idempotencyKey) =
      t.storedId request := by
  unfold Tables.storedId
  rcases h.existing hwell with ⟨rfl, hnone⟩ | ⟨row, rfl, hrow, -⟩
  · rw [hnone]
    rfl
  · rfl

theorem Offered.exists_cleared (hwell : request.WellFormed node) (hcounted : Counted t)
    (h : Offered node dependencies request t action guestScanId token nonce)
    (hremovable : ∀ id ∈ t.storedId request, Removable t id request.now) :
    ∃ cleared, (removeExpired (t.lookup request.guestSessionScope request.idempotencyKey)
        request.now action).run t = .ok ((), cleared) ∧
      Cleared request.now t (t.lookup request.guestSessionScope request.idempotencyKey) action
        cleared := by
  rcases h.existing hwell with ⟨rfl, hnone⟩ | ⟨row, rfl, hrow, -⟩
  · exact ⟨t, rfl, .create _⟩
  · have hid : row.id ∈ t.storedId request := by
      unfold Tables.storedId
      rw [hrow]
      rfl
    obtain ⟨cleared, hclear⟩ := removeExpired_of hcounted (hremovable _ hid)
    rw [hrow]
    exact ⟨cleared, hclear, removeExpired_ok hclear⟩

theorem exists_activeOf (dimension : ActiveDimension) : ∃ kind, dimension = activeOf kind := by
  cases dimension with
  | sessionActive => exact ⟨.session, rfl⟩
  | networkActive => exact ⟨.network, rfl⟩

theorem admissible_cleared_iff (hwell : request.WellFormed node) (hcounted : Counted t)
    (hoffered : Offered node dependencies request t action guestScanId token nonce)
    (hcleared : Cleared request.now t
      (t.lookup request.guestSessionScope request.idempotencyKey) action cleared) :
    Admissible cleared request.now request.guestSessionScope request.networkSignalDigests ↔
      t.guestAbuseControl = some .opened ∧
      NotAhead t request.now request.guestSessionScope request.networkSignalDigests ∧
      (∀ dimension, t.windowUsage request.now request.guestSessionScope
        request.networkSignalDigests dimension < windowLimit dimension) ∧
      ∀ kind, t.slots kind (digestsOf request.guestSessionScope request.networkSignalDigests kind)
        [t.storedId request] < activeLimit (activeOf kind) := by
  have hactive : ∀ kind, cleared.activeUsage request.guestSessionScope
      request.networkSignalDigests (activeOf kind) =
      t.slots kind (digestsOf request.guestSessionScope request.networkSignalDigests kind)
        [t.storedId request] := by
    intro kind
    rw [(hcleared.counted hcounted).activeUsage_eq_slots _ hwell.nodup, hcleared.slots,
      hoffered.removes hwell]
  have hahead : NotAhead cleared request.now request.guestSessionScope
      request.networkSignalDigests ↔
      NotAhead t request.now request.guestSessionScope request.networkSignalDigests := by
    unfold NotAhead
    rw [hcleared.windows]
  have husage : ∀ dimension, cleared.windowUsage request.now request.guestSessionScope
      request.networkSignalDigests dimension = t.windowUsage request.now
        request.guestSessionScope request.networkSignalDigests dimension := by
    intro dimension
    unfold Tables.windowUsage
    rw [hcleared.windows]
  constructor
  · intro h
    refine ⟨hcleared.control ▸ h.control, hahead.mp h.notAhead, fun dimension => ?_, fun kind => ?_⟩
    · rw [← husage]
      exact h.windows dimension
    · rw [← hactive]
      exact h.active (activeOf kind)
  · rintro ⟨hcontrol, hnotAhead, hwindows, hslots⟩
    refine ⟨hcleared.control.trans hcontrol, hahead.mpr hnotAhead, fun dimension => ?_,
      fun dimension => ?_⟩
    · rw [husage]
      exact hwindows dimension
    · obtain ⟨kind, rfl⟩ := exists_activeOf dimension
      rw [hactive]
      exact hslots kind

theorem free_cleared_iff (hwell : request.WellFormed node)
    (hoffered : Offered node dependencies request t action guestScanId token nonce)
    (hcleared : Cleared request.now t
      (t.lookup request.guestSessionScope request.idempotencyKey) action cleared) :
    cleared.guestScans.find? guestScanId = none ↔
      t.storedId request = some guestScanId ∨ t.guestScans.find? guestScanId = none := by
  rw [← Tables.aggregate?_eq_none, ← Tables.aggregate?_eq_none, hcleared.aggregate?,
    hoffered.removes hwell]
  by_cases h : t.storedId request = some guestScanId
  · simp [h]
  · simp [h]

end Admission

theorem Admits.admission {node : NodeRuntime} {dependencies : GuestPersistenceDependencies}
    {request : SnapshotRequest} {db : Database}
    (h : Admits node dependencies request.persist db) :
    request.WellFormed node ∧ ∃ action guestScanId token nonce network rest cleared,
      Offered node dependencies request db.val action guestScanId token nonce ∧
      request.networkSignalDigests = network :: rest ∧
      Cleared request.now db.val
        (db.val.lookup request.guestSessionScope request.idempotencyKey) action cleared ∧
      Admitted request network
        (newGuestScan request guestScanId nonce dependencies.activeTokenKeyVersion) cleared
        (createOrReplay node dependencies request.persist db).2.val := by
  obtain ⟨action, guestScanId, token, expiresAt, expiresIn, hanswer⟩ := h
  have hissued := createOrReplay_issued hanswer
  obtain ⟨snapshot, nonce, network, rest, cleared, hwell, hsame, decision, material, networks,
    clear, admission, -⟩ := createOrReplay_admitted hanswer
  have hsnapshot : snapshot = request := by
    cases snapshot
    cases request
    simp only [SnapshotRequest.persist, PersistGuestScanRequest.mk.injEq, Int.natCast_inj]
      at hsame
    simp [hsame]
  subst hsnapshot
  exact ⟨hwell, action, guestScanId, token, nonce, network, rest, cleared,
    ⟨decision, hissued, material⟩, networks, clear, admission⟩

theorem Admitted.ready {node : NodeRuntime} {dependencies : GuestPersistenceDependencies}
    {request : SnapshotRequest} {t cleared t' : Tables} {action : CreateAction}
    {guestScanId token : String} {nonce network : Bytes32} {keyVersion : Nat}
    (h : Admitted request network (newGuestScan request guestScanId nonce keyVersion) cleared t')
    (hwell : request.WellFormed node) (hcounted : Counted t)
    (hoffered : Offered node dependencies request t action guestScanId token nonce)
    (hcleared : Cleared request.now t
      (t.lookup request.guestSessionScope request.idempotencyKey) action cleared) :
    Ready t request guestScanId := by
  obtain ⟨hcontrol, hahead, hwindows, hslots⟩ :=
    (admissible_cleared_iff hwell hcounted hoffered hcleared).mp h.admissible
  have hfree := (free_cleared_iff hwell hoffered hcleared).mp
    (Table.find?_eq_none.mpr fun other hother => (h.apart other hother).1)
  refine ⟨hfree, fun id hid => ?_, hcontrol, hahead, hwindows, hslots⟩
  rw [← hoffered.removes hwell] at hid
  generalize hlookup : t.lookup request.guestSessionScope request.idempotencyKey = existing
    at hcleared hid
  cases hcleared with
  | create existing => cases hid
  | replaceExpired row released release =>
    cases hid
    refine release.removable ?_
    have hstored := Table.find?_of_mem (lookup_eq_some.mp hlookup).1
    exact Option.isSome_iff_exists.mpr ⟨_, hstored⟩

/-- A well-formed request is admitted exactly when the dependencies offer a new
scan for it and the tables are ready. -/
theorem admits_iff {node : NodeRuntime} {dependencies : GuestPersistenceDependencies}
    {request : SnapshotRequest} {db : Database} (hcounted : Counted db.val)
    (hwell : request.WellFormed node) :
    Admits node dependencies request.persist db ↔
      ∃ action guestScanId token nonce,
        Offered node dependencies request db.val action guestScanId token nonce ∧
        Ready db.val request guestScanId := by
  constructor
  · intro h
    obtain ⟨-, action, guestScanId, token, nonce, network, rest, cleared, hoffered, -, hcleared,
      hadmitted⟩ := h.admission
    exact ⟨action, guestScanId, token, nonce, hoffered,
      hadmitted.ready hwell hcounted hoffered hcleared⟩
  · rintro ⟨action, guestScanId, token, nonce, hoffered, hready⟩
    obtain ⟨cleared, hclear, hcleared⟩ := hoffered.exists_cleared hwell hcounted hready.removable
    have hfresh := (free_cleared_iff hwell hoffered hcleared).mpr hready.free
    have hadmissible := (admissible_cleared_iff hwell hcounted hoffered hcleared).mpr
      ⟨hready.control, hready.notAhead, hready.windows, hready.slots⟩
    have hnone := hcleared.noOrphans db.property.noOrphans
    obtain ⟨network, rest, hnetworks⟩ := List.exists_cons_of_ne_nil hwell.networks
    have hreserve : ∀ next, ∃ decision t', (reserveGuestAbuseCounters
        ⟨guestScanId, request.guestSessionScope, request.networkSignalDigests, request.now⟩).run
          { cleared with guestScans := next } = .ok (decision, t') ∧ decision = .allowNewScan := by
      intro next
      have hadmissible' : Admissible { cleared with guestScans := next } request.now
          request.guestSessionScope request.networkSignalDigests :=
        ⟨hadmissible.control, hadmissible.notAhead, hadmissible.windows, hadmissible.active⟩
      obtain ⟨t', hrun⟩ : ∃ t', (reserveGuestAbuseCounters
          ⟨guestScanId, request.guestSessionScope, request.networkSignalDigests, request.now⟩).run
            { cleared with guestScans := next } = .ok (.allowNewScan, t') :=
        reserve_of_admissible hnetworks hwell.nodup hwell.range hadmissible'
          (hnone guestScanId hfresh).2.2
      exact ⟨_, t', hrun, rfl⟩
    obtain ⟨decision, rfl, hanswer⟩ := createOrReplay_decision
      (P := fun decision => decision = .allowNewScan) hwell hoffered hclear hcleared hfresh
      hreserve
    exact ⟨action, guestScanId, token, _, _, hanswer⟩

end Outscan

import Outscan.Quota.Conservation

/-! How many slots a session or a network holds. -/
namespace Outscan

open Relational Transactional Lifecycle

/-- The unreleased reservations with a digest in `scope`. -/
def Tables.heldIn (t : Tables) (kind : ScopeKind) (scope : Bytes32 → Bool) : Nat :=
  t.reservations.rows.countP fun row => row.released.isNone && scope (row.digest kind)

/-! ### Only admissions take a slot -/

theorem Released.heldIn_le {id : String} {now : Nat} {reason : ReleaseReason} {t t' : Tables}
    (h : Released id now reason t t') (kind : ScopeKind) (scope : Bytes32 → Bool) :
    t'.heldIn kind scope ≤ t.heldIn kind scope := by
  obtain ⟨row, hfind, ⟨-, rfl⟩ | ⟨-, -, -, active, -, reservations, -, -, hrows, rfl⟩⟩ := h
  · exact le_rfl
  · have hcount := Table.countP_edited (markReleased now reason)
      (fun row => row.released.isNone && scope (row.digest kind)) hfind
    rw [← hrows] at hcount
    have hafter : (((markReleased now reason).apply row).released.isNone &&
        scope (((markReleased now reason).apply row).digest kind)) = false := rfl
    rw [hafter] at hcount
    change reservations.rows.countP _ ≤ t.reservations.rows.countP _
    simp only [Bool.false_eq_true, if_false] at hcount
    omega

theorem heldIn_deleteGuestScan_le (t : Tables) (id : String) (kind : ScopeKind)
    (scope : Bytes32 → Bool) : (t.deleteGuestScan id).heldIn kind scope ≤ t.heldIn kind scope :=
  List.filter_sublist.countP_le

theorem Cleared.heldIn_le {now : Nat} {t cleared : Tables} {existing : Option GuestScan}
    {action : CreateAction} (h : Cleared now t existing action cleared) (kind : ScopeKind)
    (scope : Bytes32 → Bool) : cleared.heldIn kind scope ≤ t.heldIn kind scope := by
  cases h with
  | create existing => exact le_rfl
  | replaceExpired row released release =>
    exact (heldIn_deleteGuestScan_le released row.id kind scope).trans
      (release.heldIn_le kind scope)

theorem deleteDueScans_heldIn_le {now : Nat} {due : List GuestScan} {totals final : BatchTotals}
    {t t' : Tables} (h : (deleteDueScans now due totals).run t = .ok (final, t'))
    (kind : ScopeKind) (scope : Bytes32 → Bool) : t'.heldIn kind scope ≤ t.heldIn kind scope :=
  deleteDueScans_rel (R := fun t t' => t'.heldIn kind scope ≤ t.heldIn kind scope)
    (fun _ => le_rfl) (fun hfirst hsecond => hsecond.trans hfirst)
    (fun _ _ id => heldIn_deleteGuestScan_le _ id kind scope) h

theorem quiet_heldIn :
    Quiet fun t t' => ∀ kind scope, t'.heldIn kind scope ≤ t.heldIn kind scope := by
  refine Quiet.ofTables (fun _ _ _ => le_rfl)
    (fun _ _ _ hfirst hsecond kind scope => (hsecond kind scope).trans (hfirst kind scope))
    (fun _ _ _ _ => le_rfl) (fun _ _ _ _ => le_rfl) (fun _ _ _ _ => le_rfl) ?_
  intro id now reason t done t' h kind scope
  rcases releaseGuestAbuseReservation_ok h with ⟨-, hreleased⟩ | ⟨-, rfl | ⟨_, -, -, hmissing⟩⟩
  · exact hreleased.heldIn_le kind scope
  · exact le_rfl
  · rcases hmissing with ⟨rfl, -⟩ | ⟨between, -, rfl, -⟩
    · exact le_rfl
    · exact le_rfl

/-! ### Admission -/

theorem heldIn_le_sum {t : Tables} {kind : ScopeKind} {scope : Bytes32 → Bool}
    {digests : List Bytes32}
    (hcover : ∀ row ∈ t.reservations.rows, row.released = none → scope (row.digest kind) = true →
      row.digest kind ∈ digests) :
    t.heldIn kind scope ≤ (digests.map (t.held kind)).sum := by
  have hmono : t.heldIn kind scope ≤ t.heldIn kind fun digest => decide (digest ∈ digests) := by
    refine List.countP_mono_left fun row hrow h => ?_
    simp only [Bool.and_eq_true, decide_eq_true_eq, Option.isNone_iff_eq_none] at h ⊢
    exact ⟨h.1, hcover row hrow h.1 h.2⟩
  refine hmono.trans ?_
  clear hmono hcover
  induction digests with
  | nil =>
    have hnone : t.heldIn kind (fun digest => decide (digest ∈ ([] : List Bytes32))) = 0 :=
      List.countP_eq_zero.mpr fun row _ => by simp
    rw [hnone]
    exact Nat.zero_le _
  | cons digest rest ih =>
    rw [List.map_cons, List.sum_cons]
    have hsplit : t.heldIn kind (fun other => decide (other ∈ digest :: rest)) ≤
        t.held kind digest + t.heldIn kind fun other => decide (other ∈ rest) := by
      refine le_trans (List.countP_mono_left fun row _ h => ?_) (Table.countP_or_le _ _ _)
      simp only [Bool.and_eq_true, Bool.or_eq_true, decide_eq_true_eq, List.mem_cons,
        Reservation.holds] at h ⊢
      exact h.2.imp (fun heq => ⟨h.1, heq⟩) (fun hmem => ⟨h.1, hmem⟩)
    omega

def activeOf : ScopeKind → ActiveDimension
  | .session => .sessionActive
  | .network => .networkActive

theorem Counted.activeUsage_eq {t : Tables} (hcounted : Counted t) (session : Bytes32)
    (networks : List Bytes32) (kind : ScopeKind) :
    t.activeUsage session networks (activeOf kind) =
      ((digestsOf session networks kind).map (t.held kind)).sum := by
  have hkind : (activeOf kind).scopeKind = kind := by cases kind <;> rfl
  have hkey : ∀ digest, activeDimensionKey (activeOf kind) digest = activeKey kind digest := by
    intro digest
    cases kind <;> rfl
  unfold Tables.activeUsage Table.contribution
  rw [hkind]
  congr 1
  refine List.map_congr_left fun digest _ => ?_
  rw [hkey]
  have hcount := hcounted kind digest
  unfold Tables.activeCount at hcount
  rw [hcount, storedCount]
  split
  · rename_i hzero
    exact hzero.symm
  · rfl

theorem Admitted.heldIn_le {request : SnapshotRequest} {network : Bytes32} {row : GuestScan}
    {cleared t' : Tables} (h : Admitted request network row cleared t')
    (hcounted : Counted cleared) {kind : ScopeKind} {scope : Bytes32 → Bool}
    (hle : cleared.heldIn kind scope ≤ activeLimit (activeOf kind))
    (hcover : ∀ charged ∈ digestsOf request.guestSessionScope [network] kind,
      scope charged = true → ∀ other ∈ cleared.reservations.rows, other.released = none →
      scope (other.digest kind) = true →
      other.digest kind ∈ digestsOf request.guestSessionScope request.networkSignalDigests kind) :
    t'.heldIn kind scope ≤ activeLimit (activeOf kind) := by
  let new : Reservation :=
    ⟨row.id, request.guestSessionScope, network, request.now, request.now + 86400, none⟩
  have hafter : t'.heldIn kind scope = cleared.heldIn kind scope +
      if scope (new.digest kind) = true then 1 else 0 := by
    unfold Tables.heldIn
    rw [h.reserved.reservations, Table.countP_append_row]
    rfl
  have hnew : new.digest kind ∈ digestsOf request.guestSessionScope [network] kind := by
    cases kind <;> exact List.mem_singleton_self _
  rw [hafter]
  by_cases hscope : scope (new.digest kind) = true
  · rw [if_pos hscope]
    have hsum := heldIn_le_sum (hcover _ hnew hscope)
    have hadmissible := h.admissible.active (activeOf kind)
    rw [hcounted.activeUsage_eq] at hadmissible
    omega
  · rw [if_neg hscope]
    exact hle

/-! ### Runs -/

/-- A creation that is charged to `scope` presents every digest of `scope` under
which a slot is taken. -/
def Covers (kind : ScopeKind) (scope : Bytes32 → Bool) (db : Database) : Call → Prop
  | .createOrReplay _ request =>
    ∀ network ∈ request.networkSignalDigests.head?,
    ∀ charged ∈ digestsOf request.guestSessionScope [network] kind, scope charged = true →
    ∀ row ∈ db.val.reservations.rows, row.released = none → scope (row.digest kind) = true →
      row.digest kind ∈ digestsOf request.guestSessionScope request.networkSignalDigests kind
  | _ => True

theorem Cleared.mem_of_unreleased {now : Nat} {t cleared : Tables} {existing : Option GuestScan}
    {action : CreateAction} (h : Cleared now t existing action cleared) {row : Reservation}
    (hrow : row ∈ cleared.reservations.rows) (hnone : row.released = none) :
    row ∈ t.reservations.rows := by
  cases h with
  | create existing => exact hrow
  | replaceExpired scan released release =>
    have hmem : row ∈ released.reservations.rows := (List.mem_filter.mp hrow).1
    obtain ⟨old, -, ⟨-, rfl⟩ | ⟨-, -, -, active, -, reservations, -, -, hrows, rfl⟩⟩ := release
    · exact hmem
    · change row ∈ reservations.rows at hmem
      rw [hrows] at hmem
      obtain ⟨other, hother, rfl⟩ := List.mem_map.mp hmem
      split at hnone
      · cases hnone
      · rename_i hne
        rw [if_neg hne]
        exact hother

/-- The step lemma of the limits. -/
theorem exec_heldIn_le (node : NodeRuntime) {db : Database} (hcounted : Counted db.val)
    {kind : ScopeKind} {scope : Bytes32 → Bool} {call : Call}
    (hcovers : Covers kind scope db call)
    (hle : db.val.heldIn kind scope ≤ activeLimit (activeOf kind)) :
    (exec node db call).2.val.heldIn kind scope ≤ activeLimit (activeOf kind) := by
  cases hscan : call.scan? with
  | some id => exact (quiet_heldIn.exec node db hscan kind scope).trans hle
  | none =>
    cases call with
    | createOrReplay dependencies request =>
      change (createOrReplay node dependencies request db).2.val.heldIn kind scope ≤ _
      refine createOrReplay_tables (P := fun t => t.heldIn kind scope ≤ activeLimit (activeOf kind))
        node dependencies request hle ?_
      rintro snapshot _ _ _ network _ _ _ rfl networks clear admission
      have hhead : network ∈ snapshot.persist.networkSignalDigests.head? := by
        change network ∈ snapshot.networkSignalDigests.head?
        rw [networks]
        rfl
      refine admission.heldIn_le (clear.counted hcounted) ((clear.heldIn_le kind scope).trans hle)
        fun charged hcharged hscope row hrow hnone => ?_
      exact hcovers network hhead charged hcharged hscope row
        (clear.mem_of_unreleased hrow hnone) hnone
    | runBatch batchSize clock locked =>
      change (runBatch batchSize clock locked db).2.val.heldIn kind scope ≤ _
      rcases runBatch_cases batchSize clock locked db with hsame | ⟨now, -, hrun⟩
      · rw [hsame]
        exact hle
      · obtain ⟨final, swept, windows, hdue, hafter, -⟩ := runBatchBody_swept hrun
        rw [hafter]
        exact (deleteDueScans_heldIn_le hdue kind scope).trans hle
    | setServiceState state => exact hle
    | commit result transactionNow =>
      cases result with
      | none => exact hle
      | some result => cases hscan
    | _ => cases hscan

/-- The run lemma of the limits. -/
theorem run_heldIn_le (node : NodeRuntime) {kind : ScopeKind} {scope : Bytes32 → Bool}
    {calls : List Call}
    (hcovers : Machine.Along (exec node) (Covers kind scope) Database.initial calls) :
    (Machine.run (exec node) Database.initial calls).val.heldIn kind scope ≤
      activeLimit (activeOf kind) := by
  refine (Machine.run_preserves (P := fun db => Counted db.val ∧
    db.val.heldIn kind scope ≤ activeLimit (activeOf kind)) (fun db call hcall h => ?_) hcovers
    ⟨initial_counted, Nat.zero_le _⟩).2
  exact ⟨exec_counted node h.1 call, exec_heldIn_le node h.1 hcall h.2⟩

theorem covers_session (session : Bytes32) (db : Database) (call : Call) :
    Covers .session (fun digest => decide (digest = session)) db call := by
  cases call with
  | createOrReplay dependencies request =>
    intro network _ charged hcharged hscope row _ _ hrow
    simp only [decide_eq_true_eq] at hscope hrow
    rw [hrow, ← hscope]
    exact hcharged
  | _ => trivial

/-! ### Scans and slots -/

theorem Lifecycle.Inv.unreleased_iff {g : Aggregate} (h : Inv g) :
    ∃ row, g.reservation = some row ∧ (row.released = none ↔ g.scan.jobState.active = true) := by
  by_cases hactive : g.scan.jobState.active = true
  · have hheld : Held g := by
      cases h.phase with
      | queued _ _ _ held => exact held
      | running _ _ _ _ _ _ _ held => exact held
      | succeeded _ _ _ job => rw [job] at hactive; cases hactive
      | ended job => rcases job with job | job | job <;> (rw [job] at hactive; cases hactive)
    obtain ⟨row, hrow, hnone⟩ := hheld
    exact ⟨row, hrow, by simp [hnone, hactive]⟩
  · obtain ⟨row, hrow, hreleased⟩ := h.returned_of_terminal (by simpa using hactive)
    refine ⟨row, hrow, ⟨fun hnone => ?_, fun h => absurd h hactive⟩⟩
    rw [hnone] at hreleased
    cases hreleased

theorem Sound.reservation {t : Tables} (hsound : Sound t) {scan : GuestScan}
    (hscan : scan ∈ t.guestScans.rows) :
    ∃ row, t.reservations.find? scan.id = some row ∧
      (row.released = none ↔ scan.jobState.active = true) := by
  have hstored : t.aggregate? scan.id = some ⟨scan, _, _, _⟩ :=
    Tables.aggregate?_eq_some.mpr ⟨Table.find?_of_mem hscan, rfl, rfl, rfl⟩
  exact (hsound _ _ hstored).unreleased_iff

theorem countP_scans_le {t : Tables} (hsound : Sound t) {kind : ScopeKind}
    {scope : Bytes32 → Bool} {p : GuestScan → Bool}
    (hp : ∀ scan ∈ t.guestScans.rows, p scan = true → ∀ row,
      t.reservations.find? scan.id = some row → scope (row.digest kind) = true) :
    (t.guestScans.rows.countP fun scan => scan.jobState.active && p scan) ≤
      t.heldIn kind scope := by
  refine Table.countP_le_of_keys fun scan hscan h => ?_
  simp only [Bool.and_eq_true] at h
  obtain ⟨row, hrow, hunreleased⟩ := hsound.reservation hscan
  refine ⟨row, Table.find?_mem hrow, ?_, Table.find?_key hrow⟩
  simp only [Bool.and_eq_true, Option.isNone_iff_eq_none]
  exact ⟨hunreleased.mpr h.1, hp scan hscan h.2 row hrow⟩

theorem sound_scope {db : Database} {scan : GuestScan} (hscan : scan ∈ db.val.guestScans.rows)
    {row : Reservation} (hrow : db.val.reservations.find? scan.id = some row) :
    row.guestSessionScope = scan.guestSessionScope := by
  obtain ⟨owner, howner, hid, hscope, -⟩ := db.property.reservation row (Table.find?_mem hrow)
  have hkey : row.guestScanId = scan.id := Table.find?_key hrow
  rw [db.val.guestScans.eq_of_key_eq howner hscan (hid.trans hkey)] at hscope
  exact hscope.symm

/-- A creation of `network` presents every digest under which the network holds
a slot. -/
def PresentsHeld (network : Bytes32 → Bool) (db : Database) : Call → Prop
  | .createOrReplay _ request =>
    ∀ charged ∈ request.networkSignalDigests.head?, network charged = true →
    ∀ row ∈ db.val.reservations.rows, row.released = none →
      network row.networkSignalDigest = true →
      row.networkSignalDigest ∈ request.networkSignalDigests
  | _ => True

theorem PresentsHeld.covers {network : Bytes32 → Bool} {db : Database} {call : Call}
    (h : PresentsHeld network db call) : Covers .network network db call := by
  cases call with
  | createOrReplay dependencies request =>
    intro head hhead charged hcharged
    rw [List.mem_singleton.mp hcharged]
    exact h head hhead
  | _ => trivial

def Tables.activeScans (t : Tables) (p : GuestScan → Bool) : Nat :=
  t.guestScans.rows.countP fun scan => scan.jobState.active && p scan

/-- In every state that any interleaving of calls reaches, the counters count
the unreleased reservations, these are the slots of the queued and running
scans, and no session and no network holds more slots than its limit. -/
theorem quota_conserved (node : NodeRuntime) (calls : List Call) :
    let t := (Machine.run (exec node) Database.initial calls).val
    (∀ kind digest, (t.activeCounters.find? (activeKey kind digest)).isSome = true ↔
      ∃ row ∈ t.reservations.rows, row.released = none ∧ row.digest kind = digest) ∧
    (∀ counter ∈ t.activeCounters.rows, ∃ kind,
      Schema.key counter = activeKey kind counter.scopeDigest ∧
      counter.activeCount = t.held kind counter.scopeDigest ∧ 0 < counter.activeCount) ∧
    (∀ scan ∈ t.guestScans.rows, ∃ row, t.reservations.find? scan.id = some row ∧
      (row.released = none ↔ scan.jobState = .queued ∨ scan.jobState = .running)) ∧
    (∀ row ∈ t.reservations.rows, ∃ scan ∈ t.guestScans.rows, scan.id = row.guestScanId) ∧
    (∀ session, t.activeScans (fun scan => decide (scan.guestSessionScope = session)) ≤ 1) ∧
    ∀ network, Machine.Along (exec node) (PresentsHeld network) Database.initial calls →
      t.activeScans (fun scan =>
        (t.reservations.find? scan.id).any fun row => network row.networkSignalDigest) ≤ 4 := by
  intro t
  have hreach : Reachable node (Machine.run (exec node) Database.initial calls) := ⟨calls, rfl⟩
  have hcounted : Counted t := hreach.counted
  have hsound : Sound t := hreach.sound
  refine ⟨fun kind digest => ?_, fun counter hcounter => ?_, fun scan hscan => ?_, fun row hrow => ?_,
    fun session => ?_, fun network hpresents => ?_⟩
  · have hcount := hcounted kind digest
    rw [Tables.activeCount, storedCount] at hcount
    have hsome : (t.activeCounters.find? (activeKey kind digest)).isSome = true ↔
        0 < t.held kind digest := by
      rw [← Option.isSome_map, hcount]
      split <;> simp <;> omega
    rw [hsome, Tables.held, List.countP_pos_iff]
    simp only [Reservation.holds, Bool.and_eq_true, Option.isNone_iff_eq_none, decide_eq_true_eq]
  · have hshape : counter.scopeKind = counter.dimension.scopeKind :=
      (t.activeCounters.checked counter hcounter).scope_shape
    obtain ⟨kind, hkey⟩ : ∃ kind, Schema.key counter = activeKey kind counter.scopeDigest := by
      change ∃ kind, (counter.scopeKind, counter.scopeDigest, counter.dimension) = _
      rw [hshape]
      cases counter.dimension with
      | sessionActive => exact ⟨.session, rfl⟩
      | networkActive => exact ⟨.network, rfl⟩
    have hcount := hcounted kind counter.scopeDigest
    rw [Tables.activeCount, ← hkey, Table.find?_of_mem hcounter] at hcount
    obtain ⟨heq, hpos⟩ := storedCount_eq_some.mp hcount.symm
    exact ⟨kind, hkey, heq, hpos⟩
  · obtain ⟨row, hrow, hunreleased⟩ := hsound.reservation hscan
    refine ⟨row, hrow, hunreleased.trans ?_⟩
    simp [JobState.active]
  · obtain ⟨scan, hscan, hid, -⟩ :=
      (Machine.run (exec node) Database.initial calls).property.reservation row hrow
    exact ⟨scan, hscan, hid⟩
  · have hslots : t.heldIn .session (fun digest => decide (digest = session)) ≤ 1 :=
      run_heldIn_le node (Machine.Along.imp _ (fun db call _ => covers_session session db call)
        (Machine.along_true _ _ calls))
    refine (countP_scans_le hsound fun scan hscan h row hrow => ?_).trans hslots
    simp only [decide_eq_true_eq] at h ⊢
    exact (sound_scope hscan hrow).trans h
  · have hslots : t.heldIn .network network ≤ 4 :=
      run_heldIn_le node (Machine.Along.imp _ (fun db call h => PresentsHeld.covers h) hpresents)
    refine (countP_scans_le hsound fun scan _ h row hrow => ?_).trans hslots
    rw [hrow] at h
    exact h

theorem presentsHeld_sampleRequest (db : Database) (dependencies : GuestPersistenceDependencies)
    (session : UInt8) (now : Int) :
    PresentsHeld (fun digest => decide (digest = Bytes32.fill 4)) db
      (.createOrReplay dependencies (sampleRequest session now)) := by
  intro charged _ _ row _ _ hrow
  rw [of_decide_eq_true hrow]
  exact List.mem_singleton_self _

def twoSessions : List Call :=
  sampleCalls ++ [.createOrReplay (sampleDependencies "scan-2") (sampleRequest 2 1000)]

/-- The two scans hold two of the four slots of their network. -/
theorem quota_conserved_sample :
    let t := (Machine.run (exec sampleNode) Database.initial twoSessions).val
    let network : Bytes32 → Bool := fun digest => decide (digest = Bytes32.fill 4)
    t.heldIn .network network = 2 ∧
      t.activeScans (fun scan =>
        (t.reservations.find? scan.id).any fun row => network row.networkSignalDigest) ≤ 4 := by
  intro t network
  have hpresents : Machine.Along (exec sampleNode) (PresentsHeld network) Database.initial
      twoSessions :=
    ⟨presentsHeld_sampleRequest _ _ 1 1000, trivial, trivial,
      presentsHeld_sampleRequest _ _ 2 1000, trivial⟩
  exact ⟨by decide +kernel, (quota_conserved sampleNode twoSessions).2.2.2.2.2 network hpresents⟩

end Outscan

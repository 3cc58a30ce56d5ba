import Mathlib.Data.List.Induction
import Outscan.Lifecycle.Calls

/-! What a caller obtained stays what it was: replays of one creation, whatever
happens in between, and never to another session. -/
namespace Outscan

open Relational Transactional Lifecycle

/-! ### The stored record -/

theorem Lifecycle.Step.record {g g' : Aggregate} {event : Event} (h : Step g event g') :
    g'.scan.record = g.scan.record := by
  cases h <;> rfl

/-- A call that does not delete a scan keeps its record. -/
theorem exec_kept (node : NodeRuntime) {db : Database} (hsound : Sound db.val) {call : Call}
    {id : String} {g : Aggregate} (hg : db.val.aggregate? id = some g)
    (hkept : ¬ Deletes node db call id) :
    ∃ g', (exec node db call).2.val.aggregate? id = some g' ∧ g'.scan.record = g.scan.record := by
  cases exec_change node hsound call id with
  | kept same quiet => exact ⟨g, same.trans hg, rfl⟩
  | event event g₀ g' scan answer before after step =>
    rw [hg] at before
    cases before
    exact ⟨g', after, step.record⟩
  | created g' before after sound =>
    rw [hg] at before
    cases before
  | deleted deletes after => exact absurd deletes hkept

theorem run_kept (node : NodeRuntime) {calls : List Call} {db : Database} (hsound : Sound db.val)
    {id : String} {g : Aggregate} (hg : db.val.aggregate? id = some g)
    (hkept : Machine.Along (exec node) (fun db call => ¬ Deletes node db call id) db calls) :
    ∃ g', (Machine.run (exec node) db calls).val.aggregate? id = some g' ∧
      g'.scan.record = g.scan.record := by
  induction calls generalizing db g with
  | nil => exact ⟨g, hg, rfl⟩
  | cons call rest ih =>
    obtain ⟨g₁, hg₁, hrecord₁⟩ := exec_kept node hsound hg hkept.1
    obtain ⟨g', hg', hrecord⟩ := ih (exec_sound node hsound call) hg₁ hkept.2
    exact ⟨g', hg', hrecord.trans hrecord₁⟩

theorem exec_record (node : NodeRuntime) {db : Database} (hsound : Sound db.val) (call : Call)
    {id : String} {g : Aggregate} (hg : db.val.aggregate? id = some g)
    (hearly : ∀ now ∈ call.trustedNow, now < g.scan.idempotencyExpiresAt) :
    ∃ g', (exec node db call).2.val.aggregate? id = some g' ∧ g'.scan.record = g.scan.record := by
  apply exec_kept node hsound hg
  intro deletes
  cases call with
  | createOrReplay dependencies request =>
    have hexpired := createOrReplay_deletes hg deletes
    have hbefore := hearly request.trustedNow.toNat rfl
    omega
  | runBatch batchSize clock locked =>
    obtain ⟨now, hnow, hdue⟩ := runBatch_deletes hg deletes
    have hbefore := hearly now hnow
    have htime := (Tables.scan_check_of_aggregate? hg).time
    have hidempotency := htime.idempotency
    have hdeletion := htime.deletion
    omega
  | _ => exact deletes.elim

theorem run_record (node : NodeRuntime) {calls : List Call} {db : Database}
    (hsound : Sound db.val) {id : String} {g : Aggregate} (hg : db.val.aggregate? id = some g)
    (hearly : ∀ now ∈ calls.filterMap Call.trustedNow, now < g.scan.idempotencyExpiresAt) :
    ∃ g', (Machine.run (exec node) db calls).val.aggregate? id = some g' ∧
      g'.scan.record = g.scan.record := by
  induction calls generalizing db g with
  | nil => exact ⟨g, hg, rfl⟩
  | cons call rest ih =>
    obtain ⟨g₁, hg₁, hrecord₁⟩ := exec_record node hsound call hg fun now hnow =>
      hearly now (List.mem_filterMap.mpr ⟨call, List.mem_cons_self .., hnow⟩)
    have hexpires : g₁.scan.idempotencyExpiresAt = g.scan.idempotencyExpiresAt :=
      congrArg GuestIdempotencyRecord.idempotencyExpiresAt hrecord₁
    obtain ⟨g', hg', hrecord⟩ := ih (exec_sound node hsound call) hg₁ fun now hnow => by
      rw [hexpires]
      obtain ⟨other, hother, hstamp⟩ := List.mem_filterMap.mp hnow
      exact hearly now (List.mem_filterMap.mpr ⟨other, List.mem_cons_of_mem _ hother, hstamp⟩)
    exact ⟨g', hg', hrecord.trans hrecord₁⟩

/-! ### A granted token -/

/-- The scan behind an answer: its row carries the id and the expiry, and the
keyring derives the token from it. -/
structure Granted (node : NodeRuntime) (ring : GuestResultTokenKeyring) (row : GuestScan)
    (guestScanId token : String) (expiresAt : Nat) : Prop where
  id : row.id = guestScanId
  expires : row.idempotencyExpiresAt = expiresAt
  unrevoked : row.resultAccessRevokedAt = none
  token : (ring row.resultTokenKeyVersion).bind
    (deriveGuestResultToken node row.record.tokenMetadata) = some token

theorem tokenMaterial_granted {node : NodeRuntime} {dependencies : GuestPersistenceDependencies}
    {request : SnapshotRequest} {guestScanId token : String} {nonce : Bytes32}
    (h : tokenMaterial node dependencies guestScanId
      (request.now + guestIdempotencyWindowSeconds) = some (token, nonce)) :
    Granted node dependencies.tokenKeyring
      (newGuestScan request guestScanId nonce dependencies.activeTokenKeyVersion) guestScanId token
      (request.now + guestIdempotencyWindowSeconds) := by
  refine ⟨rfl, rfl, rfl, ?_⟩
  unfold tokenMaterial at h
  simp only [Option.bind_eq_bind, Option.bind_eq_some_iff] at h
  obtain ⟨nonceValue, -, key, hkey, nonce', -, h⟩ := h
  split at h
  · cases h
  · obtain ⟨token', htoken, h⟩ := Option.bind_eq_some_iff.mp h
    cases h
    exact Option.bind_eq_some_iff.mpr ⟨key, hkey, htoken⟩

theorem SnapshotRequest.WellFormed.window_le {node : NodeRuntime} {request : SnapshotRequest}
    (h : request.WellFormed node) :
    request.idempotency.now + guestIdempotencyWindowSeconds ≤ uint64Max := by
  have hrange := h.range
  have hsame : request.idempotency.now = request.now := rfl
  rw [hsame, guestIdempotencyWindowSeconds, uint64Max]
  rw [timestampEnd] at hrange
  omega

theorem decision_stored {node : NodeRuntime} {request : SnapshotRequest}
    (hrequest : request.WellFormed node) {t : Tables} {row : GuestScan}
    (hrow : t.lookup request.guestSessionScope request.idempotencyKey = some row)
    (ring : GuestResultTokenKeyring) :
    decideGuestScanIdempotency node request.idempotency (existingRecord (some row)) ring =
      if row.idempotencyExpiresAt ≤ request.now then .proceed .replaceExpired
      else if row.requestHash ≠ request.requestHash then .deny .idempotencyKeyReused
      else if row.resultAccessRevokedAt.isSome then .deny .resultAccessRevoked
      else
        match (ring row.resultTokenKeyVersion).bind
            (deriveGuestResultToken node row.record.tokenMetadata) with
        | none => .deny .resultTokenUnavailable
        | some token =>
          .replay row.id token row.idempotencyExpiresAt
            (row.idempotencyExpiresAt - request.now) := by
  obtain ⟨hmem, hscope, hkey⟩ := lookup_eq_some.mp hrow
  have hmade : decideGuestScanIdempotency node request.idempotency (existingRecord (some row))
      ring = _ :=
    decideGuestScanIdempotency_stored (t.guestScans.checked row hmem) hrequest.key
      hrequest.window_le hscope hkey
  rw [hmade]
  rfl

theorem replay_granted {node : NodeRuntime} {request : SnapshotRequest}
    (hrequest : request.WellFormed node) {ring : GuestResultTokenKeyring} {t : Tables}
    {guestScanId token : String} {expiresAt expiresIn : Nat}
    (h : decideGuestScanIdempotency node request.idempotency
      (existingRecord (t.lookup request.guestSessionScope request.idempotencyKey)) ring =
      .replay guestScanId token expiresAt expiresIn) :
    ∃ row, t.lookup request.guestSessionScope request.idempotencyKey = some row ∧
      row.requestHash = request.requestHash ∧ request.now < row.idempotencyExpiresAt ∧
      Granted node ring row guestScanId token expiresAt := by
  cases hlookup : t.lookup request.guestSessionScope request.idempotencyKey with
  | none =>
    have hmade : decideGuestScanIdempotency node request.idempotency (existingRecord none) ring =
        .proceed .create := decideGuestScanIdempotency_absent hrequest.key hrequest.window_le
    rw [hlookup, hmade] at h
    cases h
  | some row =>
    rw [hlookup, decision_stored hrequest hlookup] at h
    split at h
    · cases h
    · rename_i hfresh
      split at h
      · cases h
      · rename_i hhash
        split at h
        · cases h
        · rename_i hrevoked
          split at h
          · cases h
          · rename_i found htoken
            cases h
            exact ⟨row, rfl, not_not.mp hhash, Nat.lt_of_not_le hfresh, rfl, rfl,
              by simpa using hrevoked, htoken⟩

/-- A success of `createOrReplay` leaves a row of the caller's scope and key, with
its hash, unexpired. -/
structure Obtained (node : NodeRuntime) (dependencies : GuestPersistenceDependencies)
    (request : PersistGuestScanRequest) (t : Tables) (row : GuestScan)
    (guestScanId token : String) (expiresAt : Nat) : Prop where
  stored : t.lookup request.guestSessionScope request.idempotencyKey = some row
  hash : row.requestHash = request.requestHash
  fresh : request.trustedNow.toNat < row.idempotencyExpiresAt
  granted : Granted node dependencies.tokenKeyring row guestScanId token expiresAt

theorem createOrReplay_obtained {node : NodeRuntime} {dependencies : GuestPersistenceDependencies}
    {request : PersistGuestScanRequest} {db db' : Database} {action : Option CreateAction}
    {guestScanId token : String} {expiresAt expiresIn : Nat}
    (h : createOrReplay node dependencies request db =
      (.ok action guestScanId token expiresAt expiresIn, db')) :
    ∃ row, Obtained node dependencies request db'.val row guestScanId token expiresAt := by
  have houtcome := createOrReplay_outcome node dependencies request db
  rw [h] at houtcome
  rcases houtcome with ⟨hfails, -⟩ | ⟨snapshot, hwell, rfl, hout⟩
  · exact hfails.elim
  · dsimp only at hout
    generalize db'.val = t' at hout
    cases hout with
    | replayed guestScanId token expiresAt expiresIn decision =>
      obtain ⟨row, hstored, hhash, hfresh, hgranted⟩ := replay_granted hwell decision
      exact ⟨row, hstored, hhash, hfresh, hgranted⟩
    | admitted action guestScanId token nonce network rest cleared t' decision material networks
        clear admission =>
      refine ⟨_, lookup_eq_some.mpr ⟨?_, rfl, rfl⟩, rfl, ?_, tokenMaterial_granted material⟩
      · rw [admission.scans]
        exact List.mem_append_right _ (List.mem_singleton_self _)
      · exact Nat.lt_add_of_pos_right (by decide)

theorem createOrReplay_stored {node : NodeRuntime} {dependencies : GuestPersistenceDependencies}
    {request : PersistGuestScanRequest} {db : Database} {row : GuestScan}
    {guestScanId token : String} {expiresAt : Nat}
    (hsnapshot : (snapshotPersistGuestScanRequest node request).isSome = true)
    (hrow : db.val.lookup request.guestSessionScope request.idempotencyKey = some row)
    (hfresh : request.trustedNow.toNat < expiresAt)
    (hgranted : Granted node dependencies.tokenKeyring row guestScanId token expiresAt) :
    createOrReplay node dependencies request db =
      (if row.requestHash = request.requestHash then
        .ok none guestScanId token expiresAt (expiresAt - request.trustedNow.toNat)
      else .failure .idempotencyKeyReused, db) := by
  obtain ⟨snapshot, hsome⟩ := Option.isSome_iff_exists.mp hsnapshot
  obtain ⟨hwell, rfl⟩ := snapshotPersistGuestScanRequest_eq_some.mp hsome
  obtain ⟨rfl, rfl, hunrevoked, htoken⟩ := hgranted
  have hlookup : db.val.lookup snapshot.guestSessionScope snapshot.idempotencyKey = some row := hrow
  have hnow : ¬ row.idempotencyExpiresAt ≤ snapshot.now := Nat.not_le_of_lt hfresh
  have hdecision := decision_stored hwell hlookup dependencies.tokenKeyring
  rw [if_neg hnow, hunrevoked, htoken] at hdecision
  simp only [Option.isSome_none, Bool.false_eq_true, if_false] at hdecision
  have hbody : (createOrReplayBody node dependencies snapshot).run db.val =
      .ok (.commit (if row.requestHash = snapshot.requestHash then
        .ok none row.id token row.idempotencyExpiresAt (row.idempotencyExpiresAt - snapshot.now)
      else .failure .idempotencyKeyReused), db.val) := by
    unfold createOrReplayBody
    rw [Tx.run_bind_get]
    dsimp only
    rw [hlookup, ← SnapshotRequest.idempotency, hdecision]
    by_cases hhash : row.requestHash = snapshot.requestHash
    · simp only [hhash, ne_eq, not_true, if_false, if_true]
      rfl
    · simp only [hhash, ne_eq, not_false_iff, if_true, if_false]
      rfl
  unfold createOrReplay
  simp only [hsome]
  exact atomically_of_commit hbody db.property

/-! ### Ids -/

def Call.issued? : Call → Option String
  | .createOrReplay dependencies _ => dependencies.createGuestScanId
  | _ => none

theorem createOrReplayBody_issued {node : NodeRuntime} {request : SnapshotRequest}
    {dependencies : GuestPersistenceDependencies} {t t' : Tables} {action : CreateAction}
    {guestScanId token : String} {expiresAt expiresIn : Nat} (hrequest : request.WellFormed node)
    (h : (createOrReplayBody node dependencies request).run t =
      .ok (.commit (.ok (some action) guestScanId token expiresAt expiresIn), t')) :
    dependencies.createGuestScanId = some guestScanId := by
  unfold createOrReplayBody at h
  rw [Tx.run_bind_get] at h
  dsimp only at h
  split at h
  · cases (Tx.run_pure_ok.mp h).1
  · cases (Tx.run_pure_ok.mp h).1
  · rename_i action' hdecision
    split at h
    · exact (Tx.run_fail_ok.mp h).elim
    · rename_i issued hissued
      split at h
      · cases (Tx.run_pure_ok.mp h).1
      · obtain ⟨network, rest, hnetworks⟩ := List.exists_cons_of_ne_nil hrequest.networks
        obtain ⟨hanswer, -⟩ := createScan_ok hrequest hnetworks
          (fun haction => isSome_of_replaceExpired (haction ▸ hdecision)) h
        cases hanswer
        exact hissued

theorem createOrReplay_issued {node : NodeRuntime} {dependencies : GuestPersistenceDependencies}
    {request : PersistGuestScanRequest} {db : Database} {action : CreateAction}
    {guestScanId token : String} {expiresAt expiresIn : Nat}
    (h : (createOrReplay node dependencies request db).1 =
      .ok (some action) guestScanId token expiresAt expiresIn) :
    dependencies.createGuestScanId = some guestScanId := by
  unfold createOrReplay at h
  split at h
  · cases h
  · rename_i snapshot hsnapshot
    obtain ⟨hwell, -⟩ := snapshotPersistGuestScanRequest_eq_some.mp hsnapshot
    rcases atomically_cases .unavailable (createOrReplayBody node dependencies snapshot) db with
      ⟨answer, next, hrun, heq⟩ | ⟨-, hunavailable | ⟨next, hrollback⟩⟩
    · rw [heq] at h
      cases h
      exact createOrReplayBody_issued hwell hrun
    · rw [hunavailable] at h
      cases h
    · have hfails := createOrReplayBody_rollback hrollback
      rw [h] at hfails
      exact hfails.elim

theorem Lifecycle.Step.target {g g' : Aggregate} {event : Event} (h : Step g event g') :
    g'.scan.canonicalTarget = g.scan.canonicalTarget := by
  cases h <;> rfl

def Creates (node : NodeRuntime) (call : Call) (scan : GuestScan) : Prop :=
  ∃ dependencies snapshot nonce, call = .createOrReplay dependencies snapshot.persist ∧
    snapshot.WellFormed node ∧ dependencies.createGuestScanId = some scan.id ∧
    scan = newGuestScan snapshot scan.id nonce dependencies.activeTokenKeyVersion

theorem exec_origin (node : NodeRuntime) {db : Database} (hsound : Sound db.val) (call : Call)
    {id : String} {g' : Aggregate} (h : (exec node db call).2.val.aggregate? id = some g') :
    (∃ g, db.val.aggregate? id = some g ∧ g'.scan.record = g.scan.record ∧
        g'.scan.canonicalTarget = g.scan.canonicalTarget) ∨
      Creates node call g'.scan := by
  cases hscan : call.scan? with
  | some j =>
    left
    cases hevent : call.event (exec node db call).1 with
    | none =>
      have houtcome := exec_outcome node hsound hscan
      rw [hevent] at houtcome
      cases houtcome with
      | unchanged same => exact ⟨g', same ▸ h, rfl, rfl⟩
    | some event =>
      have houtcome := exec_outcome node hsound hscan
      rw [hevent] at houtcome
      cases houtcome with
      | event g₀ g₁ focus step =>
        by_cases hid : id = j
        · subst hid
          rw [focus.after] at h
          cases h
          exact ⟨g₀, focus.before, step.record, step.target⟩
        · exact ⟨g', (focus.others id hid).symm.trans h, rfl, rfl⟩
  | none =>
    cases call with
    | createOrReplay dependencies request =>
      change (createOrReplay node dependencies request db).2.val.aggregate? id = some g' at h
      rcases createOrReplay_cases node dependencies request db with
        hsame | ⟨snapshot, hwell, rfl, hout⟩
      · exact .inl ⟨g', hsame ▸ h, rfl, rfl⟩
      · have hissued : ∀ {action guestScanId token expiresAt expiresIn},
            (createOrReplay node dependencies snapshot.persist db).1 =
              .ok (some action) guestScanId token expiresAt expiresIn →
            dependencies.createGuestScanId = some guestScanId := createOrReplay_issued
        generalize createOrReplay node dependencies snapshot.persist db = result at h hout hissued
        obtain ⟨answer, db'⟩ := result
        dsimp only at h hout hissued
        generalize db'.val = t' at h hout
        cases hout with
        | denied code decision => exact .inl ⟨g', h, rfl, rfl⟩
        | replayed guestScanId token expiresAt expiresIn decision => exact .inl ⟨g', h, rfl, rfl⟩
        | admitted action guestScanId token nonce network rest cleared t' decision material
            networks clear admission =>
          rw [admission.aggregate? (clear.noOrphans db.property.noOrphans)] at h
          split at h
          · cases h
            exact .inr ⟨dependencies, snapshot, nonce, rfl, hwell, hissued rfl, rfl⟩
          · rw [clear.aggregate?] at h
            split at h
            · cases h
            · exact .inl ⟨g', h, rfl, rfl⟩
    | runBatch batchSize clock locked =>
      left
      change (runBatch batchSize clock locked db).2.val.aggregate? id = some g' at h
      rcases runBatch_cases batchSize clock locked db with hsame | ⟨now, -, hrun⟩
      · exact ⟨g', hsame ▸ h, rfl, rfl⟩
      · rw [(runBatchBody_ok hrun).1.aggregates id] at h
        split at h
        · cases h
        · exact ⟨g', h, rfl, rfl⟩
    | setServiceState state => exact .inl ⟨g', h, rfl, rfl⟩
    | commit result transactionNow =>
      cases result with
      | none => exact .inl ⟨g', h, rfl, rfl⟩
      | some result => cases hscan
    | _ => cases hscan

theorem exec_ids (node : NodeRuntime) {db : Database} (hsound : Sound db.val) (call : Call)
    {id : String} {g' : Aggregate} (h : (exec node db call).2.val.aggregate? id = some g') :
    (∃ g, db.val.aggregate? id = some g ∧ g'.scan.record = g.scan.record) ∨
      call.issued? = some id := by
  rcases exec_origin node hsound call h with
    ⟨g, hg, hrecord, -⟩ | ⟨dependencies, snapshot, nonce, rfl, -, hissued, -⟩
  · exact .inl ⟨g, hg, hrecord⟩
  · right
    rw [Tables.scan_id_of_aggregate? h] at hissued
    exact hissued

/-! ### Targets -/

theorem Reachable.stored {node : NodeRuntime} {P : GuestIdempotencyRecord → String → Prop}
    (hcreated : ∀ call scan, Creates node call scan → P scan.record scan.canonicalTarget)
    {db : Database} (h : Reachable node db) {id : String} {g : Aggregate}
    (hg : db.val.aggregate? id = some g) : P g.scan.record g.scan.canonicalTarget := by
  obtain ⟨calls, rfl⟩ := h
  induction calls using List.reverseRecOn generalizing g with
  | nil => cases hg
  | append_singleton calls call ih =>
    rw [Machine.run_append] at hg
    rcases exec_origin node (Reachable.sound ⟨calls, rfl⟩) call hg with
      ⟨g₀, hg₀, hrecord, htarget⟩ | hcreates
    · rw [hrecord, htarget]
      exact ih hg₀
    · exact hcreated call _ hcreates

def CanonicalTargets (node : NodeRuntime) (t : Tables) : Prop :=
  ∀ id g, t.aggregate? id = some g →
    canonicalizeHostname node g.scan.canonicalTarget = .ok g.scan.canonicalTarget

theorem Reachable.canonicalTargets {node : NodeRuntime} {db : Database}
    (h : Reachable node db) : CanonicalTargets node db.val := by
  intro id g hg
  apply h.stored (P := fun _ target => canonicalizeHostname node target = .ok target) _ hg
  rintro call scan ⟨dependencies, snapshot, nonce, rfl, hwell, -, hscan⟩
  rw [hscan]
  exact hwell.target

/-! ### Issued ids -/

/-- Every stored scan has an id that a call issued. -/
theorem run_issued (node : NodeRuntime) {calls : List Call} {id : String} {g : Aggregate}
    (h : (Machine.run (exec node) Database.initial calls).val.aggregate? id = some g) :
    id ∈ calls.filterMap Call.issued? := by
  induction calls using List.reverseRecOn generalizing g with
  | nil => cases h
  | append_singleton calls call ih =>
    rw [Machine.run_append] at h
    have hsound : Sound (Machine.run (exec node) Database.initial calls).val :=
      Reachable.sound ⟨calls, rfl⟩
    rw [List.filterMap_append, List.mem_append]
    rcases exec_ids node hsound call h with ⟨g₀, hg₀, -⟩ | hissued
    · exact .inl (ih hg₀)
    · exact .inr (List.mem_filterMap.mpr ⟨call, List.mem_singleton_self _, hissued⟩)

def OwnedBy (scope : Bytes32) (id : String) (t : Tables) : Prop :=
  ∀ g, t.aggregate? id = some g → g.scan.guestSessionScope = scope

theorem exec_ownedBy (node : NodeRuntime) {db : Database} (hsound : Sound db.val) {call : Call}
    {scope : Bytes32} {id : String} (hissued : call.issued? ≠ some id)
    (h : OwnedBy scope id db.val) : OwnedBy scope id (exec node db call).2.val := by
  intro g' hg'
  rcases exec_ids node hsound call hg' with ⟨g, hg, hrecord⟩ | hid
  · exact (congrArg GuestIdempotencyRecord.principalScope hrecord).trans (h g hg)
  · exact absurd hid hissued

theorem run_ownedBy (node : NodeRuntime) {calls : List Call} {db : Database}
    (hsound : Sound db.val) {scope : Bytes32} {id : String}
    (hissued : id ∉ calls.filterMap Call.issued?) (h : OwnedBy scope id db.val) :
    OwnedBy scope id (Machine.run (exec node) db calls).val := by
  induction calls generalizing db with
  | nil => exact h
  | cons call rest ih =>
    have hfirst : call.issued? ≠ some id := fun hid =>
      hissued (List.mem_filterMap.mpr ⟨call, List.mem_cons_self .., hid⟩)
    have hrest : id ∉ rest.filterMap Call.issued? := fun hmem => by
      obtain ⟨other, hother, hid⟩ := List.mem_filterMap.mp hmem
      exact hissued (List.mem_filterMap.mpr ⟨other, List.mem_cons_of_mem _ hother, hid⟩)
    exact ih (exec_sound node hsound call) hrest (exec_ownedBy node hsound hfirst h)

/-! ### Tokens -/

/-- What a successful call authenticates: the key and the message of the row
behind its answer. -/
def tokenInput (node : NodeRuntime) (db : Database) : Call → Option (List UInt8 × List UInt8)
  | .createOrReplay dependencies request =>
    match createOrReplay node dependencies request db with
    | (.ok _ _ _ _ _, db') => do
      let row ← db'.val.lookup request.guestSessionScope request.idempotencyKey
      let key ← dependencies.tokenKeyring row.resultTokenKeyVersion
      let message ← encodeGuestResultTokenMessage row.record.tokenMetadata
      return (key, message)
    | _ => none
  | _ => none

def tokenInputs (node : NodeRuntime) : Database → List Call → List (List UInt8 × List UInt8)
  | _, [] => []
  | db, call :: rest =>
    (tokenInput node db call).toList ++ tokenInputs node (exec node db call).2 rest

/-- Different messages of the run have different authenticators. -/
def NoCollision (node : NodeRuntime) (calls : List Call) : Prop :=
  ∀ a ∈ tokenInputs node Database.initial calls, ∀ b ∈ tokenInputs node Database.initial calls,
    node.hmacSha256 a.1 a.2 = node.hmacSha256 b.1 b.2 → a.2 = b.2

theorem tokenInput_mem (node : NodeRuntime) (db : Database) (before : List Call) (call : Call)
    (after : List Call) {input : List UInt8 × List UInt8}
    (h : tokenInput node (Machine.run (exec node) db before) call = some input) :
    input ∈ tokenInputs node db (before ++ call :: after) := by
  induction before generalizing db with
  | nil =>
    refine List.mem_append_left _ ?_
    rw [show tokenInput node db call = some input from h]
    exact List.mem_singleton_self _
  | cons first rest ih => exact List.mem_append_right _ (ih _ h)

theorem Granted.token_eq {node : NodeRuntime} {ring : GuestResultTokenKeyring} {row : GuestScan}
    {guestScanId token : String} {expiresAt : Nat}
    (h : Granted node ring row guestScanId token expiresAt) :
    ∃ key message, ring row.resultTokenKeyVersion = some key ∧
      encodeGuestResultTokenMessage row.record.tokenMetadata = some message ∧
      token = encodeBase64Url (node.hmacSha256 key message).bytes := by
  obtain ⟨key, hkey, htoken⟩ := Option.bind_eq_some_iff.mp h.token
  unfold deriveGuestResultToken at htoken
  split at htoken
  · cases htoken
  · split at htoken
    · cases htoken
    · obtain ⟨message, hmessage, rfl⟩ := Option.map_eq_some_iff.mp htoken
      exact ⟨key, message, hkey, hmessage, rfl⟩

theorem Obtained.input {node : NodeRuntime} {dependencies : GuestPersistenceDependencies}
    {request : PersistGuestScanRequest} {db db' : Database} {action : Option CreateAction}
    {guestScanId token : String} {expiresAt expiresIn : Nat} {row : GuestScan}
    (hcall : createOrReplay node dependencies request db =
      (.ok action guestScanId token expiresAt expiresIn, db'))
    (h : Obtained node dependencies request db'.val row guestScanId token expiresAt) :
    ∃ input, tokenInput node db (.createOrReplay dependencies request) = some input ∧
      encodeGuestResultTokenMessage row.record.tokenMetadata = some input.2 ∧
      token = encodeBase64Url (node.hmacSha256 input.1 input.2).bytes := by
  obtain ⟨key, message, hkey, hmessage, htoken⟩ := h.granted.token_eq
  refine ⟨(key, message), ?_, hmessage, htoken⟩
  unfold tokenInput
  simp only [hcall, h.stored, hkey, hmessage, Option.bind_eq_bind, Option.bind_some]
  rfl

/-! ### Runs -/

/-- A key is kept as long as a token made under it may be asked for. -/
def KeysKept : Call → Call → Prop
  | .createOrReplay dependencies request, .createOrReplay dependencies' request' =>
    request'.trustedNow.toNat < request.trustedNow.toNat + guestIdempotencyWindowSeconds →
      ∀ version key, dependencies.tokenKeyring version = some key →
        dependencies'.tokenKeyring version = some key
  | _, _ => True

theorem aggregate?_of_lookup {t : Tables} {scope : Bytes32} {idempotencyKey : String}
    {row : GuestScan} (h : t.lookup scope idempotencyKey = some row) :
    ∃ g, t.aggregate? row.id = some g ∧ g.scan = row := by
  have hmem := (lookup_eq_some.mp h).1
  exact ⟨⟨row, _, _, _⟩, Tables.aggregate?_eq_some.mpr
    ⟨Table.find?_of_mem hmem, rfl, rfl, rfl⟩, rfl⟩

theorem Granted.of_record {node : NodeRuntime} {ring ring' : GuestResultTokenKeyring}
    {row row' : GuestScan} {guestScanId token : String} {expiresAt : Nat}
    (h : Granted node ring row guestScanId token expiresAt) (hrecord : row'.record = row.record)
    (hring : ∀ version key, ring version = some key → ring' version = some key) :
    Granted node ring' row' guestScanId token expiresAt := by
  have hmetadata := congrArg GuestIdempotencyRecord.tokenMetadata hrecord
  have hversion : row'.resultTokenKeyVersion = row.resultTokenKeyVersion :=
    congrArg GuestResultTokenMetadata.keyVersion hmetadata
  obtain ⟨key, hkey, htoken⟩ := Option.bind_eq_some_iff.mp h.token
  refine ⟨?_, ?_, ?_, ?_⟩
  · exact (congrArg GuestResultTokenMetadata.guestScanId hmetadata).trans h.id
  · exact (congrArg GuestIdempotencyRecord.idempotencyExpiresAt hrecord).trans h.expires
  · exact (congrArg GuestResultTokenMetadata.resultAccessRevokedAt hmetadata).trans h.unrevoked
  · rw [hversion, hmetadata]
    exact Option.bind_eq_some_iff.mpr ⟨key, hring _ _ hkey, htoken⟩

theorem createOrReplay_created_expires {node : NodeRuntime}
    {dependencies : GuestPersistenceDependencies} {request : PersistGuestScanRequest}
    {db : Database} {action : CreateAction} {guestScanId token : String}
    {expiresAt expiresIn : Nat} (h : (createOrReplay node dependencies request db).1 =
      .ok (some action) guestScanId token expiresAt expiresIn) :
    expiresAt = request.trustedNow.toNat + guestIdempotencyWindowSeconds := by
  obtain ⟨snapshot, nonce, network, rest, cleared, -, rfl, -, -, -, -, -, hexpires⟩ :=
    createOrReplay_admitted h
  exact hexpires

section Pair

variable {node : NodeRuntime} {db : Database}
  {dependencies dependencies' : GuestPersistenceDependencies}
  {request request' : PersistGuestScanRequest} {between : List Call}

theorem later_replay (hsound : Sound db.val) {action : CreateAction} {guestScanId token : String}
    {expiresAt expiresIn : Nat}
    (hmade : (createOrReplay node dependencies request db).1 =
      .ok (some action) guestScanId token expiresAt expiresIn)
    (hordered : ∀ now ∈ between.filterMap Call.trustedNow, now ≤ request'.trustedNow.toNat)
    (hkeys : KeysKept (.createOrReplay dependencies request)
      (.createOrReplay dependencies' request'))
    (hsnapshot : (snapshotPersistGuestScanRequest node request').isSome = true)
    (hscope : request'.guestSessionScope = request.guestSessionScope)
    (hkey : request'.idempotencyKey = request.idempotencyKey)
    (hfresh : request'.trustedNow.toNat < expiresAt) :
    let db' := Machine.run (exec node) (createOrReplay node dependencies request db).2 between
    createOrReplay node dependencies' request' db' =
      (if request'.requestHash = request.requestHash then
        .ok none guestScanId token expiresAt (expiresAt - request'.trustedNow.toNat)
      else .failure .idempotencyKeyReused, db') := by
  intro db'
  obtain ⟨row, hobtained⟩ := createOrReplay_obtained (Prod.ext hmade rfl)
  obtain ⟨g, hg, rfl⟩ := aggregate?_of_lookup hobtained.stored
  have hsound' : Sound (createOrReplay node dependencies request db).2.val :=
    exec_sound node hsound (.createOrReplay dependencies request)
  obtain ⟨g', hg', hrecord⟩ := run_record node hsound' hg fun now hnow => by
    rw [hobtained.granted.expires]
    exact (hordered now hnow).trans_lt hfresh
  have hexpires := createOrReplay_created_expires hmade
  have hgranted : Granted node dependencies'.tokenKeyring g'.scan guestScanId token expiresAt :=
    hobtained.granted.of_record hrecord (hkeys (hexpires ▸ hfresh))
  obtain ⟨-, hunder⟩ := lookup_eq_some.mp hobtained.stored
  have hstored : db'.val.lookup request'.guestSessionScope request'.idempotencyKey =
      some g'.scan := by
    refine lookup_eq_some.mpr ⟨Table.find?_mem (Tables.aggregate?_eq_some.mp hg').1, ?_, ?_⟩
    · exact (congrArg GuestIdempotencyRecord.principalScope hrecord).trans
        (hunder.1.trans hscope.symm)
    · exact (congrArg GuestIdempotencyRecord.idempotencyKey hrecord).trans
        (hunder.2.trans hkey.symm)
  have hhash : g'.scan.requestHash = request.requestHash :=
    (congrArg GuestIdempotencyRecord.requestHash hrecord).trans hobtained.hash
  rw [createOrReplay_stored hsnapshot hstored hfresh hgranted, hhash]
  simp only [eq_comm]

theorem later_id_ne (hsound : Sound db.val) {action action' : Option CreateAction}
    {guestScanId token guestScanId' token' : String} {expiresAt expiresIn expiresAt' expiresIn' : Nat}
    (hmade : (createOrReplay node dependencies request db).1 =
      .ok action guestScanId token expiresAt expiresIn)
    (hlater : (createOrReplay node dependencies' request' (Machine.run (exec node)
      (createOrReplay node dependencies request db).2 between)).1 =
        .ok action' guestScanId' token' expiresAt' expiresIn')
    (hissued : guestScanId ∉
      (between ++ [Call.createOrReplay dependencies' request']).filterMap Call.issued?)
    (hscope : request'.guestSessionScope ≠ request.guestSessionScope) :
    guestScanId' ≠ guestScanId := by
  rintro rfl
  obtain ⟨row, hobtained⟩ := createOrReplay_obtained (Prod.ext hmade rfl)
  obtain ⟨row', hobtained'⟩ := createOrReplay_obtained (Prod.ext hlater rfl)
  obtain ⟨g, hg, hrow⟩ := aggregate?_of_lookup hobtained.stored
  obtain ⟨g', hg', hrow'⟩ := aggregate?_of_lookup hobtained'.stored
  rw [hobtained.granted.id] at hg
  rw [hobtained'.granted.id] at hg'
  have hsound' : Sound (createOrReplay node dependencies request db).2.val :=
    exec_sound node hsound (.createOrReplay dependencies request)
  have howned : OwnedBy request.guestSessionScope guestScanId'
      (createOrReplay node dependencies request db).2.val := by
    intro other hother
    rw [hg] at hother
    cases hother
    rw [hrow]
    exact (lookup_eq_some.mp hobtained.stored).2.1
  have hrun : OwnedBy request.guestSessionScope guestScanId' (Machine.run (exec node)
      (createOrReplay node dependencies request db).2
      (between ++ [Call.createOrReplay dependencies' request'])).val :=
    run_ownedBy node hsound' hissued howned
  rw [Machine.run_append] at hrun
  have hscope' := hrun g' hg'
  rw [hrow'] at hscope'
  exact hscope ((lookup_eq_some.mp hobtained'.stored).2.1.symm.trans hscope')

end Pair

theorem token_ne_of_id_ne {node : NodeRuntime} {a b : List UInt8 × List UInt8}
    {row row' : GuestScan} (hcollision : node.hmacSha256 a.1 a.2 = node.hmacSha256 b.1 b.2 →
      a.2 = b.2)
    (ha : encodeGuestResultTokenMessage row.record.tokenMetadata = some a.2)
    (hb : encodeGuestResultTokenMessage row'.record.tokenMetadata = some b.2)
    (hid : row.id ≠ row'.id) :
    encodeBase64Url (node.hmacSha256 a.1 a.2).bytes ≠
      encodeBase64Url (node.hmacSha256 b.1 b.2).bytes := by
  intro htoken
  have hmessage := hcollision (Bytes32.ext (encodeBase64Url_injective htoken))
  rw [← hmessage] at hb
  exact hid (guestScanId_eq_of_message_eq ha hb)

/-- Only a creation writes. -/
theorem createOrReplay_unchanged {node : NodeRuntime} {dependencies : GuestPersistenceDependencies}
    {request : PersistGuestScanRequest} {db : Database}
    (h : ∀ action guestScanId token expiresAt expiresIn,
      (createOrReplay node dependencies request db).1 ≠
        .ok (some action) guestScanId token expiresAt expiresIn) :
    (createOrReplay node dependencies request db).2 = db := by
  rcases createOrReplay_outcome node dependencies request db with ⟨-, hsame⟩ |
    ⟨snapshot, -, rfl, hout⟩
  · exact hsame
  · have hext : (createOrReplay node dependencies snapshot.persist db).2.val = db.val →
        (createOrReplay node dependencies snapshot.persist db).2 = db := Subtype.ext
    generalize createOrReplay node dependencies snapshot.persist db = result at h hout hext ⊢
    obtain ⟨answer, db'⟩ := result
    dsimp only at h hout hext ⊢
    generalize db'.val = t' at hout hext
    cases hout with
    | denied code decision => exact hext rfl
    | replayed guestScanId token expiresAt expiresIn decision => exact hext rfl
    | admitted action guestScanId token nonce network rest cleared t' decision material networks
        clear admission => exact absurd rfl (h action guestScanId token _ _)

/-- Idempotent creation. In every run there is one row to a scope and key; a call
that creates nothing writes nothing; a creation is replayed as it was until it
expires, and refused to another request; and where ids are drawn once and HMAC does not collide,
no other session ever obtains its id or its token. -/
theorem idempotentCreation (node : NodeRuntime) (calls : List Call)
    (hordered : (calls.filterMap Call.trustedNow).Pairwise (· ≤ ·))
    (hkeys : calls.Pairwise KeysKept) :
    (∀ scan ∈ (Machine.run (exec node) Database.initial calls).val.guestScans.rows,
      ∀ other ∈ (Machine.run (exec node) Database.initial calls).val.guestScans.rows,
        other.guestSessionScope = scan.guestSessionScope →
        other.idempotencyKey = scan.idempotencyKey → other = scan) ∧
    ∀ before dependencies request after,
      calls = before ++ .createOrReplay dependencies request :: after →
      let db := Machine.run (exec node) Database.initial before
      let made := createOrReplay node dependencies request db
      ((∀ action guestScanId token expiresAt expiresIn,
        made.1 ≠ .ok (some action) guestScanId token expiresAt expiresIn) → made.2 = db) ∧
      ∀ between dependencies' request' rest,
        after = between ++ .createOrReplay dependencies' request' :: rest →
        let db' := Machine.run (exec node) made.2 between
        let later := createOrReplay node dependencies' request' db'
        (∀ action guestScanId token expiresAt expiresIn,
          made.1 = .ok (some action) guestScanId token expiresAt expiresIn →
          (snapshotPersistGuestScanRequest node request').isSome = true →
          request'.guestSessionScope = request.guestSessionScope →
          request'.idempotencyKey = request.idempotencyKey →
          request'.trustedNow.toNat < expiresAt →
          later = (if request'.requestHash = request.requestHash then
            .ok none guestScanId token expiresAt (expiresAt - request'.trustedNow.toNat)
          else .failure .idempotencyKeyReused, db')) ∧
        ((calls.filterMap Call.issued?).Nodup → NoCollision node calls →
          ∀ action guestScanId token expiresAt expiresIn action' guestScanId' token' expiresAt'
            expiresIn',
          made.1 = .ok action guestScanId token expiresAt expiresIn →
          later.1 = .ok action' guestScanId' token' expiresAt' expiresIn' →
          request'.guestSessionScope ≠ request.guestSessionScope →
          guestScanId' ≠ guestScanId ∧ token' ≠ token) := by
  refine ⟨fun scan hscan other hother hscope hkey => ?_, ?_⟩
  · have hlookup := lookup_eq_some.mpr ⟨hscan, rfl, rfl⟩
    rw [lookup_eq_some.mpr ⟨hother, hscope, hkey⟩] at hlookup
    exact Option.some.inj hlookup
  intro before dependencies request after hcalls db made
  refine ⟨createOrReplay_unchanged, ?_⟩
  intro between dependencies' request' rest hafter db' later
  subst hafter
  have hsound : Sound db.val := Reachable.sound ⟨before, rfl⟩
  constructor
  · intro action guestScanId token expiresAt expiresIn hmade hsnapshot hscope hkey hfresh
    have hpair : KeysKept (.createOrReplay dependencies request)
        (.createOrReplay dependencies' request') := by
      rw [hcalls] at hkeys
      have hsuffix := (List.pairwise_append.mp hkeys).2.1
      exact (List.pairwise_cons.mp hsuffix).1 _
        (List.mem_append_right _ (List.mem_cons_self ..))
    have htimes : ∀ now ∈ between.filterMap Call.trustedNow,
        now ≤ request'.trustedNow.toNat := by
      intro now hnow
      have hstamp : (Call.createOrReplay dependencies request).trustedNow =
          some request.trustedNow.toNat := rfl
      rw [hcalls, List.filterMap_append, List.filterMap_cons_some hstamp,
        List.filterMap_append] at hordered
      have hsuffix := (List.pairwise_cons.mp (List.pairwise_append.mp hordered).2.1).2
      refine (List.pairwise_append.mp hsuffix).2.2 now hnow _ ?_
      exact List.mem_filterMap.mpr ⟨_, List.mem_cons_self .., rfl⟩
    exact later_replay hsound hmade htimes hpair hsnapshot hscope hkey hfresh
  · intro hids hhmac action guestScanId token expiresAt expiresIn action' guestScanId' token'
      expiresAt' expiresIn' hmade hlater hscope
    obtain ⟨row, hobtained⟩ := createOrReplay_obtained (Prod.ext hmade rfl)
    obtain ⟨row', hobtained'⟩ := createOrReplay_obtained (Prod.ext hlater rfl)
    have hissued : guestScanId ∉
        (between ++ [Call.createOrReplay dependencies' request']).filterMap Call.issued? := by
      obtain ⟨g, hg, -⟩ := aggregate?_of_lookup hobtained.stored
      rw [hobtained.granted.id] at hg
      have hrun : (Machine.run (exec node) Database.initial
          (before ++ [Call.createOrReplay dependencies request])).val.aggregate? guestScanId =
          some g := by
        rw [Machine.run_append]
        exact hg
      have hearlier := run_issued node hrun
      have hsplit : calls = (before ++ [Call.createOrReplay dependencies request]) ++
          ((between ++ [Call.createOrReplay dependencies' request']) ++ rest) := by
        simp [hcalls]
      rw [hsplit, List.filterMap_append] at hids
      intro hmem
      obtain ⟨call, hcall, hid⟩ := List.mem_filterMap.mp hmem
      exact List.disjoint_of_nodup_append hids hearlier
        (List.mem_filterMap.mpr ⟨call, List.mem_append_left _ hcall, hid⟩)
    have hne := later_id_ne hsound hmade hlater hissued hscope
    refine ⟨hne, ?_⟩
    obtain ⟨input, hinput, hmessage, rfl⟩ := hobtained.input (Prod.ext hmade rfl)
    obtain ⟨input', hinput', hmessage', rfl⟩ := hobtained'.input (Prod.ext hlater rfl)
    have hmem : input ∈ tokenInputs node Database.initial calls := by
      rw [hcalls]
      exact tokenInput_mem node _ before _ _ hinput
    have hmem' : input' ∈ tokenInputs node Database.initial calls := by
      have hsplit : calls = (before ++ Call.createOrReplay dependencies request :: between) ++
          Call.createOrReplay dependencies' request' :: rest := by
        simp [hcalls]
      rw [hsplit]
      refine tokenInput_mem node _ _ _ _ ?_
      rw [Machine.run_append]
      exact hinput'
    refine token_ne_of_id_ne (hhmac _ hmem' _ hmem) hmessage' hmessage ?_
    rw [hobtained.granted.id, hobtained'.granted.id]
    exact hne

def sampleCreations : List Call :=
  [.createOrReplay (sampleDependencies "scan-1") (sampleRequest 1 1000),
    .createOrReplay (sampleDependencies "scan-2") (sampleRequest 2 1000),
    .createOrReplay (sampleDependencies "scan-3") (sampleRequest 1 1002)]

theorem sampleCreations_made :
    (createOrReplay sampleNode (sampleDependencies "scan-1") (sampleRequest 1 1000)
      Database.initial).1 =
      .ok (some .create) "scan-1" "eX192PSOJCXEzIbupUfNmcEvXyhFqIGEGXkxLrN_Cak" 2800 1800 := by
  decide +kernel

theorem idempotentCreation_sample :
    let made := (createOrReplay sampleNode (sampleDependencies "scan-1") (sampleRequest 1 1000)
      Database.initial).2
    let db := Machine.run (exec sampleNode) made
      [.createOrReplay (sampleDependencies "scan-2") (sampleRequest 2 1000)]
    createOrReplay sampleNode (sampleDependencies "scan-3") (sampleRequest 1 1002) db =
        (.ok none "scan-1" "eX192PSOJCXEzIbupUfNmcEvXyhFqIGEGXkxLrN_Cak" 2800 1798, db) ∧
      ∃ token, (createOrReplay sampleNode (sampleDependencies "scan-2") (sampleRequest 2 1000)
          made).1 = .ok (some .create) "scan-2" token 2800 1800 ∧
        token ≠ "eX192PSOJCXEzIbupUfNmcEvXyhFqIGEGXkxLrN_Cak" := by
  dsimp only
  have hordered : (sampleCreations.filterMap Call.trustedNow).Pairwise (· ≤ ·) := by
    decide
  have hkeys : sampleCreations.Pairwise KeysKept := by
    refine .cons ?_ (.cons ?_ (.cons ?_ .nil))
    · intro call hcall
      rcases List.mem_cons.mp hcall with rfl | hcall
      · exact fun _ _ _ h => h
      · rw [List.mem_singleton.mp hcall]
        exact fun _ _ _ h => h
    · intro call hcall
      rw [List.mem_singleton.mp hcall]
      exact fun _ _ _ h => h
    · intro call hcall
      cases hcall
  have hids : (sampleCreations.filterMap Call.issued?).Nodup := by
    decide
  have hhmac : NoCollision sampleNode sampleCreations := by
    unfold NoCollision
    decide +kernel
  have hvalid : (snapshotPersistGuestScanRequest sampleNode (sampleRequest 1 1002)).isSome =
      true := by
    decide +kernel
  have hother : (createOrReplay sampleNode (sampleDependencies "scan-2") (sampleRequest 2 1000)
      (createOrReplay sampleNode (sampleDependencies "scan-1") (sampleRequest 1 1000)
        Database.initial).2).1 = .ok (some .create) "scan-2"
      "VLeRzGHfVv28vDklZL6WkiDh7ktLsMB_3XQ456c1Nj8" 2800 1800 := by
    decide +kernel
  obtain ⟨-, hlater⟩ := (idempotentCreation sampleNode sampleCreations hordered hkeys).2 []
    (sampleDependencies "scan-1") (sampleRequest 1 1000) _ rfl
  constructor
  · have hreplay := (hlater [.createOrReplay (sampleDependencies "scan-2") (sampleRequest 2 1000)]
      (sampleDependencies "scan-3") (sampleRequest 1 1002) [] rfl).1
    have hfresh : (sampleRequest 1 1002).trustedNow.toNat < 2800 := by decide
    have hreplayed := hreplay .create "scan-1" _ 2800 1800 sampleCreations_made hvalid rfl rfl hfresh
    have hhash : (sampleRequest 1 1002).requestHash = (sampleRequest 1 1000).requestHash := rfl
    rw [if_pos hhash] at hreplayed
    exact hreplayed
  · have hscope : (sampleRequest 2 1000).guestSessionScope ≠
        (sampleRequest 1 1000).guestSessionScope := by
      decide
    have hsession := (hlater [] (sampleDependencies "scan-2") (sampleRequest 2 1000) _ rfl).2
      hids hhmac
    rw [Machine.run_nil] at hsession
    obtain ⟨-, htoken⟩ := hsession _ _ _ _ _ _ _ _ _ _ sampleCreations_made hother hscope
    exact ⟨_, hother, htoken⟩

end Outscan

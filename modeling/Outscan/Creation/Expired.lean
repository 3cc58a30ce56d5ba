import Outscan.Creation.Progress
import Outscan.Lifecycle.Closing
import Outscan.Quota.Policy

/-! An expired scan can be closed, by every call that may find it, until it is
due for deletion. -/
namespace Outscan

open Relational Transactional Lifecycle

theorem Cleared.orderly {now : Nat} {t cleared : Tables} {existing : Option GuestScan}
    {action : CreateAction} (h : Cleared now t existing action cleared) (horderly : Orderly t) :
    Orderly cleared := by
  refine ⟨?_, horderly.windows.congr h.windows, h.counted horderly.counted, fun kind digest => ?_⟩
  · rw [h.control]
    exact horderly.control
  · have hle := h.heldIn_le kind fun other => decide (other = digest)
    exact hle.trans (horderly.held kind digest)

/-- What the dependencies deliver for a new scan is usable and new. -/
structure Delivers (node : NodeRuntime) (dependencies : GuestPersistenceDependencies)
    (t : Tables) (now : Nat) : Prop where
  scan : ∃ guestScanId, dependencies.createGuestScanId = some guestScanId ∧
    t.guestScans.find? guestScanId = none ∧
    (tokenMaterial node dependencies guestScanId (now + guestIdempotencyWindowSeconds)).isSome =
      true

/-- The request of the session that owns the scan, under its key. -/
structure Repeats (request : SnapshotRequest) (scan : GuestScan) (now : Nat) : Prop where
  scope : request.guestSessionScope = scan.guestSessionScope
  key : request.idempotencyKey = scan.idempotencyKey
  now : request.now = now

theorem createOrReplay_closable {node : NodeRuntime} {db : Database} (hsound : Sound db.val)
    (horderly : Orderly db.val) {id : String} {g : Aggregate} {now : Nat}
    (hg : db.val.aggregate? id = some g) (h : Closable g now)
    (hexpired : g.scan.resultAccessExpiresAt ≤ now) {dependencies : GuestPersistenceDependencies}
    {request : SnapshotRequest} (hwell : request.WellFormed node)
    (hrepeats : Repeats request g.scan now) (hdelivers : Delivers node dependencies db.val now)
    (hahead : NotAhead db.val now request.guestSessionScope request.networkSignalDigests) :
    (∃ guestScanId token, (createOrReplay node dependencies request.persist db).1 =
      .ok (some .replaceExpired) guestScanId token (now + guestIdempotencyWindowSeconds)
        guestIdempotencyWindowSeconds) ∨
    ∃ code retryAfterSeconds, (createOrReplay node dependencies request.persist db).1 =
      .abuseLimitExceeded code retryAfterSeconds := by
  obtain ⟨hscope, hkey, rfl⟩ := hrepeats
  obtain ⟨guestScanId, hissued, hfresh, hmaterial⟩ := hdelivers.scan
  obtain ⟨⟨token, nonce⟩, hmaterial⟩ := Option.isSome_iff_exists.mp hmaterial
  have hinv := hsound id g hg
  have hfind := (Tables.aggregate?_eq_some.mp hg).1
  have hid := Tables.scan_id_of_aggregate? hg
  have hlookup : db.val.lookup request.guestSessionScope request.idempotencyKey = some g.scan :=
    lookup_eq_some.mpr ⟨Table.find?_mem hfind, hscope.symm, hkey.symm⟩
  have hwindow : g.scan.idempotencyExpiresAt ≤ request.now := by
    have haccess := (Tables.scan_check_of_aggregate? hg).time.access
    omega
  have hdecision := decision_stored hwell hlookup dependencies.tokenKeyring
  rw [if_pos hwindow] at hdecision
  have hoffered : Offered node dependencies request db.val .replaceExpired guestScanId token
      nonce := ⟨by rw [hlookup]; exact hdecision, hissued, hmaterial⟩
  have hremovable : Removable db.val g.scan.id request.now := by
    obtain ⟨row, hrow, -, htimes⟩ := h.reservation hinv hg
    rw [hid]
    exact ⟨by rw [hfind]; rfl, row, (Tables.aggregate?_eq_some.mp hg).2.2.2.trans hrow,
      fun _ => htimes⟩
  obtain ⟨cleared, hclear⟩ := removeExpired_of horderly.counted hremovable
  have hcleared := removeExpired_ok hclear
  have hmissing : cleared.aggregate? guestScanId = none := by
    rw [hcleared.aggregate?]
    split
    · rfl
    · exact Tables.aggregate?_eq_none.mpr hfresh
  have hfresh' := Tables.aggregate?_eq_none.mp hmissing
  have hnone := hcleared.noOrphans db.property.noOrphans
  have hreserve : ∀ next, ∃ decision t', (reserveGuestAbuseCounters
      ⟨guestScanId, request.guestSessionScope, request.networkSignalDigests, request.now⟩).run
        { cleared with guestScans := next } = .ok (decision, t') ∧
      decision ≠ .invalidAbuseContext := by
    intro next
    have horderly' := hcleared.orderly horderly
    refine reserve_decides ⟨horderly'.control, horderly'.windows,
      horderly'.counted.congr rfl rfl, horderly'.held⟩ hwell.networks hwell.few hwell.nodup
      hwell.range ?_ (hnone guestScanId hfresh').2.2
    intro row hrow
    change row ∈ cleared.windowCounters.rows at hrow
    rw [hcleared.windows] at hrow
    exact hahead row hrow
  obtain ⟨decision, hvalid, hanswer⟩ := createOrReplay_decision
    (P := fun decision => decision ≠ .invalidAbuseContext) hwell hoffered
    (hlookup ▸ hclear) (hlookup ▸ hcleared) hfresh' hreserve
  rw [hanswer]
  cases decision with
  | allowNewScan => exact .inl ⟨guestScanId, token, rfl⟩
  | invalidAbuseContext => exact absurd rfl hvalid
  | deny code retryAfterSeconds => exact .inr ⟨code, retryAfterSeconds, rfl⟩

/-- Every reachable queued or running scan whose access has expired can be closed
until its deletion is due, at any time that is not before a change of its rows:
`acquire` ends it, `cancel` cancels it, and a repeated request that presents no
window of a later stamp replaces it or is refused by the policy. -/
theorem expired_closable (node : NodeRuntime) {db : Database} (hreach : Reachable node db)
    {id : String} {g : Aggregate} {now : Nat} (hg : db.val.aggregate? id = some g)
    (h : Closable g now) (hexpired : g.scan.resultAccessExpiresAt ≤ now) :
    (∀ createAttemptId,
      (acquire id createAttemptId (some (now : Int)) db).1 = .jobTerminated .expired ∧
      ∃ g', (acquire id createAttemptId (some (now : Int)) db).2.val.aggregate? id = some g' ∧
        g'.scan.jobState = .expired) ∧
    ((cancel id (some (now : Int)) db).1 = .cancelled ∧
      ∃ g', (cancel id (some (now : Int)) db).2.val.aggregate? id = some g' ∧
        g'.scan.jobState = .cancelled) ∧
    ∀ dependencies request, request.WellFormed node → Repeats request g.scan now →
      Delivers node dependencies db.val now →
      NotAhead db.val now request.guestSessionScope request.networkSignalDigests →
      (∃ guestScanId token, (createOrReplay node dependencies request.persist db).1 =
        .ok (some .replaceExpired) guestScanId token (now + guestIdempotencyWindowSeconds)
          guestIdempotencyWindowSeconds) ∨
      ∃ code retryAfterSeconds, (createOrReplay node dependencies request.persist db).1 =
        .abuseLimitExceeded code retryAfterSeconds :=
  ⟨acquire_closable hreach.sound hreach.counted hg h hexpired,
    cancel_closable hreach.sound hreach.counted hg h,
    fun _ _ hwell hrepeats hdelivers hahead =>
      createOrReplay_closable hreach.sound hreach.orderly hg h hexpired hwell hrepeats hdelivers
        hahead⟩

/-- At its deletion deadline the running scan of the small service can be closed
by each of the three calls. -/
theorem expired_closable_sample :
    (acquire "scan-1" none (some (87400 : Nat)) sampleDatabase).1 = .jobTerminated .expired ∧
      (cancel "scan-1" (some (87400 : Nat)) sampleDatabase).1 = .cancelled ∧
      ((∃ guestScanId token, (createOrReplay sampleNode (sampleDependencies "scan-2")
          (sampleRequest 1 87400) sampleDatabase).1 =
        .ok (some .replaceExpired) guestScanId token (87400 + guestIdempotencyWindowSeconds)
          guestIdempotencyWindowSeconds) ∨
      ∃ code retryAfterSeconds, (createOrReplay sampleNode (sampleDependencies "scan-2")
          (sampleRequest 1 87400) sampleDatabase).1 =
        .abuseLimitExceeded code retryAfterSeconds) := by
  have hstate : ((sampleDatabase.val.aggregate? "scan-1").any fun g =>
      decide (g.scan.jobState.active = true ∧ g.scan.updatedAt ≤ 87400 ∧
        (∀ attempt ∈ g.attempts, attempt.updatedAt ≤ 87400) ∧
        87400 ≤ g.scan.deletionDeadline ∧ g.scan.resultAccessExpiresAt ≤ 87400 ∧
        Bytes32.fill 1 = g.scan.guestSessionScope ∧ "key" = g.scan.idempotencyKey)) = true := by
    decide +kernel
  obtain ⟨g, hg, hfacts⟩ := (Option.any_eq_true _ _).mp hstate
  obtain ⟨hactive, hscan, hattempts, hdeadline, hexpired, hscope, hkey⟩ := of_decide_eq_true hfacts
  have hclosable : Closable g 87400 := ⟨hactive, hscan, hattempts, hdeadline⟩
  obtain ⟨hacquire, hcancel, hcreate⟩ :=
    expired_closable sampleNode sampleDatabase_reachable hg hclosable hexpired
  have hsnapshot : (snapshotPersistGuestScanRequest sampleNode (sampleRequest 1 87400)).isSome =
      true := by
    decide +kernel
  obtain ⟨snapshot, hsnapshot⟩ := Option.isSome_iff_exists.mp hsnapshot
  obtain ⟨hwell, hrequest⟩ := snapshotPersistGuestScanRequest_eq_some.mp hsnapshot
  have hnow : (87400 : Int) = snapshot.now :=
    congrArg PersistGuestScanRequest.trustedNow hrequest
  have hrepeats : Repeats snapshot g.scan 87400 :=
    ⟨(congrArg PersistGuestScanRequest.guestSessionScope hrequest).symm.trans hscope,
      (congrArg PersistGuestScanRequest.idempotencyKey hrequest).symm.trans hkey, by omega⟩
  have hdelivers : Delivers sampleNode (sampleDependencies "scan-2") sampleDatabase.val 87400 :=
    ⟨"scan-2", rfl, by decide +kernel, by decide +kernel⟩
  have hahead : NotAhead sampleDatabase.val 87400 snapshot.guestSessionScope
      snapshot.networkSignalDigests := by
    rw [← show _ = snapshot.guestSessionScope from
        congrArg PersistGuestScanRequest.guestSessionScope hrequest,
      ← show _ = snapshot.networkSignalDigests from
        congrArg PersistGuestScanRequest.networkSignalDigests hrequest]
    unfold NotAhead
    decide +kernel
  have hresult := hcreate (sampleDependencies "scan-2") snapshot hwell hrepeats hdelivers hahead
  rw [← hrequest] at hresult
  exact ⟨(hacquire none).1, hcancel.1, hresult⟩

/-- One second after the deletion deadline the running scan of the small service
can be closed by none of the three calls. -/
theorem expired_unclosable :
    Reachable sampleNode sampleDatabase ∧
      ((sampleDatabase.val.aggregate? "scan-1").any fun g =>
        decide (g.scan.jobState = .running ∧ g.scan.resultAccessExpiresAt ≤ 87401 ∧
          g.scan.updatedAt ≤ 87401 ∧ ∀ attempt ∈ g.attempts, attempt.hardDeadline ≤ 87401)) = true ∧
      (acquire "scan-1" (some "attempt-2") (some 87401) sampleDatabase).1 = .unavailable ∧
      (cancel "scan-1" (some 87401) sampleDatabase).1 = .unavailable ∧
      (createOrReplay sampleNode (sampleDependencies "scan-2") (sampleRequest 1 87401)
        sampleDatabase).1 = .unavailable := by
  refine ⟨sampleDatabase_reachable, ?_, ?_, ?_, ?_⟩ <;> decide +kernel

end Outscan

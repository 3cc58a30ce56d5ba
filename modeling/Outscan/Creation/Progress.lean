import Outscan.Creation.Replay
import Outscan.Lifecycle.References
import Outscan.Quota.Conservation

/-! When a request is granted: what must hold for a new scan to be stored. -/
namespace Outscan

open Relational Transactional Lifecycle

/-! ### The new row -/

theorem toLower_of_isLabelEdge {c : Char} (h : isLabelEdge c = true) : c.toLower = c := by
  unfold Char.toLower
  rw [dif_neg]
  intro hupper
  simp only [isLabelEdge, isLower_eq, Char.isDigit, Bool.or_eq_true, Bool.and_eq_true,
    decide_eq_true_eq, UInt32.le_iff_toNat_le, ge_iff_le] at h hupper
  have hA : 'A'.val.toNat = 65 := rfl
  have hZ : 'Z'.val.toNat = 90 := rfl
  have ha : 'a'.val.toNat = 97 := rfl
  have hnine : '9'.val.toNat = 57 := rfl
  omega

theorem target_of_canonical {node : NodeRuntime} {input host : String}
    (h : canonicalizeHostname node input = .ok host) :
    host.length ≤ 253 ∧ GuestScan.lowerCase host = true ∧ host.toList.getLast? ≠ some '.' := by
  have hshape := hasValidDnsShape_of_canonicalizeHostname h
  refine ⟨length_le_of_hasValidDnsShape hshape, ?_, getLast?_ne_dot hshape⟩
  refine List.all_eq_true.mpr fun c hc => ?_
  have hchar := isHostChar_of_mem hshape hc
  simp only [isHostChar, Bool.or_eq_true, beq_iff_eq] at hchar ⊢
  rcases hchar with (hedge | rfl) | rfl
  · exact toLower_of_isLabelEdge hedge
  · rfl
  · rfl

theorem validId_of_material {node : NodeRuntime} {dependencies : GuestPersistenceDependencies}
    {guestScanId token : String} {nonce : Bytes32} {expiresAt : Nat}
    (h : tokenMaterial node dependencies guestScanId expiresAt = some (token, nonce)) :
    validId guestScanId = true := by
  unfold tokenMaterial at h
  simp only [Option.bind_eq_bind, Option.bind_eq_some_iff] at h
  obtain ⟨_, -, _, -, _, -, h⟩ := h
  split at h
  · cases h
  · rename_i hvalid
    simpa using hvalid

theorem newGuestScan_allowed {node : NodeRuntime} {dependencies : GuestPersistenceDependencies}
    {request : SnapshotRequest} (hrequest : request.WellFormed node) {guestScanId : String}
    {nonce : Bytes32} (hid : validId guestScanId = true) :
    guardGuestScanInsert
        (newGuestScan request guestScanId nonce dependencies.activeTokenKeyVersion) ∧
      (newGuestScan request guestScanId nonce dependencies.activeTokenKeyVersion).Constraints := by
  obtain ⟨hlength, hlower, hdot⟩ := target_of_canonical hrequest.target
  refine ⟨⟨rfl, rfl, rfl, rfl, rfl, rfl, rfl, rfl⟩, ?_⟩
  refine ⟨hid, hlength, hlower, hdot, rfl, hrequest.key, ⟨rfl, rfl, rfl⟩, ?_,
    dependencies.version_le, Nat.zero_le _, (fun _ h => by cases h), ?_, hrequest.range,
    .inl ⟨rfl, rfl⟩, fun _ => rfl, (fun h => by cases h), ?_⟩
  · change 1 ≤ 9223372036854775807
    decide
  · exact ⟨le_rfl, Nat.le_add_right _ _, rfl, rfl, rfl, (fun _ h => by cases h)⟩
  · change (if JobState.queued = .succeeded then _ else _)
    rw [if_neg (by decide)]
    exact ⟨rfl, rfl, rfl⟩

/-! ### Clearing the way -/

theorem release_of_released {id : String} {now : Nat} {reason : ReleaseReason} {t : Tables}
    {row : Reservation} (hrow : t.reservations.find? id = some row)
    (hreleased : row.released.isSome = true) :
    (releaseGuestAbuseReservation id now reason).run t = .ok (true, t) := by
  unfold releaseGuestAbuseReservation
  rw [Tx.run_bind_get]
  simp only [hrow, hreleased, if_true]
  rfl

/-- The old scan can be removed: it has a reservation, and if that is still open
the time lies in its life. -/
structure Removable (t : Tables) (id : String) (now : Nat) : Prop where
  scan : (t.guestScans.find? id).isSome = true
  reservation : ∃ row, t.reservations.find? id = some row ∧
    (row.released = none → row.reservedAt ≤ now ∧ now ≤ row.deletionDeadline)

theorem removeExpired_of {t : Tables} {row : GuestScan} {now : Nat} (hcounted : Counted t)
    (h : Removable t row.id now) :
    ∃ cleared, (removeExpired (some row) now .replaceExpired).run t = .ok ((), cleared) := by
  obtain ⟨reservation, hfind, htimes⟩ := h.reservation
  obtain ⟨released, hrelease⟩ : ∃ released,
      (releaseGuestAbuseReservation row.id now .expiredReplacement).run t = .ok (true, released) := by
    cases hreleased : reservation.released with
    | none =>
      obtain ⟨hreserved, hdeadline⟩ := htimes hreleased
      exact hcounted.release hfind hreleased hreserved hdeadline .expiredReplacement
    | some _ => exact ⟨t, release_of_released hfind (by rw [hreleased]; rfl)⟩
  have hreleased : Released row.id now .expiredReplacement t released := by
    rcases releaseGuestAbuseReservation_ok hrelease with ⟨-, hreleased⟩ | ⟨hfalse, -⟩
    · exact hreleased
    · cases hfalse
  obtain ⟨scan, hscan⟩ := Option.isSome_iff_exists.mp h.scan
  have hkept : released.guestScans.find? row.id = some scan := by
    rw [hreleased.rest]
    exact hscan
  have hcount : released.guestScans.rows.countP (fun other => decide (other.id = row.id)) = 1 := by
    have hone := Table.countP_key (p := fun _ => true) hkept rfl
    simp only [Bool.and_true] at hone
    exact hone
  have hdelete : (deleteGuestScan row.id).run released =
      .ok (1, released.deleteGuestScan row.id) := by
    rw [← hcount]
    rfl
  refine ⟨released.deleteGuestScan row.id, ?_⟩
  simp only [removeExpired, Option.map_some, Option.getD_some]
  rw [Tx.run_bind_of_ok hrelease, Tx.run_bind_of_ok (Tx.run_ensure_of rfl released),
    Tx.run_bind_of_ok hdelete]
  exact Tx.run_ensure_of rfl _

/-! ### The checks at COMMIT -/

theorem Owned.deleteGuestScan {t : Tables} (h : Owned t) (id : String) :
    Owned (t.deleteGuestScan id) := by
  have hkept : ∀ {other : GuestScan}, other ∈ t.guestScans.rows → other.id ≠ id →
      other ∈ (t.deleteGuestScan id).guestScans.rows := by
    intro other hother hne
    exact List.mem_filter.mpr ⟨hother, by simpa using hne⟩
  refine ⟨fun attempt hattempt => ?_, fun result hresult => ?_, fun reservation hreservation => ?_⟩
  · obtain ⟨hmem, hne⟩ := List.mem_filter.mp hattempt
    obtain ⟨scan, hscan, hid⟩ := h.attempt attempt hmem
    exact ⟨scan, hkept hscan (by simpa [hid] using hne), hid⟩
  · obtain ⟨hmem, hne⟩ := List.mem_filter.mp hresult
    obtain ⟨scan, hscan, hid⟩ := h.result result hmem
    exact ⟨scan, hkept hscan (by simpa [hid] using hne), hid⟩
  · obtain ⟨hmem, hne⟩ := List.mem_filter.mp hreservation
    obtain ⟨scan, hscan, hid, hrest⟩ := h.reservation reservation hmem
    exact ⟨scan, hkept hscan (by simpa [hid] using hne), hid, hrest⟩

section Cleared

variable {now : Nat} {t cleared : Tables} {existing : Option GuestScan} {action : CreateAction}

theorem Cleared.owned (h : Cleared now t existing action cleared) (howned : Owned t) :
    Owned cleared := by
  cases h with
  | create existing => exact howned
  | replaceExpired row released release =>
    obtain ⟨_, -, ⟨-, rfl⟩ | ⟨-, -, -, active, -, reservations, -, -, hrows, rfl⟩⟩ := release
    · exact howned.deleteGuestScan row.id
    · have hreleased := howned.reservations hrows
      exact (show Owned { t with activeCounters := active, reservations := reservations } from
        ⟨hreleased.attempt, hreleased.result, hreleased.reservation⟩).deleteGuestScan row.id

theorem Cleared.foreignKeys (h : Cleared now t existing action cleared) (hkeys : ForeignKeys t) :
    ForeignKeys cleared := by
  have howned := h.owned hkeys.owned
  cases h with
  | create existing => exact hkeys
  | replaceExpired row released release =>
    rw [release.rest] at howned ⊢
    have hattempts : ∀ {id : String}, id ≠ row.id → ∀ {attempt : GuestScanAttempt},
        attempt ∈ t.guestScanAttempts.rows → attempt.guestScanId = id →
        attempt ∈ (t.guestScanAttempts.erase fun other =>
          decide (other.guestScanId = row.id)).rows := by
      intro id hne attempt hattempt hid
      exact List.mem_filter.mpr ⟨hattempt, by simpa [hid] using hne⟩
    refine ⟨fun scan hscan attemptId hcurrent => ?_,
      fun scan hscan attemptId hattempt fence hfence digest hdigest => ?_, howned.attempt,
      fun result hresult => ⟨howned.result result hresult, ?_⟩, howned.reservation⟩
    · obtain ⟨hmem, hne⟩ := List.mem_filter.mp hscan
      obtain ⟨attempt, hattempt, hid, hrest⟩ := hkeys.current scan hmem attemptId hcurrent
      exact ⟨attempt, hattempts (by simpa using hne) hattempt hid, hid, hrest⟩
    · obtain ⟨hmem, hne⟩ := List.mem_filter.mp hscan
      obtain ⟨result, hresult, hid, hrest⟩ :=
        hkeys.accepted scan hmem attemptId hattempt fence hfence digest hdigest
      exact ⟨result, List.mem_filter.mpr ⟨hresult, by simpa [hid] using hne⟩, hid, hrest⟩
    · obtain ⟨hmem, hne⟩ := List.mem_filter.mp hresult
      obtain ⟨-, attempt, hattempt, hid, hrest⟩ := hkeys.result result hmem
      exact ⟨attempt, hattempts (by simpa using hne) hattempt hid, hid, hrest⟩

end Cleared

section Admitted

variable {request : SnapshotRequest} {network : Bytes32} {guestScanId : String} {nonce : Bytes32}
  {keyVersion : Nat} {cleared t' : Tables}

theorem Admitted.owned
    (h : Admitted request network (newGuestScan request guestScanId nonce keyVersion) cleared t')
    (howned : Owned cleared) : Owned t' := by
  have hkept : ∀ {scan : GuestScan}, scan ∈ cleared.guestScans.rows → scan ∈ t'.guestScans.rows :=
    fun hscan => h.scans ▸ List.mem_append_left _ hscan
  have hrest := h.reserved.rest
  refine ⟨fun attempt hattempt => ?_, fun result hresult => ?_, fun reservation hreservation => ?_⟩
  · rw [hrest] at hattempt
    obtain ⟨scan, hscan, hid⟩ := howned.attempt attempt hattempt
    exact ⟨scan, hkept hscan, hid⟩
  · rw [hrest] at hresult
    obtain ⟨scan, hscan, hid⟩ := howned.result result hresult
    exact ⟨scan, hkept hscan, hid⟩
  · rw [h.reserved.reservations] at hreservation
    rcases List.mem_append.mp hreservation with hold | hnew
    · obtain ⟨scan, hscan, hsame⟩ := howned.reservation reservation hold
      exact ⟨scan, hkept hscan, hsame⟩
    · rw [List.mem_singleton.mp hnew]
      exact ⟨_, h.scans ▸ List.mem_append_right _ (List.mem_singleton_self _), rfl, rfl, rfl, rfl⟩

theorem Admitted.foreignKeys
    (h : Admitted request network (newGuestScan request guestScanId nonce keyVersion) cleared t')
    (hkeys : ForeignKeys cleared) : ForeignKeys t' := by
  have howned := h.owned hkeys.owned
  have hrest := h.reserved.rest
  have hattempts : t'.guestScanAttempts = cleared.guestScanAttempts := by
    rw [hrest]
  have hresults : t'.guestResults = cleared.guestResults := by rw [hrest]
  refine ⟨fun scan hscan => ?_, fun scan hscan => ?_, howned.attempt,
    fun result hresult => ⟨howned.result result hresult, ?_⟩, howned.reservation⟩
  · rw [hattempts]
    rw [h.scans] at hscan
    rcases List.mem_append.mp hscan with hold | hnew
    · exact hkeys.current scan hold
    · rw [List.mem_singleton.mp hnew]
      intro attemptId hcurrent
      cases hcurrent
  · rw [hresults]
    rw [h.scans] at hscan
    rcases List.mem_append.mp hscan with hold | hnew
    · exact hkeys.accepted scan hold
    · rw [List.mem_singleton.mp hnew]
      intro attemptId hattempt
      cases hattempt
  · rw [hattempts]
    exact (hkeys.result result (hresults ▸ hresult)).2

end Admitted

/-! ### The transaction -/

/-- What the dependencies deliver for a new scan, and what of it the tables find. -/
structure Offered (node : NodeRuntime) (dependencies : GuestPersistenceDependencies)
    (request : SnapshotRequest) (t : Tables) (action : CreateAction) (guestScanId token : String)
    (nonce : Bytes32) : Prop where
  decision : decideGuestScanIdempotency node request.idempotency
    (existingRecord (t.lookup request.guestSessionScope request.idempotencyKey))
    dependencies.tokenKeyring = .proceed action
  issued : dependencies.createGuestScanId = some guestScanId
  material : tokenMaterial node dependencies guestScanId
    (request.now + guestIdempotencyWindowSeconds) = some (token, nonce)

theorem Cleared.apart {request : SnapshotRequest} {now : Nat} {t cleared : Tables}
    {action : CreateAction} {guestScanId : String} {nonce : Bytes32} {keyVersion : Nat}
    (h : Cleared now t (t.lookup request.guestSessionScope request.idempotencyKey) action cleared)
    (haction : action = .create →
      t.lookup request.guestSessionScope request.idempotencyKey = none)
    (hfresh : cleared.guestScans.find? guestScanId = none) :
    ∀ other ∈ cleared.guestScans.rows,
      GuestScan.Apart other (newGuestScan request guestScanId nonce keyVersion) := by
  intro other hother
  refine ⟨Table.find?_eq_none.mp hfresh other hother, fun hsame => ?_⟩
  obtain ⟨hscope, -, hkey⟩ := hsame
  have hunder : other.under request.guestSessionScope request.idempotencyKey := ⟨hscope, hkey⟩
  generalize hfound : t.lookup request.guestSessionScope request.idempotencyKey = found at h haction
  cases h with
  | create existing =>
    rw [haction rfl] at hfound
    rw [lookup_eq_some.mpr ⟨hother, hunder⟩] at hfound
    cases hfound
  | replaceExpired row released release =>
    obtain ⟨hmem, hne⟩ := List.mem_filter.mp hother
    have hbefore : other ∈ t.guestScans.rows := by
      rw [release.rest] at hmem
      exact hmem
    rw [lookup_eq_some.mpr ⟨hbefore, hunder⟩] at hfound
    cases hfound
    simp at hne

def GuestAbuseDecision.answer (action : CreateAction) (guestScanId token : String) (now : Nat) :
    GuestAbuseDecision → PersistGuestScanResult
  | .allowNewScan =>
    .ok (some action) guestScanId token (now + guestIdempotencyWindowSeconds)
      guestIdempotencyWindowSeconds
  | .invalidAbuseContext => .unavailable
  | .deny code retryAfterSeconds => .abuseLimitExceeded code retryAfterSeconds

def GuestAbuseDecision.verdict (action : CreateAction) (guestScanId token : String) (now : Nat)
    (decision : GuestAbuseDecision) : Verdict PersistGuestScanResult :=
  if decision = .allowNewScan then .commit (decision.answer action guestScanId token now)
  else .rollback (decision.answer action guestScanId token now)

section Progress

variable {node : NodeRuntime} {dependencies : GuestPersistenceDependencies}
  {request : SnapshotRequest} {db : Database} {action : CreateAction} {guestScanId token : String}
  {nonce : Bytes32} {cleared : Tables}

theorem Offered.existing {t : Tables} (hwell : request.WellFormed node)
    (h : Offered node dependencies request t action guestScanId token nonce) :
    (action = .create ∧ t.lookup request.guestSessionScope request.idempotencyKey = none) ∨
      ∃ row, action = .replaceExpired ∧
        t.lookup request.guestSessionScope request.idempotencyKey = some row ∧
        row.idempotencyExpiresAt ≤ request.now := by
  have hdecision := h.decision
  cases hlookup : t.lookup request.guestSessionScope request.idempotencyKey with
  | none =>
    have hmade : decideGuestScanIdempotency node request.idempotency (existingRecord none)
        dependencies.tokenKeyring = .proceed .create :=
      decideGuestScanIdempotency_absent hwell.key hwell.window_le
    rw [hlookup, hmade] at hdecision
    cases hdecision
    exact .inl ⟨rfl, rfl⟩
  | some row =>
    rw [hlookup, decision_stored hwell hlookup] at hdecision
    split at hdecision
    · rename_i hexpired
      cases hdecision
      exact .inr ⟨row, rfl, rfl, hexpired⟩
    · split at hdecision
      · cases hdecision
      · split at hdecision
        · cases hdecision
        · split at hdecision
          · cases hdecision
          · cases hdecision

/-- With the way clear and a fresh id, all that is left to the transaction is the policy. -/
theorem createOrReplayBody_run (hwell : request.WellFormed node)
    (hoffered : Offered node dependencies request db.val action guestScanId token nonce)
    (hclear : (removeExpired (db.val.lookup request.guestSessionScope request.idempotencyKey)
      request.now action).run db.val = .ok ((), cleared))
    (hcleared : Cleared request.now db.val
      (db.val.lookup request.guestSessionScope request.idempotencyKey) action cleared)
    (hfresh : cleared.guestScans.find? guestScanId = none) :
    ∃ next, (createOrReplayBody node dependencies request).run db.val =
      (do
        let decision ← reserveGuestAbuseCounters
          ⟨guestScanId, request.guestSessionScope, request.networkSignalDigests, request.now⟩
        pure (decision.verdict action guestScanId token request.now) :
          Sql (Verdict PersistGuestScanResult)).run { cleared with guestScans := next } := by
  let row := newGuestScan request guestScanId nonce dependencies.activeTokenKeyVersion
  obtain ⟨hguard, hcheck⟩ : guardGuestScanInsert row ∧ row.Constraints :=
    newGuestScan_allowed hwell (validId_of_material hoffered.material)
  have hapart : ∀ other ∈ cleared.guestScans.rows, GuestScan.Apart other row := by
    refine hcleared.apart (fun haction => ?_) hfresh
    rcases hoffered.existing hwell with ⟨-, hnone⟩ | ⟨_, hreplace, -⟩
    · exact hnone
    · rw [haction] at hreplace
      cases hreplace
  obtain ⟨next, hrows⟩ := Table.exists_inserted hcheck hapart
  have hinsert : (insertGuestScan row).run cleared =
      .ok ((), { cleared with guestScans := next }) := by
    unfold insertGuestScan
    rw [Tx.run_bind_of_ok (Tx.run_ensure_of hguard cleared)]
    exact Tx.run_insert_ok.mpr ⟨hcheck, hapart, next, hrows, rfl⟩
  have hproceed := hoffered.decision
  unfold SnapshotRequest.idempotency at hproceed
  refine ⟨next, ?_⟩
  unfold createOrReplayBody
  rw [Tx.run_bind_get]
  simp only [hproceed, hoffered.issued, hoffered.material]
  unfold createScan
  rw [Tx.run_bind_of_ok hclear, Tx.run_bind_of_ok hinsert]
  congr 2
  funext decision
  cases decision <;> rfl

theorem createOrReplay_decision (hwell : request.WellFormed node)
    (hoffered : Offered node dependencies request db.val action guestScanId token nonce)
    (hclear : (removeExpired (db.val.lookup request.guestSessionScope request.idempotencyKey)
      request.now action).run db.val = .ok ((), cleared))
    (hcleared : Cleared request.now db.val
      (db.val.lookup request.guestSessionScope request.idempotencyKey) action cleared)
    (hfresh : cleared.guestScans.find? guestScanId = none) {P : GuestAbuseDecision → Prop}
    (hreserve : ∀ next, ∃ decision t', (reserveGuestAbuseCounters
      ⟨guestScanId, request.guestSessionScope, request.networkSignalDigests, request.now⟩).run
        { cleared with guestScans := next } = .ok (decision, t') ∧ P decision) :
    ∃ decision, P decision ∧ (createOrReplay node dependencies request.persist db).1 =
      decision.answer action guestScanId token request.now := by
  obtain ⟨next, hbody⟩ := createOrReplayBody_run hwell hoffered hclear hcleared hfresh
  obtain ⟨decision, t', hreserved, hdecision⟩ := hreserve next
  rw [Tx.run_bind_of_ok hreserved, Tx.run_pure'] at hbody
  have hsnapshot : snapshotPersistGuestScanRequest node request.persist = some request :=
    snapshotPersistGuestScanRequest_eq_some.mpr ⟨hwell, rfl⟩
  refine ⟨decision, hdecision, ?_⟩
  unfold createOrReplay
  simp only [hsnapshot]
  by_cases hallow : decision = .allowNewScan
  · subst hallow
    have houtcome := createOrReplayBody_outcome hwell hbody
    cases houtcome with
    | admitted action' guestScanId' token' nonce' network rest other t' decision' material networks
        clear admission =>
      have hkeys : ForeignKeys t' := admission.foreignKeys (clear.foreignKeys db.property)
      exact congrArg Prod.fst (atomically_of_commit hbody hkeys)
  · rw [GuestAbuseDecision.verdict, if_neg hallow] at hbody
    exact congrArg Prod.fst (atomically_of_rollback hbody)

theorem createOrReplay_unreadable (hwell : request.WellFormed node)
    (hoffered : Offered node dependencies request db.val action guestScanId token nonce)
    (hclear : (removeExpired (db.val.lookup request.guestSessionScope request.idempotencyKey)
      request.now action).run db.val = .ok ((), cleared))
    (hcleared : Cleared request.now db.val
      (db.val.lookup request.guestSessionScope request.idempotencyKey) action cleared)
    (hfresh : cleared.guestScans.find? guestScanId = none)
    (hreserve : ∀ next, ∃ error, (reserveGuestAbuseCounters
      ⟨guestScanId, request.guestSessionScope, request.networkSignalDigests, request.now⟩).run
        { cleared with guestScans := next } = .error error) :
    (createOrReplay node dependencies request.persist db).1 = .unavailable := by
  obtain ⟨next, hbody⟩ := createOrReplayBody_run hwell hoffered hclear hcleared hfresh
  obtain ⟨error, hreserved⟩ := hreserve next
  rw [Tx.run_bind_of_error hreserved] at hbody
  have hsnapshot : snapshotPersistGuestScanRequest node request.persist = some request :=
    snapshotPersistGuestScanRequest_eq_some.mpr ⟨hwell, rfl⟩
  unfold createOrReplay
  simp only [hsnapshot]
  exact congrArg Prod.fst (atomically_of_error hbody)

end Progress

end Outscan

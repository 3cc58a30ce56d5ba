import Outscan.Creation.Decision
import Outscan.Lifecycle.Refinement
import Outscan.Quota.Reserve

/-! What `createOrReplay` does to the tables: answer from a stored row, or
clear the way for a new scan and admit it. -/
namespace Outscan

open Relational Transactional Lifecycle

/-! ### The transaction -/

def SnapshotRequest.idempotency (request : SnapshotRequest) : GuestIdempotencyRequest :=
  ⟨request.guestSessionScope, request.idempotencyKey, request.requestHash, request.now⟩

/-- The tables in which the new scan is inserted: the ones found, or the ones
left by the removal of the expired scan. -/
inductive Cleared (now : Nat) (t : Tables) : Option GuestScan → CreateAction → Tables → Prop
  | create (existing : Option GuestScan) : Cleared now t existing .create t
  | replaceExpired (row : GuestScan) (released : Tables)
      (release : Released row.id now .expiredReplacement t released) :
      Cleared now t (some row) .replaceExpired (released.deleteGuestScan row.id)

structure Admitted (request : SnapshotRequest) (network : Bytes32) (row : GuestScan)
    (cleared t' : Tables) : Prop where
  check : row.Constraints
  apart : ∀ other ∈ cleared.guestScans.rows, GuestScan.Apart other row
  scans : t'.guestScans.rows = cleared.guestScans.rows ++ [row]
  admissible : Admissible cleared request.now request.guestSessionScope
    request.networkSignalDigests
  reserved : Reserved { cleared with guestScans := t'.guestScans } t' row.id
    request.guestSessionScope network request.now

theorem removeExpired_released {existing : Option GuestScan} {now : Nat} {t t' : Tables}
    {value : Unit} (h : (removeExpired existing now .replaceExpired).run t = .ok (value, t')) :
    ∃ released, Released ((existing.map GuestScan.id).getD "") now .expiredReplacement t released ∧
      t' = released.deleteGuestScan ((existing.map GuestScan.id).getD "") := by
  simp only [removeExpired] at h
  rw [Tx.run_bind_ok] at h
  obtain ⟨released, mid, hrelease, h⟩ := h
  rw [Tx.run_bind_ok] at h
  obtain ⟨_, _, hensure, h⟩ := h
  obtain ⟨rfl, rfl⟩ := Tx.run_ensure_ok.mp hensure
  rw [Tx.run_bind_ok] at h
  obtain ⟨removed, _, hdelete, h⟩ := h
  obtain ⟨-, rfl⟩ := Tx.run_ensure_ok.mp h
  simp only [deleteGuestScan, Tx.run_bind_ok, Tx.run_get_ok, Tx.run_set_ok, Tx.run_pure_ok]
    at hdelete
  obtain ⟨_, _, ⟨rfl, rfl⟩, _, _, rfl, -, rfl⟩ := hdelete
  rcases releaseGuestAbuseReservation_ok hrelease with ⟨-, hreleased⟩ | ⟨hfalse, -⟩
  · exact ⟨_, hreleased, rfl⟩
  · cases hfalse

theorem removeExpired_ok {row : GuestScan} {now : Nat} {t t' : Tables} {value : Unit}
    (h : (removeExpired (some row) now .replaceExpired).run t = .ok (value, t')) :
    Cleared now t (some row) .replaceExpired t' := by
  obtain ⟨released, hreleased, rfl⟩ := removeExpired_released h
  exact .replaceExpired row released hreleased

theorem createScan_ok {node : NodeRuntime} {request : SnapshotRequest}
    {dependencies : GuestPersistenceDependencies} {existing : Option GuestScan}
    {action : CreateAction} {guestScanId token : String} {nonce : Bytes32} {t t' : Tables}
    {answer : PersistGuestScanResult} {network : Bytes32} {rest : List Bytes32}
    (hrequest : request.WellFormed node)
    (hnetworks : request.networkSignalDigests = network :: rest)
    (hexisting : action = .replaceExpired → existing.isSome = true)
    (h : (createScan request dependencies existing action guestScanId token nonce).run t =
      .ok (.commit answer, t')) :
    answer = .ok (some action) guestScanId token
        (request.now + guestIdempotencyWindowSeconds) guestIdempotencyWindowSeconds ∧
      ∃ cleared, Cleared request.now t existing action cleared ∧
        Admitted request network
          (newGuestScan request guestScanId nonce dependencies.activeTokenKeyVersion)
          cleared t' := by
  simp only [createScan] at h
  rw [Tx.run_bind_ok] at h
  obtain ⟨_, cleared, hclear, h⟩ := h
  have hcleared : Cleared request.now t existing action cleared := by
    cases action with
    | create =>
      obtain ⟨-, rfl⟩ := Tx.run_pure_ok.mp hclear
      exact .create existing
    | replaceExpired =>
      obtain ⟨row, rfl⟩ := Option.isSome_iff_exists.mp (hexisting rfl)
      exact removeExpired_ok hclear
  rw [Tx.run_bind_ok] at h
  obtain ⟨_, inserted, hinsert, h⟩ := h
  unfold insertGuestScan at hinsert
  rw [Tx.run_bind_ok] at hinsert
  obtain ⟨_, _, hguard, hinsert⟩ := hinsert
  rw [(Tx.run_ensure_ok.mp hguard).2] at hinsert
  obtain ⟨hcheck, hapart, scans, hrows, rfl⟩ := Tx.run_insert_ok.mp hinsert
  rw [Tx.run_bind_ok] at h
  obtain ⟨decision, reserved, hreserve, h⟩ := h
  cases decision with
  | invalidAbuseContext => cases (Tx.run_pure_ok.mp h).1
  | deny code retryAfterSeconds => cases (Tx.run_pure_ok.mp h).1
  | allowNewScan =>
    obtain ⟨hanswer, rfl⟩ := Tx.run_pure_ok.mp h
    obtain ⟨hadmissible, hreserved⟩ :=
      reserve_allow hnetworks hrequest.nodup hrequest.range hreserve
    have hscans : t'.guestScans = scans := by rw [hreserved.rest]; rfl
    refine ⟨Verdict.commit.inj hanswer, cleared, hcleared, hcheck, hapart, ?_, ?_, ?_⟩
    · rw [hscans]
      exact hrows
    · exact ⟨hadmissible.control, hadmissible.notAhead, hadmissible.windows,
        hadmissible.active⟩
    · rw [hscans]
      exact hreserved

/-- What a transaction of `createOrReplay` that commits did. -/
inductive CreateOutcome (node : NodeRuntime) (dependencies : GuestPersistenceDependencies)
    (request : SnapshotRequest) (t : Tables) : PersistGuestScanResult → Tables → Prop
  | denied (code : GuestIdempotencyError)
      (decision : decideGuestScanIdempotency node request.idempotency
        (existingRecord (t.lookup request.guestSessionScope request.idempotencyKey))
        dependencies.tokenKeyring = .deny code) :
      CreateOutcome node dependencies request t (.failure code) t
  | replayed (guestScanId token : String) (expiresAt expiresIn : Nat)
      (decision : decideGuestScanIdempotency node request.idempotency
        (existingRecord (t.lookup request.guestSessionScope request.idempotencyKey))
        dependencies.tokenKeyring = .replay guestScanId token expiresAt expiresIn) :
      CreateOutcome node dependencies request t (.ok none guestScanId token expiresAt expiresIn) t
  | admitted (action : CreateAction) (guestScanId token : String) (nonce network : Bytes32)
      (rest : List Bytes32) (cleared t' : Tables)
      (decision : decideGuestScanIdempotency node request.idempotency
        (existingRecord (t.lookup request.guestSessionScope request.idempotencyKey))
        dependencies.tokenKeyring = .proceed action)
      (material : tokenMaterial node dependencies guestScanId
        (request.now + guestIdempotencyWindowSeconds) = some (token, nonce))
      (networks : request.networkSignalDigests = network :: rest)
      (clear : Cleared request.now t
        (t.lookup request.guestSessionScope request.idempotencyKey) action cleared)
      (admission : Admitted request network
        (newGuestScan request guestScanId nonce dependencies.activeTokenKeyVersion) cleared t') :
      CreateOutcome node dependencies request t
        (.ok (some action) guestScanId token (request.now + guestIdempotencyWindowSeconds)
          guestIdempotencyWindowSeconds) t'

theorem isSome_of_replaceExpired {node : NodeRuntime} {request : GuestIdempotencyRequest}
    {found : Option GuestScan} {ring : GuestResultTokenKeyring}
    (h : decideGuestScanIdempotency node request (existingRecord found) ring =
      .proceed .replaceExpired) : found.isSome = true := by
  cases found with
  | some row => rfl
  | none =>
    unfold decideGuestScanIdempotency existingRecord createDecision at h
    split at h
    · cases h
    · dsimp only at h
      split at h
      · cases h
      · cases h

theorem createOrReplayBody_outcome {node : NodeRuntime} {request : SnapshotRequest}
    {dependencies : GuestPersistenceDependencies} {t t' : Tables}
    {answer : PersistGuestScanResult} (hrequest : request.WellFormed node)
    (h : (createOrReplayBody node dependencies request).run t = .ok (.commit answer, t')) :
    CreateOutcome node dependencies request t answer t' := by
  unfold createOrReplayBody at h
  rw [Tx.run_bind_get] at h
  dsimp only at h
  split at h
  · rename_i code hdecision
    obtain ⟨hanswer, rfl⟩ := Tx.run_pure_ok.mp h
    cases hanswer
    exact .denied code hdecision
  · rename_i guestScanId token expiresAt expiresIn hdecision
    obtain ⟨hanswer, rfl⟩ := Tx.run_pure_ok.mp h
    cases hanswer
    exact .replayed guestScanId token expiresAt expiresIn hdecision
  · rename_i action hdecision
    split at h
    · exact (Tx.run_fail_ok.mp h).elim
    · rename_i guestScanId hid
      split at h
      · cases (Tx.run_pure_ok.mp h).1
      · rename_i token nonce hmaterial
        obtain ⟨network, rest, hnetworks⟩ := List.exists_cons_of_ne_nil hrequest.networks
        obtain ⟨rfl, cleared, hcleared, hadmitted⟩ := createScan_ok hrequest hnetworks
          (fun haction => isSome_of_replaceExpired (haction ▸ hdecision)) h
        exact .admitted action guestScanId token nonce network rest cleared t' hdecision
          hmaterial hnetworks hcleared hadmitted

/-! ### Aggregates -/

def NoOrphans (t : Tables) : Prop :=
  ∀ id, t.guestScans.find? id = none →
    t.attemptsOf id = [] ∧ t.guestResults.find? id = none ∧ t.reservations.find? id = none

theorem ForeignKeys.noOrphans {t : Tables} (h : ForeignKeys t) : NoOrphans t := by
  intro id hnone
  have hmissing := Table.find?_eq_none.mp hnone
  refine ⟨List.eq_nil_iff_forall_not_mem.mpr fun attempt hattempt => ?_,
    Table.find?_eq_none.mpr fun result hresult hid => ?_,
    Table.find?_eq_none.mpr fun reservation hreservation hid => ?_⟩
  · obtain ⟨hmem, howner⟩ := Tables.mem_attemptsOf.mp hattempt
    obtain ⟨scan, hscan, hid⟩ := h.attempt attempt hmem
    exact hmissing scan hscan (hid.trans howner)
  · obtain ⟨scan, hscan, hscanId⟩ := (h.result result hresult).1
    exact hmissing scan hscan (hscanId.trans hid)
  · obtain ⟨scan, hscan, hscanId, -⟩ := h.reservation reservation hreservation
    exact hmissing scan hscan (hscanId.trans hid)

section Delete

variable (t : Tables) (id : String)

theorem find?_deleteGuestScan (j : String) :
    (t.deleteGuestScan id).guestScans.find? j =
      if j = id then none else t.guestScans.find? j := by
  change (t.guestScans.erase _).find? j = _
  rw [Table.find?_erase]
  cases hfind : t.guestScans.find? j with
  | none => simp
  | some row =>
    have hkey : row.id = j := Table.find?_key hfind
    by_cases hj : j = id <;> simp [hkey, hj]

theorem attemptsOf_deleteGuestScan (j : String) :
    (t.deleteGuestScan id).attemptsOf j = if j = id then [] else t.attemptsOf j := by
  change ((t.guestScanAttempts.rows.filter _).filter _).reverse = _
  rw [List.filter_filter]
  by_cases hj : j = id
  · rw [if_pos hj, List.reverse_eq_nil_iff, List.filter_eq_nil_iff]
    intro row _
    by_cases hrow : row.guestScanId = id <;> simp [hrow, hj]
  · rw [if_neg hj]
    unfold Tables.attemptsOf
    congr 1
    refine List.filter_congr fun row _ => ?_
    by_cases hrow : row.guestScanId = j <;> simp [hrow, hj]

theorem findResult_deleteGuestScan (j : String) :
    (t.deleteGuestScan id).guestResults.find? j =
      if j = id then none else t.guestResults.find? j := by
  change (t.guestResults.erase _).find? j = _
  rw [Table.find?_erase]
  cases hfind : t.guestResults.find? j with
  | none => simp
  | some row =>
    have hkey : row.guestScanId = j := Table.find?_key hfind
    by_cases hj : j = id <;> simp [hkey, hj]

theorem findReservation_deleteGuestScan (j : String) :
    (t.deleteGuestScan id).reservations.find? j =
      if j = id then none else t.reservations.find? j := by
  change (t.reservations.erase _).find? j = _
  rw [Table.find?_erase]
  cases hfind : t.reservations.find? j with
  | none => simp
  | some row =>
    have hkey : row.guestScanId = j := Table.find?_key hfind
    by_cases hj : j = id <;> simp [hkey, hj]

theorem aggregate?_deleteGuestScan (j : String) :
    (t.deleteGuestScan id).aggregate? j = if j = id then none else t.aggregate? j := by
  unfold Tables.aggregate?
  rw [find?_deleteGuestScan, attemptsOf_deleteGuestScan, findResult_deleteGuestScan,
    findReservation_deleteGuestScan]
  split <;> rfl

theorem NoOrphans.deleteGuestScan {t : Tables} (h : NoOrphans t) (id : String) :
    NoOrphans (t.deleteGuestScan id) := by
  intro j hj
  rw [attemptsOf_deleteGuestScan, findResult_deleteGuestScan, findReservation_deleteGuestScan]
  rw [find?_deleteGuestScan] at hj
  split
  · exact ⟨rfl, rfl, rfl⟩
  · rename_i hne
    rw [if_neg hne] at hj
    exact h j hj

end Delete

section Released

variable {id : String} {now : Nat} {reason : ReleaseReason} {t t' : Tables}

theorem Released.aggregate?_ne (h : Released id now reason t t') {j : String} (hj : j ≠ id) :
    t'.aggregate? j = t.aggregate? j := by
  obtain ⟨row, -, ⟨-, rfl⟩ | ⟨-, -, -, active, -, reservations, -, -, hrows, rfl⟩⟩ := h
  · rfl
  · unfold Tables.aggregate?
    change (t.guestScans.find? j).map (fun scan =>
      (⟨scan, t.attemptsOf j, t.guestResults.find? j, reservations.find? j⟩ : Aggregate)) = _
    rw [Table.find?_of_rows_edited hrows, if_neg hj]

theorem Released.noOrphans (h : Released id now reason t t') (hnone : NoOrphans t) :
    NoOrphans t' := by
  obtain ⟨row, -, ⟨-, rfl⟩ | ⟨-, -, -, active, -, reservations, -, -, hrows, rfl⟩⟩ := h
  · exact hnone
  · intro j hj
    obtain ⟨hattempts, hresult, hreservation⟩ := hnone j hj
    refine ⟨hattempts, hresult, ?_⟩
    change reservations.find? j = none
    rw [Table.find?_of_rows_edited hrows]
    split
    · rename_i heq
      rw [← heq, hreservation]
      rfl
    · exact hreservation

theorem Released.rest (h : Released id now reason t t') :
    t' = { t with activeCounters := t'.activeCounters, reservations := t'.reservations } := by
  obtain ⟨row, -, ⟨-, rfl⟩ | ⟨-, -, -, active, -, reservations, -, -, hrows, rfl⟩⟩ := h
  · rfl
  · rfl

end Released

def CreateAction.removes (existing : Option GuestScan) : CreateAction → Option String
  | .create => none
  | .replaceExpired => existing.map GuestScan.id

section Cleared

variable {now : Nat} {t cleared : Tables} {existing : Option GuestScan} {action : CreateAction}

theorem Cleared.aggregate? (h : Cleared now t existing action cleared) (j : String) :
    cleared.aggregate? j =
      if action.removes existing = some j then none else t.aggregate? j := by
  cases h with
  | create existing => rfl
  | replaceExpired row released release =>
    have hremoves : CreateAction.replaceExpired.removes (some row) = some row.id := rfl
    rw [aggregate?_deleteGuestScan, hremoves]
    by_cases hj : j = row.id
    · simp [hj]
    · rw [if_neg hj, release.aggregate?_ne hj, if_neg]
      exact fun heq => hj (Option.some.inj heq).symm

theorem Cleared.noOrphans (h : Cleared now t existing action cleared) (hnone : NoOrphans t) :
    NoOrphans cleared := by
  cases h with
  | create existing => exact hnone
  | replaceExpired row released release =>
    exact (release.noOrphans hnone).deleteGuestScan row.id

theorem Cleared.control (h : Cleared now t existing action cleared) :
    cleared.guestAbuseControl = t.guestAbuseControl := by
  cases h with
  | create existing => rfl
  | replaceExpired row released release =>
    change released.guestAbuseControl = _
    rw [release.rest]

theorem Cleared.windows (h : Cleared now t existing action cleared) :
    cleared.windowCounters = t.windowCounters := by
  cases h with
  | create existing => rfl
  | replaceExpired row released release =>
    change released.windowCounters = _
    rw [release.rest]

end Cleared

def freshAggregate (row : GuestScan) (session network : Bytes32) (now : Nat) : Aggregate where
  scan := row
  attempts := []
  result := none
  reservation := some ⟨row.id, session, network, now, now + 86400, none⟩

theorem Admitted.aggregate? {request : SnapshotRequest} {network : Bytes32} {row : GuestScan}
    {cleared t' : Tables} (h : Admitted request network row cleared t')
    (hnone : NoOrphans cleared) (j : String) :
    t'.aggregate? j =
      if j = row.id then
        some (freshAggregate row request.guestSessionScope network request.now)
      else cleared.aggregate? j := by
  have hfresh : cleared.guestScans.find? row.id = none :=
    Table.find?_eq_none.mpr fun other hother => (h.apart other hother).1
  obtain ⟨hattempts, hresult, hreservation⟩ := hnone row.id hfresh
  have hfind : t'.guestScans.find? j =
      (cleared.guestScans.find? j).or (if row.id = j then some row else none) :=
    Table.find?_of_rows_append h.scans j
  have hreserved := Table.find?_of_rows_append h.reserved.reservations j
  change t'.reservations.find? j = (cleared.reservations.find? j).or
    (if row.id = j then _ else none) at hreserved
  have hrest := h.reserved.rest
  have hattemptsOf : t'.attemptsOf j = cleared.attemptsOf j := by
    rw [hrest]
    rfl
  have hresults : t'.guestResults = cleared.guestResults := by rw [hrest]
  unfold Tables.aggregate?
  rw [hfind, hattemptsOf, hresults, hreserved]
  by_cases hj : j = row.id
  · subst hj
    rw [hfresh, hattempts, hresult, hreservation, if_pos rfl, if_pos rfl, if_pos rfl]
    rfl
  · have hj' : ¬ row.id = j := fun heq => hj heq.symm
    rw [if_neg hj, if_neg hj', if_neg hj', Option.or_none, Option.or_none]

theorem Lifecycle.Inv.fresh {request : SnapshotRequest} {guestScanId : String}
    {nonce network : Bytes32} {keyVersion : Nat} :
    Inv (freshAggregate (newGuestScan request guestScanId nonce keyVersion)
      request.guestSessionScope network request.now) := by
  refine ⟨⟨trivial, Nat.zero_le _, rfl, rfl, by simp [freshAggregate],
    by simp [freshAggregate]⟩, ?_⟩
  exact .queued rfl rfl rfl ⟨_, rfl, rfl⟩

end Outscan

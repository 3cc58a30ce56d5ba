import Outscan.Persistence.Idempotency

/-! The idempotency decision on the row a request finds in the tables. -/
namespace Outscan

open Relational Transactional

/-! ### The snapshot of a request -/

structure SnapshotRequest.WellFormed (node : NodeRuntime) (request : SnapshotRequest) : Prop where
  key : validIdempotencyKey request.idempotencyKey = true
  networks : request.networkSignalDigests ≠ []
  few : request.networkSignalDigests.length ≤ 3
  nodup : request.networkSignalDigests.Nodup
  now_le : request.now + retentionSeconds ≤ maxPostgresUnixSeconds
  target : canonicalizeHostname node request.canonicalTarget = .ok request.canonicalTarget

def SnapshotRequest.persist (request : SnapshotRequest) : PersistGuestScanRequest :=
  ⟨request.guestSessionScope, request.idempotencyKey, request.requestHash,
    request.canonicalTarget, request.networkSignalDigests, request.now⟩

theorem snapshotPersistGuestScanRequest_eq_some {node : NodeRuntime}
    {request : PersistGuestScanRequest} {snapshot : SnapshotRequest} :
    snapshotPersistGuestScanRequest node request = some snapshot ↔
      snapshot.WellFormed node ∧ request = snapshot.persist := by
  unfold snapshotPersistGuestScanRequest
  constructor
  · intro h
    split at h
    · rename_i hvalid
      obtain ⟨hkey, hne, hfew, hnodup, hpos, hle, htarget⟩ := hvalid
      cases h
      refine ⟨⟨hkey, hne, hfew, hnodup, ?_, htarget⟩, ?_⟩
      · dsimp only
        omega
      · cases request
        simp only [SnapshotRequest.persist, PersistGuestScanRequest.mk.injEq, true_and]
        exact (Int.toNat_of_nonneg hpos).symm
    · cases h
  · intro h
    obtain ⟨⟨hkey, hne, hfew, hnodup, hle, htarget⟩, rfl⟩ := h
    have hle' : (snapshot.now : Int) + retentionSeconds ≤ maxPostgresUnixSeconds := by omega
    rw [if_pos ⟨hkey, hne, hfew, hnodup, Int.natCast_nonneg _, hle', htarget⟩]
    rfl

theorem SnapshotRequest.WellFormed.range {node : NodeRuntime} {request : SnapshotRequest}
    (h : request.WellFormed node) : request.now + 86400 < timestampEnd := by
  have hle := h.now_le
  simp only [retentionSeconds, maxPostgresUnixSeconds] at hle
  simp only [timestampEnd]
  omega

/-! ### The stored row as a record -/

theorem validId_size {id : String} (h : validId id = true) :
    1 ≤ (utf8Bytes id).length ∧ (utf8Bytes id).length ≤ 512 := by
  change 1 ≤ id.utf8ByteSize ∧ id.utf8ByteSize ≤ 512
  have hsize := utf8ByteSize_le id
  unfold validId at h
  split at h
  · cases h
  · rename_i head tail hchars
    simp only [Bool.and_eq_true, decide_eq_true_eq] at h
    rw [hchars, List.length_cons] at hsize
    refine ⟨Nat.one_le_iff_ne_zero.mpr fun hzero => ?_, by omega⟩
    rw [String.utf8ByteSize_eq_zero_iff.mp hzero] at hchars
    cases hchars

/-- The record `mapGuestIdempotencyRow` makes of a row. -/
def GuestScan.record (row : GuestScan) : GuestIdempotencyRecord where
  principalScope := row.guestSessionScope
  endpointOperation := row.endpointOperation
  idempotencyKey := row.idempotencyKey
  requestHash := row.requestHash
  createdAt := row.createdAt
  idempotencyExpiresAt := row.idempotencyExpiresAt
  tokenMetadata := {
    guestScanId := row.id
    tokenVersion := row.resultTokenVersion
    tokenNonce := row.resultTokenNonce
    keyVersion := row.resultTokenKeyVersion
    resultAccessExpiresAt := row.idempotencyExpiresAt
    resultAccessRevokedAt := row.resultAccessRevokedAt }

theorem existingRecord_some {row : GuestScan} (h : row.Constraints) :
    existingRecord (some row) = .record row.record := by
  have hversion : row.resultTokenKeyVersion ≤ maxSafeInteger :=
    Nat.le_trans h.key_version (by decide)
  unfold existingRecord mapGuestIdempotencyRow
  simp only [hversion, if_true]
  rfl

theorem validTokenMetadata_record {row : GuestScan} (h : row.Constraints) :
    validTokenMetadata row.record.tokenMetadata = true := by
  obtain ⟨hpos, hle⟩ := validId_size h.id_valid
  have htoken := h.token_version
  have hrange := h.range
  have htime := h.time
  have hupdated := htime.updated_le
  have hidempotency := htime.idempotency
  have hdeletion := htime.deletion
  have hend : timestampEnd ≤ uint64Max := by decide
  have htokenMax : 9223372036854775807 ≤ uint64Max := by decide
  have htokenLe : row.resultTokenVersion ≤ uint64Max := by omega
  have hexpiresLe : row.idempotencyExpiresAt ≤ uint64Max := by omega
  have hrevoked : row.resultAccessRevokedAt.all isU64 = true := by
    cases hrevoked : row.resultAccessRevokedAt with
    | none => rfl
    | some time =>
      have hbefore := (htime.revoked time hrevoked).2
      simp only [isU64, Option.all_some, decide_eq_true_eq]
      omega
  simp only [validTokenMetadata, isU64, isU32, Bool.and_eq_true, decide_eq_true_eq]
  exact ⟨⟨⟨⟨⟨hpos, hle⟩, htokenLe⟩, h.key_version⟩, hexpiresLe⟩, hrevoked⟩

theorem validIdempotencyRecord_record {row : GuestScan} (h : row.Constraints) :
    validIdempotencyRecord row.record = true := by
  have hrange := h.range
  have hidempotency := h.time.idempotency
  have hdeletion := h.time.deletion
  have hend : timestampEnd ≤ uint64Max := by decide
  have hkey : validIdempotencyKey row.record.idempotencyKey = true := h.key_valid
  have hoperation : row.record.endpointOperation = guestScanEndpointOperation := h.operation
  have hcreated : row.record.createdAt = row.createdAt := rfl
  have hexpires : row.record.idempotencyExpiresAt = row.createdAt + 1800 := hidempotency
  have haccess : row.record.tokenMetadata.resultAccessExpiresAt = row.createdAt + 1800 :=
    hidempotency
  have hcreatedMax : isU64 row.createdAt = true := by
    simp only [isU64, decide_eq_true_eq]
    omega
  have hexpiresMax : isU64 (row.createdAt + 1800) = true := by
    simp only [isU64, decide_eq_true_eq]
    omega
  have hwindow : guestIdempotencyWindowSeconds = 1800 := rfl
  simp only [validIdempotencyRecord, hkey, hoperation, validTokenMetadata_record h, hcreated,
    hexpires, haccess, hcreatedMax, hexpiresMax, hwindow, beq_self_eq_true, Bool.and_true]

/-! ### The decision -/

section Decision

variable {node : NodeRuntime} {request : GuestIdempotencyRequest}
  {ring : GuestResultTokenKeyring}

theorem createDecision_eq_proceed (hnow : request.now + guestIdempotencyWindowSeconds ≤ uint64Max)
    (action : CreateAction) : createDecision action request = .proceed action := by
  simp [createDecision, isU64, hnow]

theorem validIdempotencyRequest_of (hkey : validIdempotencyKey request.idempotencyKey = true)
    (hnow : request.now + guestIdempotencyWindowSeconds ≤ uint64Max) :
    validIdempotencyRequest request = true := by
  simp only [validIdempotencyRequest, hkey, isU64, Bool.true_and, decide_eq_true_eq]
  omega

theorem decideGuestScanIdempotency_absent
    (hkey : validIdempotencyKey request.idempotencyKey = true)
    (hnow : request.now + guestIdempotencyWindowSeconds ≤ uint64Max) :
    decideGuestScanIdempotency node request (existingRecord none) ring = .proceed .create := by
  unfold decideGuestScanIdempotency existingRecord
  rw [validIdempotencyRequest_of hkey hnow]
  simp only [Bool.not_true, Bool.false_eq_true, if_false, createDecision_eq_proceed hnow]

/-- The decision on a stored row of the requested scope and key. -/
theorem decideGuestScanIdempotency_stored {row : GuestScan} (hrow : row.Constraints)
    (hkey : validIdempotencyKey request.idempotencyKey = true)
    (hnow : request.now + guestIdempotencyWindowSeconds ≤ uint64Max)
    (hscope : row.guestSessionScope = request.guestSessionScope)
    (hsame : row.idempotencyKey = request.idempotencyKey) :
    decideGuestScanIdempotency node request (existingRecord (some row)) ring =
      if row.idempotencyExpiresAt ≤ request.now then .proceed .replaceExpired
      else if row.requestHash ≠ request.requestHash then .deny .idempotencyKeyReused
      else if row.resultAccessRevokedAt.isSome then .deny .resultAccessRevoked
      else
        match (ring row.resultTokenKeyVersion).bind
            (deriveGuestResultToken node row.record.tokenMetadata) with
        | none => .deny .resultTokenUnavailable
        | some token =>
          .replay row.id token row.idempotencyExpiresAt
            (row.idempotencyExpiresAt - request.now) := by
  have hoperation : row.record.endpointOperation = guestScanEndpointOperation := hrow.operation
  unfold decideGuestScanIdempotency
  rw [validIdempotencyRequest_of hkey hnow, existingRecord_some hrow]
  simp only [validIdempotencyRecord_record hrow, Bool.not_true, Bool.false_eq_true, if_false,
    createDecision_eq_proceed hnow]
  have hmine : ¬ (row.record.principalScope ≠ request.guestSessionScope ∨
      row.record.endpointOperation ≠ guestScanEndpointOperation ∨
      row.record.idempotencyKey ≠ request.idempotencyKey) := by
    simp only [not_or, not_not]
    exact ⟨hscope, hoperation, hsame⟩
  rw [if_neg hmine]
  by_cases hexpired : row.idempotencyExpiresAt ≤ request.now
  · rw [if_pos hexpired]
    exact if_pos hexpired
  · rw [if_neg hexpired]
    refine (if_neg hexpired).trans ?_
    by_cases hhash : row.requestHash ≠ request.requestHash
    · rw [if_pos hhash]
      exact if_pos hhash
    · rw [if_neg hhash]
      refine (if_neg hhash).trans ?_
      cases hrevoked : row.resultAccessRevokedAt with
      | some time =>
        have hrecord : row.record.tokenMetadata.resultAccessRevokedAt = some time := hrevoked
        simp [hrecord]
      | none =>
        have hrecord : row.record.tokenMetadata.resultAccessRevokedAt = none := hrevoked
        have hversion : row.record.tokenMetadata.keyVersion = row.resultTokenKeyVersion := rfl
        simp only [hrecord, hversion, Option.isSome_none, Bool.false_eq_true, if_false]
        cases hring : ring row.resultTokenKeyVersion with
        | none => rfl
        | some key =>
          simp only [Option.bind_some]
          cases deriveGuestResultToken node row.record.tokenMetadata key with
          | none => rfl
          | some token => rfl

end Decision

/-! ### The lookup -/

def GuestScan.under (row : GuestScan) (scope : Bytes32) (idempotencyKey : String) : Prop :=
  row.guestSessionScope = scope ∧ row.idempotencyKey = idempotencyKey

theorem lookup_eq_some {t : Tables} {scope : Bytes32} {idempotencyKey : String}
    {row : GuestScan} :
    t.lookup scope idempotencyKey = some row ↔
      row ∈ t.guestScans.rows ∧ row.under scope idempotencyKey := by
  have hfound : ∀ {found : GuestScan}, t.lookup scope idempotencyKey = some found →
      found ∈ t.guestScans.rows ∧ found.under scope idempotencyKey := by
    intro found h
    have hp := List.find?_some h
    simp only [Bool.and_eq_true, decide_eq_true_eq] at hp
    exact ⟨List.mem_of_find?_eq_some h, hp.1.1, hp.2⟩
  constructor
  · exact hfound
  · intro h
    obtain ⟨hmem, hscope, hkey⟩ := h
    have hoperation := (t.guestScans.checked row hmem).operation
    cases hlookup : t.lookup scope idempotencyKey with
    | none =>
      have hnone := List.find?_eq_none.mp hlookup row hmem
      simp only [hscope, hkey, decide_true, Bool.and_true, Bool.true_and,
        decide_eq_true_eq] at hnone
      exact absurd hoperation hnone
    | some found =>
      obtain ⟨hfoundMem, hfoundScope, hfoundKey⟩ := hfound hlookup
      have hfoundOperation := (t.guestScans.checked found hfoundMem).operation
      congr 1
      by_contra hne
      have hsymm : Std.Symm (Schema.Distinct : GuestScan → GuestScan → Prop) :=
        ⟨fun _ _ => Schema.distinct_symm⟩
      have hapart : GuestScan.Apart found row := t.guestScans.distinct.forall hfoundMem hmem hne
      exact hapart.2 ⟨hfoundScope.trans hscope.symm, hfoundOperation.trans hoperation.symm,
        hfoundKey.trans hkey.symm⟩

end Outscan

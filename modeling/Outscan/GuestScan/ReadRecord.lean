import Outscan.GuestCrypto.GuestSessionHttp
import Outscan.GuestScan.ResultRead
import Outscan.ResultEnvelope.Binding

/-! What a store hands to a reader, and what the reader makes of it: whom a bearer token lets in,
and a snapshot of a stored scan as a value again. -/
namespace Outscan

open Dynamic

/-! ### Token metadata -/

theorem u64?_natCast {n found : Nat} :
    u64? (.bigint n) = some found ↔ n = found ∧ n ≤ uint64Max := by
  rw [u64?_eq_some, Datum.bigint.injEq, Int.natCast_inj]
  constructor
  · intro h
    exact ⟨h.1, h.1 ▸ h.2⟩
  · intro h
    exact ⟨h.1, h.1 ▸ h.2⟩

@[simp] theorem natural?_natCast (n : Nat) : (Datum.number (.whole n)).natural? = some n := by
  rw [Datum.natural?, if_pos (Int.natCast_nonneg n), Int.toNat_natCast]

@[simp] theorem ofBytes?_bytes (value : Bytes32) : Bytes32.ofBytes? value.bytes = some value := by
  rw [Bytes32.ofBytes?, dif_pos value.size]

theorem nullable?_revoked {metadata : GuestResultTokenMetadata} {found : Option Nat} :
    nullable? u64? (metadata.toDatum.get "result_access_revoked_at_unix_seconds") = some found ↔
      metadata.resultAccessRevokedAt = found ∧ metadata.resultAccessRevokedAt.all isU64 = true := by
  simp only [GuestResultTokenMetadata.toDatum, Datum.get_object_cons, String.reduceEq, if_true,
    if_false]
  cases metadata.resultAccessRevokedAt with
  | none => simp [nullable?, eq_comm]
  | some time =>
    cases found with
    | none => simp [nullable?]
    | some other => simp [nullable?, u64?_natCast, isU64]

theorem hasExactKeys_metadata (metadata : GuestResultTokenMetadata) :
    metadata.toDatum.hasExactKeys metadataKeys = true := by
  simp [GuestResultTokenMetadata.toDatum, Datum.hasExactKeys_object, metadataKeys]

theorem all_isU64_of_nullable? {value : Datum} {found : Option Nat}
    (h : nullable? u64? value = some found) : found.all isU64 = true := by
  unfold nullable? at h
  split at h
  · cases h
    rfl
  · obtain ⟨time, htime, rfl⟩ := Option.map_eq_some_iff.mp h
    exact decide_eq_true (u64?_eq_some.mp htime).2

theorem validTokenMetadata_of_snapshot {value : Datum} {metadata : GuestResultTokenMetadata}
    (h : snapshotGuestResultTokenMetadata value = some metadata) :
    validTokenMetadata metadata = true := by
  rw [snapshotGuestResultTokenMetadata] at h
  split at h
  · cases h
  simp only [Option.bind_eq_bind, Option.bind_eq_some_iff] at h
  obtain ⟨_, -, _, hversion, _, -, _, -, _, hexpires, _, hrevoked, h⟩ := h
  split at h
  · cases h
  · rename_i hchecks
    cases h
    simp only [Bool.or_eq_true, decide_eq_true_eq, not_or, Nat.not_lt, Bool.not_eq_true',
      Bool.not_eq_false] at hchecks
    obtain ⟨⟨hpos, hle⟩, hkey⟩ := hchecks
    simp only [validTokenMetadata, Bool.and_eq_true, decide_eq_true_eq, isU64]
    exact ⟨⟨⟨⟨⟨hpos, hle⟩, (u64?_eq_some.mp hversion).2⟩, hkey⟩, (u64?_eq_some.mp hexpires).2⟩,
      all_isU64_of_nullable? hrevoked⟩

theorem snapshotGuestResultTokenMetadata_toDatum {metadata found : GuestResultTokenMetadata} :
    snapshotGuestResultTokenMetadata metadata.toDatum = some found ↔
      metadata = found ∧ validTokenMetadata metadata = true := by
  have hread : snapshotGuestResultTokenMetadata metadata.toDatum = some found → metadata = found := by
    intro h
    rw [snapshotGuestResultTokenMetadata, hasExactKeys_metadata] at h
    simp only [Bool.not_true, Bool.false_eq_true, if_false, Option.bind_eq_bind,
      Option.bind_eq_some_iff, nullable?_revoked] at h
    simp only [GuestResultTokenMetadata.toDatum, Datum.get_object_cons, String.reduceEq, if_true,
      if_false, Datum.string?, Datum.bytes?, natural?_natCast, ofBytes?_bytes, Option.some.injEq,
      u64?_natCast, exists_eq_left'] at h
    obtain ⟨_, ⟨rfl, -⟩, _, ⟨rfl, -⟩, _, ⟨rfl, -⟩, h⟩ := h
    split at h
    · cases h
    · exact Option.some.inj h
  constructor
  · intro h
    have hsame := hread h
    exact ⟨hsame, hsame ▸ validTokenMetadata_of_snapshot h⟩
  · rintro ⟨rfl, hvalid⟩
    simp only [validTokenMetadata, Bool.and_eq_true, decide_eq_true_eq, isU64] at hvalid
    obtain ⟨⟨⟨⟨⟨hpos, hle⟩, hversion⟩, hkey⟩, hexpires⟩, hrevoked⟩ := hvalid
    rw [snapshotGuestResultTokenMetadata, hasExactKeys_metadata]
    simp only [Bool.not_true, Bool.false_eq_true, if_false, Option.bind_eq_bind,
      Option.bind_eq_some_iff, nullable?_revoked]
    simp only [GuestResultTokenMetadata.toDatum, Datum.get_object_cons, String.reduceEq, if_true,
      if_false, Datum.string?, Datum.bytes?, natural?_natCast, ofBytes?_bytes, Option.some.injEq,
      u64?_natCast, exists_eq_left']
    refine ⟨_, ⟨rfl, hversion⟩, _, ⟨rfl, hexpires⟩, _, ⟨rfl, hrevoked⟩, ?_⟩
    rw [if_neg]
    simp only [Bool.or_eq_true, decide_eq_true_eq, not_or, Nat.not_lt, Bool.not_eq_true',
      Bool.not_eq_false]
    exact ⟨⟨hpos, hle⟩, hkey⟩

/-! ### Tokens -/

theorem deriveGuestResultToken_eq_some {node : NodeRuntime} {metadata : GuestResultTokenMetadata}
    {key : List UInt8} {token : String} (h : deriveGuestResultToken node metadata key = some token) :
    isValidKey key = true ∧ ∃ message, encodeGuestResultTokenMessage metadata = some message ∧
      token = encodeBase64Url (node.hmacSha256 key message).bytes := by
  rw [deriveGuestResultToken] at h
  split at h
  · cases h
  · rename_i hkey
    split at h
    · cases h
    · obtain ⟨message, hmessage, rfl⟩ := Option.map_eq_some_iff.mp h
      exact ⟨by simpa using hkey, message, hmessage, rfl⟩

theorem decodeCanonicalBase64Url_mac (mac : Bytes32) :
    decodeCanonicalBase64Url (encodeBase64Url mac.bytes) = some mac.bytes := by
  apply decodeCanonicalBase64Url_eq_some.mpr
  refine ⟨rfl, fun hnil => ?_⟩
  have hsize := mac.size
  rw [hnil] at hsize
  cases hsize

/-- A token is verified when it is the one that the keyring derives, before its expiry and
unrevoked. -/
theorem verifyGuestResultToken_iff {node : NodeRuntime} {token : String}
    {metadata : GuestResultTokenMetadata} {keyring : GuestResultTokenKeyring} {now : Nat}
    (hnow : now ≤ uint64Max) :
    verifyGuestResultToken node token metadata keyring now = true ↔
      metadata.resultAccessRevokedAt = none ∧ now < metadata.resultAccessExpiresAt ∧
        (keyring metadata.keyVersion).bind (deriveGuestResultToken node metadata) =
          some token := by
  constructor
  · intro h
    rw [verifyGuestResultToken] at h
    split at h
    · cases h
    · rename_i hchecks
      simp only [Bool.or_eq_true, decide_eq_true_eq, not_or, Nat.not_le, Bool.not_eq_true,
        Option.isSome_eq_false_iff, Option.isNone_iff_eq_none] at hchecks
      split at h
      · rename_i supplied key hsupplied hkey
        split at h
        · cases h
        · split at h
          · rename_i expected hexpected
            obtain ⟨derived, hderived, hdecoded⟩ := Option.bind_eq_some_iff.mp hexpected
            have hsame : supplied = expected := beq_iff_eq.mp h
            refine ⟨hchecks.1.2, hchecks.2, ?_⟩
            rw [hkey, Option.bind_some, hderived, (decodeCanonicalBase64Url_eq_some.mp hsupplied).1,
              (decodeCanonicalBase64Url_eq_some.mp hdecoded).1, hsame]
          · cases h
      · cases h
  · rintro ⟨hrevoked, hbefore, hbind⟩
    obtain ⟨key, hkey, hderived⟩ := Option.bind_eq_some_iff.mp hbind
    obtain ⟨hvalid, message, -, rfl⟩ := deriveGuestResultToken_eq_some hderived
    rw [verifyGuestResultToken, utf16Length_mac, if_neg]
    · rw [decodeCanonicalBase64Url_mac, hkey]
      simp only [Bytes32.size, hvalid, hderived, Option.bind_some, decodeCanonicalBase64Url_mac]
      simp
    · simp only [hrevoked, Bool.or_eq_true, decide_eq_true_eq]
      simp
      omega

/-- The header presents the token that the keyring derives for an unrevoked scan, before its
access ends. -/
def Bears (node : NodeRuntime) (keyring : GuestResultTokenKeyring)
    (metadata : GuestResultTokenMetadata) (header : Datum) (now : Nat) : Prop :=
  metadata.resultAccessRevokedAt = none ∧ now < metadata.resultAccessExpiresAt ∧
    ∃ token, presentedToken? header = some token ∧
      (keyring metadata.keyVersion).bind (deriveGuestResultToken node metadata) = some token

theorem authorizeGuestResultAccess_iff {node : NodeRuntime} {request : GuestResultAccessRequest}
    (hrequest : request.WellFormed) {value : Datum} {metadata : GuestResultTokenMetadata}
    (hmetadata : snapshotGuestResultTokenMetadata value = some metadata)
    {keyring : GuestResultTokenKeyring} {grant : GuestResultGrant} :
    authorizeGuestResultAccess node request.toDatum value keyring = .ok grant ↔
      metadata.guestScanId = request.routeGuestScanId ∧
        metadata.resultAccessExpiresAt ≤ request.nowUnixSeconds + 1800 ∧
        Bears node keyring metadata request.authorizationHeader request.nowUnixSeconds ∧
        grant = ⟨metadata.guestScanId, metadata.resultAccessExpiresAt,
          metadata.resultAccessExpiresAt - request.nowUnixSeconds⟩ := by
  rw [authorizeGuestResultAccess, hrequest.parse, hmetadata, Bears]
  dsimp only
  cases hpresented : presentedToken? request.authorizationHeader with
  | none => simp
  | some token =>
    have hverify : verifyGuestResultToken node token metadata keyring request.nowUnixSeconds =
        true ↔ _ := verifyGuestResultToken_iff hrequest.now_le
    dsimp only
    by_cases hchecks : metadata.guestScanId = request.routeGuestScanId ∧
        request.nowUnixSeconds < metadata.resultAccessExpiresAt ∧
        metadata.resultAccessExpiresAt ≤ request.nowUnixSeconds + 1800
    · obtain ⟨hid, hbefore, hwindow⟩ := hchecks
      rw [if_neg (by simp [hid]; omega)]
      by_cases hverified : verifyGuestResultToken node token metadata keyring
          request.nowUnixSeconds = true
      · obtain ⟨hrevoked, -, hderived⟩ := hverify.mp hverified
        simp [hverified, hid, hbefore, hwindow, hrevoked, hderived, eq_comm]
      · rw [if_pos (by simpa using hverified)]
        constructor
        · intro h
          cases h
        · rintro ⟨-, -, ⟨hrevoked, -, _, hsame, hderived⟩, -⟩
          cases hsame
          exact absurd (hverify.mpr ⟨hrevoked, hbefore, hderived⟩) hverified
    · rw [if_pos]
      · constructor
        · intro h
          cases h
        · rintro ⟨hid, hwindow, ⟨-, hbefore, -⟩, -⟩
          exact absurd ⟨hid, hbefore, hwindow⟩ hchecks
      · simp only [Bool.or_eq_true, decide_eq_true_eq, ne_eq]
        by_contra hnone
        simp only [not_or, not_not, Nat.not_le, Nat.not_lt] at hnone
        exact hchecks ⟨hnone.1.1, hnone.1.2, by omega⟩

/-! ### Records -/

/-- `GUEST_SESSION:` and the digest. -/
def scopeText (scope : Bytes32) : String := "GUEST_SESSION:" ++ digestText scope

/-- A value, or `null`. -/
def datumOfOption {α : Type} (write : α → Datum) (value : Option α) : Datum :=
  value.elim .null write

@[simp] theorem datumOfOption_some {α : Type} (write : α → Datum) (value : α) :
    datumOfOption write (some value) = write value := rfl

def ResultSubmissionIdentity.toDatum (identity : ResultSubmissionIdentity) : Datum :=
  .object [
    ("attempt_id", .string identity.attemptId),
    ("fence", .number (.whole identity.fence)),
    ("payload_digest", .string (digestText identity.payloadDigest))]

def GuestScanRecord.toDatum (scan : GuestScanRecord) : Datum :=
  .object [
    ("schema_version", .number (.whole 1)),
    ("guest_scan_id", .string scan.guestScanId),
    ("canonical_target", .string scan.canonicalTarget),
    ("principal_scope", .string (scopeText scan.principalScope)),
    ("endpoint_operation", .string guestScanEndpointOperation),
    ("idempotency_key", .string scan.idempotencyKey),
    ("request_hash", .string (digestText scan.requestHash)),
    ("created_at_unix_seconds", .bigint scan.createdAt),
    ("updated_at_unix_seconds", .bigint scan.updatedAt),
    ("idempotency_expires_at_unix_seconds", .bigint scan.idempotencyExpiresAt),
    ("deletion_deadline_unix_seconds", .bigint scan.deletionDeadline),
    ("job_state", .string scan.jobState.text),
    ("policy_id", .string guestScanPolicyId),
    ("policy_version", .string guestScanPolicyVersion),
    ("profile", .string guestScanProfile),
    ("result_token_metadata", scan.resultTokenMetadata.toDatum),
    ("current_attempt_id", datumOfOption .string scan.currentAttemptId),
    ("current_fence", .number (.whole scan.currentFence)),
    ("accepted_result", datumOfOption ResultSubmissionIdentity.toDatum scan.acceptedResult)]

def GuestResultRecord.toDatum {node : NodeRuntime} (result : GuestResultRecord node) : Datum :=
  .object [
    ("schema_version", .number (.whole 1)),
    ("guest_scan_id", .string result.guestScanId),
    ("accepted_attempt_id", .string result.acceptedAttemptId),
    ("accepted_fence", .number (.whole result.acceptedFence)),
    ("payload_digest", .string (digestText result.payloadDigest)),
    ("completed_at_unix_seconds", .bigint result.completedAt),
    ("projection", result.projection.toDatum)]

def GuestResultReadRecord.toDatum {node : NodeRuntime} (record : GuestResultReadRecord node) :
    Datum :=
  .object [("scan", record.scan.toDatum), ("result", record.result.toDatum)]

/-- The fields of a scan record that its reader takes one by one, and all of them together. -/
structure GuestScanRecord.Storable (node : NodeRuntime) (scan : GuestScanRecord) : Prop where
  id_valid : validId scan.guestScanId = true
  target : canonicalizeHostname node scan.canonicalTarget = .ok scan.canonicalTarget
  key_valid : validIdempotencyKey scan.idempotencyKey = true
  token_valid : validTokenMetadata scan.resultTokenMetadata = true
  current_valid : ∀ id ∈ scan.currentAttemptId, validId id = true
  fence_le : scan.currentFence ≤ maxSafeInteger
  accepted_valid : ∀ accepted ∈ scan.acceptedResult, hasValidIdentity accepted = true
  consistent : consistentScan scan = true

theorem scope?_text (scope : Bytes32) : scope? (.string (scopeText scope)) = some scope := by
  have htext : (scopeText scope).toList = scopePrefix ++ (digestText scope).toList := by
    rw [scopeText, String.toList_append]
    rfl
  rw [scope?, Datum.string?, Option.bind_some, htext, List.take_left, if_pos rfl, List.drop_left,
    String.ofList_toList]
  exact parseDigest_eq_some.mpr rfl

theorem memberOf_jobState (state : JobState) :
    memberOf jobStates JobState.text (.string state.text) = some state := by
  cases state <;> decide

theorem acceptedResult?_toDatum {accepted : ResultSubmissionIdentity}
    (h : hasValidIdentity accepted = true) : acceptedResult? accepted.toDatum = some accepted := by
  rw [hasValidIdentity, Bool.and_eq_true] at h
  rw [acceptedResult?, if_neg (by simp [ResultSubmissionIdentity.toDatum, Datum.hasExactKeys_object])]
  simp only [ResultSubmissionIdentity.toDatum, Datum.get_object_cons, String.reduceEq, if_true,
    if_false, id?_string h.1, positiveInteger?_whole h.2, hash?_text, Option.bind_eq_bind,
    Option.bind_some]

theorem snapshotGuestScan_toDatum {node : NodeRuntime} {scan : GuestScanRecord}
    (h : scan.Storable node) : snapshotGuestScan node scan.toDatum = some scan := by
  have htimes := h.consistent
  simp only [consistentScan, Bool.and_eq_true, isU64, decide_eq_true_eq, beq_iff_eq] at htimes
  have hcreated : u64? (.bigint scan.createdAt) = some scan.createdAt :=
    u64?_natCast.mpr ⟨rfl, by omega⟩
  have hupdated : u64? (.bigint scan.updatedAt) = some scan.updatedAt :=
    u64?_natCast.mpr ⟨rfl, by omega⟩
  have hexpires : u64? (.bigint scan.idempotencyExpiresAt) = some scan.idempotencyExpiresAt :=
    u64?_natCast.mpr ⟨rfl, by omega⟩
  have hdeletion : u64? (.bigint scan.deletionDeadline) = some scan.deletionDeadline :=
    u64?_natCast.mpr ⟨rfl, by omega⟩
  have htoken : snapshotGuestResultTokenMetadata scan.resultTokenMetadata.toDatum =
      some scan.resultTokenMetadata :=
    snapshotGuestResultTokenMetadata_toDatum.mpr ⟨rfl, h.token_valid⟩
  have hcurrent : nullable? id? (datumOfOption .string scan.currentAttemptId) =
      some scan.currentAttemptId := by
    cases hsome : scan.currentAttemptId with
    | none => rfl
    | some id => exact congrArg (Option.map some) (id?_string (h.current_valid id hsome))
  have hfence : nonNegativeInteger? (.number (.whole scan.currentFence)) =
      some scan.currentFence := by
    rw [nonNegativeInteger?, natural?_natCast, Option.filter_some,
      if_pos (decide_eq_true h.fence_le)]
  have haccepted : nullable? acceptedResult?
      (datumOfOption ResultSubmissionIdentity.toDatum scan.acceptedResult) =
      some scan.acceptedResult := by
    cases hsome : scan.acceptedResult with
    | none => rfl
    | some accepted =>
      exact congrArg (Option.map some) (acceptedResult?_toDatum (h.accepted_valid accepted hsome))
  have hkeys : scan.toDatum.hasExactKeys storedScanKeys = true := by
    simp [GuestScanRecord.toDatum, Datum.hasExactKeys_object, storedScanKeys]
  rw [snapshotGuestScan, hkeys]
  simp only [GuestScanRecord.toDatum, Datum.get_object_cons, String.reduceEq, if_true, if_false,
    Bool.not_true, Bool.false_eq_true, Datum.number?, Datum.string?, id?_string h.id_valid,
    scope?_text, hash?_text, hcreated, hupdated, hexpires, hdeletion, memberOf_jobState, htoken,
    hcurrent, hfence, haccepted, Option.bind_eq_bind, Option.bind_some]
  rw [if_neg]
  simp [h.target, h.key_valid, h.consistent, Except.toOption]

theorem snapshotResult_toDatum {node : NodeRuntime} {result : GuestResultRecord node}
    (hid : validId result.guestScanId = true)
    (haccepted : hasValidIdentity ⟨result.acceptedAttemptId, result.acceptedFence,
      result.payloadDigest⟩ = true) (hcompleted : result.completedAt ≤ uint64Max) :
    snapshotResult node result.toDatum = some result := by
  rw [hasValidIdentity, Bool.and_eq_true] at haccepted
  have hcompleted' : u64? (.bigint result.completedAt) = some result.completedAt :=
    u64?_natCast.mpr ⟨rfl, hcompleted⟩
  have hkeys : result.toDatum.hasExactKeys resultKeys = true := by
    simp [GuestResultRecord.toDatum, Datum.hasExactKeys_object, resultKeys]
  rw [snapshotResult, hkeys]
  simp only [GuestResultRecord.toDatum, Datum.get_object_cons, String.reduceEq, if_true, if_false,
    Bool.not_true, Bool.false_eq_true, snapshotSanitizedGuestProjection_toDatum, Datum.number?,
    id?_string hid, id?_string haccepted.1, positiveInteger?_whole haccepted.2, hash?_text,
    hcompleted', Option.bind_eq_bind, Option.bind_some, ne_eq, not_true]

/-- A finished scan with the result it accepted, as its reader takes them. -/
structure GuestResultReadRecord.Storable {node : NodeRuntime}
    (record : GuestResultReadRecord node) : Prop where
  scan : record.scan.Storable node
  succeeded : record.scan.jobState = .succeeded
  id_eq : record.result.guestScanId = record.scan.guestScanId
  accepted : record.scan.acceptedResult = some ⟨record.result.acceptedAttemptId,
    record.result.acceptedFence, record.result.payloadDigest⟩
  created_le : record.scan.createdAt ≤ record.result.completedAt
  completed_le : record.result.completedAt ≤ record.scan.updatedAt
  before_deletion : record.result.completedAt < record.scan.deletionDeadline

theorem GuestResultReadRecord.Storable.times {node : NodeRuntime}
    {record : GuestResultReadRecord node} (h : record.Storable) :
    record.scan.resultTokenMetadata.resultAccessExpiresAt = record.scan.createdAt + 1800 ∧
      record.scan.deletionDeadline = record.scan.createdAt + 86400 ∧
      record.scan.deletionDeadline ≤ uint64Max ∧
      record.scan.resultTokenMetadata.guestScanId = record.scan.guestScanId := by
  have htimes := h.scan.consistent
  simp only [consistentScan, Bool.and_eq_true, isU64, decide_eq_true_eq, beq_iff_eq] at htimes
  simp only [guestResultAccessSeconds, guestRetentionSeconds] at htimes
  refine ⟨by omega, by omega, by omega, by simp only [htimes]⟩

theorem snapshotGuestResultReadRecord_toDatum {node : NodeRuntime}
    {record : GuestResultReadRecord node} (h : record.Storable) :
    snapshotGuestResultReadRecord node record.toDatum = some record := by
  obtain ⟨-, -, hrange, -⟩ := h.times
  have hbefore := h.before_deletion
  have hkeys : record.toDatum.hasExactKeys ["scan", "result"] = true := by
    simp [GuestResultReadRecord.toDatum, Datum.hasExactKeys_object]
  have hresult : snapshotResult node record.result.toDatum = some record.result :=
    snapshotResult_toDatum (h.id_eq ▸ h.scan.id_valid) (h.scan.accepted_valid _ h.accepted)
      (by omega)
  rw [snapshotGuestResultReadRecord, hkeys]
  simp only [GuestResultReadRecord.toDatum, Datum.get_object_cons, String.reduceEq, if_true,
    if_false, Bool.not_true, Bool.false_eq_true, snapshotGuestScan_toDatum h.scan, hresult,
    h.accepted, Option.bind_eq_bind, Option.bind_some]
  rw [if_neg]
  have hcreated := h.created_le
  have hcompleted := h.completed_le
  simp only [ne_eq, h.succeeded, h.id_eq, not_true, decide_false, Bool.or_false, Bool.false_or,
    Bool.or_eq_true, decide_eq_true_eq]
  omega

theorem metadata_of_snapshot {node : NodeRuntime} {value : Datum}
    {record : GuestResultReadRecord node}
    (h : snapshotGuestResultReadRecord node value = some record) :
    snapshotGuestResultTokenMetadata ((value.get "scan").get "result_token_metadata") =
      some record.scan.resultTokenMetadata := by
  rw [snapshotGuestResultReadRecord] at h
  split at h
  · cases h
  simp only [Option.bind_eq_bind, Option.bind_eq_some_iff] at h
  obtain ⟨scan, hscan, result, -, accepted, -, h⟩ := h
  have hsame : scan = record.scan := by
    split at h
    · cases h
    · cases h
      rfl
  subst hsame
  rw [snapshotGuestScan] at hscan
  split at hscan
  · cases hscan
  -- the fields before the token metadata, and the three behind them
  iterate 15 obtain ⟨_, -, hscan⟩ := Option.bind_eq_some_iff.mp hscan
  obtain ⟨metadata, hmetadata, hscan⟩ := Option.bind_eq_some_iff.mp hscan
  iterate 3 obtain ⟨_, -, hscan⟩ := Option.bind_eq_some_iff.mp hscan
  dsimp only at hscan
  split at hscan
  · cases hscan
  · rw [← Option.some.inj hscan]
    exact hmetadata

/-! ### Reading -/

def GuestResultReadRecord.view {node : NodeRuntime} (record : GuestResultReadRecord node) :
    GuestResultView where
  guestScanId := record.scan.guestScanId
  canonicalHost := record.result.projection.canonicalHost
  completedAt := isoOfSeconds record.result.completedAt
  resultAccessExpiresAt := isoOfSeconds record.scan.resultTokenMetadata.resultAccessExpiresAt
  postureSections := postureSections record.result.projection.posture
  potentialRiskCount := record.result.projection.potentialRiskCount
  warningCount := record.result.projection.warningCount
  coverage := coverageView record.result.projection.coverage

section

variable {node : NodeRuntime} {request : GuestResultAccessRequest}
  {dependencies : ReadGuestResultDependencies}

theorem readAuthorizedGuestResult_of_bears (hrequest : request.WellFormed)
    {record : GuestResultReadRecord node} (hstorable : record.Storable)
    (hload : dependencies.loadByGuestScanId request.routeGuestScanId = some record.toDatum)
    (hid : record.scan.guestScanId = request.routeGuestScanId)
    (hhost : record.result.projection.canonicalHost = record.scan.canonicalTarget)
    (hiso : record.scan.resultTokenMetadata.resultAccessExpiresAt ≤ maxUnixSecondsForIso)
    (hcompleted : record.result.completedAt ≤ request.nowUnixSeconds)
    (hbears : Bears node dependencies.tokenKeyring record.scan.resultTokenMetadata
      request.authorizationHeader request.nowUnixSeconds) :
    readAuthorizedGuestResult node request.toDatum dependencies = .ok record.view := by
  obtain ⟨hexpires, hdeletion, -, htokenId⟩ := hstorable.times
  have hcreated := hstorable.created_le
  obtain ⟨hrevoked, hbefore, token, hpresented, hderived⟩ := hbears
  have hmetadata : snapshotGuestResultTokenMetadata record.scan.resultTokenMetadata.toDatum =
      some record.scan.resultTokenMetadata :=
    snapshotGuestResultTokenMetadata_toDatum.mpr ⟨rfl, hstorable.scan.token_valid⟩
  have hgranted := (authorizeGuestResultAccess_iff hrequest hmetadata).mpr
    ⟨htokenId.trans hid, by omega, ⟨hrevoked, hbefore, token, hpresented, hderived⟩, rfl⟩
  let access : GuestResultAccess := {
    guestScanId := record.scan.resultTokenMetadata.guestScanId
    resultAccessExpiresAt := record.scan.resultTokenMetadata.resultAccessExpiresAt
    resultTokenExpiresIn :=
      record.scan.resultTokenMetadata.resultAccessExpiresAt - request.nowUnixSeconds
    id_valid := htokenId ▸ hstorable.scan.id_valid
    expires_pos := by omega
    expires_le := hiso
    remaining_pos := by omega
    remaining_le := by unfold maxResultWindowSeconds; omega }
  have hview := createGuestResultView_viewInput access record.result.projection
    (show record.result.completedAt + access.resultTokenExpiresIn ≤ access.resultAccessExpiresAt by
      change record.result.completedAt +
        (record.scan.resultTokenMetadata.resultAccessExpiresAt - request.nowUnixSeconds) ≤
        record.scan.resultTokenMetadata.resultAccessExpiresAt
      omega)
  have hbody : guestResultBody access record.result.completedAt record.result.projection =
      record.view := by
    rw [guestResultBody, GuestResultReadRecord.view, ← htokenId]
  rw [readAuthorizedGuestResult, hrequest.parse]
  dsimp only
  rw [hpresented, if_neg (by simp), hload, Option.bind_some,
    snapshotGuestResultReadRecord_toDatum hstorable]
  dsimp only
  rw [if_neg (by omega), hgranted]
  dsimp only
  rw [hview, hbody]
  dsimp only
  rw [if_neg (show ¬ record.view.canonicalHost ≠ record.scan.canonicalTarget from not_not.mpr hhost)]

/-- Whoever reads bears the token of the scan that is stored under the id of the route. -/
theorem bears_of_readAuthorizedGuestResult (hrequest : request.WellFormed) {view : GuestResultView}
    (h : readAuthorizedGuestResult node request.toDatum dependencies = .ok view) :
    ∃ value metadata, dependencies.loadByGuestScanId request.routeGuestScanId = some value ∧
      snapshotGuestResultTokenMetadata ((value.get "scan").get "result_token_metadata") =
        some metadata ∧
      metadata.guestScanId = request.routeGuestScanId ∧
      Bears node dependencies.tokenKeyring metadata request.authorizationHeader
        request.nowUnixSeconds := by
  rw [readAuthorizedGuestResult, hrequest.parse] at h
  dsimp only at h
  split at h
  · cases h
  split at h
  · cases h
  rename_i record hrecord
  obtain ⟨value, hvalue, hsnapshot⟩ := Option.bind_eq_some_iff.mp hrecord
  have hmetadata := metadata_of_snapshot hsnapshot
  split at h
  · cases h
  split at h
  · cases h
  rename_i grant hgrant
  have hwritten : snapshotGuestResultTokenMetadata record.scan.resultTokenMetadata.toDatum =
      some record.scan.resultTokenMetadata :=
    snapshotGuestResultTokenMetadata_toDatum.mpr ⟨rfl, validTokenMetadata_of_snapshot hmetadata⟩
  obtain ⟨hid, -, hbears, -⟩ := (authorizeGuestResultAccess_iff hrequest hwritten).mp hgrant
  exact ⟨value, _, hvalue, hmetadata, hid, hbears⟩

theorem completed_of_readAuthorizedGuestResult {record : GuestResultReadRecord node}
    (hstorable : record.Storable) {view : GuestResultView}
    (hload : dependencies.loadByGuestScanId request.routeGuestScanId = some record.toDatum)
    (hrequest : request.WellFormed)
    (h : readAuthorizedGuestResult node request.toDatum dependencies = .ok view) :
    record.result.completedAt ≤ request.nowUnixSeconds := by
  rw [readAuthorizedGuestResult, hrequest.parse] at h
  dsimp only at h
  split at h
  · cases h
  rw [hload, Option.bind_some, snapshotGuestResultReadRecord_toDatum hstorable] at h
  dsimp only at h
  split at h
  · cases h
  split at h
  · cases h
  rename_i grant hgrant
  obtain ⟨-, hnow, -⟩ := authorizeGuestResultAccess_ok hrequest.parse hgrant
  split at h
  · cases h
  rename_i body hbody
  obtain ⟨access, completed, projection, haccess, hcompleted, -, -, hlate, -⟩ :=
    createGuestResultView_eq_some hbody
  obtain ⟨-, hexpires, hremaining⟩ := snapshotAccess_eq_some haccess
  simp only [viewInput, Datum.get_object_cons, String.reduceEq, if_true, if_false, Datum.bigint?,
    Datum.whole?, Option.some.injEq, Int.natCast_inj] at hcompleted hexpires hremaining
  omega

theorem readAuthorizedGuestResult_cases (hrequest : request.WellFormed) :
    (∃ view, readAuthorizedGuestResult node request.toDatum dependencies = .ok view) ∨
      readAuthorizedGuestResult node request.toDatum dependencies =
        .failure .resultAccessDenied := by
  rw [readAuthorizedGuestResult, hrequest.parse]
  dsimp only
  split
  · exact .inr rfl
  split
  · exact .inr rfl
  split
  · exact .inr rfl
  split
  · exact .inr rfl
  split
  · exact .inr rfl
  split
  · exact .inr rfl
  · exact .inl ⟨_, rfl⟩

end

end Outscan

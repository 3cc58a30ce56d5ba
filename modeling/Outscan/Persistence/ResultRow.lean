import Outscan.Creation.Decision
import Outscan.GuestScan.ReadRecord
import Outscan.Library.Numeral

/-! The row that a result is read from, and the store that maps it. Numbers and bytes arrive as
texts. -/
namespace Outscan

open Dynamic Relational

/-! ### Columns -/

namespace PostgresRow

/-- `HEX_32`. Lower-case digits have one spelling, so the bytes are as good as the text. -/
def hex32? (value : Datum) : Option Bytes32 :=
  value.string?.bind fun text => (Hex.decode text.toList).bind Bytes32.ofBytes?

def digest (value : Datum) : Option String := (hex32? value).map digestText

def bytes (value : Datum) : Option (List UInt8) := (hex32? value).map (·.bytes)

/-- `UNSIGNED_INTEGER`, and the number it spells. -/
def integer (value : Datum) : Option Nat :=
  value.string?.bind fun text =>
    if Numeral.isDecimal text.toList then some (Numeral.value 10 text.toList) else none

def safeNumber (value : Datum) : Option Nat :=
  (integer value).filter fun n => decide (n ≤ maxSafeInteger)

/-- `encode(.., 'hex')`. -/
def hexColumn (value : Bytes32) : Datum := .string (String.ofList (Hex.encode value.bytes))

/-- `..::text` of a whole number. -/
def integerColumn (value : Nat) : Datum := .string (String.ofList (Nat.toDigits 10 value))

@[simp] theorem hex32?_hexColumn (value : Bytes32) : hex32? (hexColumn value) = some value := by
  rw [hex32?, hexColumn, Datum.string?, Option.bind_some, String.toList_ofList, Hex.decode_encode,
    Option.bind_some, ofBytes?_bytes]

@[simp] theorem digest_hexColumn (value : Bytes32) :
    digest (hexColumn value) = some (digestText value) := by
  rw [digest, hex32?_hexColumn, Option.map_some]

@[simp] theorem bytes_hexColumn (value : Bytes32) : bytes (hexColumn value) = some value.bytes := by
  rw [bytes, hex32?_hexColumn, Option.map_some]

@[simp] theorem integer_integerColumn (value : Nat) : integer (integerColumn value) = some value := by
  rw [integer, integerColumn, Datum.string?, Option.bind_some, String.toList_ofList,
    if_pos (Numeral.isDecimal_toDigits value), Numeral.value_toDigits (by decide) (by decide)]

theorem safeNumber_integerColumn {value : Nat} (h : value ≤ maxSafeInteger) :
    safeNumber (integerColumn value) = some value := by
  rw [safeNumber, integer_integerColumn, Option.filter_some, if_pos (decide_eq_true h)]

theorem integer_ofOption (value : Option Nat) :
    nullable? integer (datumOfOption integerColumn value) = some value := by
  cases value with
  | none => rfl
  | some time => exact congrArg (Option.map some) (integer_integerColumn time)

end PostgresRow

open PostgresRow

/-! ### The row -/

/-- The stored `jsonb`, as it is parsed. -/
def SanitizedGuestProjection.toDatum (projection : SanitizedGuestProjection) : Datum :=
  projectionDatum (.string projection.canonicalHost)
    (.number (.whole projection.potentialRiskCount)) (.number (.whole projection.warningCount))
    (.array (projection.posture.map GuestPostureObservation.toDatum))
    (.array (projection.coverage.map GuestCoverageProjection.toDatum))
    (.number (.whole projection.durationMs)) (.number (.whole projection.requestCount))

/-- The columns of `RESULT_READ_SQL`. -/
def resultReadRow (scan : GuestScan) (result : GuestResult) : Datum :=
  .object [
    ("id", .string scan.id),
    ("canonical_target", .string scan.canonicalTarget),
    ("guest_session_scope_hex", hexColumn scan.guestSessionScope),
    ("endpoint_operation", .string scan.endpointOperation),
    ("idempotency_key", .string scan.idempotencyKey),
    ("request_hash_hex", hexColumn scan.requestHash),
    ("created_at_unix_seconds", integerColumn scan.createdAt),
    ("updated_at_unix_seconds", integerColumn scan.updatedAt),
    ("idempotency_expires_at_unix_seconds", integerColumn scan.idempotencyExpiresAt),
    ("deletion_deadline_unix_seconds", integerColumn scan.deletionDeadline),
    ("job_state", .string scan.jobState.text),
    ("policy_id", .string scan.policyId),
    ("policy_version", .string scan.policyVersion),
    ("profile", .string scan.profile),
    ("result_token_version", integerColumn scan.resultTokenVersion),
    ("result_token_nonce_hex", hexColumn scan.resultTokenNonce),
    ("result_token_key_version", integerColumn scan.resultTokenKeyVersion),
    ("result_access_revoked_at_unix_seconds",
      datumOfOption integerColumn scan.resultAccessRevokedAt),
    ("current_attempt_id", datumOfOption .string scan.currentAttemptId),
    ("current_fence", integerColumn scan.currentFence),
    ("accepted_attempt_id", datumOfOption .string scan.acceptedAttemptId),
    ("accepted_fence", datumOfOption integerColumn scan.acceptedFence),
    ("accepted_payload_digest_hex", datumOfOption hexColumn scan.acceptedPayloadDigest),
    ("payload_digest_hex", hexColumn result.payloadDigest),
    ("completed_at_unix_seconds", integerColumn result.completedAt),
    ("projection", result.projection.toDatum)]

def mapGuestResultReadRow (node : NodeRuntime) (row : Datum) :
    Option (GuestResultReadRecord node) := do
  let scope ← digest (row.get "guest_session_scope_hex")
  let requestHash ← digest (row.get "request_hash_hex")
  let nonce ← bytes (row.get "result_token_nonce_hex")
  let acceptedDigest ← digest (row.get "accepted_payload_digest_hex")
  let resultDigest ← digest (row.get "payload_digest_hex")
  let created ← PostgresRow.integer (row.get "created_at_unix_seconds")
  let updated ← PostgresRow.integer (row.get "updated_at_unix_seconds")
  let expires ← PostgresRow.integer (row.get "idempotency_expires_at_unix_seconds")
  let deletion ← PostgresRow.integer (row.get "deletion_deadline_unix_seconds")
  let tokenVersion ← PostgresRow.integer (row.get "result_token_version")
  let keyVersion ← safeNumber (row.get "result_token_key_version")
  let currentFence ← safeNumber (row.get "current_fence")
  let acceptedFence ← safeNumber (row.get "accepted_fence")
  let completed ← PostgresRow.integer (row.get "completed_at_unix_seconds")
  let revoked ← nullable? PostgresRow.integer (row.get "result_access_revoked_at_unix_seconds")
  let id ← (row.get "id").string?
  let canonicalTarget ← (row.get "canonical_target").string?
  let endpointOperation ← (row.get "endpoint_operation").string?
  let idempotencyKey ← (row.get "idempotency_key").string?
  let jobState ← (row.get "job_state").string?
  let policyId ← (row.get "policy_id").string?
  let policyVersion ← (row.get "policy_version").string?
  let profile ← (row.get "profile").string?
  let currentAttemptId ← (row.get "current_attempt_id").string?
  let acceptedAttemptId ← (row.get "accepted_attempt_id").string?
  snapshotGuestResultReadRecord node (.object [
    ("scan", .object [
      ("schema_version", .number (.whole 1)),
      ("guest_scan_id", .string id),
      ("canonical_target", .string canonicalTarget),
      ("principal_scope", .string ("GUEST_SESSION:" ++ scope)),
      ("endpoint_operation", .string endpointOperation),
      ("idempotency_key", .string idempotencyKey),
      ("request_hash", .string requestHash),
      ("created_at_unix_seconds", .bigint created),
      ("updated_at_unix_seconds", .bigint updated),
      ("idempotency_expires_at_unix_seconds", .bigint expires),
      ("deletion_deadline_unix_seconds", .bigint deletion),
      ("job_state", .string jobState),
      ("policy_id", .string policyId),
      ("policy_version", .string policyVersion),
      ("profile", .string profile),
      ("result_token_metadata", .object [
        ("guest_scan_id", .string id),
        ("token_version", .bigint tokenVersion),
        ("token_nonce", .bytes nonce),
        ("key_version", .number (.whole keyVersion)),
        ("result_access_expires_at_unix_seconds", .bigint expires),
        ("result_access_revoked_at_unix_seconds",
          datumOfOption (fun time : Nat => .bigint time) revoked)]),
      ("current_attempt_id", .string currentAttemptId),
      ("current_fence", .number (.whole currentFence)),
      ("accepted_result", .object [
        ("attempt_id", .string acceptedAttemptId),
        ("fence", .number (.whole acceptedFence)),
        ("payload_digest", .string acceptedDigest)])]),
    ("result", .object [
      ("schema_version", .number (.whole 1)),
      ("guest_scan_id", .string id),
      ("accepted_attempt_id", .string acceptedAttemptId),
      ("accepted_fence", .number (.whole acceptedFence)),
      ("payload_digest", .string resultDigest),
      ("completed_at_unix_seconds", .bigint completed),
      ("projection", row.get "projection")])])

/-! ### The store -/

/-- `guest_scans` joined with `guest_results`. -/
def Tables.joinedResult (t : Tables) (guestScanId : String) : Option (GuestScan × GuestResult) := do
  let scan ← t.guestScans.find? guestScanId
  let result ← t.guestResults.find? guestScanId
  return (scan, result)

/-- `loadByGuestScanId`; `none` is `null`. -/
def loadByGuestScanId (node : NodeRuntime) (t : Tables) (guestScanId : String) : Option Datum :=
  if !validId guestScanId then none
  else
    (t.joinedResult guestScanId).bind fun (scan, result) =>
      (mapGuestResultReadRow node (resultReadRow scan result)).map GuestResultReadRecord.toDatum

/-! ### What is made of a row -/

structure Joined (scan : GuestScan) (result : GuestResult) : Prop where
  check : scan.Constraints
  owner : result.guestScanId = scan.id
  job : scan.jobState = .succeeded
  currentAttempt : scan.currentAttemptId = some result.acceptedAttemptId
  currentFence : scan.currentFence = result.acceptedFence
  acceptedAttempt : scan.acceptedAttemptId = some result.acceptedAttemptId
  acceptedFence : scan.acceptedFence = some result.acceptedFence
  acceptedDigest : scan.acceptedPayloadDigest = some result.payloadDigest

def GuestScan.readRecord (scan : GuestScan) (result : GuestResult) : GuestScanRecord where
  guestScanId := scan.id
  canonicalTarget := scan.canonicalTarget
  principalScope := scan.guestSessionScope
  idempotencyKey := scan.idempotencyKey
  requestHash := scan.requestHash
  createdAt := scan.createdAt
  updatedAt := scan.updatedAt
  idempotencyExpiresAt := scan.idempotencyExpiresAt
  deletionDeadline := scan.deletionDeadline
  jobState := scan.jobState
  resultTokenMetadata := scan.record.tokenMetadata
  currentAttemptId := some result.acceptedAttemptId
  currentFence := result.acceptedFence
  acceptedResult := some ⟨result.acceptedAttemptId, result.acceptedFence, result.payloadDigest⟩

def GuestResult.toDatum (result : GuestResult) : Datum :=
  .object [
    ("schema_version", .number (.whole 1)),
    ("guest_scan_id", .string result.guestScanId),
    ("accepted_attempt_id", .string result.acceptedAttemptId),
    ("accepted_fence", .number (.whole result.acceptedFence)),
    ("payload_digest", .string (digestText result.payloadDigest)),
    ("completed_at_unix_seconds", .bigint result.completedAt),
    ("projection", result.projection.toDatum)]

theorem mapGuestResultReadRow_joined {scan : GuestScan} {result : GuestResult}
    (h : Joined scan result) (node : NodeRuntime) :
    mapGuestResultReadRow node (resultReadRow scan result) =
      snapshotGuestResultReadRecord node
        (.object [("scan", (scan.readRecord result).toDatum), ("result", result.toDatum)]) := by
  have hkey : safeNumber (integerColumn scan.resultTokenKeyVersion) =
      some scan.resultTokenKeyVersion :=
    safeNumber_integerColumn (h.check.key_version.trans (by decide))
  have hfence := h.check.accepted_fence _ h.acceptedFence
  have hfence' : safeNumber (integerColumn result.acceptedFence) = some result.acceptedFence :=
    safeNumber_integerColumn hfence.2
  obtain ⟨hpolicy, hversion, hprofile⟩ := h.check.profile
  unfold mapGuestResultReadRow resultReadRow
  simp only [Datum.get_object_cons, String.reduceEq, if_true, if_false, digest_hexColumn,
    bytes_hexColumn, integer_integerColumn, integer_ofOption, hkey, hfence', Datum.string?,
    h.acceptedDigest, h.acceptedFence, h.acceptedAttempt, h.currentAttempt, h.currentFence,
    datumOfOption_some, Option.bind_eq_bind, Option.bind_some]
  rw [h.check.operation, hpolicy, hversion, hprofile]
  have hmetadata : Datum.object [
      ("guest_scan_id", .string scan.id),
      ("token_version", .bigint scan.resultTokenVersion),
      ("token_nonce", .bytes scan.resultTokenNonce.bytes),
      ("key_version", .number (.whole scan.resultTokenKeyVersion)),
      ("result_access_expires_at_unix_seconds", .bigint scan.idempotencyExpiresAt),
      ("result_access_revoked_at_unix_seconds",
        datumOfOption (fun time : Nat => .bigint time) scan.resultAccessRevokedAt)] =
      scan.record.tokenMetadata.toDatum := by
    cases hrevoked : scan.resultAccessRevokedAt with
    | none => simp only [GuestScan.record, GuestResultTokenMetadata.toDatum, hrevoked]; rfl
    | some time => simp only [GuestScan.record, GuestResultTokenMetadata.toDatum, hrevoked]; rfl
  rw [hmetadata, GuestResult.toDatum, h.owner]
  rfl

/-! ### A row that can be read -/

theorem isCount_natCast {n maximum : Nat} (h : n ≤ maximum) :
    (Number.whole n).isCount maximum = true := by
  simp only [Number.isCount, Bool.and_eq_true, decide_eq_true_eq]
  omega

def SanitizedGuestProjection.snapshot {node : NodeRuntime} (projection : SanitizedGuestProjection)
    (hhost : canonicalizeHostname node projection.canonicalHost = .ok projection.canonicalHost)
    (hcoverage : projection.coverage ≠ []) : ProjectionSnapshot node where
  canonicalHost := projection.canonicalHost
  posture := projection.posture
  potentialRiskCount := .whole projection.potentialRiskCount
  coverage := projection.coverage
  warningCount := .whole projection.warningCount
  durationMs := .whole projection.durationMs
  requestCount := .whole projection.requestCount
  host_canonical := hhost
  posture_nodup := projection.posture_nodup
  coverage_ne := hcoverage
  coverage_nodup := projection.coverage_nodup
  risk_count := isCount_natCast projection.risk_le
  warning_count := isCount_natCast projection.warning_le
  duration_count := isCount_natCast projection.duration_le
  request_count := isCount_natCast projection.request_le

structure Readable (node : NodeRuntime) (scan : GuestScan) (result : GuestResult) : Prop
    extends Joined scan result where
  attempt_valid : validId result.acceptedAttemptId = true
  target : canonicalizeHostname node scan.canonicalTarget = .ok scan.canonicalTarget
  host : result.projection.canonicalHost = scan.canonicalTarget
  coverage : result.projection.coverage ≠ []
  created_le : scan.createdAt ≤ result.completedAt
  completed_le : result.completedAt ≤ scan.updatedAt
  before_deletion : result.completedAt < scan.deletionDeadline

namespace Readable

variable {node : NodeRuntime} {scan : GuestScan} {result : GuestResult}

def record (h : Readable node scan result) : GuestResultReadRecord node where
  scan := scan.readRecord result
  result := {
    guestScanId := result.guestScanId
    acceptedAttemptId := result.acceptedAttemptId
    acceptedFence := result.acceptedFence
    payloadDigest := result.payloadDigest
    completedAt := result.completedAt
    projection := result.projection.snapshot (h.host ▸ h.target) h.coverage }

theorem consistent (h : Readable node scan result) :
    consistentScan (scan.readRecord result) = true := by
  have hrange := h.check.range
  have htime := h.check.time
  have hidempotency := htime.idempotency
  have hdeletion := htime.deletion
  have hcreated := htime.created_le
  have hupdated := htime.updated_le
  have hend : timestampEnd ≤ uint64Max := by decide
  have hfence := (h.check.accepted_fence _ h.acceptedFence).1
  have hrevoked : scan.resultAccessRevokedAt.all (fun revoked =>
      decide (scan.createdAt ≤ revoked) && decide (revoked ≤ scan.updatedAt)) = true := by
    cases hsome : scan.resultAccessRevokedAt with
    | none => rfl
    | some time =>
      have hwithin := htime.revoked time hsome
      rw [Option.all_some, decide_eq_true hwithin.1, decide_eq_true hwithin.2]
      rfl
  have hzero : (result.acceptedFence == 0) = false := by
    rw [beq_eq_false_iff_ne]
    omega
  simp only [consistentScan, GuestScan.readRecord, GuestScan.record, isU64, h.job, hrevoked, hzero,
    Bool.and_eq_true, decide_eq_true_eq, beq_iff_eq]
  simp only [guestResultAccessSeconds, guestRetentionSeconds, Option.all_some, BEq.rfl,
    Option.isNone_some, Option.isSome_some, Bool.and_self, Bool.and_false, Bool.and_true, and_true]
  refine ⟨⟨?_, rfl⟩, rfl⟩
  omega

theorem storable (h : Readable node scan result) : h.record.Storable where
  scan := {
    id_valid := h.check.id_valid
    target := h.target
    key_valid := h.check.key_valid
    token_valid := validTokenMetadata_record h.check
    current_valid := by
      intro id hid
      rw [← Option.some.inj hid]
      exact h.attempt_valid
    fence_le := (h.check.accepted_fence _ h.acceptedFence).2
    accepted_valid := by
      intro accepted haccepted
      have hfence := h.check.accepted_fence _ h.acceptedFence
      rw [← Option.some.inj haccepted, hasValidIdentity, h.attempt_valid,
        isPositiveSafeInteger_iff.mpr hfence, Bool.and_self]
    consistent := h.consistent }
  succeeded := h.job
  id_eq := h.owner
  accepted := rfl
  created_le := h.created_le
  completed_le := h.completed_le
  before_deletion := h.before_deletion

theorem mapped (h : Readable node scan result) :
    mapGuestResultReadRow node (resultReadRow scan result) = some h.record := by
  have hvalue : Datum.object [("scan", (scan.readRecord result).toDatum),
      ("result", result.toDatum)] = h.record.toDatum := rfl
  rw [mapGuestResultReadRow_joined h.toJoined, hvalue]
  exact snapshotGuestResultReadRecord_toDatum h.storable

end Readable

section

variable {node : NodeRuntime} {t : Tables} {guestScanId : String} {scan : GuestScan}
  {result : GuestResult}

theorem loadByGuestScanId_readable (hscan : t.guestScans.find? guestScanId = some scan)
    (hresult : t.guestResults.find? guestScanId = some result) (h : Readable node scan result) :
    loadByGuestScanId node t guestScanId = some h.record.toDatum := by
  have hid : validId guestScanId = true := by
    rw [← Table.find?_key hscan]
    exact h.check.id_valid
  rw [loadByGuestScanId, if_neg (by simp [hid]), Tables.joinedResult, hscan, hresult]
  exact congrArg (Option.map GuestResultReadRecord.toDatum) h.mapped

theorem loadByGuestScanId_metadata {value : Datum} {metadata : GuestResultTokenMetadata}
    (hjoined : ∀ scan result, t.guestScans.find? guestScanId = some scan →
      t.guestResults.find? guestScanId = some result → Joined scan result)
    (h : loadByGuestScanId node t guestScanId = some value)
    (hmetadata : snapshotGuestResultTokenMetadata
      ((value.get "scan").get "result_token_metadata") = some metadata) :
    ∃ scan, t.guestScans.find? guestScanId = some scan ∧ metadata = scan.record.tokenMetadata := by
  rw [loadByGuestScanId] at h
  split at h
  · cases h
  obtain ⟨⟨scan, result⟩, hrow, hmapped⟩ := Option.bind_eq_some_iff.mp h
  obtain ⟨record, hrecord, rfl⟩ := Option.map_eq_some_iff.mp hmapped
  obtain ⟨scan', hscan, hrest⟩ := Option.bind_eq_some_iff.mp hrow
  obtain ⟨result', hresult, hpair⟩ := Option.bind_eq_some_iff.mp hrest
  cases hpair
  rw [mapGuestResultReadRow_joined (hjoined _ _ hscan hresult)] at hrecord
  have hstored : snapshotGuestResultTokenMetadata scan.record.tokenMetadata.toDatum =
      some record.scan.resultTokenMetadata := metadata_of_snapshot hrecord
  have hread : snapshotGuestResultTokenMetadata record.scan.resultTokenMetadata.toDatum =
      some metadata := hmetadata
  refine ⟨_, hscan, ?_⟩
  rw [(snapshotGuestResultTokenMetadata_toDatum.mp hstored).1]
  exact (snapshotGuestResultTokenMetadata_toDatum.mp hread).1.symm

end

end Outscan

import Outscan.Library.Record
import Outscan.ResultEnvelope.Codec
import Outscan.ScanProtocol.ResultCommit
import Outscan.Target.Hostname

/-! Verifying a submission: its shape, its time window, its MAC, its payload. -/
namespace Outscan

open Dynamic

abbrev ResultEnvelopeKeyring := Nat → Option (List UInt8)

inductive ResultEnvelopeVerificationError where
  | invalidVerificationContext
  | invalidResultEnvelope
  | resultPayloadTooLarge
  | resultAuthenticationFailed
  | resultPayloadMismatch
deriving DecidableEq, Repr

/-- A keyring whose `get` throws is one that has no such key: both end in
`RESULT_AUTHENTICATION_FAILED`. -/
structure ResultEnvelopeVerificationContext where
  nowUnixSeconds : Option Int
  expectedWorkloadIdentity : String
  expectedAudience : String
  maxPayloadBytes : Option Int
  keyring : ResultEnvelopeKeyring

structure TrustedContext where
  now : Nat
  workload : String
  audience : String
  maxPayload : Nat
  keyring : ResultEnvelopeKeyring

abbrev RawSubmission := Value (Value Scalar)

structure RawResultEnvelope where
  schemaVersion : Scalar
  jobId : Scalar
  attemptId : Scalar
  fence : Scalar
  workloadIdentity : Scalar
  audience : Scalar
  issuedAt : Scalar
  expiresAt : Scalar
  payloadDigest : Scalar
  payloadSize : Scalar
  payload : Scalar

structure RawResultEnvelopeAuthentication where
  scheme : Scalar
  keyVersion : Scalar
  mac : Scalar

structure ResultEnvelope where
  header : ResultEnvelopeHeader
  payload : List UInt8
deriving DecidableEq, Repr

/-- The scheme is always `HMAC-SHA-256`. -/
structure ResultEnvelopeAuthentication where
  keyVersion : Nat
  mac : String
deriving DecidableEq, Repr

structure VerifiedResultEnvelope where
  header : ResultEnvelopeHeader
  submissionIdentity : ResultSubmissionIdentity
  payload : List UInt8
deriving DecidableEq

/-- `isPositiveSafeInteger` on a value of any type. -/
def positiveSafeInteger? : Scalar → Option Nat
  | .number (some value) =>
    if 0 < value ∧ value ≤ (maxSafeInteger : Int) then some value.toNat else none
  | _ => none

def naturalUpTo? (maximum : Nat) : Scalar → Option Nat
  | .number (some value) => if 0 ≤ value ∧ value ≤ (maximum : Int) then some value.toNat else none
  | _ => none

def text? (test : String → Bool) : Scalar → Option String
  | .string value => if test value then some value else none
  | _ => none

def exactly? (expected : Nat) (raw : Scalar) : Option Nat :=
  if raw = .number (some (expected : Int)) then some expected else none

def digest? : Scalar → Option Bytes32
  | .string value => parseDigest value
  | _ => none

def bytes? : Scalar → Option (List UInt8)
  | .bytes value => some value
  | _ => none

def submissionKeys : List String := ["envelope", "authentication"]

def envelopeKeys : List String :=
  ["schema_version", "job_id", "attempt_id", "fence", "workload_identity", "audience",
    "issued_at", "expires_at", "payload_digest", "payload_size", "payload"]

def authenticationKeys : List String := ["scheme", "key_version", "mac"]

def readEnvelope (r : Record Scalar) : RawResultEnvelope where
  schemaVersion := r.get .other "schema_version"
  jobId := r.get .other "job_id"
  attemptId := r.get .other "attempt_id"
  fence := r.get .other "fence"
  workloadIdentity := r.get .other "workload_identity"
  audience := r.get .other "audience"
  issuedAt := r.get .other "issued_at"
  expiresAt := r.get .other "expires_at"
  payloadDigest := r.get .other "payload_digest"
  payloadSize := r.get .other "payload_size"
  payload := r.get .other "payload"

def readAuthentication (r : Record Scalar) : RawResultEnvelopeAuthentication where
  scheme := r.get .other "scheme"
  keyVersion := r.get .other "key_version"
  mac := r.get .other "mac"

def snapshotSubmission (input : RawSubmission) :
    Option (RawResultEnvelope × RawResultEnvelopeAuthentication) :=
  match input with
  | .other => none
  | .record input =>
    if input.hasExactKeys submissionKeys then
      match input.get .other "envelope", input.get .other "authentication" with
      | .record envelope, .record authentication =>
        if envelope.hasExactKeys envelopeKeys && authentication.hasExactKeys authenticationKeys then
          some (readEnvelope envelope, readAuthentication authentication)
        else none
      | _, _ => none
    else none

/-- `validHeader`, with the values its tests have narrowed. -/
def validHeader (raw : RawResultEnvelope) : Option ResultEnvelope := do
  let schemaVersion ← exactly? 1 raw.schemaVersion
  let jobId ← text? validId raw.jobId
  let attemptId ← text? validId raw.attemptId
  let fence ← positiveSafeInteger? raw.fence
  let workloadIdentity ← text? validPrincipal raw.workloadIdentity
  let audience ← text? validPrincipal raw.audience
  let issuedAt ← positiveSafeInteger? raw.issuedAt
  let expiresAt ← positiveSafeInteger? raw.expiresAt
  let payloadDigest ← digest? raw.payloadDigest
  let payloadSize ← naturalUpTo? maxSafeInteger raw.payloadSize
  let payload ← bytes? raw.payload
  return ⟨⟨schemaVersion, jobId, attemptId, fence, workloadIdentity, audience, issuedAt, expiresAt,
    payloadDigest, payloadSize⟩, payload⟩

def validAuthentication (raw : RawResultEnvelopeAuthentication) :
    Option ResultEnvelopeAuthentication := do
  let _ ← text? (· == "HMAC-SHA-256") raw.scheme
  let keyVersion ← naturalUpTo? uint32Max raw.keyVersion
  let mac ← text? (fun mac => decide (utf16Length mac.toList = 43)) raw.mac
  return ⟨keyVersion, mac⟩

/-- `snapshotContext` of the verifier. -/
def ResultEnvelopeVerificationContext.snapshot (context : ResultEnvelopeVerificationContext) :
    Option TrustedContext := do
  let now ← positiveSafeInteger? (.number context.nowUnixSeconds)
  let workload ← text? validPrincipal (.string context.expectedWorkloadIdentity)
  let audience ← text? validPrincipal (.string context.expectedAudience)
  let maxPayload ← positiveSafeInteger? (.number context.maxPayloadBytes)
  if maxPayload ≤ resultEnvelopeMaxPayloadBytes then
    return ⟨now, workload, audience, maxPayload, context.keyring⟩
  else none

def withinTrust (trusted : TrustedContext) (header : ResultEnvelopeHeader) : Bool :=
  !(decide (header.workloadIdentity ≠ trusted.workload) ||
    decide (header.audience ≠ trusted.audience) ||
    decide (header.expiresAt ≤ header.issuedAt) ||
    decide (resultEnvelopeMaxLifetimeSeconds < header.expiresAt - header.issuedAt) ||
    decide (trusted.now + resultEnvelopeMaxClockSkewSeconds < header.issuedAt) ||
    decide (header.expiresAt ≤ trusted.now))

def macMatches (runtime : EnvelopeRuntime) (trusted : TrustedContext)
    (header : ResultEnvelopeHeader) (authentication : ResultEnvelopeAuthentication) : Bool :=
  match decodeCanonicalBase64Url authentication.mac, trusted.keyring authentication.keyVersion with
  | some suppliedMac, some key =>
    if suppliedMac.length ≠ 32 || key.length < 32 then false
    else
      match encodeResultEnvelopeAuthenticationMessage header authentication.keyVersion with
      | none => false
      | some message => decide (suppliedMac = (runtime.hmacSha256 key message).bytes)
  | _, _ => false

def verifyAuthenticatedResultEnvelope (runtime : EnvelopeRuntime) (input : RawSubmission)
    (context : ResultEnvelopeVerificationContext) :
    Except ResultEnvelopeVerificationError VerifiedResultEnvelope :=
  match context.snapshot with
  | none => .error .invalidVerificationContext
  | some trusted =>
    match snapshotSubmission input with
    | none => .error .invalidResultEnvelope
    | some (rawEnvelope, rawAuthentication) =>
      match validHeader rawEnvelope, validAuthentication rawAuthentication with
      | some envelope, some authentication =>
        let header := envelope.header
        if trusted.maxPayload < header.payloadSize ||
            trusted.maxPayload < envelope.payload.length then
          .error .resultPayloadTooLarge
        else if !withinTrust trusted header then .error .resultAuthenticationFailed
        else if !macMatches runtime trusted header authentication then
          .error .resultAuthenticationFailed
        else if envelope.payload.length ≠ header.payloadSize ||
            runtime.sha256 envelope.payload ≠ header.payloadDigest then
          .error .resultPayloadMismatch
        else
          .ok ⟨header, ⟨header.attemptId, header.fence, header.payloadDigest⟩, envelope.payload⟩
      | _, _ => .error .invalidResultEnvelope

/-! ### Shape -/

def ResultEnvelope.fields (envelope : ResultEnvelope) : List (String × Scalar) :=
  [("schema_version", .number (some envelope.header.schemaVersion)),
    ("job_id", .string envelope.header.jobId),
    ("attempt_id", .string envelope.header.attemptId),
    ("fence", .number (some envelope.header.fence)),
    ("workload_identity", .string envelope.header.workloadIdentity),
    ("audience", .string envelope.header.audience),
    ("issued_at", .number (some envelope.header.issuedAt)),
    ("expires_at", .number (some envelope.header.expiresAt)),
    ("payload_digest", .string (digestText envelope.header.payloadDigest)),
    ("payload_size", .number (some envelope.header.payloadSize)),
    ("payload", .bytes envelope.payload)]

def ResultEnvelopeAuthentication.fields (authentication : ResultEnvelopeAuthentication) :
    List (String × Scalar) :=
  [("scheme", .string "HMAC-SHA-256"),
    ("key_version", .number (some authentication.keyVersion)),
    ("mac", .string authentication.mac)]

/-- `input` is the submission of this envelope and this authentication: exactly
their fields, in any order. -/
def Presents (input : RawSubmission) (envelope : ResultEnvelope)
    (authentication : ResultEnvelopeAuthentication) : Prop :=
  ∃ submission envelopeRecord authenticationRecord,
    input = .record submission ∧
    submission.fields.Perm [("envelope", .record envelopeRecord),
      ("authentication", .record authenticationRecord)] ∧
    envelopeRecord.fields.Perm envelope.fields ∧
    authenticationRecord.fields.Perm authentication.fields

theorem positiveSafeInteger?_eq_some {raw : Scalar} {value : Nat} :
    positiveSafeInteger? raw = some value ↔
      raw = .number (some value) ∧ isPositiveSafeInteger value = true := by
  match raw with
  | .number none | .string _ | .bytes _ | .other => simp [positiveSafeInteger?]
  | .number (some number) =>
    simp only [positiveSafeInteger?, isPositiveSafeInteger, Bool.and_eq_true, decide_eq_true_eq,
      Scalar.number.injEq, Option.some.injEq]
    split
    · rw [Option.some.injEq]
      omega
    · constructor
      · intro h
        cases h
      · omega

theorem naturalUpTo?_eq_some {maximum : Nat} {raw : Scalar} {value : Nat} :
    naturalUpTo? maximum raw = some value ↔ raw = .number (some value) ∧ value ≤ maximum := by
  match raw with
  | .number none | .string _ | .bytes _ | .other => simp [naturalUpTo?]
  | .number (some number) =>
    simp only [naturalUpTo?, Scalar.number.injEq, Option.some.injEq]
    split
    · rw [Option.some.injEq]
      omega
    · constructor
      · intro h
        cases h
      · omega

theorem text?_eq_some {test : String → Bool} {raw : Scalar} {value : String} :
    text? test raw = some value ↔ raw = .string value ∧ test value = true := by
  match raw with
  | .number _ | .bytes _ | .other => simp [text?]
  | .string text =>
    simp only [text?, Scalar.string.injEq]
    split
    · rename_i htest
      rw [Option.some.injEq]
      constructor
      · rintro rfl
        exact ⟨rfl, htest⟩
      · rintro ⟨rfl, -⟩
        rfl
    · rename_i htest
      constructor
      · intro h
        cases h
      · rintro ⟨rfl, h⟩
        exact absurd h htest

theorem exactly?_eq_some {expected : Nat} {raw : Scalar} {value : Nat} :
    exactly? expected raw = some value ↔ raw = .number (some value) ∧ value = expected := by
  rw [exactly?]
  split
  · rename_i heq
    rw [Option.some.injEq, heq]
    constructor
    · rintro rfl
      exact ⟨rfl, rfl⟩
    · exact fun h => h.2.symm
  · rename_i hne
    constructor
    · intro h
      cases h
    · rintro ⟨h, rfl⟩
      exact absurd h hne

theorem digest?_eq_some {raw : Scalar} {digest : Bytes32} :
    digest? raw = some digest ↔ raw = .string (digestText digest) := by
  match raw with
  | .number _ | .bytes _ | .other => simp [digest?]
  | .string text => rw [digest?, parseDigest_eq_some, Scalar.string.injEq]

theorem bytes?_eq_some {raw : Scalar} {value : List UInt8} :
    bytes? raw = some value ↔ raw = .bytes value := by
  match raw with
  | .number _ | .string _ | .other => simp [bytes?]
  | .bytes bytes => rw [bytes?, Option.some.injEq, Scalar.bytes.injEq]

/-- The raw values that `validHeader` narrows to `envelope`. -/
def ResultEnvelope.raw (envelope : ResultEnvelope) : RawResultEnvelope where
  schemaVersion := .number (some envelope.header.schemaVersion)
  jobId := .string envelope.header.jobId
  attemptId := .string envelope.header.attemptId
  fence := .number (some envelope.header.fence)
  workloadIdentity := .string envelope.header.workloadIdentity
  audience := .string envelope.header.audience
  issuedAt := .number (some envelope.header.issuedAt)
  expiresAt := .number (some envelope.header.expiresAt)
  payloadDigest := .string (digestText envelope.header.payloadDigest)
  payloadSize := .number (some envelope.header.payloadSize)
  payload := .bytes envelope.payload

theorem validHeader_eq_some {raw : RawResultEnvelope} {envelope : ResultEnvelope} :
    validHeader raw = some envelope ↔ raw = envelope.raw ∧ envelope.header.Valid := by
  simp only [validHeader, Option.bind_eq_bind, Option.bind_eq_some_iff,
    positiveSafeInteger?_eq_some, naturalUpTo?_eq_some, text?_eq_some, exactly?_eq_some,
    digest?_eq_some, bytes?_eq_some, pure, Option.some.injEq]
  constructor
  · rintro ⟨schema, ⟨hschema, hone⟩, jobId, ⟨hjob, hjobValid⟩, attemptId, ⟨hattempt, hattemptValid⟩,
      fence, ⟨hfence, hfenceValid⟩, workload, ⟨hworkload, hworkloadValid⟩,
      audience, ⟨haudience, haudienceValid⟩, issuedAt, ⟨hissued, hissuedValid⟩,
      expiresAt, ⟨hexpires, hexpiresValid⟩, digest, hdigest, size, ⟨hsize, hsizeValid⟩,
      payload, hpayload, rfl⟩
    refine ⟨?_, hone, hjobValid, hattemptValid, hfenceValid, hworkloadValid, haudienceValid,
      hissuedValid, hexpiresValid, hsizeValid⟩
    rw [ResultEnvelope.raw, ← hschema, ← hjob, ← hattempt, ← hfence, ← hworkload, ← haudience,
      ← hissued, ← hexpires, ← hdigest, ← hsize, ← hpayload]
  · rintro ⟨rfl, hvalid⟩
    exact ⟨_, ⟨rfl, hvalid.schemaVersion⟩, _, ⟨rfl, hvalid.jobId⟩, _, ⟨rfl, hvalid.attemptId⟩,
      _, ⟨rfl, hvalid.fence⟩, _, ⟨rfl, hvalid.workloadIdentity⟩, _, ⟨rfl, hvalid.audience⟩,
      _, ⟨rfl, hvalid.issuedAt⟩, _, ⟨rfl, hvalid.expiresAt⟩, _, rfl, _, ⟨rfl, hvalid.payloadSize⟩,
      _, rfl, rfl⟩

def ResultEnvelopeAuthentication.raw (authentication : ResultEnvelopeAuthentication) :
    RawResultEnvelopeAuthentication where
  scheme := .string "HMAC-SHA-256"
  keyVersion := .number (some authentication.keyVersion)
  mac := .string authentication.mac

theorem validAuthentication_eq_some {raw : RawResultEnvelopeAuthentication}
    {authentication : ResultEnvelopeAuthentication} :
    validAuthentication raw = some authentication ↔
      raw = authentication.raw ∧ authentication.keyVersion ≤ uint32Max ∧
        utf16Length authentication.mac.toList = 43 := by
  simp only [validAuthentication, Option.bind_eq_bind, Option.bind_eq_some_iff,
    naturalUpTo?_eq_some, text?_eq_some, pure, Option.some.injEq, beq_iff_eq, decide_eq_true_eq]
  constructor
  · rintro ⟨_, ⟨hscheme, rfl⟩, keyVersion, ⟨hkey, hkeyValid⟩, mac, ⟨hmac, hmacValid⟩, rfl⟩
    refine ⟨?_, hkeyValid, hmacValid⟩
    rw [ResultEnvelopeAuthentication.raw, ← hscheme, ← hkey, ← hmac]
  · rintro ⟨rfl, hkey, hmac⟩
    exact ⟨_, ⟨rfl, rfl⟩, _, ⟨rfl, hkey⟩, _, ⟨rfl, hmac⟩, rfl⟩

theorem readEnvelope_eq_raw {r : Record Scalar} {envelope : ResultEnvelope} :
    r.hasExactKeys envelopeKeys = true ∧ readEnvelope r = envelope.raw ↔
      r.fields.Perm envelope.fields := by
  constructor
  · rintro ⟨hkeys, hread⟩
    have hperm := r.perm_of_hasExactKeys hkeys .other
    obtain ⟨hschema, hjob, hattempt, hfence, hworkload, haudience, hissued, hexpires, hdigest,
      hsize, hpayload⟩ := RawResultEnvelope.mk.inj hread
    simp only [envelopeKeys, List.map_cons, List.map_nil, hschema, hjob, hattempt, hfence,
      hworkload, haudience, hissued, hexpires, hdigest, hsize, hpayload] at hperm
    exact hperm
  · intro hperm
    refine ⟨r.hasExactKeys_of_perm hperm rfl, ?_⟩
    have hget : ∀ {key value}, (key, value) ∈ envelope.fields → r.get .other key = value :=
      fun h => r.get_of_perm hperm .other h
    rw [readEnvelope, ResultEnvelope.raw]
    congr 1 <;> exact hget (by simp [ResultEnvelope.fields])

theorem readAuthentication_eq_raw {r : Record Scalar}
    {authentication : ResultEnvelopeAuthentication} :
    r.hasExactKeys authenticationKeys = true ∧ readAuthentication r = authentication.raw ↔
      r.fields.Perm authentication.fields := by
  constructor
  · rintro ⟨hkeys, hread⟩
    have hperm := r.perm_of_hasExactKeys hkeys .other
    obtain ⟨hscheme, hkey, hmac⟩ := RawResultEnvelopeAuthentication.mk.inj hread
    simp only [authenticationKeys, List.map_cons, List.map_nil, hscheme, hkey, hmac] at hperm
    exact hperm
  · intro hperm
    refine ⟨r.hasExactKeys_of_perm hperm rfl, ?_⟩
    have hget : ∀ {key value}, (key, value) ∈ authentication.fields → r.get .other key = value :=
      fun h => r.get_of_perm hperm .other h
    rw [readAuthentication, ResultEnvelopeAuthentication.raw]
    congr 1 <;> exact hget (by simp [ResultEnvelopeAuthentication.fields])

theorem snapshotSubmission_eq_raw {input : RawSubmission} {envelope : ResultEnvelope}
    {authentication : ResultEnvelopeAuthentication} :
    snapshotSubmission input = some (envelope.raw, authentication.raw) ↔
      Presents input envelope authentication := by
  constructor
  · intro h
    match input with
    | .other => cases h
    | .record input =>
      rw [snapshotSubmission] at h
      split at h
      · rename_i hkeys
        split at h
        · rename_i envelopeRecord authenticationRecord henvelope hauthentication
          split at h
          · rename_i hinner
            rw [Bool.and_eq_true] at hinner
            simp only [Option.some.injEq, Prod.mk.injEq] at h
            refine ⟨input, envelopeRecord, authenticationRecord, rfl, ?_,
              readEnvelope_eq_raw.mp ⟨hinner.1, h.1⟩,
              readAuthentication_eq_raw.mp ⟨hinner.2, h.2⟩⟩
            have hperm := input.perm_of_hasExactKeys hkeys .other
            simp only [submissionKeys, List.map_cons, List.map_nil, henvelope,
              hauthentication] at hperm
            exact hperm
          · cases h
        · cases h
      · cases h
  · rintro ⟨submission, envelopeRecord, authenticationRecord, rfl, hperm, henvelope,
      hauthentication⟩
    have hkeys : submission.hasExactKeys submissionKeys = true :=
      submission.hasExactKeys_of_perm hperm rfl
    have hfirst : submission.get .other "envelope" = .record envelopeRecord :=
      submission.get_of_perm hperm .other (by simp)
    have hsecond : submission.get .other "authentication" = .record authenticationRecord :=
      submission.get_of_perm hperm .other (by simp)
    obtain ⟨henvelopeKeys, henvelopeRaw⟩ := readEnvelope_eq_raw.mpr henvelope
    obtain ⟨hauthenticationKeys, hauthenticationRaw⟩ := readAuthentication_eq_raw.mpr hauthentication
    rw [snapshotSubmission, if_pos hkeys, hfirst, hsecond]
    dsimp only
    rw [henvelopeKeys, hauthenticationKeys, henvelopeRaw, hauthenticationRaw]
    rfl

theorem ResultEnvelopeVerificationContext.snapshot_eq_some
    {context : ResultEnvelopeVerificationContext} {trusted : TrustedContext} :
    context.snapshot = some trusted ↔
      context = ⟨some trusted.now, trusted.workload, trusted.audience, some trusted.maxPayload,
        trusted.keyring⟩ ∧
      isPositiveSafeInteger trusted.now = true ∧ validPrincipal trusted.workload = true ∧
      validPrincipal trusted.audience = true ∧ 0 < trusted.maxPayload ∧
      trusted.maxPayload ≤ resultEnvelopeMaxPayloadBytes := by
  obtain ⟨rawNow, rawWorkload, rawAudience, rawMaximum, rawKeyring⟩ := context
  simp only [ResultEnvelopeVerificationContext.snapshot, Option.bind_eq_bind,
    Option.bind_eq_some_iff, positiveSafeInteger?_eq_some, text?_eq_some, pure,
    Scalar.number.injEq, Scalar.string.injEq, isPositiveSafeInteger, Bool.and_eq_true,
    decide_eq_true_eq, ResultEnvelopeVerificationContext.mk.injEq]
  constructor
  · rintro ⟨now, ⟨hnow, hnowValid⟩, workload, ⟨hworkload, hworkloadValid⟩,
      audience, ⟨haudience, haudienceValid⟩, maximum, ⟨hmaximum, hmaximumValid⟩, h⟩
    split at h
    · rename_i hle
      cases h
      exact ⟨⟨hnow, hworkload, haudience, hmaximum, rfl⟩, hnowValid, hworkloadValid,
        haudienceValid, hmaximumValid.1, hle⟩
    · cases h
  · rintro ⟨⟨hnow, hworkload, haudience, hmaximum, rfl⟩, hnowValid, hworkloadValid,
      haudienceValid, hpositive, hle⟩
    have hsafe : trusted.maxPayload ≤ maxSafeInteger := by
      unfold resultEnvelopeMaxPayloadBytes at hle
      unfold maxSafeInteger
      omega
    exact ⟨_, ⟨hnow, hnowValid⟩, _, ⟨hworkload, hworkloadValid⟩, _, ⟨haudience, haudienceValid⟩,
      _, ⟨hmaximum, hpositive, hsafe⟩, if_pos hle⟩

end Outscan

import Outscan.ResultEnvelope.Verify

/-! Signing a result: the header, its MAC, and the submission to send. -/
namespace Outscan

open Dynamic

inductive ResultEnvelopeSigningError where
  | invalidSigningContext
  | invalidResultInput
  | resultPayloadTooLarge
  | resultSigningFailed
deriving DecidableEq, Repr

structure ResultEnvelopeSigningInput where
  jobId : String
  attemptId : String
  fence : Nat
  payload : List UInt8
deriving DecidableEq, Repr

structure ResultEnvelopeSigningContext where
  nowUnixSeconds : Nat
  lifetimeSeconds : Nat
  workloadIdentity : String
  audience : String
  maxPayloadBytes : Nat
  keyVersion : Nat
  key : List UInt8
deriving DecidableEq, Repr

structure SignedResultEnvelope where
  header : ResultEnvelopeHeader
  authentication : ResultEnvelopeAuthentication
  payload : List UInt8
deriving DecidableEq, Repr

def signingInputKeys : List String := ["job_id", "attempt_id", "fence", "payload"]

def signingContextKeys : List String :=
  ["now_unix_seconds", "lifetime_seconds", "workload_identity", "audience", "max_payload_bytes",
    "key_version", "key"]

def snapshotInput (value : Value Scalar) : Option ResultEnvelopeSigningInput :=
  match value with
  | .other => none
  | .record r =>
    if r.hasExactKeys signingInputKeys then do
      let jobId ← text? validId (r.get .other "job_id")
      let attemptId ← text? validId (r.get .other "attempt_id")
      let fence ← positiveSafeInteger? (r.get .other "fence")
      let payload ← bytes? (r.get .other "payload")
      return ⟨jobId, attemptId, fence, payload⟩
    else none

/-- `snapshotContext` of the signer. -/
def snapshotSigningContext (value : Value Scalar) : Option ResultEnvelopeSigningContext :=
  match value with
  | .other => none
  | .record r =>
    if r.hasExactKeys signingContextKeys then do
      let now ← positiveSafeInteger? (r.get .other "now_unix_seconds")
      let lifetime ← positiveSafeInteger? (r.get .other "lifetime_seconds")
      let workload ← text? validPrincipal (r.get .other "workload_identity")
      let audience ← text? validPrincipal (r.get .other "audience")
      let maximum ← positiveSafeInteger? (r.get .other "max_payload_bytes")
      let keyVersion ← naturalUpTo? uint32Max (r.get .other "key_version")
      let key ← bytes? (r.get .other "key")
      if resultEnvelopeMaxLifetimeSeconds < lifetime ||
          resultEnvelopeMaxPayloadBytes < maximum || key.length < 32 || 64 < key.length ||
          maxSafeInteger < now + lifetime then none
      else return ⟨now, lifetime, workload, audience, maximum, keyVersion, key⟩
    else none

def signedHeader (runtime : EnvelopeRuntime) (input : ResultEnvelopeSigningInput)
    (context : ResultEnvelopeSigningContext) : ResultEnvelopeHeader where
  schemaVersion := 1
  jobId := input.jobId
  attemptId := input.attemptId
  fence := input.fence
  workloadIdentity := context.workloadIdentity
  audience := context.audience
  issuedAt := context.nowUnixSeconds
  expiresAt := context.nowUnixSeconds + context.lifetimeSeconds
  payloadDigest := runtime.sha256 input.payload
  payloadSize := input.payload.length

def signResultEnvelope (runtime : EnvelopeRuntime) (rawInput rawContext : Value Scalar) :
    Except ResultEnvelopeSigningError SignedResultEnvelope :=
  match snapshotInput rawInput with
  | none => .error .invalidResultInput
  | some input =>
    match snapshotSigningContext rawContext with
    | none => .error .invalidSigningContext
    | some context =>
      if context.maxPayloadBytes < input.payload.length then .error .resultPayloadTooLarge
      else
        let header := signedHeader runtime input context
        match encodeResultEnvelopeAuthenticationMessage header context.keyVersion with
        | none => .error .resultSigningFailed
        | some message =>
          let mac := encodeBase64Url (runtime.hmacSha256 context.key message).bytes
          .ok ⟨header, ⟨context.keyVersion, mac⟩, input.payload⟩

def SignedResultEnvelope.envelope (signed : SignedResultEnvelope) : ResultEnvelope :=
  ⟨signed.header, signed.payload⟩

theorem submissionKeys_nodup : submissionKeys.Nodup := by decide

theorem envelopeKeys_nodup : envelopeKeys.Nodup := by decide

theorem authenticationKeys_nodup : authenticationKeys.Nodup := by decide

def SignedResultEnvelope.readSubmission (signed : SignedResultEnvelope) : RawSubmission :=
  .record ⟨[("envelope", .record ⟨signed.envelope.fields, envelopeKeys_nodup⟩),
    ("authentication", .record ⟨signed.authentication.fields, authenticationKeys_nodup⟩)],
    submissionKeys_nodup⟩

theorem SignedResultEnvelope.presents (signed : SignedResultEnvelope) :
    Presents signed.readSubmission signed.envelope signed.authentication :=
  ⟨_, _, _, rfl, List.Perm.refl _, List.Perm.refl _, List.Perm.refl _⟩

theorem snapshotInput_valid {value : Value Scalar} {input : ResultEnvelopeSigningInput}
    (h : snapshotInput value = some input) :
    validId input.jobId = true ∧ validId input.attemptId = true ∧
      isPositiveSafeInteger input.fence = true := by
  match value with
  | .other => cases h
  | .record r =>
    rw [snapshotInput] at h
    split at h
    · simp only [Option.bind_eq_bind, Option.bind_eq_some_iff, text?_eq_some,
        positiveSafeInteger?_eq_some, bytes?_eq_some, pure, Option.some.injEq] at h
      obtain ⟨_, ⟨-, hjob⟩, _, ⟨-, hattempt⟩, _, ⟨-, hfence⟩, _, -, rfl⟩ := h
      exact ⟨hjob, hattempt, hfence⟩
    · cases h

theorem snapshotSigningContext_valid {value : Value Scalar} {context : ResultEnvelopeSigningContext}
    (h : snapshotSigningContext value = some context) :
    0 < context.nowUnixSeconds ∧ 0 < context.lifetimeSeconds ∧
      context.lifetimeSeconds ≤ resultEnvelopeMaxLifetimeSeconds ∧
      context.nowUnixSeconds + context.lifetimeSeconds ≤ maxSafeInteger ∧
      validPrincipal context.workloadIdentity = true ∧ validPrincipal context.audience = true ∧
      context.maxPayloadBytes ≤ resultEnvelopeMaxPayloadBytes ∧
      context.keyVersion ≤ uint32Max ∧ 32 ≤ context.key.length := by
  match value with
  | .other => cases h
  | .record r =>
    rw [snapshotSigningContext] at h
    split at h
    · simp only [Option.bind_eq_bind, Option.bind_eq_some_iff, text?_eq_some,
        positiveSafeInteger?_eq_some, naturalUpTo?_eq_some, bytes?_eq_some] at h
      obtain ⟨now, ⟨-, hnow⟩, lifetime, ⟨-, hlifetime⟩, workload, ⟨-, hworkload⟩,
        audience, ⟨-, haudience⟩, maximum, ⟨-, hmaximum⟩, keyVersion, ⟨-, hkeyVersion⟩,
        key, -, h⟩ := h
      simp only [isPositiveSafeInteger, Bool.and_eq_true, decide_eq_true_eq] at hnow hlifetime
      split at h
      · cases h
      · rename_i hbounds
        simp only [Bool.or_eq_true, decide_eq_true_eq, not_or, Nat.not_lt] at hbounds
        obtain ⟨⟨⟨⟨hlifetimeLe, hmaximumLe⟩, hkey⟩, -⟩, hsum⟩ := hbounds
        cases h
        exact ⟨hnow.1, hlifetime.1, hlifetimeLe, hsum, hworkload, haudience, hmaximumLe,
          hkeyVersion, hkey⟩
    · cases h

theorem signResultEnvelope_ok {runtime : EnvelopeRuntime} {rawInput rawContext : Value Scalar}
    {signed : SignedResultEnvelope} :
    signResultEnvelope runtime rawInput rawContext = .ok signed ↔
      ∃ input context message, snapshotInput rawInput = some input ∧
        snapshotSigningContext rawContext = some context ∧
        input.payload.length ≤ context.maxPayloadBytes ∧
        encodeResultEnvelopeAuthenticationMessage (signedHeader runtime input context)
          context.keyVersion = some message ∧
        signed = ⟨signedHeader runtime input context, ⟨context.keyVersion,
          encodeBase64Url (runtime.hmacSha256 context.key message).bytes⟩, input.payload⟩ := by
  rw [signResultEnvelope]
  cases hinput : snapshotInput rawInput with
  | none => simp
  | some input =>
    cases hcontext : snapshotSigningContext rawContext with
    | none => simp
    | some context =>
      by_cases hsize : context.maxPayloadBytes < input.payload.length
      · have hnot : ¬ input.payload.length ≤ context.maxPayloadBytes := Nat.not_le.mpr hsize
        simp [hsize, hnot]
      · cases hmessage : encodeResultEnvelopeAuthenticationMessage
          (signedHeader runtime input context) context.keyVersion with
        | none => simp [hsize, hmessage]
        | some message =>
          have hle : input.payload.length ≤ context.maxPayloadBytes := Nat.not_lt.mp hsize
          simp [hsize, hmessage, hle, eq_comm]

end Outscan

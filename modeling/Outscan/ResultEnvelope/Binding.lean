import Outscan.ResultEnvelope.Sign

/-! What an accepted envelope is bound to: every field of its header, through
the MAC, and its payload, through size and digest. -/
namespace Outscan

open Dynamic

/-- All that an accepted submission must satisfy under a trusted context. -/
structure Authentic (runtime : EnvelopeRuntime) (trusted : TrustedContext)
    (envelope : ResultEnvelope) (authentication : ResultEnvelopeAuthentication) : Prop where
  header : envelope.header.Valid
  keyVersion : authentication.keyVersion ≤ uint32Max
  statedSize : envelope.header.payloadSize ≤ trusted.maxPayload
  workload : envelope.header.workloadIdentity = trusted.workload
  audience : envelope.header.audience = trusted.audience
  order : envelope.header.issuedAt < envelope.header.expiresAt
  lifetime : envelope.header.expiresAt ≤
    envelope.header.issuedAt + resultEnvelopeMaxLifetimeSeconds
  notBefore : envelope.header.issuedAt ≤ trusted.now + resultEnvelopeMaxClockSkewSeconds
  notAfter : trusted.now < envelope.header.expiresAt
  mac : ∃ key message, trusted.keyring authentication.keyVersion = some key ∧ 32 ≤ key.length ∧
    encodeResultEnvelopeAuthenticationMessage envelope.header authentication.keyVersion =
      some message ∧
    authentication.mac = encodeBase64Url (runtime.hmacSha256 key message).bytes
  size : envelope.payload.length = envelope.header.payloadSize
  digest : runtime.sha256 envelope.payload = envelope.header.payloadDigest

def ResultEnvelope.verified (envelope : ResultEnvelope) : VerifiedResultEnvelope :=
  ⟨envelope.header,
    ⟨envelope.header.attemptId, envelope.header.fence, envelope.header.payloadDigest⟩,
    envelope.payload⟩

theorem base64UrlChar_lt {value : Nat} (h : value < 64) :
    (base64UrlChar value).toNat < 0x10000 := by
  have hall : ∀ n : Fin 64, (base64UrlChar n).toNat < 0x10000 := by decide
  exact hall ⟨value, h⟩

theorem utf16Length_base64UrlChars (bytes : List UInt8) :
    utf16Length (base64UrlChars bytes) = (base64UrlChars bytes).length := by
  have hcons : ∀ {value : Nat} {rest : List Char}, value < 64 →
      utf16Length (base64UrlChar value :: rest) = utf16Length rest + 1 := by
    intro value rest h
    rw [utf16Length, List.map_cons, List.sum_cons, if_pos (base64UrlChar_lt h), utf16Length,
      Nat.add_comm]
  induction bytes using base64UrlChars.induct with
  | case1 => rfl
  | case2 a =>
    have ha := a.toNat_lt
    rw [base64UrlChars, hcons (by omega), hcons (by omega)]
    rfl
  | case3 a b =>
    have ha := a.toNat_lt
    have hb := b.toNat_lt
    rw [base64UrlChars, hcons (by omega), hcons (by omega), hcons (by omega)]
    rfl
  | case4 a b c rest ih =>
    have ha := a.toNat_lt
    have hb := b.toNat_lt
    have hc := c.toNat_lt
    rw [base64UrlChars, hcons (by omega), hcons (by omega), hcons (by omega), hcons (by omega), ih]
    rfl

theorem utf16Length_mac (value : Bytes32) : utf16Length (encodeBase64Url value.bytes).toList = 43 := by
  rw [encodeBase64Url, String.toList_ofList, utf16Length_base64UrlChars, length_base64UrlChars,
    value.size]

theorem withinTrust_iff {trusted : TrustedContext} {header : ResultEnvelopeHeader} :
    withinTrust trusted header = true ↔
      header.workloadIdentity = trusted.workload ∧ header.audience = trusted.audience ∧
      header.issuedAt < header.expiresAt ∧
      header.expiresAt ≤ header.issuedAt + resultEnvelopeMaxLifetimeSeconds ∧
      header.issuedAt ≤ trusted.now + resultEnvelopeMaxClockSkewSeconds ∧
      trusted.now < header.expiresAt := by
  simp only [withinTrust, Bool.not_eq_true', Bool.or_eq_false_iff, decide_eq_false_iff_not,
    ne_eq, not_not, Nat.not_lt, Nat.not_le, Nat.sub_le_iff_le_add']
  constructor
  · rintro ⟨⟨⟨⟨⟨hworkload, haudience⟩, horder⟩, hlifetime⟩, hbefore⟩, hafter⟩
    exact ⟨hworkload, haudience, horder, hlifetime, hbefore, hafter⟩
  · rintro ⟨hworkload, haudience, horder, hlifetime, hbefore, hafter⟩
    exact ⟨⟨⟨⟨⟨hworkload, haudience⟩, horder⟩, hlifetime⟩, hbefore⟩, hafter⟩

theorem macMatches_iff {runtime : EnvelopeRuntime} {trusted : TrustedContext}
    {header : ResultEnvelopeHeader} {authentication : ResultEnvelopeAuthentication} :
    macMatches runtime trusted header authentication = true ↔
      ∃ key message, trusted.keyring authentication.keyVersion = some key ∧ 32 ≤ key.length ∧
        encodeResultEnvelopeAuthenticationMessage header authentication.keyVersion =
          some message ∧
        authentication.mac = encodeBase64Url (runtime.hmacSha256 key message).bytes := by
  have hne : ∀ value : Bytes32, value.bytes ≠ [] := by
    intro value hnil
    have hsize := value.size
    rw [hnil] at hsize
    cases hsize
  constructor
  · intro h
    rw [macMatches] at h
    split at h
    · rename_i suppliedMac key hmac hkey
      split at h
      · cases h
      · rename_i hlength
        simp only [Bool.or_eq_true, decide_eq_true_eq, not_or, Nat.not_lt] at hlength
        split at h
        · cases h
        · rename_i message hmessage
          have hequal := of_decide_eq_true h
          rw [hequal] at hmac
          exact ⟨key, message, hkey, hlength.2, hmessage,
            (decodeCanonicalBase64Url_eq_some.mp hmac).1⟩
    · cases h
  · rintro ⟨key, message, hkey, hlength, hmessage, hmac⟩
    have hdecode : decodeCanonicalBase64Url authentication.mac =
        some (runtime.hmacSha256 key message).bytes :=
      decodeCanonicalBase64Url_eq_some.mpr ⟨hmac, hne _⟩
    have hguard : ¬ (((runtime.hmacSha256 key message).bytes.length ≠ 32 ||
        key.length < 32 : Bool) = true) := by
      simp only [Bool.or_eq_true, decide_eq_true_eq, not_or, Nat.not_lt, ne_eq, not_not]
      exact ⟨(runtime.hmacSha256 key message).size, hlength⟩
    rw [macMatches, hdecode, hkey]
    dsimp only
    rw [if_neg hguard, hmessage]
    exact decide_eq_true rfl

theorem verifyAuthenticatedResultEnvelope_ok {runtime : EnvelopeRuntime} {input : RawSubmission}
    {context : ResultEnvelopeVerificationContext} {verified : VerifiedResultEnvelope} :
    verifyAuthenticatedResultEnvelope runtime input context = .ok verified ↔
      ∃ trusted envelope authentication, context.snapshot = some trusted ∧
        Presents input envelope authentication ∧
        Authentic runtime trusted envelope authentication ∧ verified = envelope.verified := by
  constructor
  · intro h
    rw [verifyAuthenticatedResultEnvelope] at h
    split at h
    · cases h
    rename_i trusted htrusted
    split at h
    · cases h
    rename_i rawEnvelope rawAuthentication hsnapshot
    split at h
    · rename_i envelope authentication henvelope hauthentication
      obtain ⟨rfl, hheader⟩ := validHeader_eq_some.mp henvelope
      obtain ⟨rfl, hkeyVersion, -⟩ := validAuthentication_eq_some.mp hauthentication
      dsimp only at h
      split at h
      · cases h
      rename_i hsize
      split at h
      · cases h
      rename_i htrust
      split at h
      · cases h
      rename_i hmac
      split at h
      · cases h
      rename_i hpayload
      cases h
      simp only [Bool.or_eq_true, decide_eq_true_eq, not_or, Nat.not_lt] at hsize
      simp only [Bool.or_eq_true, decide_eq_true_eq, not_or, ne_eq, not_not] at hpayload
      rw [Bool.not_eq_true', Bool.not_eq_false] at htrust hmac
      obtain ⟨hworkload, haudience, horder, hlifetime, hbefore, hafter⟩ := withinTrust_iff.mp htrust
      exact ⟨trusted, envelope, authentication, htrusted, snapshotSubmission_eq_raw.mp hsnapshot,
        ⟨hheader, hkeyVersion, hsize.1, hworkload, haudience, horder, hlifetime, hbefore, hafter,
          macMatches_iff.mp hmac, hpayload.1, hpayload.2⟩, rfl⟩
    · cases h
  · rintro ⟨trusted, envelope, authentication, htrusted, hpresents, h, rfl⟩
    have hmacLength : utf16Length authentication.mac.toList = 43 := by
      obtain ⟨key, message, -, -, -, hmac⟩ := h.mac
      rw [hmac]
      exact utf16Length_mac _
    have henvelope := validHeader_eq_some.mpr ⟨rfl, h.header⟩
    have hauthentication := validAuthentication_eq_some.mpr ⟨rfl, h.keyVersion, hmacLength⟩
    have htrust := withinTrust_iff.mpr
      ⟨h.workload, h.audience, h.order, h.lifetime, h.notBefore, h.notAfter⟩
    have hmac := macMatches_iff.mpr h.mac
    have hstated : ¬ trusted.maxPayload < envelope.header.payloadSize := Nat.not_lt.mpr h.statedSize
    simp only [verifyAuthenticatedResultEnvelope, htrusted, snapshotSubmission_eq_raw.mpr hpresents,
      henvelope, hauthentication, hstated, htrust, hmac, h.size, h.digest, ne_eq,
      not_true, decide_false, Bool.or_self, Bool.not_true, Bool.false_eq_true, if_false]
    rfl

/-! ### The signer's envelope -/

theorem signedHeader_valid {runtime : EnvelopeRuntime} {rawInput rawContext : Value Scalar}
    {input : ResultEnvelopeSigningInput} {context : ResultEnvelopeSigningContext}
    (hinput : snapshotInput rawInput = some input)
    (hcontext : snapshotSigningContext rawContext = some context)
    (hsize : input.payload.length ≤ context.maxPayloadBytes) :
    (signedHeader runtime input context).Valid := by
  obtain ⟨hjob, hattempt, hfence⟩ := snapshotInput_valid hinput
  obtain ⟨hnow, hlifetime, -, hsum, hworkload, haudience, hmaximum, -, -⟩ :=
    snapshotSigningContext_valid hcontext
  refine ⟨rfl, hjob, hattempt, hfence, hworkload, haudience, ?_, ?_, ?_⟩
  · rw [isPositiveSafeInteger_iff]
    exact ⟨hnow, by change context.nowUnixSeconds ≤ maxSafeInteger; omega⟩
  · rw [isPositiveSafeInteger_iff]
    change 0 < context.nowUnixSeconds + context.lifetimeSeconds ∧
      context.nowUnixSeconds + context.lifetimeSeconds ≤ maxSafeInteger
    omega
  · have hle : input.payload.length ≤ resultEnvelopeMaxPayloadBytes := Nat.le_trans hsize hmaximum
    unfold resultEnvelopeMaxPayloadBytes at hle
    change input.payload.length ≤ maxSafeInteger
    unfold maxSafeInteger
    omega

theorem signResultEnvelope_authentic {runtime : EnvelopeRuntime}
    {rawInput rawContext : Value Scalar} {signer : ResultEnvelopeSigningContext}
    {signed : SignedResultEnvelope}
    (hsign : signResultEnvelope runtime rawInput rawContext = .ok signed)
    (hsigner : snapshotSigningContext rawContext = some signer) {trusted : TrustedContext}
    (hworkload : trusted.workload = signer.workloadIdentity)
    (haudience : trusted.audience = signer.audience)
    (hsize : signed.payload.length ≤ trusted.maxPayload)
    (hkey : trusted.keyring signer.keyVersion = some signer.key)
    (hbefore : signed.header.issuedAt ≤ trusted.now + resultEnvelopeMaxClockSkewSeconds)
    (hafter : trusted.now < signed.header.expiresAt) :
    Authentic runtime trusted signed.envelope signed.authentication := by
  obtain ⟨input, context, message, hinput, hcontext, hmaximum, hmessage, rfl⟩ :=
    signResultEnvelope_ok.mp hsign
  rw [hsigner] at hcontext
  cases hcontext
  have hvalid := snapshotSigningContext_valid hsigner
  obtain ⟨hnow, hlifetime, hlifetimeLe, hsum, -, -, -, hkeyVersion, hkeyLength⟩ := hvalid
  refine ⟨signedHeader_valid hinput hsigner hmaximum, hkeyVersion, hsize, hworkload.symm,
    haudience.symm, ?_, ?_, hbefore, hafter, ⟨signer.key, message, hkey, hkeyLength, hmessage, rfl⟩,
    rfl, rfl⟩
  · change signer.nowUnixSeconds < signer.nowUnixSeconds + signer.lifetimeSeconds
    omega
  · change signer.nowUnixSeconds + signer.lifetimeSeconds ≤
      signer.nowUnixSeconds + resultEnvelopeMaxLifetimeSeconds
    omega

/-! ### The message of a valid header -/

theorem lengthPrefix_defined {text : String} (h : text.toList.length ≤ 128) :
    ∃ field, lengthPrefix (utf8Bytes text) = some field := by
  have hbytes : (utf8Bytes text).length ≤ uint32Max := by
    have hsize := utf8ByteSize_le text
    have hlength : (utf8Bytes text).length = text.utf8ByteSize := by
      rw [utf8Bytes, Array.length_toList]
      rfl
    unfold uint32Max
    omega
  rw [lengthPrefix, u32be, if_pos hbytes]
  exact ⟨_, rfl⟩

theorem length_of_validId {id : String} (h : validId id = true) : id.toList.length ≤ 128 := by
  rw [validId] at h
  split at h
  · cases h
  · rename_i heq
    simp only [Bool.and_eq_true, decide_eq_true_eq] at h
    rw [heq, List.length_cons]
    omega

theorem length_of_validPrincipal {principal : String} (h : validPrincipal principal = true) :
    principal.toList.length ≤ 128 := by
  rw [validPrincipal] at h
  split at h
  · cases h
  · rename_i heq
    simp only [Bool.and_eq_true, decide_eq_true_eq] at h
    rw [heq, List.length_cons]
    omega

theorem u64be_defined {value : Nat} (h : value ≤ maxSafeInteger) :
    ∃ field, u64be value = some field := by
  have hle : value ≤ uint64Max := by
    unfold maxSafeInteger at h
    unfold uint64Max
    omega
  rw [u64be, if_pos hle]
  exact ⟨_, rfl⟩

theorem encodeResultEnvelopeAuthenticationMessage_defined {header : ResultEnvelopeHeader}
    {keyVersion : Nat} (h : header.Valid) (hkey : keyVersion ≤ uint32Max) :
    ∃ message, encodeResultEnvelopeAuthenticationMessage header keyVersion = some message := by
  have hsafe : ∀ {value : Nat}, isPositiveSafeInteger value = true → value ≤ maxSafeInteger :=
    fun h => (isPositiveSafeInteger_iff.mp h).2
  have hschema : u32be header.schemaVersion ≠ none := by
    rw [h.schemaVersion]
    decide
  obtain ⟨schemaField, hschema⟩ := Option.ne_none_iff_exists'.mp hschema
  obtain ⟨jobField, hjob⟩ := lengthPrefix_defined (length_of_validId h.jobId)
  obtain ⟨attemptField, hattempt⟩ := lengthPrefix_defined (length_of_validId h.attemptId)
  obtain ⟨workloadField, hworkload⟩ :=
    lengthPrefix_defined (length_of_validPrincipal h.workloadIdentity)
  obtain ⟨audienceField, haudience⟩ := lengthPrefix_defined (length_of_validPrincipal h.audience)
  obtain ⟨fenceField, hfence⟩ := u64be_defined (hsafe h.fence)
  obtain ⟨issuedField, hissued⟩ := u64be_defined (hsafe h.issuedAt)
  obtain ⟨expiresField, hexpires⟩ := u64be_defined (hsafe h.expiresAt)
  obtain ⟨sizeField, hsize⟩ := u64be_defined h.payloadSize
  have hkeyField : ∃ field, u32be keyVersion = some field := by
    rw [u32be, if_pos hkey]
    exact ⟨_, rfl⟩
  obtain ⟨keyField, hkeyField⟩ := hkeyField
  exact ⟨_, encodeResultEnvelopeAuthenticationMessage_eq_some.mpr
    ⟨_, hschema, _, hkeyField, _, hjob, _, hattempt, _, hfence, _, hworkload, _, haudience,
      _, hissued, _, hexpires, _, hsize, rfl⟩⟩

/-- What the verifier accepts, what the signer's output is good for, and what
the MAC binds. -/
theorem authenticated_binding (runtime : EnvelopeRuntime) :
    (∀ input context verified,
      verifyAuthenticatedResultEnvelope runtime input context = .ok verified ↔
        ∃ trusted envelope authentication, context.snapshot = some trusted ∧
          Presents input envelope authentication ∧
          Authentic runtime trusted envelope authentication ∧ verified = envelope.verified) ∧
    (∀ rawInput rawContext signer signed,
      signResultEnvelope runtime rawInput rawContext = .ok signed →
      snapshotSigningContext rawContext = some signer →
      ∀ (context : ResultEnvelopeVerificationContext) trusted, context.snapshot = some trusted →
        trusted.workload = signer.workloadIdentity → trusted.audience = signer.audience →
        signed.payload.length ≤ trusted.maxPayload →
        trusted.keyring signer.keyVersion = some signer.key →
        signed.header.issuedAt ≤ trusted.now + resultEnvelopeMaxClockSkewSeconds →
        trusted.now < signed.header.expiresAt →
        verifyAuthenticatedResultEnvelope runtime signed.readSubmission context =
          .ok signed.envelope.verified) ∧
    (∀ (a b : ResultEnvelopeHeader) keyA keyB, a.Valid → b.Valid → keyA ≤ uint32Max →
      keyB ≤ uint32Max →
      encodeResultEnvelopeAuthenticationMessage a keyA =
        encodeResultEnvelopeAuthenticationMessage b keyB → a = b ∧ keyA = keyB) ∧
    (∀ trustedA trustedB envelopeA envelopeB authenticationA authenticationB,
      Authentic runtime trustedA envelopeA authenticationA →
      Authentic runtime trustedB envelopeB authenticationB →
      encodeResultEnvelopeAuthenticationMessage envelopeA.header authenticationA.keyVersion =
        encodeResultEnvelopeAuthenticationMessage envelopeB.header authenticationB.keyVersion →
      envelopeA.header = envelopeB.header ∧
        authenticationA.keyVersion = authenticationB.keyVersion) := by
  have hinjective : ∀ (a b : ResultEnvelopeHeader) keyA keyB, a.Valid → b.Valid →
      keyA ≤ uint32Max → keyB ≤ uint32Max →
      encodeResultEnvelopeAuthenticationMessage a keyA =
        encodeResultEnvelopeAuthenticationMessage b keyB → a = b ∧ keyA = keyB := by
    intro a b keyA keyB ha _ hkeyA _ h
    obtain ⟨message, hmessage⟩ := encodeResultEnvelopeAuthenticationMessage_defined ha hkeyA
    rw [hmessage] at h
    exact encodeResultEnvelopeAuthenticationMessage_injective hmessage h.symm
  refine ⟨fun input context verified => verifyAuthenticatedResultEnvelope_ok, ?_, hinjective, ?_⟩
  · intro rawInput rawContext signer signed hsign hsigner context trusted htrusted hworkload
      haudience hsize hkey hbefore hafter
    have hauthentic := signResultEnvelope_authentic hsign hsigner hworkload haudience hsize hkey
      hbefore hafter
    exact verifyAuthenticatedResultEnvelope_ok.mpr
      ⟨trusted, _, _, htrusted, signed.presents, hauthentic, rfl⟩
  · intro trustedA trustedB envelopeA envelopeB authenticationA authenticationB ha hb h
    exact hinjective _ _ _ _ ha.header hb.header ha.keyVersion hb.keyVersion h

end Outscan

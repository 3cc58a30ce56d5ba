import Outscan.GuestCrypto.ResultToken
import Outscan.Library.Hex
import Outscan.Library.SelfDelimiting

/-! The header of a result envelope and the message its MAC is taken over. -/
namespace Outscan

def resultEnvelopeMaxLifetimeSeconds : Nat := 300

def resultEnvelopeMaxClockSkewSeconds : Nat := 30

def resultEnvelopeMaxPayloadBytes : Nat := 32 * 1024 * 1024

def isPrincipalTail (c : Char) : Bool :=
  c.isAlphanum || c == '.' || c == '_' || c == ':' || c == '/' || c == '-'

/-- `PRINCIPAL_PATTERN`: a letter or digit, then at most 127 letters, digits and
characters of `._:-` or the slash. -/
def validPrincipal (principal : String) : Bool :=
  match principal.toList with
  | [] => false
  | head :: tail => head.isAlphanum && tail.all isPrincipalTail && decide (tail.length ≤ 127)

def digestPrefix : List Char := ['s', 'h', 'a', '2', '5', '6', ':']

/-- The text `sha256:<hex>` of a digest. -/
def digestText (digest : Bytes32) : String :=
  String.ofList (digestPrefix ++ Hex.encode digest.bytes)

/-- The digest of a text of the form `^sha256:[a-f0-9]{64}$`. -/
def parseDigest (text : String) : Option Bytes32 :=
  if text.toList.take digestPrefix.length = digestPrefix then
    (Hex.decode (text.toList.drop digestPrefix.length)).bind Bytes32.ofBytes?
  else none

structure EnvelopeRuntime extends NodeRuntime where
  sha256 : List UInt8 → Bytes32

structure ResultEnvelopeHeader where
  schemaVersion : Nat
  jobId : String
  attemptId : String
  fence : Nat
  workloadIdentity : String
  audience : String
  issuedAt : Nat
  expiresAt : Nat
  payloadDigest : Bytes32
  payloadSize : Nat
deriving DecidableEq, Repr

/-- `OUTSCAN:RESULT_ENVELOPE:v1`, closed by a zero byte. -/
def authenticationDomain : List UInt8 := utf8Bytes "OUTSCAN:RESULT_ENVELOPE:v1" ++ [0]

/-- `encodeResultEnvelopeAuthenticationMessage`; `none` is the `RangeError`. -/
def encodeResultEnvelopeAuthenticationMessage (header : ResultEnvelopeHeader)
    (keyVersion : Nat) : Option (List UInt8) := do
  let schemaField ← u32be header.schemaVersion
  let keyField ← u32be keyVersion
  let jobField ← lengthPrefix (utf8Bytes header.jobId)
  let attemptField ← lengthPrefix (utf8Bytes header.attemptId)
  let fenceField ← u64be header.fence
  let workloadField ← lengthPrefix (utf8Bytes header.workloadIdentity)
  let audienceField ← lengthPrefix (utf8Bytes header.audience)
  let issuedField ← u64be header.issuedAt
  let expiresField ← u64be header.expiresAt
  let sizeField ← u64be header.payloadSize
  return authenticationDomain ++ (schemaField ++ (keyField ++ (jobField ++ (attemptField ++
    (fenceField ++ (workloadField ++ (audienceField ++ (issuedField ++ (expiresField ++
      (header.payloadDigest.bytes ++ sizeField))))))))))

/-- The conditions of `validHeader` on a header whose fields have their types. -/
structure ResultEnvelopeHeader.Valid (header : ResultEnvelopeHeader) : Prop where
  schemaVersion : header.schemaVersion = 1
  jobId : validId header.jobId = true
  attemptId : validId header.attemptId = true
  fence : isPositiveSafeInteger header.fence = true
  workloadIdentity : validPrincipal header.workloadIdentity = true
  audience : validPrincipal header.audience = true
  issuedAt : isPositiveSafeInteger header.issuedAt = true
  expiresAt : isPositiveSafeInteger header.expiresAt = true
  payloadSize : header.payloadSize ≤ maxSafeInteger

theorem parseDigest_eq_some {text : String} {digest : Bytes32} :
    parseDigest text = some digest ↔ text = digestText digest := by
  constructor
  · intro h
    rw [parseDigest] at h
    split at h
    · rename_i hlead
      obtain ⟨bytes, hbytes, hsize⟩ := Option.bind_eq_some_iff.mp h
      rw [Bytes32.ofBytes?] at hsize
      split at hsize
      · cases hsize
        have hsplit := List.take_append_drop digestPrefix.length text.toList
        rw [hlead] at hsplit
        rw [digestText, Hex.encode_of_decode hbytes, hsplit, String.ofList_toList]
      · cases hsize
    · cases h
  · rintro rfl
    have htext : (digestText digest).toList = digestPrefix ++ Hex.encode digest.bytes := by
      rw [digestText, String.toList_ofList]
    rw [parseDigest, htext, List.take_left, if_pos rfl, List.drop_left,
      Hex.decode_encode, Option.bind_some, Bytes32.ofBytes?, dif_pos digest.size]

theorem digestText_injective {a b : Bytes32} (h : digestText a = digestText b) : a = b := by
  have ha : parseDigest (digestText a) = some a := parseDigest_eq_some.mpr rfl
  rw [h, parseDigest_eq_some.mpr rfl] at ha
  exact (Option.some.inj ha).symm

theorem selfDelimiting_u32be : SelfDelimiting u32be :=
  SelfDelimiting.of_width 4 length_of_u32be u32be_injective

theorem selfDelimiting_u64be : SelfDelimiting u64be :=
  SelfDelimiting.of_width 8 length_of_u64be u64be_injective

theorem selfDelimiting_lengthPrefix : SelfDelimiting lengthPrefix :=
  selfDelimiting_u32be.prefixed fun h => by
    obtain ⟨field, hfield, rfl⟩ := Option.map_eq_some_iff.mp h
    exact ⟨field, hfield, rfl⟩

theorem selfDelimiting_text : SelfDelimiting fun text => lengthPrefix (utf8Bytes text) := by
  intro x y a b left right hx hy h
  obtain ⟨hbytes, hrest⟩ := selfDelimiting_lengthPrefix hx hy h
  exact ⟨utf8Bytes_injective hbytes, hrest⟩

theorem encodeResultEnvelopeAuthenticationMessage_eq_some {header : ResultEnvelopeHeader}
    {keyVersion : Nat} {message : List UInt8} :
    encodeResultEnvelopeAuthenticationMessage header keyVersion = some message ↔
      ∃ schemaField, u32be header.schemaVersion = some schemaField ∧
      ∃ keyField, u32be keyVersion = some keyField ∧
      ∃ jobField, lengthPrefix (utf8Bytes header.jobId) = some jobField ∧
      ∃ attemptField, lengthPrefix (utf8Bytes header.attemptId) = some attemptField ∧
      ∃ fenceField, u64be header.fence = some fenceField ∧
      ∃ workloadField, lengthPrefix (utf8Bytes header.workloadIdentity) = some workloadField ∧
      ∃ audienceField, lengthPrefix (utf8Bytes header.audience) = some audienceField ∧
      ∃ issuedField, u64be header.issuedAt = some issuedField ∧
      ∃ expiresField, u64be header.expiresAt = some expiresField ∧
      ∃ sizeField, u64be header.payloadSize = some sizeField ∧
        authenticationDomain ++ (schemaField ++ (keyField ++ (jobField ++ (attemptField ++
          (fenceField ++ (workloadField ++ (audienceField ++ (issuedField ++ (expiresField ++
            (header.payloadDigest.bytes ++ sizeField)))))))))) = message := by
  simp only [encodeResultEnvelopeAuthenticationMessage, Option.bind_eq_bind,
    Option.bind_eq_some_iff, pure, Option.some.injEq]

theorem encodeResultEnvelopeAuthenticationMessage_injective {a b : ResultEnvelopeHeader}
    {keyA keyB : Nat} {message : List UInt8}
    (ha : encodeResultEnvelopeAuthenticationMessage a keyA = some message)
    (hb : encodeResultEnvelopeAuthenticationMessage b keyB = some message) :
    a = b ∧ keyA = keyB := by
  obtain ⟨_, hschemaA, _, hkeyA, _, hjobA, _, hattemptA, _, hfenceA, _, hworkloadA, _, haudienceA,
    _, hissuedA, _, hexpiresA, _, hsizeA, hmessageA⟩ :=
    encodeResultEnvelopeAuthenticationMessage_eq_some.mp ha
  obtain ⟨_, hschemaB, _, hkeyB, _, hjobB, _, hattemptB, _, hfenceB, _, hworkloadB, _, haudienceB,
    _, hissuedB, _, hexpiresB, _, hsizeB, hmessageB⟩ :=
    encodeResultEnvelopeAuthenticationMessage_eq_some.mp hb
  rw [← hmessageB] at hmessageA
  have h := List.append_cancel_left hmessageA
  obtain ⟨hschema, h⟩ := selfDelimiting_u32be hschemaA hschemaB h
  obtain ⟨hkey, h⟩ := selfDelimiting_u32be hkeyA hkeyB h
  obtain ⟨hjob, h⟩ := selfDelimiting_text hjobA hjobB h
  obtain ⟨hattempt, h⟩ := selfDelimiting_text hattemptA hattemptB h
  obtain ⟨hfence, h⟩ := selfDelimiting_u64be hfenceA hfenceB h
  obtain ⟨hworkload, h⟩ := selfDelimiting_text hworkloadA hworkloadB h
  obtain ⟨haudience, h⟩ := selfDelimiting_text haudienceA haudienceB h
  obtain ⟨hissued, h⟩ := selfDelimiting_u64be hissuedA hissuedB h
  obtain ⟨hexpires, h⟩ := selfDelimiting_u64be hexpiresA hexpiresB h
  obtain ⟨hdigest, h⟩ := List.append_inj h (by rw [a.payloadDigest.size, b.payloadDigest.size])
  rw [h] at hsizeA
  have hsize := u64be_injective hsizeA hsizeB
  refine ⟨?_, hkey⟩
  cases a
  cases b
  simp only [ResultEnvelopeHeader.mk.injEq]
  exact ⟨hschema, hjob, hattempt, hfence, hworkload, haudience, hissued, hexpires,
    Bytes32.ext hdigest, hsize⟩

end Outscan

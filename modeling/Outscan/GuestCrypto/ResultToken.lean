import Outscan.GuestCrypto.Binary

/-! The result token of a scan: an HMAC over its identity, nonce and expiry. -/
namespace Outscan

/-- `OUTSCAN:GUEST_RESULT_TOKEN:v1`, closed by a zero byte. -/
def tokenDomain : List UInt8 :=
  "OUTSCAN:GUEST_RESULT_TOKEN:v1".toUTF8.data.toList ++ [0]

def utf8Bytes (text : String) : List UInt8 := text.toUTF8.data.toList

/-- A `Map` from key version to key. A `get` that throws is treated like a
missing key by every caller. -/
abbrev GuestResultTokenKeyring := Nat → Option (List UInt8)

structure GuestResultTokenMetadata where
  guestScanId : String
  tokenVersion : Nat
  tokenNonce : Bytes32
  keyVersion : Nat
  resultAccessExpiresAt : Nat
  resultAccessRevokedAt : Option Nat
deriving DecidableEq, Repr

def isValidKey (key : List UInt8) : Bool := decide (32 ≤ key.length)

def isU32 (value : Nat) : Bool := decide (value ≤ uint32Max)
def isU64 (value : Nat) : Bool := decide (value ≤ uint64Max)

/-- `snapshotGuestResultTokenMetadata` accepts the record. The nonce has its
length by type. -/
def validTokenMetadata (metadata : GuestResultTokenMetadata) : Bool :=
  let idLength := (utf8Bytes metadata.guestScanId).length
  decide (1 ≤ idLength) && decide (idLength ≤ 512) && isU64 metadata.tokenVersion &&
    isU32 metadata.keyVersion && isU64 metadata.resultAccessExpiresAt &&
    metadata.resultAccessRevokedAt.all isU64

/-- `encodeGuestResultTokenMessage`; `none` is the `RangeError`. -/
def encodeGuestResultTokenMessage (metadata : GuestResultTokenMetadata) :
    Option (List UInt8) := do
  let scanId := utf8Bytes metadata.guestScanId
  if scanId.isEmpty || decide (512 < scanId.length) then none
  let idField ← lengthPrefix scanId
  let versionField ← u64be metadata.tokenVersion
  let nonceField ← lengthPrefix metadata.tokenNonce.bytes
  let expiryField ← u64be metadata.resultAccessExpiresAt
  return tokenDomain ++ (idField ++ (versionField ++ (nonceField ++ expiryField)))

/-- `deriveGuestResultToken`; `none` is the `RangeError`. -/
def deriveGuestResultToken (node : NodeRuntime) (metadata : GuestResultTokenMetadata)
    (key : List UInt8) : Option String :=
  if !isValidKey key then none
  else if !validTokenMetadata metadata then none
  else
    (encodeGuestResultTokenMessage metadata).map fun message =>
      encodeBase64Url (node.hmacSha256 key message).bytes

theorem encodeGuestResultTokenMessage_eq_some {metadata : GuestResultTokenMetadata}
    {message : List UInt8} :
    encodeGuestResultTokenMessage metadata = some message ↔
      (utf8Bytes metadata.guestScanId ≠ [] ∧ (utf8Bytes metadata.guestScanId).length ≤ 512) ∧
      ∃ idField versionField nonceField expiryField,
        lengthPrefix (utf8Bytes metadata.guestScanId) = some idField ∧
        u64be metadata.tokenVersion = some versionField ∧
        lengthPrefix metadata.tokenNonce.bytes = some nonceField ∧
        u64be metadata.resultAccessExpiresAt = some expiryField ∧
        tokenDomain ++ (idField ++ (versionField ++ (nonceField ++ expiryField))) = message := by
  simp only [encodeGuestResultTokenMessage]
  by_cases hshape : (utf8Bytes metadata.guestScanId).isEmpty = true ∨
      512 < (utf8Bytes metadata.guestScanId).length
  · simp only [Bool.or_eq_true, decide_eq_true_eq, hshape, if_true]
    simp only [List.isEmpty_iff] at hshape
    constructor
    · intro h
      cases h
    · rintro ⟨⟨hne, hle⟩, -⟩
      rcases hshape with h | h
      · exact absurd h hne
      · omega
  · simp only [Bool.or_eq_true, decide_eq_true_eq, hshape, if_false]
    rw [not_or, List.isEmpty_iff, Nat.not_lt] at hshape
    simp only [Option.bind_eq_bind, Option.bind_eq_some_iff, Option.some.injEq, ne_eq,
      hshape.1, hshape.2, not_false_eq_true, true_and, exists_and_left, pure, and_self]

theorem utf8Bytes_injective {a b : String} (h : utf8Bytes a = utf8Bytes b) : a = b := by
  have hdata : a.toUTF8.data = b.toUTF8.data := Array.toList_inj.mp h
  exact String.toByteArray_inj.mp (ByteArray.ext hdata)

theorem guestScanId_eq_of_message_eq {a b : GuestResultTokenMetadata} {message : List UInt8}
    (ha : encodeGuestResultTokenMessage a = some message)
    (hb : encodeGuestResultTokenMessage b = some message) :
    a.guestScanId = b.guestScanId := by
  obtain ⟨-, idA, _, _, _, hidA, -, -, -, hmessageA⟩ :=
    encodeGuestResultTokenMessage_eq_some.mp ha
  obtain ⟨-, idB, _, _, _, hidB, -, -, -, hmessageB⟩ :=
    encodeGuestResultTokenMessage_eq_some.mp hb
  rw [← hmessageA] at hmessageB
  have hid := lengthPrefix_append_injective hidB hidA (List.append_cancel_left hmessageB)
  exact utf8Bytes_injective hid.1.symm

end Outscan

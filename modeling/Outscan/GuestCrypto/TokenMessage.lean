import Outscan.GuestCrypto.ResultToken
import Outscan.Library.Utf16
import Outscan.Library.Utf8
import Outscan.ResultEnvelope.Codec

/-! Whether the signed message tells result tokens apart, where the identifier
is any string that JavaScript can hold. -/
namespace Outscan

/-- `Buffer.from(text, "utf8")`: a surrogate without its partner is replaced. -/
def bufferFromUtf8 (text : Utf16.Text) : List UInt8 := Utf8.encode (Utf16.toChars text)

/-- Token metadata as a caller hands it over, with `bigint` fields and buffers
of any size. -/
structure TokenRecord where
  guestScanId : Utf16.Text
  tokenVersion : Int
  tokenNonce : List UInt8
  keyVersion : Int
  resultAccessExpiresAt : Int
  resultAccessRevokedAt : Option Int
deriving DecidableEq

/-- `isU64`, on a `bigint`. -/
def isU64BigInt (value : Int) : Bool := decide (0 ≤ value) && decide (value ≤ uint64Max)

/-- `u64be`, on a `bigint`; `none` is the `RangeError`. -/
def u64beBigInt (value : Int) : Option (List UInt8) :=
  if value < 0 then none else u64be value.toNat

/-- `snapshotGuestResultTokenMetadata`, on a record of exactly the six fields. -/
def snapshotTokenRecord (record : TokenRecord) : Option TokenRecord :=
  let idLength := (bufferFromUtf8 record.guestScanId).length
  if decide (idLength < 1) || decide (idLength > 512) || !isU64BigInt record.tokenVersion ||
      record.tokenNonce.length ≠ 32 ||
      !(decide (0 ≤ record.keyVersion) && decide (record.keyVersion ≤ uint32Max)) ||
      !isU64BigInt record.resultAccessExpiresAt ||
      !record.resultAccessRevokedAt.all isU64BigInt then
    none
  else some record

/-- `encodeGuestResultTokenMessage`; `none` is the `RangeError`. -/
def encodeTokenRecordMessage (record : TokenRecord) : Option (List UInt8) := do
  let scanId := bufferFromUtf8 record.guestScanId
  if scanId.isEmpty || decide (512 < scanId.length) || record.tokenNonce.length ≠ 32 then none
  let idField ← lengthPrefix scanId
  let versionField ← u64beBigInt record.tokenVersion
  let nonceField ← lengthPrefix record.tokenNonce
  let expiryField ← u64beBigInt record.resultAccessExpiresAt
  return tokenDomain ++ (idField ++ (versionField ++ (nonceField ++ expiryField)))

/-- The fields a token stands for. -/
def TokenRecord.SameToken (a b : TokenRecord) : Prop :=
  a.guestScanId = b.guestScanId ∧ a.tokenVersion = b.tokenVersion ∧
    a.tokenNonce = b.tokenNonce ∧ a.resultAccessExpiresAt = b.resultAccessExpiresAt

instance (a b : TokenRecord) : Decidable (a.SameToken b) := by
  unfold TokenRecord.SameToken
  infer_instance

def GuestResultTokenMetadata.toRecord (metadata : GuestResultTokenMetadata) : TokenRecord where
  guestScanId := Utf16.encode metadata.guestScanId.toList
  tokenVersion := metadata.tokenVersion
  tokenNonce := metadata.tokenNonce.bytes
  keyVersion := metadata.keyVersion
  resultAccessExpiresAt := metadata.resultAccessExpiresAt
  resultAccessRevokedAt := metadata.resultAccessRevokedAt.map fun (at_ : Nat) => (at_ : Int)

/-! ### The record of validated metadata -/

theorem bufferFromUtf8_encode (text : String) :
    bufferFromUtf8 (Utf16.encode text.toList) = utf8Bytes text := by
  have hbytes : utf8Bytes text = text.toList.utf8Encode.data.toList := by
    rw [String.utf8Encode_toList]
    rfl
  rw [bufferFromUtf8, Utf16.toChars_encode, hbytes, List.utf8Encode, Utf8.encode]
  simp

theorem u64beBigInt_natCast (value : Nat) : u64beBigInt (value : Int) = u64be value := by
  rw [u64beBigInt, if_neg (by omega), Int.toNat_natCast]

/-- Both descriptions of the metadata give the same message. -/
theorem encodeTokenRecordMessage_toRecord (metadata : GuestResultTokenMetadata) :
    encodeTokenRecordMessage metadata.toRecord = encodeGuestResultTokenMessage metadata := by
  simp only [encodeTokenRecordMessage, encodeGuestResultTokenMessage,
    GuestResultTokenMetadata.toRecord, bufferFromUtf8_encode, u64beBigInt_natCast,
    metadata.tokenNonce.size, ne_eq, not_true_eq_false, decide_false, Bool.or_false]

/-! ### What a message determines -/

theorem selfDelimiting_u64beBigInt : SelfDelimiting u64beBigInt := by
  intro x y a b left right hx hy h
  rw [u64beBigInt] at hx hy
  split at hx
  · cases hx
  · split at hy
    · cases hy
    · obtain ⟨hvalue, hrest⟩ := selfDelimiting_u64be hx hy h
      exact ⟨by omega, hrest⟩

theorem encodeTokenRecordMessage_eq_some {record : TokenRecord} {message : List UInt8}
    (h : encodeTokenRecordMessage record = some message) :
    ∃ idField versionField nonceField expiryField,
      lengthPrefix (bufferFromUtf8 record.guestScanId) = some idField ∧
      u64beBigInt record.tokenVersion = some versionField ∧
      lengthPrefix record.tokenNonce = some nonceField ∧
      u64beBigInt record.resultAccessExpiresAt = some expiryField ∧
      message = tokenDomain ++ (idField ++ (versionField ++ (nonceField ++ expiryField))) := by
  simp only [encodeTokenRecordMessage] at h
  split at h
  · cases h
  · simp only [Option.bind_eq_bind, Option.bind_eq_some_iff] at h
    obtain ⟨idField, hid, versionField, hversion, nonceField, hnonce, expiryField, hexpiry, heq⟩ :=
      h
    exact ⟨idField, versionField, nonceField, expiryField, hid, hversion, hnonce, hexpiry,
      (Option.some.inj heq).symm⟩

theorem fields_of_message_eq {a b : TokenRecord} {message : List UInt8}
    (ha : encodeTokenRecordMessage a = some message)
    (hb : encodeTokenRecordMessage b = some message) :
    bufferFromUtf8 a.guestScanId = bufferFromUtf8 b.guestScanId ∧
      a.tokenVersion = b.tokenVersion ∧ a.tokenNonce = b.tokenNonce ∧
      a.resultAccessExpiresAt = b.resultAccessExpiresAt := by
  obtain ⟨_, _, _, _, hidA, hversionA, hnonceA, hexpiryA, hmessage⟩ :=
    encodeTokenRecordMessage_eq_some ha
  obtain ⟨_, _, _, _, hidB, hversionB, hnonceB, hexpiryB, heq⟩ :=
    encodeTokenRecordMessage_eq_some hb
  rw [hmessage] at heq
  obtain ⟨hid, hafterId⟩ := selfDelimiting_lengthPrefix hidA hidB (List.append_cancel_left heq)
  obtain ⟨hversion, hafterVersion⟩ := selfDelimiting_u64beBigInt hversionA hversionB hafterId
  obtain ⟨hnonce, hafterNonce⟩ := selfDelimiting_lengthPrefix hnonceA hnonceB hafterVersion
  exact ⟨hid, hversion, hnonce, selfDelimiting_u64beBigInt.last hexpiryA hexpiryB hafterNonce⟩

/-- Records that agree outside the identifier, with identifiers of the same
characters, are accepted together and have the same message. -/
theorem snapshotTokenRecord_congr {record : TokenRecord} {text : Utf16.Text}
    (h : Utf16.toChars text = Utf16.toChars record.guestScanId) :
    (snapshotTokenRecord { record with guestScanId := text }).isSome =
        (snapshotTokenRecord record).isSome ∧
      encodeTokenRecordMessage { record with guestScanId := text } =
        encodeTokenRecordMessage record := by
  have hbytes : bufferFromUtf8 text = bufferFromUtf8 record.guestScanId := by
    rw [bufferFromUtf8, bufferFromUtf8, h]
  constructor
  · simp only [snapshotTokenRecord, hbytes]
    split <;> rfl
  · simp only [encodeTokenRecordMessage, hbytes]

theorem lengthPrefix_isSome {value : List UInt8} (h : value.length ≤ uint32Max) :
    ∃ field, lengthPrefix value = some field := by
  rw [lengthPrefix, u32be, if_pos h]
  exact ⟨_, rfl⟩

theorem u64beBigInt_isSome {value : Int} (h : isU64BigInt value = true) :
    ∃ field, u64beBigInt value = some field := by
  simp only [isU64BigInt, Bool.and_eq_true, decide_eq_true_eq] at h
  rw [u64beBigInt, if_neg (by omega), u64be, if_pos (by omega)]
  exact ⟨_, rfl⟩

theorem encodeTokenRecordMessage_isSome {record : TokenRecord}
    (h : (snapshotTokenRecord record).isSome = true) :
    ∃ message, encodeTokenRecordMessage record = some message := by
  simp only [snapshotTokenRecord] at h
  split at h
  · cases h
  · rename_i haccepted
    simp only [Bool.or_eq_true, decide_eq_true_eq, Bool.not_eq_true', not_or, Nat.not_lt,
      Bool.not_eq_false, ne_eq, not_not] at haccepted
    obtain ⟨⟨⟨⟨⟨⟨hpos, hle⟩, hversion⟩, hnonce⟩, -⟩, hexpiry⟩, -⟩ := haccepted
    have hidFits : (bufferFromUtf8 record.guestScanId).length ≤ uint32Max := by
      unfold uint32Max
      omega
    have hnonceFits : record.tokenNonce.length ≤ uint32Max := by
      unfold uint32Max
      omega
    obtain ⟨idField, hid⟩ := lengthPrefix_isSome hidFits
    obtain ⟨versionField, hversion⟩ := u64beBigInt_isSome hversion
    obtain ⟨nonceField, hnonceField⟩ := lengthPrefix_isSome hnonceFits
    obtain ⟨expiryField, hexpiry⟩ := u64beBigInt_isSome hexpiry
    have hne : (bufferFromUtf8 record.guestScanId).isEmpty = false := by
      rw [List.isEmpty_eq_false_iff]
      intro hnil
      rw [hnil] at hpos
      cases hpos
    refine ⟨tokenDomain ++ (idField ++ (versionField ++ (nonceField ++ expiryField))), ?_⟩
    simp only [encodeTokenRecordMessage, hne, hnonce, ne_eq, not_true_eq_false, decide_false,
      Bool.or_false, Bool.false_or, decide_eq_true_eq, if_neg (Nat.not_lt.mpr hle), hid,
      hversion, hnonceField, hexpiry, Option.bind_eq_bind, Option.bind_some, Option.pure_def]

/-- The message of an accepted record belongs to no other token exactly if its
identifier has neither a lone surrogate nor the character that replaces one; two
records whose identifiers are well-formed are always told apart. -/
theorem tokenMessage_unambiguous (record : TokenRecord)
    (haccepted : (snapshotTokenRecord record).isSome = true) :
    ((∀ other, (snapshotTokenRecord other).isSome = true →
        encodeTokenRecordMessage other = encodeTokenRecordMessage record →
        other.SameToken record) ↔
      Utf16.WellFormed record.guestScanId ∧ 0xfffd ∉ record.guestScanId) ∧
    ∀ other, (snapshotTokenRecord other).isSome = true →
      Utf16.WellFormed record.guestScanId → Utf16.WellFormed other.guestScanId →
      encodeTokenRecordMessage record = encodeTokenRecordMessage other →
      record.SameToken other := by
  obtain ⟨message, hmessage⟩ := encodeTokenRecordMessage_isSome haccepted
  constructor
  · have hcondition : (Utf16.WellFormed record.guestScanId ∧ 0xfffd ∉ record.guestScanId) ↔
        Utf16.replacement ∉ Utf16.toChars record.guestScanId := by
      rw [Utf16.replacement_mem_toChars, Utf16.some_replacement_mem_read, not_or, not_not]
    rw [hcondition, ← Utf16.toChars_determines]
    constructor
    · intro hunique text htext
      obtain ⟨hsame, hencode⟩ := snapshotTokenRecord_congr htext
      exact (hunique { record with guestScanId := text } (hsame.trans haccepted) hencode).1
    · intro hunique other hother hencode
      obtain ⟨hbytes, hfields⟩ := fields_of_message_eq (hencode.trans hmessage) hmessage
      exact ⟨hunique _ (Utf8.encode_injective hbytes), hfields⟩
  · intro other _ hwell hwellOther hencode
    obtain ⟨hbytes, hfields⟩ := fields_of_message_eq hmessage (hencode ▸ hmessage)
    exact ⟨Utf16.eq_of_toChars_eq hwell hwellOther (Utf8.encode_injective hbytes), hfields⟩

def surrogateRecord (surrogate : UInt16) : TokenRecord where
  guestScanId := [surrogate]
  tokenVersion := 1
  tokenNonce := List.replicate 32 7
  keyVersion := 1
  resultAccessExpiresAt := 2000
  resultAccessRevokedAt := none

theorem tokenMessage_unambiguous_scan :
    ¬ ∀ other, (snapshotTokenRecord other).isSome = true →
      encodeTokenRecordMessage other = encodeTokenRecordMessage (surrogateRecord 0xd800) →
      other.SameToken (surrogateRecord 0xd800) :=
  fun h => absurd ((tokenMessage_unambiguous (surrogateRecord 0xd800) (by decide)).1.mp h)
    (by decide)

/-- Two identifiers, each a lone surrogate, have one message. -/
theorem tokenMessage_ambiguous :
    (snapshotTokenRecord (surrogateRecord 0xd800)).isSome = true ∧
      (snapshotTokenRecord (surrogateRecord 0xd801)).isSome = true ∧
      encodeTokenRecordMessage (surrogateRecord 0xd800) =
        encodeTokenRecordMessage (surrogateRecord 0xd801) ∧
      (surrogateRecord 0xd800).guestScanId ≠ (surrogateRecord 0xd801).guestScanId := by
  have hchars : Utf16.toChars [0xd800] = Utf16.toChars (surrogateRecord 0xd801).guestScanId := by
    decide
  exact ⟨by decide, by decide, (snapshotTokenRecord_congr hchars).2, by decide⟩

end Outscan

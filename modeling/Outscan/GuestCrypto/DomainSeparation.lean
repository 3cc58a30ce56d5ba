import Outscan.GuestAbuse.NetworkSignal
import Outscan.GuestCrypto.GuestSession
import Outscan.GuestScan.RequestHash
import Outscan.Notifications.Idempotency
import Outscan.Notifications.TelegramSecurity

/-! No byte string is a message of two of the keyed or hashed encodings. -/
namespace Outscan

inductive Purpose where
  | sessionCookie | sessionScope | resultToken | resultEnvelope | networkSignal | scanRequest
  | notificationDelivery | telegramBinding
deriving DecidableEq, Repr

/-- The encoder of a purpose makes this message of an input it accepts. -/
inductive Encodes (node : NodeRuntime) : Purpose → List UInt8 → Prop
  | sessionCookie (keyVersion : Nat) (guestSessionId message : List UInt8)
      (h : encodeGuestSessionMessage keyVersion guestSessionId = some message) :
      Encodes node .sessionCookie message
  | sessionScope (guestSessionId message : List UInt8)
      (h : guestSessionScopeMessage guestSessionId = some message) :
      Encodes node .sessionScope message
  | resultToken (metadata : GuestResultTokenMetadata) (message : List UInt8)
      (h : encodeGuestResultTokenMessage metadata = some message) :
      Encodes node .resultToken message
  | resultEnvelope (header : ResultEnvelopeHeader) (keyVersion : Nat) (message : List UInt8)
      (h : encodeResultEnvelopeAuthenticationMessage header keyVersion = some message) :
      Encodes node .resultEnvelope message
  | networkSignal (address : String) (message : List UInt8)
      (h : networkSignalMessage address = some message) : Encodes node .networkSignal message
  | scanRequest (canonicalHost : String) (message : List UInt8)
      (h : guestScanRequestMessage node canonicalHost = some message) :
      Encodes node .scanRequest message
  | notificationDelivery (input : Dynamic.Value Dynamic.Scalar) (message : List UInt8)
      (h : (snapshotNotificationDelivery input).bind notificationDeliveryMessage = some message) :
      Encodes node .notificationDelivery message
  | telegramBinding (token : String) : Encodes node .telegramBinding (telegramTokenMessage token)

/-- What stands before the first zero of a message. The notifications have the
length of their domain there. -/
def Purpose.label : Purpose → List UInt8
  | .sessionCookie => utf8Bytes "OUTSCAN:GUEST_SESSION_COOKIE:v1"
  | .sessionScope => utf8Bytes "OUTSCAN:GUEST_SESSION_SCOPE:v1"
  | .resultToken => utf8Bytes "OUTSCAN:GUEST_RESULT_TOKEN:v1"
  | .resultEnvelope => utf8Bytes "OUTSCAN:RESULT_ENVELOPE:v1"
  | .networkSignal => utf8Bytes "OUTSCAN:GUEST_ABUSE_NETWORK_SIGNAL:v1"
  | .scanRequest => utf8Bytes "OUTSCAN:GUEST_SCAN_REQUEST:v1"
  | .notificationDelivery => []
  | .telegramBinding => utf8Bytes "OUTSCAN:TELEGRAM_BINDING:v1"

theorem Purpose.label_injective {p q : Purpose} (h : p.label = q.label) : p = q := by
  revert h
  cases p <;> cases q <;> decide +kernel

theorem Purpose.zero_not_mem_label (p : Purpose) : ∀ byte ∈ p.label, decide (byte ≠ 0) = true := by
  cases p <;> decide +kernel

theorem takeWhile_domain (p : Purpose) (rest : List UInt8) :
    ((p.label ++ [0]) ++ rest).takeWhile (fun byte => decide (byte ≠ 0)) = p.label := by
  rw [List.append_assoc, List.takeWhile_append_of_pos p.zero_not_mem_label]
  simp

theorem Encodes.label {node : NodeRuntime} {p : Purpose} {message : List UInt8}
    (h : Encodes node p message) :
    message.takeWhile (fun byte => decide (byte ≠ 0)) = p.label := by
  cases h with
  | sessionCookie keyVersion guestSessionId message h =>
    obtain ⟨-, version, -, rfl⟩ := encodeGuestSessionMessage_eq_some.mp h
    exact takeWhile_domain .sessionCookie _
  | sessionScope guestSessionId message h =>
    unfold guestSessionScopeMessage at h
    split at h
    · cases h
    · cases h
      exact takeWhile_domain .sessionScope _
  | resultToken metadata message h =>
    obtain ⟨-, _, _, _, _, -, -, -, -, rfl⟩ := encodeGuestResultTokenMessage_eq_some.mp h
    exact takeWhile_domain .resultToken _
  | resultEnvelope header keyVersion message h =>
    obtain ⟨_, -, _, -, _, -, _, -, _, -, _, -, _, -, _, -, _, -, _, -, rfl⟩ :=
      encodeResultEnvelopeAuthenticationMessage_eq_some.mp h
    exact takeWhile_domain .resultEnvelope _
  | networkSignal address message h =>
    obtain ⟨bucket, -, rfl⟩ := Option.map_eq_some_iff.mp h
    exact takeWhile_domain .networkSignal _
  | scanRequest canonicalHost message h =>
    obtain ⟨-, field, -, rfl⟩ := guestScanRequestMessage_eq_some h
    exact takeWhile_domain .scanRequest _
  | notificationDelivery input message h =>
    obtain ⟨delivery, -, h⟩ := Option.bind_eq_some_iff.mp h
    obtain ⟨domainField, hdomain, _, -, _, -, _, -, _, -, _, -, rfl⟩ :=
      notificationDeliveryMessage_eq_some.mp h
    have hfirst : (encodedField notificationDomain).bind List.head? = some 0 := by decide +kernel
    rw [hdomain, Option.bind_some] at hfirst
    obtain ⟨rest, rfl⟩ := List.head?_eq_some_iff.mp hfirst
    rfl
  | telegramBinding token => exact takeWhile_domain .telegramBinding _

theorem encodeGuestSessionMessage_injective {keyVersion keyVersion' : Nat}
    {guestSessionId guestSessionId' message : List UInt8}
    (h : encodeGuestSessionMessage keyVersion guestSessionId = some message)
    (h' : encodeGuestSessionMessage keyVersion' guestSessionId' = some message) :
    keyVersion = keyVersion' ∧ guestSessionId = guestSessionId' := by
  obtain ⟨-, version, hversion, hmessage⟩ := encodeGuestSessionMessage_eq_some.mp h
  obtain ⟨-, version', hversion', hmessage'⟩ := encodeGuestSessionMessage_eq_some.mp h'
  rw [← hmessage'] at hmessage
  exact selfDelimiting_u32be hversion hversion' (List.append_cancel_left hmessage)

/-- Every message is made for one purpose. Within its purpose, the message of a
session cookie, a scan request and a notification determines the input, and that of
a network signal the leading bits of the address. -/
theorem domainSeparation (node : NodeRuntime) :
    (∀ p q message, Encodes node p message → Encodes node q message → p = q) ∧
    (∀ keyVersion keyVersion' guestSessionId guestSessionId' message,
      encodeGuestSessionMessage keyVersion guestSessionId = some message →
      encodeGuestSessionMessage keyVersion' guestSessionId' = some message →
      keyVersion = keyVersion' ∧ guestSessionId = guestSessionId') ∧
    (∀ address address' message, networkSignalMessage address = some message →
      networkSignalMessage address' = some message →
      bucketAddress address = bucketAddress address' ∧ ∃ a a', Reads address.toList a ∧
        Reads address'.toList a' ∧ Ip.SameNetwork (signalPrefix a.family) a a') ∧
    (∀ host host' message, guestScanRequestMessage node host = some message →
      guestScanRequestMessage node host' = some message → host = host') ∧
    ∀ input input' message,
      (snapshotNotificationDelivery input).bind notificationDeliveryMessage = some message →
      (snapshotNotificationDelivery input').bind notificationDeliveryMessage = some message →
      snapshotNotificationDelivery input = snapshotNotificationDelivery input' := by
  refine ⟨fun p q message hp hq => ?_, fun _ _ _ _ _ h h' => encodeGuestSessionMessage_injective h h',
    fun address address' message h h' => ?_, fun _ _ _ h h' => guestScanRequestMessage_injective h h',
    fun input input' message h h' => ?_⟩
  · exact Purpose.label_injective (hp.label.symm.trans hq.label)
  · obtain ⟨bucket, hbucket, rfl⟩ := Option.map_eq_some_iff.mp h
    obtain ⟨bucket', hbucket', hsame⟩ := Option.map_eq_some_iff.mp h'
    obtain ⟨a, hreads, rfl⟩ := bucketAddress_eq_some.mp hbucket
    obtain ⟨a', hreads', rfl⟩ := bucketAddress_eq_some.mp hbucket'
    have hnetwork := message_ofAddress_iff.mp hsame.symm
    refine ⟨?_, a, a', hreads, hreads', hnetwork⟩
    rw [hbucket, hbucket']
    obtain ⟨family, value, hlt⟩ := a
    obtain ⟨family', value', hlt'⟩ := a'
    obtain rfl : family = family' := hnetwork.1
    unfold AddressBucket.message at hsame
    have hbytes := List.append_cancel_left hsame
    cases family with
    | v4 =>
      have hrest := List.append_cancel_left hbytes
      exact congrArg some (congrArg (AddressBucket.mk .v4) hrest.symm)
    | v6 =>
      have hrest := List.append_cancel_left hbytes
      exact congrArg some (congrArg (AddressBucket.mk .v6) hrest.symm)
  · obtain ⟨delivery, hdelivery, hmessage⟩ := Option.bind_eq_some_iff.mp h
    obtain ⟨delivery', hdelivery', hmessage'⟩ := Option.bind_eq_some_iff.mp h'
    rw [hdelivery, hdelivery', notificationDeliveryMessage_injective hmessage hmessage']

end Outscan

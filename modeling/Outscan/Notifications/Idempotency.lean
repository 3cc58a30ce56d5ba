import Outscan.ResultEnvelope.Codec
import Outscan.Library.Numeral
import Outscan.Library.Record

/-! The key of a notification delivery. -/
namespace Outscan

open Dynamic Numeral

def notificationDomain : String := "OUTSCAN:NOTIFICATION_DELIVERY:v1"

def notificationChannels : List String :=
  ["EMAIL_TRANSACTIONAL", "EMAIL_TECHNICAL", "TELEGRAM_CUSTOMER", "TELEGRAM_OPS"]

def notificationDeliveryKeys : List String :=
  ["eventId", "endpointId", "channel", "templateId", "templateVersion"]

/-- `^[A-Za-z0-9][A-Za-z0-9_-]{0,127}$`. -/
def isNotificationIdentifier (value : String) : Bool :=
  match value.toList with
  | [] => false
  | head :: tail =>
    head.isAlphanum && tail.all (fun c => c.isAlphanum || c == '_' || c == '-') &&
      decide (tail.length ≤ 127)

/-- `^[a-z][a-z0-9._-]{0,127}$`. -/
def isTemplateId (value : String) : Bool :=
  match value.toList with
  | [] => false
  | head :: tail =>
    head.isLower &&
      tail.all (fun c => c.isLower || c.isDigit || c == '.' || c == '_' || c == '-') &&
      decide (tail.length ≤ 127)

structure NotificationDelivery where
  eventId : String
  endpointId : String
  channel : String
  templateId : String
  templateVersion : Nat
deriving DecidableEq, Repr

/-- The conditions on the input; `none` is `INVALID_IDEMPOTENCY_INPUT`. -/
def snapshotNotificationDelivery (input : Dynamic.Value Dynamic.Scalar) :
    Option NotificationDelivery :=
  match input with
  | .other => none
  | .record fields =>
    if !fields.hasExactKeys notificationDeliveryKeys then none
    else
      match fields.get .other "eventId", fields.get .other "endpointId",
          fields.get .other "channel", fields.get .other "templateId",
          fields.get .other "templateVersion" with
      | .string eventId, .string endpointId, .string channel, .string templateId,
          .number (some templateVersion) =>
        if !isNotificationIdentifier eventId || !isNotificationIdentifier endpointId ||
            !notificationChannels.contains channel || !isTemplateId templateId ||
            templateVersion < 1 || templateVersion > 1000000 then none
        else some ⟨eventId, endpointId, channel, templateId, templateVersion.toNat⟩
      | _, _, _, _, _ => none

def encodedField (value : String) : Option (List UInt8) := lengthPrefix (utf8Bytes value)

def notificationDeliveryMessage (delivery : NotificationDelivery) : Option (List UInt8) := do
  let domainField ← encodedField notificationDomain
  let eventField ← encodedField delivery.eventId
  let endpointField ← encodedField delivery.endpointId
  let channelField ← encodedField delivery.channel
  let templateField ← encodedField delivery.templateId
  let versionField ← encodedField (String.ofList (Nat.toDigits 10 delivery.templateVersion))
  return domainField ++ (eventField ++ (endpointField ++ (channelField ++ (templateField ++
    versionField))))

theorem notificationDeliveryMessage_eq_some {delivery : NotificationDelivery}
    {message : List UInt8} :
    notificationDeliveryMessage delivery = some message ↔
      ∃ domainField, encodedField notificationDomain = some domainField ∧
      ∃ eventField, encodedField delivery.eventId = some eventField ∧
      ∃ endpointField, encodedField delivery.endpointId = some endpointField ∧
      ∃ channelField, encodedField delivery.channel = some channelField ∧
      ∃ templateField, encodedField delivery.templateId = some templateField ∧
      ∃ versionField, encodedField (String.ofList (Nat.toDigits 10 delivery.templateVersion)) =
        some versionField ∧
        domainField ++ (eventField ++ (endpointField ++ (channelField ++ (templateField ++
          versionField)))) = message := by
  simp only [notificationDeliveryMessage, Option.bind_eq_bind, Option.bind_eq_some_iff, pure,
    Option.some.injEq]

theorem notificationDeliveryMessage_injective {a b : NotificationDelivery} {message : List UInt8}
    (ha : notificationDeliveryMessage a = some message)
    (hb : notificationDeliveryMessage b = some message) : a = b := by
  obtain ⟨_, hdomainA, _, heventA, _, hendpointA, _, hchannelA, _, htemplateA, _, hversionA,
    hmessageA⟩ := notificationDeliveryMessage_eq_some.mp ha
  obtain ⟨_, hdomainB, _, heventB, _, hendpointB, _, hchannelB, _, htemplateB, _, hversionB,
    hmessageB⟩ := notificationDeliveryMessage_eq_some.mp hb
  rw [← hmessageB] at hmessageA
  obtain ⟨-, hrest⟩ := selfDelimiting_text hdomainA hdomainB hmessageA
  obtain ⟨hevent, hrest⟩ := selfDelimiting_text heventA heventB hrest
  obtain ⟨hendpoint, hrest⟩ := selfDelimiting_text hendpointA hendpointB hrest
  obtain ⟨hchannel, hrest⟩ := selfDelimiting_text hchannelA hchannelB hrest
  obtain ⟨htemplate, hrest⟩ := selfDelimiting_text htemplateA htemplateB hrest
  have hversion := selfDelimiting_text.last hversionA hversionB hrest
  have hdigits := congrArg (value 10) (String.ofList_injective hversion)
  rw [value_toDigits (by omega) (by omega), value_toDigits (by omega) (by omega)] at hdigits
  cases a
  cases b
  simp_all

end Outscan

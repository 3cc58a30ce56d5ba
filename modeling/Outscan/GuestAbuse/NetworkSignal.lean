import Outscan.GuestAbuse.NetworkAddress
import Outscan.ResultEnvelope.Codec

/-! The pseudonymous signal of a network: a MAC over the bucket of an address. -/
namespace Outscan

open Dynamic

def guestNetworkSignalPolicyId : String := "outscan-guest-network-signal-v1"

/-- `OUTSCAN:GUEST_ABUSE_NETWORK_SIGNAL:v1`, closed by a zero byte. -/
def networkSignalDomain : List UInt8 := utf8Bytes "OUTSCAN:GUEST_ABUSE_NETWORK_SIGNAL:v1" ++ [0]

def ipv4Prefix : Nat := 32
def ipv6Prefix : Nat := 64

structure AddressBucket where
  family : Ip.Family
  bytes : List UInt8
deriving DecidableEq, Repr

def bucketAddress (address : String) : Option AddressBucket :=
  (parseNetworkAddress (.string address)).map fun parsed =>
    match parsed.family with
    | .v4 => ⟨.v4, parsed.bytes⟩
    | .v6 => ⟨.v6, parsed.bytes.take (ipv6Prefix / 8) ++ List.replicate (16 - ipv6Prefix / 8) 0⟩

def AddressBucket.message (bucket : AddressBucket) : List UInt8 :=
  networkSignalDomain ++
    ((match bucket.family with
      | .v4 => [4, UInt8.ofNat ipv4Prefix]
      | .v6 => [6, UInt8.ofNat ipv6Prefix]) ++ bucket.bytes)

/-- What `deriveDigest` takes the MAC over. -/
def networkSignalMessage (address : String) : Option (List UInt8) :=
  (bucketAddress address).map AddressBucket.message

def deriveNetworkDigest (node : NodeRuntime) (address : String) (key : List UInt8) :
    Option String :=
  match bucketAddress address with
  | none => none
  | some bucket =>
    if key.length ≠ 32 then none
    else
      some (String.ofList
        ("hmac-sha256:".toList ++ Hex.encode (node.hmacSha256 key bucket.message).bytes))

/-! ### Buckets are networks -/

def signalPrefix : Ip.Family → Nat
  | .v4 => ipv4Prefix
  | .v6 => ipv6Prefix

def AddressBucket.ofAddress (a : Ip.Address) : AddressBucket :=
  match a.family with
  | .v4 => ⟨.v4, (Ip.toWords 8 4 a.value).map UInt8.ofNat⟩
  | .v6 => ⟨.v6, (Ip.toWords 8 8 (a.value >>> 64)).map UInt8.ofNat ++ List.replicate 8 0⟩

theorem bucketAddress_eq_some {address : String} {bucket : AddressBucket} :
    bucketAddress address = some bucket ↔
      ∃ a, Reads address.toList a ∧ bucket = AddressBucket.ofAddress a := by
  have hbucket : ∀ a : Ip.Address, (match (ParsedNetworkAddress.ofAddress a).family with
      | .v4 => (⟨.v4, (ParsedNetworkAddress.ofAddress a).bytes⟩ : AddressBucket)
      | .v6 => ⟨.v6, (ParsedNetworkAddress.ofAddress a).bytes.take (ipv6Prefix / 8) ++
          List.replicate (16 - ipv6Prefix / 8) 0⟩) = AddressBucket.ofAddress a := by
    rintro ⟨family, value, hlt⟩
    cases family with
    | v4 =>
      have hcount : Ip.Family.v4.bits / 8 = 4 := by decide
      simp only [ParsedNetworkAddress.ofAddress, AddressBucket.ofAddress, hcount]
    | v6 =>
      have hcount : Ip.Family.v6.bits / 8 = 8 + 8 := by decide
      have hkept : ipv6Prefix / 8 = 8 := by decide
      simp only [ParsedNetworkAddress.ofAddress, AddressBucket.ofAddress, hcount, hkept,
        Ip.toWords_add, List.map_append]
      rw [List.take_left' (by simp)]
  unfold bucketAddress
  rw [Option.map_eq_some_iff]
  constructor
  · rintro ⟨parsed, hparsed, rfl⟩
    obtain ⟨a, hreads, rfl⟩ := parseNetworkAddress_iff.mp hparsed
    exact ⟨a, hreads, hbucket a⟩
  · rintro ⟨a, hreads, rfl⟩
    exact ⟨_, parseNetworkAddress_iff.mpr ⟨a, hreads, rfl⟩, hbucket a⟩

theorem shiftRight_eq_iff {a b bits : Nat} :
    a >>> bits = b >>> bits ↔ ∀ i, bits ≤ i → a.testBit i = b.testBit i := by
  constructor
  · intro h i hi
    have hbit := congrArg (fun n => n.testBit (i - bits)) h
    simpa only [Nat.testBit_shiftRight, Nat.add_sub_cancel' hi] using hbit
  · intro h
    apply Nat.eq_of_testBit_eq
    intro i
    rw [Nat.testBit_shiftRight, Nat.testBit_shiftRight]
    exact h _ (Nat.le_add_right _ _)

theorem map_toWords_injective {count a b : Nat} (ha : a < 2 ^ (8 * count)) (hb : b < 2 ^ (8 * count))
    (h : (Ip.toWords 8 count a).map UInt8.ofNat = (Ip.toWords 8 count b).map UInt8.ofNat) :
    a = b := by
  have hwords := NetworkAddress.map_ofNat_injective (Ip.toWords_lt 8 count a)
    (Ip.toWords_lt 8 count b) h
  rw [← Ip.ofWords_toWords ha, hwords, Ip.ofWords_toWords hb]

theorem message_ofAddress_iff {a b : Ip.Address} :
    (AddressBucket.ofAddress a).message = (AddressBucket.ofAddress b).message ↔
      Ip.SameNetwork (signalPrefix a.family) a b := by
  obtain ⟨family, value, hlt⟩ := a
  obtain ⟨family', value', hlt'⟩ := b
  unfold AddressBucket.message Ip.SameNetwork
  rw [List.append_cancel_left_eq]
  cases family with
  | v4 =>
    cases family' with
    | v4 =>
      simp only [AddressBucket.ofAddress, List.append_cancel_left_eq, true_and]
      constructor
      · intro h i _
        rw [map_toWords_injective hlt hlt' h]
      · intro h
        have hvalue : value = value' := Nat.eq_of_testBit_eq fun i => h i (Nat.zero_le i)
        rw [hvalue]
    | v6 => simp [AddressBucket.ofAddress]
  | v6 =>
    cases family' with
    | v4 => simp [AddressBucket.ofAddress]
    | v6 =>
      have hhigh : ∀ {v : Nat}, v < 2 ^ Ip.Family.v6.bits → v >>> 64 < 2 ^ (8 * 8) := by
        intro v hv
        rw [Nat.shiftRight_eq_div_pow]
        exact Nat.div_lt_of_lt_mul hv
      simp only [AddressBucket.ofAddress, List.append_cancel_left_eq, List.append_cancel_right_eq,
        true_and]
      rw [show Ip.Family.v6.bits - signalPrefix .v6 = 64 from rfl, ← shiftRight_eq_iff]
      constructor
      · exact fun h => map_toWords_injective (hhigh hlt) (hhigh hlt') h
      · intro h
        rw [h]

end Outscan

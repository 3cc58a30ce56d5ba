import Mathlib.Data.List.Sort
import Outscan.GuestAbuse.NetworkSignal

/-! Network signals under every key of a rotation: one digest a key, the active one
first. -/
namespace Outscan

open Dynamic

def maxNetworkSignalKeys : Nat := 3

def keyringRequestKeys : List String :=
  ["trusted_ingress_address", "hmac_keyring", "active_key_version"]

/-- A `Map`: no key twice, in the order of insertion. -/
structure KeyMap where
  entries : List (Scalar × Scalar)
  unique : (entries.map Prod.fst).Nodup

inductive SignalField where
  | scalar (value : Scalar)
  | map (keyring : KeyMap)

inductive GuestNetworkSignalKeyringResult where
  | ok (policyId : String) (networkSignalDigests : List String)
  | invalidNetworkSignalContext
deriving DecidableEq, Repr

def keyVersion? : Scalar → Option Nat
  | .number (some version) =>
    if version < 0 ∨ version > (uint32Max : Int) then none else some version.toNat
  | _ => none

def keyEntry? : Scalar × Scalar → Option (Nat × List UInt8)
  | (version, .bytes key) =>
    (keyVersion? version).bind fun version => if key.length ≠ 32 then none else some (version, key)
  | _ => none

def compareKeyVersions (active left right : Nat) : Int :=
  if left = active then -1 else if right = active then 1 else (right : Int) - left

abbrev KeyOrder (active : Nat) (left right : Nat × List UInt8) : Prop :=
  compareKeyVersions active left.1 right.1 ≤ 0

/-- `deriveGuestNetworkSignalKeyring` on fields of the right types. -/
def deriveKeyringDigests (node : NodeRuntime) (address : String) (keyring : KeyMap)
    (activeVersion : Scalar) : GuestNetworkSignalKeyringResult :=
  match keyVersion? activeVersion with
  | none => .invalidNetworkSignalContext
  | some active =>
    if keyring.entries.length = 0 ∨ keyring.entries.length > maxNetworkSignalKeys then
      .invalidNetworkSignalContext
    else
      match keyring.entries.mapM keyEntry? with
      | none => .invalidNetworkSignalContext
      | some entries =>
        if !(entries.map Prod.fst).contains active then .invalidNetworkSignalContext
        else
          match (entries.insertionSort (KeyOrder active)).mapM fun entry =>
              deriveNetworkDigest node address entry.2 with
          | none => .invalidNetworkSignalContext
          | some digests =>
            if digests.Nodup then .ok guestNetworkSignalPolicyId digests
            else .invalidNetworkSignalContext

def deriveGuestNetworkSignalKeyring (node : NodeRuntime) (value : Dynamic.Value SignalField) :
    GuestNetworkSignalKeyringResult :=
  match value with
  | .other => .invalidNetworkSignalContext
  | .record fields =>
    if !fields.hasExactKeys keyringRequestKeys then .invalidNetworkSignalContext
    else
      let field := fields.get (.scalar .other)
      match field "trusted_ingress_address", field "hmac_keyring", field "active_key_version" with
      | .scalar (.string address), .map keyring, .scalar activeVersion =>
        deriveKeyringDigests node address keyring activeVersion
      | _, _, _ => .invalidNetworkSignalContext

def keyringRequest (address : String) (keyring : KeyMap) (activeVersion : Nat) :
    Dynamic.Value SignalField :=
  .record ⟨[("trusted_ingress_address", .scalar (.string address)), ("hmac_keyring", .map keyring),
    ("active_key_version", .scalar (.number (some activeVersion)))], by simp⟩

/-- A keyring as an operator configures it: versions of 32 bits, each with a key of
thirty-two bytes, one to three of them. -/
structure SignalKeyring where
  entries : List (Nat × List UInt8)
  nonempty : entries ≠ []
  few : entries.length ≤ maxNetworkSignalKeys
  unique : (entries.map Prod.fst).Nodup
  versions : ∀ entry ∈ entries, entry.1 ≤ uint32Max
  keys : ∀ entry ∈ entries, entry.2.length = 32

/-- The `Map` of a keyring. -/
def SignalKeyring.toMap (keyring : SignalKeyring) : KeyMap where
  entries := keyring.entries.map fun entry => (.number (some entry.1), .bytes entry.2)
  unique := by
    rw [List.map_map]
    have hfst : (Prod.fst ∘ fun entry : Nat × List UInt8 =>
        ((.number (some (entry.1 : Int)), .bytes entry.2) : Scalar × Scalar)) =
        (fun version : Nat => Scalar.number (some (version : Int))) ∘ Prod.fst := rfl
    rw [hfst, ← List.map_map]
    apply keyring.unique.map
    intro first second h
    exact Int.ofNat_inj.mp (Option.some.inj (Scalar.number.inj h))

/-! ### The order of the digests -/

instance (active : Nat) : Std.Total (KeyOrder active) where
  total left right := by
    simp only [KeyOrder, compareKeyVersions]
    split <;> split <;> omega

instance (active : Nat) : IsTrans (Nat × List UInt8) (KeyOrder active) where
  trans first second third hfirst hsecond := by
    simp only [KeyOrder, compareKeyVersions] at hfirst hsecond ⊢
    split_ifs at hfirst hsecond ⊢ <;> omega

theorem head_insertionSort {active : Nat} {entries : List (Nat × List UInt8)}
    (h : active ∈ entries.map Prod.fst) :
    ∃ key rest, entries.insertionSort (KeyOrder active) = (active, key) :: rest := by
  obtain ⟨⟨version, key⟩, hmem, rfl⟩ := List.mem_map.mp h
  have hsorted := List.pairwise_insertionSort (KeyOrder version) entries
  have hin := (List.mem_insertionSort (KeyOrder version)).mpr hmem
  cases hlist : entries.insertionSort (KeyOrder version) with
  | nil =>
    rw [hlist] at hin
    cases hin
  | cons first rest =>
    rw [hlist] at hin hsorted
    obtain ⟨firstVersion, firstKey⟩ := first
    have hfirst : firstVersion = version := by
      rcases List.mem_cons.mp hin with heq | hrest
      · exact (Prod.mk.inj heq).1.symm
      · by_contra hne
        have hle := (List.pairwise_cons.mp hsorted).1 _ hrest
        simp only [KeyOrder, compareKeyVersions, if_neg hne, if_true] at hle
        omega
    exact ⟨firstKey, rest, by rw [hfirst]⟩

/-! ### Digests of one key -/

/-- What `deriveDigest` writes. -/
def networkDigestText (node : NodeRuntime) (bucket : AddressBucket) (key : List UInt8) : String :=
  String.ofList ("hmac-sha256:".toList ++ Hex.encode (node.hmacSha256 key bucket.message).bytes)

/-- Both are the same address of the first family, or both lie in one `/64` of the second. -/
def SameBucket (a b : Ip.Address) : Prop :=
  (a.family = .v4 ∧ a = b) ∨ (a.family = .v6 ∧ b.family = .v6 ∧ a.value >>> 64 = b.value >>> 64)

theorem sameBucket_iff {a b : Ip.Address} :
    SameBucket a b ↔ Ip.SameNetwork (signalPrefix a.family) a b := by
  obtain ⟨family, value, hlt⟩ := a
  obtain ⟨family', value', hlt'⟩ := b
  cases family with
  | v4 =>
    simp only [SameBucket, Ip.SameNetwork, signalPrefix, true_and, reduceCtorEq, false_and, or_false]
    constructor
    · intro h
      cases h
      exact ⟨rfl, fun i _ => rfl⟩
    · rintro ⟨rfl, hbits⟩
      have hvalue : value = value' :=
        Nat.eq_of_testBit_eq fun i => hbits i (by rw [ipv4Prefix, Ip.Family.bits]; omega)
      subst hvalue
      rfl
  | v6 =>
    simp only [SameBucket, Ip.SameNetwork, signalPrefix, true_and, reduceCtorEq, false_and, false_or]
    rw [show Ip.Family.v6.bits - ipv6Prefix = 64 from rfl, ← shiftRight_eq_iff]
    exact and_congr_left' eq_comm

theorem eq_of_encode_eq {first second : Bytes32}
    (h : Hex.encode first.bytes = Hex.encode second.bytes) : first = second := by
  have hdecode := congrArg Hex.decode h
  rw [Hex.decode_encode, Hex.decode_encode, Option.some.injEq] at hdecode
  cases first
  cases second
  cases hdecode
  rfl

theorem networkDigestText_iff {node : NodeRuntime} {first second : AddressBucket}
    {key : List UInt8} :
    networkDigestText node first key = networkDigestText node second key ↔
      node.hmacSha256 key first.message = node.hmacSha256 key second.message := by
  unfold networkDigestText
  constructor
  · intro h
    exact eq_of_encode_eq (List.append_cancel_left (String.ofList_injective h))
  · intro h
    rw [h]

theorem deriveNetworkDigest_of_reads {node : NodeRuntime} {address : String} {key : List UInt8}
    {a : Ip.Address} (ha : Reads address.toList a) (hkey : key.length = 32) :
    deriveNetworkDigest node address key =
      some (networkDigestText node (AddressBucket.ofAddress a) key) := by
  rw [deriveNetworkDigest, bucketAddress_eq_some.mpr ⟨a, ha, rfl⟩]
  dsimp only
  rw [if_neg (not_not_intro hkey)]
  rfl

theorem networkDigestText_of_sameBucket {node : NodeRuntime} {a b : Ip.Address}
    {key : List UInt8} (h : SameBucket a b) :
    networkDigestText node (AddressBucket.ofAddress a) key =
      networkDigestText node (AddressBucket.ofAddress b) key := by
  rw [networkDigestText_iff, message_ofAddress_iff.mpr (sameBucket_iff.mp h)]

/-! ### Digests of a keyring -/

theorem mapM_eq_some_map {α β γ : Type} {read : β → Option γ} {write : α → β} {keep : α → γ}
    {items : List α} (h : ∀ item ∈ items, read (write item) = some (keep item)) :
    (items.map write).mapM read = some (items.map keep) := by
  induction items with
  | nil => rfl
  | cons item rest ih =>
    rw [List.map_cons, List.mapM_cons, h item (by simp),
      ih fun other hother => h other (List.mem_cons_of_mem _ hother)]
    rfl

theorem keyVersion?_natCast {version : Nat} (h : version ≤ uint32Max) :
    keyVersion? (.number (some (version : Int))) = some version := by
  rw [keyVersion?, if_neg (by omega), Int.toNat_natCast]

theorem mapM_keyEntry? (keyring : SignalKeyring) :
    keyring.toMap.entries.mapM keyEntry? = some keyring.entries := by
  have hread : ∀ entry ∈ keyring.entries,
      keyEntry? (.number (some (entry.1 : Int)), .bytes entry.2) = some (id entry) := by
    intro entry hentry
    rw [ keyEntry?, keyVersion?_natCast (keyring.versions entry hentry), Option.bind_some,
      if_neg (not_not_intro (keyring.keys entry hentry))]
    rfl
  have hall := mapM_eq_some_map hread
  rwa [List.map_id] at hall

def SignalKeyring.ordered (keyring : SignalKeyring) (active : Nat) : List (Nat × List UInt8) :=
  keyring.entries.insertionSort (KeyOrder active)

def SignalKeyring.digests (node : NodeRuntime) (keyring : SignalKeyring) (active : Nat)
    (a : Ip.Address) : List String :=
  (keyring.ordered active).map fun entry =>
    networkDigestText node (AddressBucket.ofAddress a) entry.2

/-- The answer for a configured keyring: all digests, unless two of them are equal. -/
theorem deriveGuestNetworkSignalKeyring_eq {node : NodeRuntime} {address : String}
    {keyring : SignalKeyring} {active : Nat} {a : Ip.Address} (ha : Reads address.toList a)
    (hactive : active ∈ keyring.entries.map Prod.fst) :
    deriveGuestNetworkSignalKeyring node (keyringRequest address keyring.toMap active) =
      if (keyring.digests node active a).Nodup then
        .ok guestNetworkSignalPolicyId (keyring.digests node active a)
      else .invalidNetworkSignalContext := by
  obtain ⟨entry, hentry, rfl⟩ := List.mem_map.mp hactive
  have hlength : ¬ (keyring.toMap.entries.length = 0 ∨
      keyring.toMap.entries.length > maxNetworkSignalKeys) := by
    have hpos := List.length_pos_of_ne_nil keyring.nonempty
    have hfew := keyring.few
    simp only [SignalKeyring.toMap, List.length_map]
    omega
  have hdigests : ((keyring.ordered entry.1).map id).mapM (fun other =>
      deriveNetworkDigest node address other.2) = some (keyring.digests node entry.1 a) := by
    apply mapM_eq_some_map
    intro other hother
    apply deriveNetworkDigest_of_reads ha
    exact keyring.keys other ((List.mem_insertionSort (KeyOrder entry.1)).mp hother)
  rw [List.map_id] at hdigests
  change deriveKeyringDigests node address keyring.toMap (.number (some (entry.1 : Int))) = _
  rw [deriveKeyringDigests, keyVersion?_natCast (keyring.versions entry hentry)]
  dsimp only
  rw [if_neg hlength, mapM_keyEntry?]
  dsimp only
  rw [List.contains_iff_mem.mpr hactive, Bool.not_true, if_neg (by simp)]
  rw [SignalKeyring.ordered] at hdigests
  rw [hdigests]

/-- No two buckets have one MAC under the key. -/
def BucketInjective (node : NodeRuntime) (key : List UInt8) : Prop :=
  ∀ a b : Ip.Address,
    node.hmacSha256 key (AddressBucket.ofAddress a).message =
      node.hmacSha256 key (AddressBucket.ofAddress b).message →
    (AddressBucket.ofAddress a).message = (AddressBucket.ofAddress b).message

/-- Digests of one key tell buckets apart. A keyring lists the digest of each of its
keys once, the active one first, or refuses to list two equal digests; keyrings that
share a version and its key share its digest, whichever version is active. -/
theorem networkSignalRotation (node : NodeRuntime) :
    (∀ key x y parsed parsed', key.length = 32 → BucketInjective node key →
      parseNetworkAddress (.string x) = some parsed →
      parseNetworkAddress (.string y) = some parsed' →
      ∃ a b, Reads x.toList a ∧ Reads y.toList b ∧
        (deriveNetworkDigest node x key = deriveNetworkDigest node y key ↔ SameBucket a b)) ∧
    (∀ (keyring : SignalKeyring) active address a, active ∈ keyring.entries.map Prod.fst →
      Reads address.toList a →
      (keyring.ordered active).Perm keyring.entries ∧
      (∃ key rest, keyring.ordered active = (active, key) :: rest) ∧
      deriveGuestNetworkSignalKeyring node (keyringRequest address keyring.toMap active) =
        if (keyring.digests node active a).Nodup then
          .ok guestNetworkSignalPolicyId (keyring.digests node active a)
        else .invalidNetworkSignalContext) ∧
    ∀ (keyring keyring' : SignalKeyring) active active' x y a b policy policy' digests digests'
      version key,
      active ∈ keyring.entries.map Prod.fst → active' ∈ keyring'.entries.map Prod.fst →
      Reads x.toList a → Reads y.toList b → SameBucket a b →
      deriveGuestNetworkSignalKeyring node (keyringRequest x keyring.toMap active) =
        .ok policy digests →
      deriveGuestNetworkSignalKeyring node (keyringRequest y keyring'.toMap active') =
        .ok policy' digests' →
      (version, key) ∈ keyring.entries → (version, key) ∈ keyring'.entries →
      ∃ digest, deriveNetworkDigest node x key = some digest ∧ digest ∈ digests ∧
        digest ∈ digests' := by
  refine ⟨?_, ?_, ?_⟩
  · intro key x y parsed parsed' hkey hinjective hx hy
    obtain ⟨a, ha, -⟩ := parseNetworkAddress_iff.mp hx
    obtain ⟨b, hb, -⟩ := parseNetworkAddress_iff.mp hy
    refine ⟨a, b, ha, hb, ?_⟩
    rw [deriveNetworkDigest_of_reads ha hkey, deriveNetworkDigest_of_reads hb hkey,
      Option.some.injEq, networkDigestText_iff, sameBucket_iff, ← message_ofAddress_iff]
    exact ⟨hinjective a b, fun h => congrArg (node.hmacSha256 key) h⟩
  · intro keyring active address a hactive ha
    exact ⟨List.perm_insertionSort _ _, head_insertionSort hactive,
      deriveGuestNetworkSignalKeyring_eq ha hactive⟩
  · intro keyring keyring' active active' x y a b policy policy' digests digests' version key
      hactive hactive' hx hy hsame hdigests hdigests' hmem hmem'
    have hlisted : ∀ {ring : SignalKeyring} {first : Nat} {text : String} {c : Ip.Address}
        {name : String} {listed : List String}, first ∈ ring.entries.map Prod.fst →
        Reads text.toList c →
        deriveGuestNetworkSignalKeyring node (keyringRequest text ring.toMap first) =
          .ok name listed → (version, key) ∈ ring.entries →
        networkDigestText node (AddressBucket.ofAddress c) key ∈ listed := by
      intro ring first text c name listed hfirst hc hok hentry
      rw [deriveGuestNetworkSignalKeyring_eq hc hfirst] at hok
      split at hok
      · cases hok
        exact List.mem_map.mpr
          ⟨(version, key), (List.mem_insertionSort (KeyOrder first)).mpr hentry, rfl⟩
      · cases hok
    refine ⟨networkDigestText node (AddressBucket.ofAddress a) key,
      deriveNetworkDigest_of_reads hx (keyring.keys _ hmem), hlisted hactive hx hdigests hmem, ?_⟩
    rw [networkDigestText_of_sameBucket hsame]
    exact hlisted hactive' hy hdigests' hmem'

/-! ### A runtime whose MAC keeps the bucket -/

def paddedBucket (message : List UInt8) : Bytes32 :=
  ⟨(message.drop networkSignalDomain.length ++ List.replicate 32 0).take 32, by simp⟩

def paddingNode : NodeRuntime where
  domainToASCII := some
  isIP _ := 0
  hmacSha256 _ message := paddedBucket message

theorem length_bucket (a : Ip.Address) :
    (AddressBucket.ofAddress a).bytes.length =
      match a.family with
      | .v4 => 4
      | .v6 => 16 := by
  obtain ⟨family, value, hlt⟩ := a
  cases family <;> simp [AddressBucket.ofAddress]

theorem family_bucket (a : Ip.Address) : (AddressBucket.ofAddress a).family = a.family := by
  obtain ⟨family, value, hlt⟩ := a
  cases family <;> rfl

theorem bucketInjective_paddingNode (key : List UInt8) : BucketInjective paddingNode key := by
  intro a b h
  have hbytes := congrArg Bytes32.bytes h
  simp only [paddingNode, paddedBucket, AddressBucket.message, List.drop_left] at hbytes ⊢
  have hlengthA := length_bucket a
  have hlengthB := length_bucket b
  rw [family_bucket, family_bucket] at hbytes ⊢
  cases hfamilyA : a.family <;> cases hfamilyB : b.family <;>
    simp only [hfamilyA, hfamilyB] at hbytes hlengthA hlengthB ⊢
  · simp [List.take_append, hlengthA, hlengthB] at hbytes
    rw [List.take_of_length_le (by omega), List.take_of_length_le (by omega)] at hbytes
    rw [hbytes]
  · simp [List.take_append] at hbytes
  · simp [List.take_append] at hbytes
  · simp [List.take_append, hlengthA, hlengthB] at hbytes
    rw [List.take_of_length_le (by omega), List.take_of_length_le (by omega)] at hbytes
    rw [hbytes]

/-- A mapped spelling has the digest of the address it maps. -/
theorem networkSignalRotation_mapped :
    ∃ a b, Reads "203.0.113.9".toList a ∧ Reads "::ffff:203.0.113.9".toList b ∧
      (deriveNetworkDigest paddingNode "203.0.113.9" (List.replicate 32 7) =
          deriveNetworkDigest paddingNode "::ffff:203.0.113.9" (List.replicate 32 7) ↔
        SameBucket a b) := by
  have hplain : (parseNetworkAddress (.string "203.0.113.9")).isSome = true := by decide +kernel
  have hmapped : (parseNetworkAddress (.string "::ffff:203.0.113.9")).isSome = true := by
    decide +kernel
  obtain ⟨parsed, hparsed⟩ := Option.isSome_iff_exists.mp hplain
  obtain ⟨parsed', hparsed'⟩ := Option.isSome_iff_exists.mp hmapped
  exact (networkSignalRotation paddingNode).1 (List.replicate 32 7) _ _ parsed parsed' (by decide)
    (bucketInjective_paddingNode _) hparsed hparsed'

def repeatedKeyring : SignalKeyring where
  entries := [(1, List.replicate 32 7), (2, List.replicate 32 7)]
  nonempty := by decide
  few := by decide
  unique := by decide
  versions := by simp [uint32Max]
  keys := by simp

/-- A keyring that holds one key under two versions has no digests. -/
theorem networkSignalRotation_repeated :
    (1 : Nat) ∈ repeatedKeyring.entries.map Prod.fst ∧
      (parseNetworkAddress (.string "203.0.113.9")).isSome = true ∧
      deriveGuestNetworkSignalKeyring paddingNode
        (keyringRequest "203.0.113.9" repeatedKeyring.toMap 1) = .invalidNetworkSignalContext := by
  have hparsed : (parseNetworkAddress (.string "203.0.113.9")).isSome = true := by decide +kernel
  refine ⟨by decide, hparsed, ?_⟩
  obtain ⟨parsed, hsome⟩ := Option.isSome_iff_exists.mp hparsed
  obtain ⟨a, ha, -⟩ := parseNetworkAddress_iff.mp hsome
  rw [deriveGuestNetworkSignalKeyring_eq ha (by decide), if_neg]
  have hordered : repeatedKeyring.ordered 1 = repeatedKeyring.entries := by decide
  rw [SignalKeyring.digests, hordered]
  simp [repeatedKeyring]

end Outscan

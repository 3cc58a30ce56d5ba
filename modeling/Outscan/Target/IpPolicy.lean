import Outscan.Library.Record
import Outscan.Target.Hostname
import Outscan.Target.NodeNet

/-! The policy for resolved destination addresses. -/
namespace Outscan

open Numeral

def ipDestinationPolicyVersion : String := "iana-special-purpose-2025-10-09.v1"

def maxResolvedAddresses : Nat := 64
def maxConfiguredInternalRanges : Nat := 128

inductive ForbiddenAddressReason where
  | thisNetwork | private_ | shared | loopback | linkLocal | metadata | specialPurpose
  | documentation | benchmark | multicast | reserved | ipv4Mapped | translation | uniqueLocal
  | nonGlobalUnicast | configuredInternal
deriving DecidableEq, Repr

structure ValidatedIpAddress where
  address : String
  family : Ip.Family
deriving DecidableEq, Repr

structure BlockedIpAddress extends ValidatedIpAddress where
  reason : ForbiddenAddressReason
deriving DecidableEq, Repr

inductive AddressSetRejection where
  | invalidResolution | emptyResolution | tooManyAddresses | invalidAddress
  | invalidInternalRange | forbiddenAddress
deriving DecidableEq, Repr

inductive ResolvedAddressSetResult where
  | ok (policyVersion : String) (addresses : List ValidatedIpAddress)
  | rejected (policyVersion : String) (code : AddressSetRejection)
      (blockedAddresses : Option (List BlockedIpAddress))
deriving DecidableEq, Repr

structure ParsedIp extends ValidatedIpAddress where
  bits : Nat
  value : Nat
deriving DecidableEq, Repr

structure CidrRange where
  family : Ip.Family
  network : Nat
  prefixLength : Nat
deriving DecidableEq, Repr

structure BuiltInRange extends CidrRange where
  reason : ForbiddenAddressReason
deriving DecidableEq, Repr

def builtInCidrs : List (String × ForbiddenAddressReason) :=
  [("0.0.0.0/8", .thisNetwork),
   ("10.0.0.0/8", .private_),
   ("100.64.0.0/10", .shared),
   ("127.0.0.0/8", .loopback),
   ("168.63.129.16/32", .metadata),
   ("169.254.0.0/16", .linkLocal),
   ("172.16.0.0/12", .private_),
   ("192.0.0.0/24", .specialPurpose),
   ("192.0.2.0/24", .documentation),
   ("192.31.196.0/24", .specialPurpose),
   ("192.52.193.0/24", .specialPurpose),
   ("192.88.99.0/24", .specialPurpose),
   ("192.168.0.0/16", .private_),
   ("192.175.48.0/24", .specialPurpose),
   ("198.18.0.0/15", .benchmark),
   ("198.51.100.0/24", .documentation),
   ("203.0.113.0/24", .documentation),
   ("224.0.0.0/4", .multicast),
   ("240.0.0.0/4", .reserved),
   ("::/128", .thisNetwork),
   ("::1/128", .loopback),
   ("::ffff:0:0/96", .ipv4Mapped),
   ("64:ff9b::/96", .translation),
   ("64:ff9b:1::/48", .translation),
   ("100::/64", .specialPurpose),
   ("100:0:0:1::/64", .specialPurpose),
   ("2001::/23", .specialPurpose),
   ("2001:db8::/32", .documentation),
   ("2002::/16", .specialPurpose),
   ("2620:4f:8000::/48", .specialPurpose),
   ("3ffe::/16", .reserved),
   ("3fff::/20", .documentation),
   ("5f00::/16", .specialPurpose),
   ("fc00::/7", .uniqueLocal),
   ("fe80::/10", .linkLocal),
   ("ff00::/8", .multicast)]

def parseIpv4 (address : List Char) : Option ParsedIp :=
  if isIP address ≠ 4 then none
  else
    let octets := (address.splitOn '.').map (value 10)
    some {
      address := String.ofList (['.'].intercalate (octets.map (Nat.toDigits 10)))
      family := .v4
      bits := 32
      value := octets.foldl (fun current octet => current <<< 8 ||| octet) 0 }

/-- The first longest run of zeros from `index` on, unless `best` (start and
length) is as long. -/
def bestZeroRun (groups : List Nat) (index : Nat) (best : Nat × Nat) : Nat × Nat :=
  match groups with
  | [] => best
  | group :: rest =>
    if group ≠ 0 then bestZeroRun rest (index + 1) best
    else
      let length := 1 + (rest.takeWhile (· = 0)).length
      bestZeroRun (rest.dropWhile (· = 0)) (index + length)
        (if length > best.2 then (index, length) else best)
termination_by groups.length
decreasing_by
  · simp
  · exact Nat.lt_succ_of_le (List.dropWhile_sublist _).length_le

def joinGroups (groups : List Nat) : List Char :=
  [':'].intercalate (groups.map (Nat.toDigits 16))

def formatIpv6 (groups : List Nat) : List Char :=
  let best := bestZeroRun groups 0 (0, 0)
  if best.2 < 2 then joinGroups groups
  else joinGroups (groups.take best.1) ++ ':' :: ':' :: joinGroups (groups.drop (best.1 + best.2))

/-- `Number.parseInt(text, 16)`; `none` is `NaN`. No text with a sign, a blank
or `0x` reaches it. -/
def parseInt16 (text : List Char) : Option Nat :=
  let digits := text.takeWhile (isDigit 16)
  if digits.isEmpty then none else some (value 16 digits)

def expandIpv4 (text : List Char) : Option (List Char) :=
  if text.contains '.' then
    match Split.splitAtLast ':' text with
    | none => none
    | some (before, last) =>
      (parseIpv4 last).map fun ipv4 =>
        before ++ ':' :: (Nat.toDigits 16 (ipv4.value >>> 16 &&& 0xffff) ++
          ':' :: Nat.toDigits 16 (ipv4.value &&& 0xffff))
  else some text

def ipv6Groups (expandedInput : List Char) : Option (List Nat) :=
  let halves := Split.splitOnPair ':' expandedInput
  if halves.length > 2 then none
  else
    let left := colonParts (halves[0]?.getD [])
    let right := colonParts (halves[1]?.getD [])
    let missing : Int := 8 - left.length - right.length
    if (if halves.length = 1 then missing ≠ 0 else missing < 1) then none
    else
      match (left ++ List.replicate missing.toNat ['0'] ++ right).mapM parseInt16 with
      | none => none
      | some groups => if groups.length ≠ 8 then none else some groups

def parseIpv6 (address : List Char) : Option ParsedIp :=
  if address.contains '%' || isIP address ≠ 6 then none
  else
    match expandIpv4 (address.map Char.toLower) with
    | none => none
    | some expandedInput =>
      (ipv6Groups expandedInput).map fun groups =>
        { address := String.ofList (formatIpv6 groups)
          family := .v6
          bits := 128
          value := groups.foldl (fun current group => current <<< 16 ||| group) 0 }

def parseIp (address : String) : Option ParsedIp :=
  let text := address.toList
  if utf16Length text = 0 || utf16Length text > 64 then none
  else
    match parseIpv4 text with
    | some parsed => some parsed
    | none => parseIpv6 text

/-- `^(0|[1-9][0-9]{0,2})$`. -/
def isPrefixText (text : List Char) : Bool := isDecimal text && decide (text.length ≤ 3)

def parseCidr (text : String) : Option CidrRange :=
  match text.toList.splitOn '/' with
  | [addressText, prefixText] =>
    match parseIp (String.ofList addressText) with
    | none => none
    | some address =>
      if !isPrefixText prefixText then none
      else
        let prefixLength := value 10 prefixText
        if prefixLength > address.bits then none
        else
          let hostBits := address.bits - prefixLength
          some {
            family := address.family
            network := if hostBits = address.bits then 0 else (address.value >>> hostBits) <<< hostBits
            prefixLength := prefixLength }
  | _ => none

/-- What a caller hands over as a list of strings: an array, or something else. -/
inductive UnknownList where
  | array (entries : List Dynamic.Scalar)
  | other

def snapshotEntries : List Dynamic.Scalar → List String → Option (List String)
  | [], values => some values
  | .string entry :: rest, values =>
    if utf16Length entry.toList > 80 || (parseCidr entry).isNone || values.contains entry then none
    else snapshotEntries rest (values ++ [entry])
  | _ :: _, _ => none

def snapshotConfiguredInternalCidrs (input : UnknownList) : Option (List String) :=
  match input with
  | .other => none
  | .array entries =>
    if entries.length > maxConfiguredInternalRanges then none else snapshotEntries entries []

def CidrRange.contains (range : CidrRange) (address : ParsedIp) : Bool :=
  if range.family ≠ address.family then false
  else
    let hostBits := address.bits - range.prefixLength
    (address.value >>> hostBits) <<< hostBits == range.network

/-- `BUILT_IN_RANGES`. Every entry parses (`parseCidr_builtIn`), so loading the
module does not throw. -/
def builtInRanges : List BuiltInRange :=
  builtInCidrs.filterMap fun (cidr, reason) =>
    (parseCidr cidr).map fun range => { range with reason }

def globalUnicastCidr : String := "2000::/3"

def blockReason (address : ParsedIp) (configuredRanges : List CidrRange) :
    Option ForbiddenAddressReason :=
  match builtInRanges.find? (fun range => range.toCidrRange.contains address) with
  | some builtIn => some builtIn.reason
  | none =>
    if configuredRanges.any (·.contains address) then some .configuredInternal
    else if address.family = .v6 then
      match parseCidr globalUnicastCidr with
      | none => some .nonGlobalUnicast
      | some globalUnicast =>
        if !globalUnicast.contains address then some .nonGlobalUnicast else none
    else none

/-- `unique.set`: a value already there is replaced where it stands. The key
`family:value` is the pair. -/
def setUnique (unique : List ParsedIp) (address : ParsedIp) : List ParsedIp :=
  if unique.any (fun other => other.family = address.family ∧ other.value = address.value) then
    unique.map fun other =>
      if other.family = address.family ∧ other.value = address.value then address else other
  else unique ++ [address]

def blockedAddress (configuredRanges : List CidrRange) (address : ParsedIp) :
    Option BlockedIpAddress :=
  (blockReason address configuredRanges).map fun reason =>
    { address := address.address, family := address.family, reason }

def parseEntry (entry : Dynamic.Scalar) : Option ParsedIp :=
  match entry with
  | .string text => parseIp text
  | _ => none

def classifyResolvedAddressSet (input configuredInternalCidrs : UnknownList) :
    ResolvedAddressSetResult :=
  let reject (code : AddressSetRejection) := .rejected ipDestinationPolicyVersion code none
  match input with
  | .other => reject .invalidResolution
  | .array entries =>
    if entries.length = 0 then reject .emptyResolution
    else if entries.length > maxResolvedAddresses then reject .tooManyAddresses
    else
      match snapshotConfiguredInternalCidrs configuredInternalCidrs with
      | none => reject .invalidInternalRange
      | some configuredCidrs =>
        match configuredCidrs.mapM parseCidr with
        | none => reject .invalidInternalRange
        | some configuredRanges =>
          match entries.mapM parseEntry with
          | none => reject .invalidAddress
          | some parsed =>
            let unique := parsed.foldl setUnique []
            let blocked := unique.filterMap (blockedAddress configuredRanges)
            if blocked.length > 0 then
              .rejected ipDestinationPolicyVersion .forbiddenAddress (some blocked)
            else .ok ipDestinationPolicyVersion (unique.map (·.toValidatedIpAddress))

end Outscan

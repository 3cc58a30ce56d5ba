import Outscan.Target.DestinationPolicy

/-! Addresses of the network ingress. An address of the second family that maps
one of the first is read as the one it maps. -/
namespace Outscan

open Numeral

structure ParsedNetworkAddress where
  canonicalAddress : String
  family : Ip.Family
  bits : Nat
  bytes : List UInt8
  value : Nat
deriving DecidableEq, Repr

structure ParsedNetworkCidr where
  family : Ip.Family
  network : Nat
  prefixLength : Nat
deriving DecidableEq, Repr

namespace NetworkAddress

def parseIpv4 (address : List Char) : Option ParsedNetworkAddress :=
  if isIP address ≠ 4 then none
  else
    let octets := (address.splitOn '.').map (value 10)
    if octets.length ≠ 4 then none
    else
      some {
        canonicalAddress := String.ofList (['.'].intercalate (octets.map (Nat.toDigits 10)))
        family := .v4
        bits := 32
        bytes := octets.map UInt8.ofNat
        value := octets.foldl (fun current octet => current <<< 8 ||| octet) 0 }

def expandIpv4 (text : List Char) : Option (List Char) :=
  if text.contains '.' then
    match Split.splitAtLast ':' text with
    | none => none
    | some (before, last) =>
      (parseIpv4 last).map fun ipv4 =>
        before ++ ':' :: (Nat.toDigits 16 (ipv4.value >>> 16 &&& 0xffff) ++
          ':' :: Nat.toDigits 16 (ipv4.value &&& 0xffff))
  else some text

def textGroups (input : List Char) : Option (List (List Char)) :=
  let halves := Split.splitOnPair ':' input
  if halves.length > 2 then none
  else
    let left := colonParts (halves[0]?.getD [])
    let right := colonParts (halves[1]?.getD [])
    let missing : Int := 8 - left.length - right.length
    if (if halves.length = 1 then missing ≠ 0 else missing < 1) then none
    else some (left ++ List.replicate missing.toNat ['0'] ++ right)

def writeUInt16BE (group : Nat) : List UInt8 := [UInt8.ofNat (group / 256), UInt8.ofNat group]

def mappedPrefix : List UInt8 := List.replicate 10 0 ++ [0xff, 0xff]

def ofTextGroups (texts : List (List Char)) : Option ParsedNetworkAddress :=
  if texts.length ≠ 8 || texts.any (fun text => !isGroupText text) then none
  else
    let groups := texts.map (value 16)
    let bytes := groups.flatMap writeUInt16BE
    if bytes.take 12 = mappedPrefix then
      parseIpv4 (['.'].intercalate ((bytes.drop 12).map fun byte => Nat.toDigits 10 byte.toNat))
    else
      some {
        canonicalAddress := String.ofList (formatIpv6 groups)
        family := .v6
        bits := 128
        bytes := bytes
        value := groups.foldl (fun current group => current <<< 16 ||| group) 0 }

def parseIpv6 (address : List Char) : Option ParsedNetworkAddress :=
  if address.contains '%' || isIP address ≠ 6 then none
  else ((expandIpv4 (address.map Char.toLower)).bind textGroups).bind ofTextGroups

end NetworkAddress

def parseNetworkAddress (address : Dynamic.Scalar) : Option ParsedNetworkAddress :=
  match address with
  | .string address =>
    let text := address.toList
    if utf16Length text = 0 || utf16Length text > 64 then none
    else (NetworkAddress.parseIpv4 text).or (NetworkAddress.parseIpv6 text)
  | _ => none

def parseNetworkCidr (value : Dynamic.Scalar) : Option ParsedNetworkCidr :=
  match value with
  | .string value =>
    if utf16Length value.toList > 80 then none
    else
      match value.toList.splitOn '/' with
      | [addressText, prefixText] =>
        match parseNetworkAddress (.string (String.ofList addressText)) with
        | none => none
        | some address =>
          if !isPrefixText prefixText then none
          else
            let prefixLength := Numeral.value 10 prefixText
            if prefixLength > address.bits then none
            else
              let hostBits := address.bits - prefixLength
              some {
                family := address.family
                network :=
                  if hostBits = address.bits then 0 else (address.value >>> hostBits) <<< hostBits
                prefixLength := prefixLength }
      | _ => none
  | _ => none

def networkCidrContains (range : ParsedNetworkCidr) (address : ParsedNetworkAddress) : Bool :=
  if range.family ≠ address.family then false
  else
    let hostBits := address.bits - range.prefixLength
    (address.value >>> hostBits) <<< hostBits == range.network

/-! ### What the parser reads -/

def ParsedNetworkAddress.ofAddress (a : Ip.Address) : ParsedNetworkAddress where
  canonicalAddress := String.ofList (addressText a)
  family := a.family
  bits := a.family.bits
  bytes := (Ip.toWords 8 (a.family.bits / 8) a.value).map UInt8.ofNat
  value := a.value

@[simp] theorem ParsedNetworkAddress.ofAddress_family (a : Ip.Address) :
    (ofAddress a).family = a.family := rfl

@[simp] theorem ParsedNetworkAddress.ofAddress_bits (a : Ip.Address) :
    (ofAddress a).bits = a.family.bits := rfl

@[simp] theorem ParsedNetworkAddress.ofAddress_value (a : Ip.Address) :
    (ofAddress a).value = a.value := rfl

namespace NetworkAddress

theorem parseIpv4_of_isQuad {text : List Char} {octets : List Nat} (h : Ip.IsQuad text octets) :
    parseIpv4 text =
      some (ParsedNetworkAddress.ofAddress (quadAddress octets h.1 h.2.1)) := by
  have hlength : ¬ octets.length ≠ 4 := not_not_intro h.1
  have hwords := Ip.toWords_ofWords h.2.1
  rw [h.1] at hwords
  have hbytes : (Ip.toWords 8 (Ip.Family.v4.bits / 8) (Ip.ofWords 8 octets)).map UInt8.ofNat =
      octets.map UInt8.ofNat := congrArg _ hwords
  rw [parseIpv4, if_neg (not_not_intro (isIP_eq_four.mpr ⟨octets, h⟩))]
  dsimp only
  rw [splitOn_quad h, if_neg hlength, Ip.foldl_shiftLeft_or h.2.1,
    ParsedNetworkAddress.ofAddress, addressText_quadAddress]
  simp only [quadAddress, hbytes]
  rfl

theorem parseIpv4_eq_none {text : List Char} (h : isIP text ≠ 4) : parseIpv4 text = none := by
  rw [parseIpv4, if_pos h]

theorem expandIpv4_eq {text expanded : List Char} (h : Outscan.expandIpv4 text = some expanded) :
    expandIpv4 text = some expanded := by
  unfold Outscan.expandIpv4 at h
  unfold expandIpv4
  split
  · rename_i hdot
    rw [if_pos hdot] at h
    cases hlast : Split.splitAtLast ':' text with
    | none =>
      rw [hlast] at h
      cases h
    | some parts =>
      rw [hlast] at h
      obtain ⟨before, last⟩ := parts
      by_cases hfour : isIP last = 4
      · obtain ⟨octets, hquad⟩ := isIP_eq_four.mp hfour
        dsimp only at h ⊢
        rw [Outscan.parseIpv4_of_isQuad hquad] at h
        rw [parseIpv4_of_isQuad hquad]
        exact h
      · dsimp only at h
        rw [Outscan.parseIpv4_eq_none hfour] at h
        cases h
  · rename_i hdot
    rw [if_neg hdot] at h
    exact h

theorem textGroups_of_expanded {text : List Char} {groups : List Nat} (h : Expanded text groups) :
    ∃ texts, textGroups text = some texts ∧ List.Forall₂ Ip.IsGroup texts groups ∧
      groups.length = 8 := by
  obtain ⟨hhalves, hmissing, hgroups, hlength⟩ := halves_of_expanded h
  refine ⟨_, ?_, hgroups, hlength⟩
  rw [textGroups, if_neg hhalves, if_neg hmissing]

/-! ### The bytes of a second address -/

theorem map_value_of_isGroups {texts : List (List Char)} {groups : List Nat}
    (h : List.Forall₂ Ip.IsGroup texts groups) : texts.map (value 16) = groups := by
  induction h with
  | nil => rfl
  | cons h _ ih => rw [List.map_cons, ih, h.2.2.2]

def octetsOf (groups : List Nat) : List Nat := groups.flatMap fun group => [group / 256, group % 256]

theorem flatMap_writeUInt16BE (groups : List Nat) :
    groups.flatMap writeUInt16BE = (octetsOf groups).map UInt8.ofNat := by
  unfold octetsOf
  rw [List.map_flatMap]
  congr 1
  funext group
  simp only [writeUInt16BE, List.map_cons, List.map_nil]
  congr 2
  exact UInt8.toNat_inj.mp (by simp)

theorem octetsOf_lt {groups : List Nat} (h : ∀ g ∈ groups, g < 2 ^ 16) :
    ∀ octet ∈ octetsOf groups, octet < 2 ^ 8 := by
  intro octet hoctet
  obtain ⟨group, hgroup, hmem⟩ := List.mem_flatMap.mp hoctet
  have hlt := h group hgroup
  simp only [List.mem_cons, List.not_mem_nil, or_false] at hmem
  omega

theorem length_octetsOf (groups : List Nat) : (octetsOf groups).length = 2 * groups.length := by
  induction groups with
  | nil => rfl
  | cons group rest ih =>
    change (octetsOf rest).length + 2 = _
    rw [ih, List.length_cons]
    omega

theorem ofWords_octetsOf (groups : List Nat) :
    Ip.ofWords 8 (octetsOf groups) = Ip.ofWords 16 groups := by
  induction groups using List.reverseRecOn with
  | nil => simp [octetsOf, Ip.ofWords]
  | append_singleton groups group ih =>
    have hsplit : octetsOf (groups ++ [group]) = octetsOf groups ++ [group / 256, group % 256] := by
      simp [octetsOf]
    rw [hsplit, Ip.ofWords_append, ih, Ip.ofWords_append_singleton]
    simp only [Ip.ofWords, List.length_cons, List.length_nil, List.foldl_cons, List.foldl_nil]
    omega

theorem map_ofNat_injective {first second : List Nat} (hfirst : ∀ o ∈ first, o < 2 ^ 8)
    (hsecond : ∀ o ∈ second, o < 2 ^ 8)
    (h : first.map UInt8.ofNat = second.map UInt8.ofNat) : first = second := by
  have hback : ∀ {octets : List Nat}, (∀ o ∈ octets, o < 2 ^ 8) →
      (octets.map UInt8.ofNat).map UInt8.toNat = octets := by
    intro octets hlt
    rw [List.map_map]
    conv_rhs => rw [← List.map_id octets]
    apply List.map_congr_left
    intro octet hoctet
    exact Nat.mod_eq_of_lt (hlt octet hoctet)
  rw [← hback hfirst, h, hback hsecond]

theorem octets_split {groups : List Nat} (hlength : groups.length = 8)
    (hlt : ∀ g ∈ groups, g < 2 ^ 16) :
    Ip.ofWords 16 groups / 2 ^ 32 = Ip.ofWords 8 ((octetsOf groups).take 12) ∧
      Ip.ofWords 16 groups % 2 ^ 32 = Ip.ofWords 8 ((octetsOf groups).drop 12) := by
  have hoctets := octetsOf_lt hlt
  have hcount : ((octetsOf groups).drop 12).length = 4 := by
    rw [List.length_drop, length_octetsOf, hlength]
  have hlow := @Ip.ofWords_lt 8 ((octetsOf groups).drop 12)
    fun octet hoctet => hoctets octet (List.mem_of_mem_drop hoctet)
  have hvalue := Ip.ofWords_append 8 ((octetsOf groups).take 12) ((octetsOf groups).drop 12)
  rw [List.take_append_drop, ofWords_octetsOf, hcount] at hvalue
  rw [hcount] at hlow
  omega

theorem take_eq_mappedPrefix_iff {groups : List Nat} (hlength : groups.length = 8)
    (hlt : ∀ g ∈ groups, g < 2 ^ 16) :
    (groups.flatMap writeUInt16BE).take 12 = mappedPrefix ↔
      Ip.ofWords 16 groups / 2 ^ 32 = 0xffff := by
  have hoctets := octetsOf_lt hlt
  have htake : ∀ octet ∈ (octetsOf groups).take 12, octet < 2 ^ 8 :=
    fun octet hoctet => hoctets octet (List.mem_of_mem_take hoctet)
  have hmapped : mappedPrefix = (List.replicate 10 0 ++ [255, 255]).map UInt8.ofNat := by decide
  have hcount : ((octetsOf groups).take 12).length = 12 := by
    rw [List.length_take, length_octetsOf, hlength]
    rfl
  rw [(octets_split hlength hlt).1, flatMap_writeUInt16BE, ← List.map_take, hmapped]
  constructor
  · intro h
    rw [map_ofNat_injective htake (by decide) h]
    decide
  · intro h
    have hsame : (octetsOf groups).take 12 = List.replicate 10 0 ++ [255, 255] :=
      Ip.ofWords_inj hcount htake (by decide) (h.trans (by decide))
    rw [hsame]

theorem ofTextGroups_of_isGroups {texts : List (List Char)} {groups : List Nat}
    (h : List.Forall₂ Ip.IsGroup texts groups) (hlength : groups.length = 8)
    (hlt : ∀ g ∈ groups, g < 2 ^ 16) :
    ofTextGroups texts =
      some (ParsedNetworkAddress.ofAddress (groupsAddress groups hlength hlt).unmapped) := by
  have hoctets := octetsOf_lt hlt
  have hguard : ¬ (decide (texts.length ≠ 8) || texts.any fun text => !isGroupText text) = true := by
    have hall := all_isGroupText_iff.mpr ⟨groups, h⟩
    rw [List.all_eq_true] at hall
    simp only [Bool.or_eq_true, decide_eq_true_eq, List.any_eq_true, Bool.not_eq_true', not_or,
      not_not, not_exists, not_and]
    refine ⟨by rw [h.length_eq, hlength], fun text htext => ?_⟩
    rw [hall text htext]
    decide
  obtain ⟨hhigh, hlow⟩ := octets_split hlength hlt
  unfold ofTextGroups
  rw [if_neg hguard]
  dsimp only
  rw [map_value_of_isGroups h]
  have hstart := take_eq_mappedPrefix_iff hlength hlt
  by_cases hmapped : Ip.ofWords 16 groups / 2 ^ 32 = 0xffff
  · have hdrop : ∀ octet ∈ (octetsOf groups).drop 12, octet < 2 ^ 8 :=
      fun octet hoctet => hoctets octet (List.mem_of_mem_drop hoctet)
    have hquad : Ip.IsQuad (['.'].intercalate (((groups.flatMap writeUInt16BE).drop 12).map
        fun byte => Nat.toDigits 10 byte.toNat)) ((octetsOf groups).drop 12) := by
      refine ⟨by rw [List.length_drop, length_octetsOf, hlength], hdrop, ?_⟩
      rw [flatMap_writeUInt16BE, ← List.map_drop, List.map_map]
      congr 1
      apply List.map_congr_left
      intro octet hoctet
      exact congrArg (Nat.toDigits 10) (Nat.mod_eq_of_lt (hdrop octet hoctet))
    rw [if_pos (hstart.mpr hmapped), parseIpv4_of_isQuad hquad]
    congr 2
    rw [Ip.Address.unmapped, if_pos ⟨rfl, hmapped⟩]
    exact Ip.Address.ext rfl hlow.symm
  · rw [if_neg (fun h => hmapped (hstart.mp h)), Ip.Address.unmapped,
      if_neg (fun hboth => hmapped hboth.2),
      Ip.foldl_shiftLeft_or hlt, ParsedNetworkAddress.ofAddress, addressText_groupsAddress]
    have hwords := Ip.toWords_ofWords hoctets
    rw [length_octetsOf, hlength, ofWords_octetsOf] at hwords
    have hbytes : (Ip.toWords 8 (Ip.Family.v6.bits / 8) (Ip.ofWords 16 groups)).map UInt8.ofNat =
        groups.flatMap writeUInt16BE := by
      rw [flatMap_writeUInt16BE]
      exact congrArg _ hwords
    simp only [groupsAddress, hbytes]
    rfl

theorem parseIpv6_of_isV6 {text : List Char} {groups : List Nat} (h : Ip.IsV6 text groups) :
    parseIpv6 text = some (ParsedNetworkAddress.ofAddress
      (groupsAddress groups h.length h.lt).unmapped) := by
  have hzone := not_mem_of_isV6 h
  obtain ⟨expanded, hexpand, hexpanded⟩ := expandIpv4_of_isV6 h.toLower
  obtain ⟨texts, htexts, hgroups, -⟩ := textGroups_of_expanded hexpanded
  have hguard : ¬ (text.contains '%' || decide (isIP text ≠ 6)) = true := by
    rw [Bool.or_eq_true, decide_eq_true_eq, not_or]
    exact ⟨by simpa using hzone, not_not_intro ((isIP_eq_six hzone).mpr ⟨groups, h⟩)⟩
  rw [parseIpv6, if_neg hguard, expandIpv4_eq hexpand, Option.bind_some, htexts, Option.bind_some]
  exact ofTextGroups_of_isGroups hgroups h.length h.lt

end NetworkAddress

/-- The parser reads the texts that denote an address, and nothing else. -/
theorem parseNetworkAddress_eq_some {text : String} {parsed : ParsedNetworkAddress} :
    parseNetworkAddress (.string text) = some parsed ↔
      ∃ a, Ip.Denotes text.toList a ∧ parsed = ParsedNetworkAddress.ofAddress a.unmapped := by
  unfold parseNetworkAddress
  exact reads_iff_denotes (fun a => ParsedNetworkAddress.ofAddress a.unmapped)
    NetworkAddress.parseIpv4_of_isQuad NetworkAddress.parseIpv4_eq_none
    NetworkAddress.parseIpv6_of_isV6 fun hguard => if_pos hguard

def Reads (text : List Char) (a : Ip.Address) : Prop := ∃ b, Ip.Denotes text b ∧ a = b.unmapped

theorem Reads.unique {text : List Char} {a b : Ip.Address} (ha : Reads text a) (hb : Reads text b) :
    a = b := by
  obtain ⟨first, hfirst, rfl⟩ := ha
  obtain ⟨second, hsecond, rfl⟩ := hb
  rw [denotes_unique hfirst hsecond]

theorem parseNetworkAddress_iff {text : String} {parsed : ParsedNetworkAddress} :
    parseNetworkAddress (.string text) = some parsed ↔
      ∃ a, Reads text.toList a ∧ parsed = ParsedNetworkAddress.ofAddress a := by
  rw [parseNetworkAddress_eq_some]
  constructor
  · rintro ⟨a, ha, rfl⟩
    exact ⟨_, ⟨a, ha, rfl⟩, rfl⟩
  · rintro ⟨_, ⟨a, ha, rfl⟩, rfl⟩
    exact ⟨a, ha, rfl⟩

/-! ### Networks -/

/-- The address lies in the network `cidr`. -/
def InNetwork (cidr : String) (a : Ip.Address) : Prop :=
  ∃ base length network, cidr.toList = base ++ '/' :: Nat.toDigits 10 length ∧
    Reads base network ∧ length ≤ network.family.bits ∧ Ip.SameNetwork length network a

def ParsedNetworkCidr.ofNetwork (network : Ip.Address) (length : Nat) : ParsedNetworkCidr where
  family := network.family
  network := (network.value >>> (network.family.bits - length)) <<< (network.family.bits - length)
  prefixLength := length

theorem parseNetworkCidr_eq_some {cidr : String} {range : ParsedNetworkCidr}
    (h : parseNetworkCidr (.string cidr) = some range) :
    ∃ base length network, cidr.toList = base ++ '/' :: Nat.toDigits 10 length ∧
      Reads base network ∧ length ≤ network.family.bits ∧
      range = ParsedNetworkCidr.ofNetwork network length := by
  unfold parseNetworkCidr at h
  dsimp only at h
  split at h
  · cases h
  · split at h
    · rename_i addressText prefixText hsplit
      split at h
      · cases h
      · rename_i address haddress
        obtain ⟨network, hreads, rfl⟩ := parseNetworkAddress_iff.mp haddress
        rw [String.toList_ofList] at hreads
        split at h
        · cases h
        · rename_i hdigits
          obtain ⟨length, -, rfl⟩ := isPrefixText_iff.mp (by simpa using hdigits)
          rw [value_toDigits (by omega) (by omega)] at h
          split at h
          · cases h
          · rename_i hlength
            refine ⟨addressText, length, network, eq_of_splitOn_slash hsplit, hreads,
              Nat.le_of_not_gt hlength, ?_⟩
            rw [← Option.some.inj h, ParsedNetworkCidr.ofNetwork]
            congr 1
            exact masked_eq network length
    · cases h

theorem networkCidrContains_ofNetwork {network a : Ip.Address} {length : Nat} :
    networkCidrContains (ParsedNetworkCidr.ofNetwork network length)
        (ParsedNetworkAddress.ofAddress a) = true ↔ Ip.SameNetwork length network a := by
  rw [networkCidrContains]
  by_cases hfamily : network.family = a.family
  · rw [if_neg (by simpa [ParsedNetworkCidr.ofNetwork] using hfamily), ← masked_eq_iff hfamily]
    simp only [ParsedNetworkCidr.ofNetwork, ParsedNetworkAddress.ofAddress, beq_iff_eq, hfamily]
  · rw [if_pos (by simpa [ParsedNetworkCidr.ofNetwork] using hfamily)]
    simp [Ip.SameNetwork, hfamily]

theorem cidr_text_unique {base base' : List Char} {length length' : Nat} {a a' : Ip.Address}
    (hbase : Reads base a) (hbase' : Reads base' a')
    (h : base ++ '/' :: Nat.toDigits 10 length = base' ++ '/' :: Nat.toDigits 10 length') :
    base = base' ∧ length = length' := by
  obtain ⟨b, hb, -⟩ := hbase
  obtain ⟨b', hb', -⟩ := hbase'
  have hdigits : ∀ n, '/' ∉ Nat.toDigits 10 n := by
    intro n hslash
    exact absurd (isDigit_of_mem_toDigits (by omega) (by omega) n '/' hslash) (by decide)
  have hsplit : ∀ {text : List Char} (n : Nat), '/' ∉ text →
      (text ++ '/' :: Nat.toDigits 10 n).splitOn '/' = [text, Nat.toDigits 10 n] := by
    intro text n htext
    have hpieces : ∀ piece ∈ [text, Nat.toDigits 10 n], '/' ∉ piece := by
      simpa using ⟨htext, hdigits n⟩
    have hjoin := List.splitOn_intercalate '/' hpieces (by simp)
    rw [List.intercalate_cons_cons, List.intercalate_singleton] at hjoin
    simpa using hjoin
  have hparts := (hsplit length (slash_not_mem hb)).symm.trans
    ((congrArg (List.splitOn '/') h).trans (hsplit length' (slash_not_mem hb')))
  simp only [List.cons.injEq, and_true] at hparts
  refine ⟨hparts.1, ?_⟩
  have hvalue := congrArg (value 10) hparts.2
  rwa [value_toDigits (by omega) (by omega), value_toDigits (by omega) (by omega)] at hvalue

/-- The parsed network holds the addresses of the network. -/
theorem networkCidrContains_iff {cidr : String} {range : ParsedNetworkCidr}
    (h : parseNetworkCidr (.string cidr) = some range) (a : Ip.Address) :
    networkCidrContains range (ParsedNetworkAddress.ofAddress a) = true ↔ InNetwork cidr a := by
  obtain ⟨base, length, network, htext, hreads, hlength, rfl⟩ := parseNetworkCidr_eq_some h
  rw [networkCidrContains_ofNetwork]
  constructor
  · exact fun hsame => ⟨base, length, network, htext, hreads, hlength, hsame⟩
  · rintro ⟨base', length', network', htext', hreads', -, hsame⟩
    obtain ⟨rfl, rfl⟩ := cidr_text_unique hreads hreads' (htext.symm.trans htext')
    rwa [hreads.unique hreads']

end Outscan

import Mathlib.Data.List.Perm.Subperm
import Outscan.Target.AddressLiteral

/-! What the destination policy decides: the ranges as networks, the decision
as a fact about the set of addresses that the entries denote. -/
namespace Outscan

open Numeral

/-! ### Ranges -/

/-- The address lies in the range `cidr`. -/
def InRange (cidr : String) (a : Ip.Address) : Prop :=
  ∃ base length network, cidr.toList = base ++ '/' :: Nat.toDigits 10 length ∧
    Ip.Denotes base network ∧ length ≤ network.family.bits ∧ Ip.SameNetwork length network a

/-- What the parser makes of the first `length` bits of an address. -/
def CidrRange.ofNetwork (network : Ip.Address) (length : Nat) : CidrRange where
  family := network.family
  network := (network.value >>> (network.family.bits - length)) <<< (network.family.bits - length)
  prefixLength := length

theorem slash_not_mem {text : List Char} {a : Ip.Address} (h : Ip.Denotes text a) :
    '/' ∉ text := by
  obtain ⟨family, value, hlt⟩ := a
  cases family with
  | v4 =>
    obtain ⟨octets, hquad, -⟩ := h
    exact hquad.not_mem (by decide) (by decide)
  | v6 =>
    obtain ⟨groups, hgroups, -⟩ := h
    exact hgroups.not_mem (by decide) (by decide) (by decide)

theorem isPrefixText_iff {text : List Char} :
    isPrefixText text = true ↔ ∃ length, length < 1000 ∧ text = Nat.toDigits 10 length := by
  rw [isPrefixText, Bool.and_eq_true, decide_eq_true_eq]
  constructor
  · rintro ⟨hdecimal, hlength⟩
    refine ⟨value 10 text, ?_, (toDigits_value hdecimal).symm⟩
    calc value 10 text < 10 ^ text.length := value_lt (isDecimal_iff.mp hdecimal).2.1
      _ ≤ 10 ^ 3 := Nat.pow_le_pow_right (by omega) hlength
  · rintro ⟨length, hlt, rfl⟩
    exact ⟨isDecimal_toDigits length, (Nat.length_toDigits_le_iff (by omega) (by omega)).mpr hlt⟩

theorem shiftRight_bits (a : Ip.Address) : a.value >>> a.family.bits = 0 := by
  rw [Nat.shiftRight_eq_div_pow]
  exact Nat.div_eq_of_lt a.lt

theorem masked_eq (a : Ip.Address) (length : Nat) :
    (if a.family.bits - length = a.family.bits then 0
      else (a.value >>> (a.family.bits - length)) <<< (a.family.bits - length)) =
      (a.value >>> (a.family.bits - length)) <<< (a.family.bits - length) := by
  split
  · rename_i hall
    rw [hall, shiftRight_bits, Nat.zero_shiftLeft]
  · rfl

theorem eq_of_splitOn_slash {text base digits : List Char} (h : text.splitOn '/' = [base, digits]) :
    text = base ++ '/' :: digits := by
  have hjoin : ['/'].intercalate (text.splitOn '/') = text := List.intercalate_splitOn '/'
  rw [h, List.intercalate_cons_cons, List.intercalate_singleton] at hjoin
  simpa using hjoin.symm

theorem parseCidr_eq_some {cidr : String} {range : CidrRange} :
    parseCidr cidr = some range ↔
      ∃ base length network, cidr.toList = base ++ '/' :: Nat.toDigits 10 length ∧
        Ip.Denotes base network ∧ length ≤ network.family.bits ∧
        range = CidrRange.ofNetwork network length := by
  rw [parseCidr]
  constructor
  · intro h
    split at h
    · rename_i addressText prefixText hsplit
      split at h
      · cases h
      · rename_i address haddress
        obtain ⟨network, hdenotes, rfl⟩ := parseIp_eq_some.mp haddress
        rw [String.toList_ofList] at hdenotes
        split at h
        · cases h
        · rename_i hdigits
          obtain ⟨length, -, rfl⟩ := isPrefixText_iff.mp (by simpa using hdigits)
          rw [value_toDigits (by omega) (by omega)] at h
          dsimp only at h
          split at h
          · cases h
          · rename_i hlength
            refine ⟨addressText, length, network, eq_of_splitOn_slash hsplit, hdenotes,
              Nat.le_of_not_gt hlength, ?_⟩
            rw [← Option.some.inj h, CidrRange.ofNetwork]
            congr 1
            exact masked_eq network length
    · cases h
  · rintro ⟨base, length, network, htext, hdenotes, hlength, rfl⟩
    have hdigits : '/' ∉ Nat.toDigits 10 length := by
      intro hslash
      exact absurd (isDigit_of_mem_toDigits (by omega) (by omega) length '/' hslash) (by decide)
    have hsplit : cidr.toList.splitOn '/' = [base, Nat.toDigits 10 length] := by
      have hpieces : ∀ piece ∈ [base, Nat.toDigits 10 length], '/' ∉ piece := by
        simpa using ⟨slash_not_mem hdenotes, hdigits⟩
      have := List.splitOn_intercalate '/' hpieces (by simp)
      rw [List.intercalate_cons_cons, List.intercalate_singleton] at this
      rw [htext, ← this]
      simp
    have hparse : parseIp (String.ofList base) = some (ParsedIp.ofAddress network) :=
      parseIp_eq_some.mpr ⟨network, by rwa [String.toList_ofList], rfl⟩
    have hbits : network.family.bits ≤ 128 := by
      cases network.family <;> decide
    have hdigitsOk := isPrefixText_iff.mpr ⟨length, by omega, rfl⟩
    rw [hsplit]
    dsimp only
    rw [hparse]
    dsimp only
    rw [hdigitsOk, if_neg (by simp), value_toDigits (by omega) (by omega)]
    rw [if_neg (by simpa [ParsedIp.ofAddress] using hlength)]
    rw [CidrRange.ofNetwork]
    congr 2
    exact masked_eq network length

theorem shift_eq_iff {first second hostBits : Nat} :
    (first >>> hostBits) <<< hostBits = (second >>> hostBits) <<< hostBits ↔
      ∀ i, hostBits ≤ i → first.testBit i = second.testBit i := by
  have hbit : ∀ n i, hostBits ≤ i → ((n >>> hostBits) <<< hostBits).testBit i = n.testBit i := by
    intro n i hi
    rw [Nat.testBit_shiftLeft, Nat.testBit_shiftRight, Nat.add_sub_cancel' hi]
    simp [hi]
  constructor
  · intro h i hi
    rw [← hbit first i hi, h, hbit second i hi]
  · intro h
    apply Nat.eq_of_testBit_eq
    intro i
    by_cases hi : hostBits ≤ i
    · rw [hbit first i hi, hbit second i hi, h i hi]
    · rw [Nat.testBit_shiftLeft, Nat.testBit_shiftLeft]
      simp [hi]

theorem masked_eq_iff {network a : Ip.Address} {length : Nat}
    (hfamily : network.family = a.family) :
    (a.value >>> (a.family.bits - length)) <<< (a.family.bits - length) =
        (network.value >>> (a.family.bits - length)) <<< (a.family.bits - length) ↔
      Ip.SameNetwork length network a := by
  rw [shift_eq_iff, Ip.SameNetwork, hfamily, and_iff_right rfl]
  constructor
  · exact fun h i hi => (h i hi).symm
  · exact fun h i hi => (h i hi).symm

theorem contains_ofNetwork {network a : Ip.Address} {length : Nat} :
    (CidrRange.ofNetwork network length).contains (ParsedIp.ofAddress a) = true ↔
      Ip.SameNetwork length network a := by
  rw [CidrRange.contains]
  by_cases hfamily : network.family = a.family
  · rw [if_neg (by simpa [CidrRange.ofNetwork, ParsedIp.ofAddress] using hfamily),
      ← masked_eq_iff hfamily]
    simp only [CidrRange.ofNetwork, ParsedIp.ofAddress, beq_iff_eq, hfamily]
  · rw [if_pos (by simpa [CidrRange.ofNetwork, ParsedIp.ofAddress] using hfamily)]
    simp [Ip.SameNetwork, hfamily]

/-- The parsed range holds the addresses of the range. -/
theorem contains_iff_inRange {cidr : String} {range : CidrRange} (h : parseCidr cidr = some range)
    (a : Ip.Address) : range.contains (ParsedIp.ofAddress a) = true ↔ InRange cidr a := by
  obtain ⟨base, length, network, htext, hdenotes, hlength, rfl⟩ := parseCidr_eq_some.mp h
  rw [contains_ofNetwork]
  constructor
  · exact fun hsame => ⟨base, length, network, htext, hdenotes, hlength, hsame⟩
  · rintro ⟨base', length', network', htext', hdenotes', hlength', hsame⟩
    have hother := parseCidr_eq_some.mpr ⟨base', length', network', htext', hdenotes', hlength', rfl⟩
    rw [h] at hother
    rw [← contains_ofNetwork, Option.some.inj hother, contains_ofNetwork]
    exact hsame

theorem parseCidr_builtIn : ∀ entry ∈ builtInCidrs, (parseCidr entry.1).isSome = true := by
  decide +kernel

theorem parseCidr_globalUnicast : (parseCidr globalUnicastCidr).isSome = true := by
  decide +kernel

def Permitted (configured : List String) (a : Ip.Address) : Prop :=
  (∀ entry ∈ builtInCidrs, ¬ InRange entry.1 a) ∧ (∀ cidr ∈ configured, ¬ InRange cidr a) ∧
    (a.family = .v6 → InRange globalUnicastCidr a)

theorem mem_builtInRanges {range : BuiltInRange} :
    range ∈ builtInRanges ↔ ∃ entry ∈ builtInCidrs,
      parseCidr entry.1 = some range.toCidrRange ∧ range.reason = entry.2 := by
  rw [builtInRanges, List.mem_filterMap]
  constructor
  · rintro ⟨entry, hentry, hmap⟩
    obtain ⟨parsed, hparsed, rfl⟩ := Option.map_eq_some_iff.mp hmap
    exact ⟨entry, hentry, hparsed, rfl⟩
  · rintro ⟨entry, hentry, hparsed, hreason⟩
    refine ⟨entry, hentry, ?_⟩
    dsimp only
    rw [hparsed, Option.map_some, ← hreason]

theorem find_builtIn_eq_none (a : Ip.Address) :
    builtInRanges.find? (fun range => range.toCidrRange.contains (ParsedIp.ofAddress a)) = none ↔
      ∀ entry ∈ builtInCidrs, ¬ InRange entry.1 a := by
  rw [List.find?_eq_none]
  constructor
  · intro h entry hentry hin
    obtain ⟨range, hrange⟩ := Option.isSome_iff_exists.mp (parseCidr_builtIn entry hentry)
    have hmem : ({ range with reason := entry.2 } : BuiltInRange) ∈ builtInRanges :=
      mem_builtInRanges.mpr ⟨entry, hentry, hrange, rfl⟩
    exact h _ hmem ((contains_iff_inRange hrange a).mpr hin)
  · intro h range hrange hcontains
    obtain ⟨entry, hentry, hparsed, -⟩ := mem_builtInRanges.mp hrange
    exact h entry hentry ((contains_iff_inRange hparsed a).mp hcontains)

theorem mem_of_mapM {α β : Type} {f : α → Option β} {xs : List α} {ys : List β}
    (h : xs.mapM f = some ys) :
    (∀ x ∈ xs, ∃ y ∈ ys, f x = some y) ∧ ∀ y ∈ ys, ∃ x ∈ xs, f x = some y := by
  induction xs generalizing ys with
  | nil =>
    cases h
    simp
  | cons x xs ih =>
    rw [List.mapM_cons] at h
    obtain ⟨y, hy, h⟩ := Option.bind_eq_some_iff.mp h
    obtain ⟨rest, hrest, h⟩ := Option.bind_eq_some_iff.mp h
    cases h
    obtain ⟨hforward, hback⟩ := ih hrest
    constructor
    · intro z hz
      rcases List.mem_cons.mp hz with rfl | hz
      · exact ⟨y, by simp, hy⟩
      · obtain ⟨w, hw, hfw⟩ := hforward z hz
        exact ⟨w, List.mem_cons_of_mem _ hw, hfw⟩
    · intro z hz
      rcases List.mem_cons.mp hz with rfl | hz
      · exact ⟨x, by simp, hy⟩
      · obtain ⟨w, hw, hfw⟩ := hback z hz
        exact ⟨w, List.mem_cons_of_mem _ hw, hfw⟩

theorem blockReason_eq_none {configured : List String} {ranges : List CidrRange}
    (hranges : configured.mapM parseCidr = some ranges) (a : Ip.Address) :
    blockReason (ParsedIp.ofAddress a) ranges = none ↔ Permitted configured a := by
  have hconfigured : ranges.any (·.contains (ParsedIp.ofAddress a)) = true ↔
      ∃ cidr ∈ configured, InRange cidr a := by
    obtain ⟨hforward, hback⟩ := mem_of_mapM hranges
    rw [List.any_eq_true]
    constructor
    · rintro ⟨range, hrange, hcontains⟩
      obtain ⟨cidr, hcidr, hparsed⟩ := hback range hrange
      exact ⟨cidr, hcidr, (contains_iff_inRange hparsed a).mp hcontains⟩
    · rintro ⟨cidr, hcidr, hin⟩
      obtain ⟨range, hrange, hparsed⟩ := hforward cidr hcidr
      exact ⟨range, hrange, (contains_iff_inRange hparsed a).mpr hin⟩
  obtain ⟨unicast, hunicast⟩ := Option.isSome_iff_exists.mp parseCidr_globalUnicast
  rw [blockReason, Permitted, ← find_builtIn_eq_none]
  cases hfind : builtInRanges.find? fun range =>
      range.toCidrRange.contains (ParsedIp.ofAddress a) with
  | some builtIn => simp
  | none =>
    dsimp only
    by_cases hany : ranges.any (·.contains (ParsedIp.ofAddress a)) = true
    · rw [if_pos hany]
      obtain ⟨cidr, hcidr, hin⟩ := hconfigured.mp hany
      simp only [reduceCtorEq, false_iff, not_and]
      exact fun _ hnone => absurd hin (hnone cidr hcidr)
    · rw [if_neg hany]
      have hnone : ∀ cidr ∈ configured, ¬ InRange cidr a :=
        fun cidr hcidr hin => hany (hconfigured.mpr ⟨cidr, hcidr, hin⟩)
      by_cases hfamily : a.family = .v6
      · rw [ParsedIp.ofAddress_family, if_pos hfamily, hunicast]
        dsimp only
        rw [← contains_iff_inRange hunicast]
        cases unicast.contains (ParsedIp.ofAddress a) with
        | false => simp [hfamily]
        | true => simpa [hfamily] using hnone
      · rw [ParsedIp.ofAddress_family, if_neg hfamily]
        simpa [hfamily] using hnone

/-! ### Decisions -/

def UnknownList.strings (texts : List String) : UnknownList := .array (texts.map .string)

def ResolvedAddressSetResult.isOk : ResolvedAddressSetResult → Bool
  | .ok _ _ => true
  | .rejected _ _ _ => false

theorem foldl_setUnique (as : List Ip.Address) :
    ∃ distinct : List Ip.Address, distinct.Nodup ∧ (∀ a, a ∈ distinct ↔ a ∈ as) ∧
      (as.map ParsedIp.ofAddress).foldl setUnique [] = distinct.map ParsedIp.ofAddress := by
  induction as using List.reverseRecOn with
  | nil => exact ⟨[], List.nodup_nil, by simp, rfl⟩
  | append_singleton as a ih =>
    obtain ⟨distinct, hnodup, hmem, hfold⟩ := ih
    rw [List.map_append, List.foldl_append, hfold, List.map_singleton, List.foldl_cons,
      List.foldl_nil]
    have hkey : ∀ b : Ip.Address, ((ParsedIp.ofAddress b).family = (ParsedIp.ofAddress a).family ∧
        (ParsedIp.ofAddress b).value = (ParsedIp.ofAddress a).value) ↔ b = a := by
      intro b
      rw [ParsedIp.ofAddress_family, ParsedIp.ofAddress_family, ParsedIp.ofAddress_value,
        ParsedIp.ofAddress_value]
      constructor
      · rintro ⟨hfamily, hvalue⟩
        exact Ip.Address.ext hfamily hvalue
      · rintro rfl
        exact ⟨rfl, rfl⟩
    have hany : ((distinct.map ParsedIp.ofAddress).any fun other =>
        decide (other.family = (ParsedIp.ofAddress a).family ∧
          other.value = (ParsedIp.ofAddress a).value)) = true ↔ a ∈ distinct := by
      rw [List.any_map, List.any_eq_true]
      constructor
      · rintro ⟨b, hb, heq⟩
        rwa [← (hkey b).mp (of_decide_eq_true heq)]
      · exact fun ha => ⟨a, ha, decide_eq_true ((hkey a).mpr rfl)⟩
    by_cases ha : a ∈ distinct
    · refine ⟨distinct, hnodup, ?_, ?_⟩
      · intro b
        rw [List.mem_append, List.mem_singleton, ← hmem]
        constructor
        · exact .inl
        · rintro (hb | rfl)
          · exact hb
          · exact ha
      · rw [setUnique, if_pos (hany.mpr ha), List.map_map]
        apply List.map_congr_left
        intro b _
        dsimp only [Function.comp_apply]
        split
        · rename_i heq
          rw [(hkey b).mp heq]
        · rfl
    · refine ⟨distinct ++ [a], ?_, ?_, ?_⟩
      · rw [List.nodup_append]
        refine ⟨hnodup, List.nodup_singleton a, ?_⟩
        intro b hb c hc
        rw [List.mem_singleton.mp hc]
        rintro rfl
        exact ha hb
      · intro b
        rw [List.mem_append, List.mem_append, hmem]
      · rw [setUnique, if_neg (fun h => ha (hany.mp h)), List.map_append, List.map_singleton]

theorem mapM_parseEntry {entries : List String} {parsed : List ParsedIp} :
    (entries.map Dynamic.Scalar.string).mapM parseEntry = some parsed ↔
      ∃ as, List.Forall₂ (fun entry a => Ip.Denotes entry.toList a) entries as ∧
        parsed = as.map ParsedIp.ofAddress := by
  induction entries generalizing parsed with
  | nil => simp [eq_comm]
  | cons entry entries ih =>
    rw [List.map_cons, List.mapM_cons]
    constructor
    · intro h
      obtain ⟨first, hfirst, h⟩ := Option.bind_eq_some_iff.mp h
      obtain ⟨rest, hrest, h⟩ := Option.bind_eq_some_iff.mp h
      cases h
      obtain ⟨a, hdenotes, rfl⟩ := parseIp_eq_some.mp hfirst
      obtain ⟨as, has, rfl⟩ := ih.mp hrest
      exact ⟨a :: as, .cons hdenotes has, rfl⟩
    · rintro ⟨as, has, rfl⟩
      cases has with
      | @cons _ a _ as hdenotes has =>
        have hfirst : parseEntry (.string entry) = some (ParsedIp.ofAddress a) :=
          parseIp_eq_some.mpr ⟨a, hdenotes, rfl⟩
        rw [hfirst, ih.mpr ⟨as, has, rfl⟩]
        rfl

theorem forall₂_denotes {entries : List String} {as : List Ip.Address}
    (h : List.Forall₂ (fun entry a => Ip.Denotes entry.toList a) entries as) :
    (∀ entry ∈ entries, ∃ a ∈ as, Ip.Denotes entry.toList a) ∧
      ∀ a ∈ as, ∃ entry ∈ entries, Ip.Denotes entry.toList a := by
  induction h with
  | nil => simp
  | cons h _ ih =>
    obtain ⟨hforward, hback⟩ := ih
    constructor
    · intro entry hentry
      rcases List.mem_cons.mp hentry with rfl | hrest
      · exact ⟨_, by simp, h⟩
      · obtain ⟨a, ha, hdenotes⟩ := hforward entry hrest
        exact ⟨a, List.mem_cons_of_mem _ ha, hdenotes⟩
    · intro a ha
      rcases List.mem_cons.mp ha with rfl | hrest
      · exact ⟨_, by simp, h⟩
      · obtain ⟨entry, hentry, hdenotes⟩ := hback a hrest
        exact ⟨entry, List.mem_cons_of_mem _ hentry, hdenotes⟩

theorem exists_forall₂_denotes {entries : List String}
    (h : ∀ entry ∈ entries, ∃ a, Ip.Denotes entry.toList a) :
    ∃ as, List.Forall₂ (fun entry a => Ip.Denotes entry.toList a) entries as := by
  induction entries with
  | nil => exact ⟨[], .nil⟩
  | cons entry entries ih =>
    obtain ⟨a, ha⟩ := h entry (by simp)
    obtain ⟨as, has⟩ := ih fun e he => h e (List.mem_cons_of_mem _ he)
    exact ⟨a :: as, .cons ha has⟩

def ValidRange (cidr : String) : Prop :=
  utf16Length cidr.toList ≤ 80 ∧ (parseCidr cidr).isSome = true

theorem snapshotEntries_eq_some {entries : List Dynamic.Scalar} {values result : List String} :
    snapshotEntries entries values = some result ↔
      ∃ added, entries = added.map .string ∧ result = values ++ added ∧
        (∀ cidr ∈ added, ValidRange cidr) ∧ added.Nodup ∧ ∀ cidr ∈ added, cidr ∉ values := by
  induction entries generalizing values with
  | nil =>
    rw [snapshotEntries]
    constructor
    · intro h
      exact ⟨[], rfl, by simpa using (Option.some.inj h).symm, by simp, List.nodup_nil, by simp⟩
    · rintro ⟨added, hadded, rfl, -⟩
      rw [List.map_eq_nil_iff.mp hadded.symm, List.append_nil]
  | cons entry entries ih =>
    cases entry with
    | string entry =>
      rw [snapshotEntries]
      have hcheck : (decide (utf16Length entry.toList > 80) || (parseCidr entry).isNone ||
          values.contains entry) = true ↔ ¬ (ValidRange entry ∧ entry ∉ values) := by
        simp only [Bool.or_eq_true, decide_eq_true_eq, Option.isNone_iff_eq_none,
          List.contains_iff_mem, ValidRange, Option.isSome_iff_ne_none]
        grind
      by_cases hbad : ValidRange entry ∧ entry ∉ values
      · rw [if_neg (fun h => hcheck.mp h hbad), ih]
        constructor
        · rintro ⟨added, rfl, rfl, hvalid, hnodup, hfresh⟩
          refine ⟨entry :: added, rfl, by simp, ?_, ?_, ?_⟩
          · exact List.forall_mem_cons.mpr ⟨hbad.1, hvalid⟩
          · exact List.nodup_cons.mpr ⟨fun h => hfresh entry h (by simp), hnodup⟩
          · exact List.forall_mem_cons.mpr
              ⟨hbad.2, fun cidr hcidr hmem => hfresh cidr hcidr (List.mem_append_left _ hmem)⟩
        · rintro ⟨added, hadded, rfl, hvalid, hnodup, hfresh⟩
          cases added with
          | nil => cases hadded
          | cons first added =>
            obtain ⟨hfirst, rfl⟩ := List.cons.inj hadded
            cases hfirst
            rw [List.nodup_cons] at hnodup
            refine ⟨added, rfl, by simp, fun cidr hcidr => hvalid cidr (List.mem_cons_of_mem _ hcidr),
              hnodup.2, ?_⟩
            intro cidr hcidr hmem
            rcases List.mem_append.mp hmem with hold | hnew
            · exact hfresh cidr (List.mem_cons_of_mem _ hcidr) hold
            · rw [List.mem_singleton.mp hnew] at hcidr
              exact hnodup.1 hcidr
      · rw [if_pos (hcheck.mpr hbad)]
        constructor
        · intro h
          cases h
        · rintro ⟨added, hadded, -, hvalid, -, hfresh⟩
          cases added with
          | nil => cases hadded
          | cons first added =>
            obtain ⟨hfirst, -⟩ := List.cons.inj hadded
            cases hfirst
            exact absurd ⟨hvalid entry (by simp), hfresh entry (by simp)⟩ hbad
    | number _ | bytes _ | other =>
      rw [snapshotEntries]
      · constructor
        · intro h
          cases h
        · rintro ⟨added, hadded, -⟩
          cases added with
          | nil => cases hadded
          | cons first added => cases (List.cons.inj hadded).1
      · intro entry h
        cases h

theorem strings_of_snapshot {cidrs : UnknownList} {result : List String}
    (h : snapshotConfiguredInternalCidrs cidrs = some result) : cidrs = .strings result := by
  cases cidrs with
  | other => cases h
  | array entries =>
    rw [snapshotConfiguredInternalCidrs] at h
    split at h
    · cases h
    · obtain ⟨added, rfl, rfl, -⟩ := snapshotEntries_eq_some.mp h
      rfl

theorem snapshotConfiguredInternalCidrs_strings {configured result : List String} :
    snapshotConfiguredInternalCidrs (.strings configured) = some result ↔
      result = configured ∧ configured.length ≤ 128 ∧ (∀ cidr ∈ configured, ValidRange cidr) ∧
        configured.Nodup := by
  rw [UnknownList.strings, snapshotConfiguredInternalCidrs]
  rw [List.length_map]
  by_cases hlength : configured.length ≤ 128
  · rw [if_neg (by rw [maxConfiguredInternalRanges]; omega), snapshotEntries_eq_some]
    constructor
    · rintro ⟨added, hadded, hresult, hvalid, hnodup, -⟩
      have hsame : configured = added :=
        List.map_injective_iff.mpr (fun _ _ h => Dynamic.Scalar.string.inj h) hadded
      subst hsame
      exact ⟨hresult, hlength, hvalid, hnodup⟩
    · rintro ⟨rfl, -, hvalid, hnodup⟩
      exact ⟨result, rfl, rfl, hvalid, hnodup, by simp⟩
  · rw [if_pos (by rw [maxConfiguredInternalRanges]; omega)]
    simp [hlength]

theorem mapM_parseCidr {configured : List String} (h : ∀ cidr ∈ configured, ValidRange cidr) :
    ∃ ranges, configured.mapM parseCidr = some ranges := by
  induction configured with
  | nil => exact ⟨[], rfl⟩
  | cons cidr configured ih =>
    obtain ⟨range, hrange⟩ := Option.isSome_iff_exists.mp (h cidr (by simp)).2
    obtain ⟨ranges, hranges⟩ := ih fun c hc => h c (List.mem_cons_of_mem _ hc)
    refine ⟨range :: ranges, ?_⟩
    rw [List.mapM_cons, hrange, hranges]
    rfl

def canonicalAddress (a : Ip.Address) : ValidatedIpAddress :=
  (ParsedIp.ofAddress a).toValidatedIpAddress

theorem canonicalAddress_injective {a b : Ip.Address} (h : canonicalAddress a = canonicalAddress b) :
    a = b := by
  apply addressText_injective
  have htext := congrArg (fun v => v.address.toList) h
  simpa [canonicalAddress, ParsedIp.ofAddress] using htext

def WithinLimit (entries : List String) : Prop := 1 ≤ entries.length ∧ entries.length ≤ 64

theorem isOk_withinLimit {entries configured : List String}
    (h : (classifyResolvedAddressSet (.strings entries) (.strings configured)).isOk = true) :
    WithinLimit entries := by
  by_contra hlimit
  rw [UnknownList.strings, classifyResolvedAddressSet] at h
  dsimp only at h
  rw [List.length_map] at h
  by_cases hpos : entries.length = 0
  · rw [if_pos hpos] at h
    cases h
  · rw [if_neg hpos, if_pos] at h
    · cases h
    · rw [maxResolvedAddresses]
      rw [WithinLimit] at hlimit
      omega

section Classify

variable {entries configured : List String}
  (hconfigured : (snapshotConfiguredInternalCidrs (.strings configured)).isSome = true)
include hconfigured

theorem exists_ranges : ∃ ranges, configured.mapM parseCidr = some ranges := by
  obtain ⟨result, hresult⟩ := Option.isSome_iff_exists.mp hconfigured
  exact mapM_parseCidr (snapshotConfiguredInternalCidrs_strings.mp hresult).2.2.1

theorem classify_withinLimit (hlimit : WithinLimit entries) {ranges : List CidrRange}
    (hranges : configured.mapM parseCidr = some ranges) :
    classifyResolvedAddressSet (.strings entries) (.strings configured) =
      match (entries.map Dynamic.Scalar.string).mapM parseEntry with
      | none => .rejected ipDestinationPolicyVersion .invalidAddress none
      | some parsed =>
        let unique := parsed.foldl setUnique []
        let blocked := unique.filterMap (blockedAddress ranges)
        if blocked.length > 0 then
          .rejected ipDestinationPolicyVersion .forbiddenAddress (some blocked)
        else .ok ipDestinationPolicyVersion (unique.map (·.toValidatedIpAddress)) := by
  obtain ⟨result, hresult⟩ := Option.isSome_iff_exists.mp hconfigured
  obtain ⟨hpos, hmax⟩ := hlimit
  have hsame := (snapshotConfiguredInternalCidrs_strings.mp hresult).1
  subst hsame
  rw [UnknownList.strings, classifyResolvedAddressSet]
  dsimp only
  rw [List.length_map, if_neg (by omega), if_neg (by rw [maxResolvedAddresses]; omega), hresult]
  cases (entries.map Dynamic.Scalar.string).mapM parseEntry with
  | none => simp only [hranges]
  | some parsed => simp only [hranges]

def decideAddresses (ranges : List CidrRange) (distinct : List Ip.Address) :
    ResolvedAddressSetResult :=
  let blocked := (distinct.map ParsedIp.ofAddress).filterMap (blockedAddress ranges)
  if blocked.length > 0 then .rejected ipDestinationPolicyVersion .forbiddenAddress (some blocked)
  else .ok ipDestinationPolicyVersion (distinct.map canonicalAddress)

/-- When every entry is a literal, the decision is one about the set of their
addresses. -/
theorem classify_literals (hlimit : WithinLimit entries) {ranges : List CidrRange}
    (hranges : configured.mapM parseCidr = some ranges)
    (hliterals : ∀ entry ∈ entries, ∃ a, Ip.Denotes entry.toList a) :
    ∃ distinct : List Ip.Address, distinct.Nodup ∧
      (∀ a, a ∈ distinct ↔ ∃ entry ∈ entries, Ip.Denotes entry.toList a) ∧
      classifyResolvedAddressSet (.strings entries) (.strings configured) =
        decideAddresses ranges distinct := by
  obtain ⟨as, has⟩ := exists_forall₂_denotes hliterals
  obtain ⟨hforward, hback⟩ := forall₂_denotes has
  obtain ⟨distinct, hnodup, hmem, hfold⟩ := foldl_setUnique as
  refine ⟨distinct, hnodup, ?_, ?_⟩
  · intro a
    rw [hmem]
    constructor
    · exact hback a
    · rintro ⟨entry, hentry, hdenotes⟩
      obtain ⟨b, hb, hb'⟩ := hforward entry hentry
      rwa [denotes_unique hdenotes hb']
  · rw [classify_withinLimit hconfigured hlimit hranges, mapM_parseEntry.mpr ⟨as, has, rfl⟩]
    dsimp only
    rw [hfold, decideAddresses, List.map_map]
    rfl

theorem classify_not_literal (hlimit : WithinLimit entries)
    (hnot : ∃ entry ∈ entries, ¬ ∃ a, Ip.Denotes entry.toList a) :
    classifyResolvedAddressSet (.strings entries) (.strings configured) =
      .rejected ipDestinationPolicyVersion .invalidAddress none := by
  obtain ⟨ranges, hranges⟩ := exists_ranges hconfigured
  rw [classify_withinLimit hconfigured hlimit hranges]
  cases hparsed : (entries.map Dynamic.Scalar.string).mapM parseEntry with
  | none => rfl
  | some parsed =>
    obtain ⟨as, has, -⟩ := mapM_parseEntry.mp hparsed
    obtain ⟨entry, hentry, hnone⟩ := hnot
    obtain ⟨a, -, hdenotes⟩ := (forall₂_denotes has).1 entry hentry
    exact absurd ⟨a, hdenotes⟩ hnone

end Classify

theorem mem_blocked {ranges : List CidrRange} {distinct : List Ip.Address}
    {blocked : BlockedIpAddress} :
    blocked ∈ (distinct.map ParsedIp.ofAddress).filterMap (blockedAddress ranges) ↔
      ∃ a ∈ distinct, blockedAddress ranges (ParsedIp.ofAddress a) = some blocked := by
  simp only [List.mem_filterMap, List.mem_map, exists_exists_and_eq_and]

theorem isOk_decideAddresses {configured : List String} {ranges : List CidrRange}
    (hranges : configured.mapM parseCidr = some ranges) (distinct : List Ip.Address) :
    (decideAddresses ranges distinct).isOk = true ↔ ∀ a ∈ distinct, Permitted configured a := by
  have hnone : ∀ a, blockedAddress ranges (ParsedIp.ofAddress a) = none ↔ Permitted configured a := by
    intro a
    rw [blockedAddress, Option.map_eq_none_iff, blockReason_eq_none hranges]
  rw [decideAddresses]
  by_cases hpos : 0 < ((distinct.map ParsedIp.ofAddress).filterMap (blockedAddress ranges)).length
  · rw [if_pos hpos]
    obtain ⟨blocked, hblocked⟩ := List.exists_mem_of_length_pos hpos
    obtain ⟨a, ha, hsome⟩ := mem_blocked.mp hblocked
    constructor
    · intro h
      cases h
    · intro hall
      rw [(hnone a).mpr (hall a ha)] at hsome
      cases hsome
  · rw [if_neg hpos]
    constructor
    · intro _ a ha
      rw [← hnone]
      by_contra hsome
      obtain ⟨blocked, hblocked⟩ := Option.ne_none_iff_exists'.mp hsome
      exact hpos (List.length_pos_of_mem (mem_blocked.mpr ⟨a, ha, hblocked⟩))
    · exact fun _ => rfl

/-- The decisions are alike: the same answer with the same addresses, in
whichever order. -/
def SameDecision : ResolvedAddressSetResult → ResolvedAddressSetResult → Prop
  | .ok version addresses, .ok version' addresses' =>
    version = version' ∧ ∀ a, a ∈ addresses ↔ a ∈ addresses'
  | .rejected version code blocked, .rejected version' code' blocked' =>
    version = version' ∧ code = code' ∧ ∀ b, b ∈ blocked.getD [] ↔ b ∈ blocked'.getD []
  | _, _ => False

theorem sameDecision_decideAddresses (ranges : List CidrRange) {first second : List Ip.Address}
    (h : ∀ a, a ∈ first ↔ a ∈ second) :
    SameDecision (decideAddresses ranges first) (decideAddresses ranges second) := by
  have hblocked : ∀ b,
      b ∈ (first.map ParsedIp.ofAddress).filterMap (blockedAddress ranges) ↔
        b ∈ (second.map ParsedIp.ofAddress).filterMap (blockedAddress ranges) := by
    intro b
    rw [mem_blocked, mem_blocked]
    simp only [h]
  rw [decideAddresses, decideAddresses]
  by_cases hpos : 0 < ((first.map ParsedIp.ofAddress).filterMap (blockedAddress ranges)).length
  · obtain ⟨b, hb⟩ := List.exists_mem_of_length_pos hpos
    rw [if_pos hpos, if_pos (List.length_pos_of_mem ((hblocked b).mp hb))]
    exact ⟨rfl, rfl, hblocked⟩
  · rw [if_neg hpos, if_neg]
    · refine ⟨rfl, fun a => ?_⟩
      simp only [List.mem_map, h]
    · intro hpos'
      obtain ⟨b, hb⟩ := List.exists_mem_of_length_pos hpos'
      exact hpos (List.length_pos_of_mem ((hblocked b).mpr hb))

/-- The lists mean the same: they denote the same addresses, and one of them has
an entry that denotes none exactly when the other has. -/
def SameMeaning (entries others : List String) : Prop :=
  (∀ a, (∃ entry ∈ entries, Ip.Denotes entry.toList a) ↔
    ∃ entry ∈ others, Ip.Denotes entry.toList a) ∧
  ((∃ entry ∈ entries, ¬ ∃ a, Ip.Denotes entry.toList a) ↔
    ∃ entry ∈ others, ¬ ∃ a, Ip.Denotes entry.toList a)

theorem isSome_snapshot_of_isOk {entries configured : List String}
    (h : (classifyResolvedAddressSet (.strings entries) (.strings configured)).isOk = true) :
    (snapshotConfiguredInternalCidrs (.strings configured)).isSome = true := by
  obtain ⟨hpos, hmax⟩ := isOk_withinLimit h
  cases hsnapshot : snapshotConfiguredInternalCidrs (.strings configured) with
  | some result => rfl
  | none =>
    rw [UnknownList.strings, classifyResolvedAddressSet] at h
    dsimp only at h
    rw [List.length_map, if_neg (by omega), if_neg (by rw [maxResolvedAddresses]; omega),
      hsnapshot] at h
    cases h

theorem isOk_iff {entries configured : List String}
    (hconfigured : (snapshotConfiguredInternalCidrs (.strings configured)).isSome = true) :
    (classifyResolvedAddressSet (.strings entries) (.strings configured)).isOk = true ↔
      WithinLimit entries ∧
        ∀ entry ∈ entries, ∃ a, Ip.Denotes entry.toList a ∧ Permitted configured a := by
  obtain ⟨ranges, hranges⟩ := exists_ranges hconfigured
  constructor
  · intro h
    have hlimit := isOk_withinLimit h
    refine ⟨hlimit, ?_⟩
    by_cases hliterals : ∀ entry ∈ entries, ∃ a, Ip.Denotes entry.toList a
    · obtain ⟨distinct, -, hmem, hdecision⟩ :=
        classify_literals hconfigured hlimit hranges hliterals
      rw [hdecision, isOk_decideAddresses hranges] at h
      intro entry hentry
      obtain ⟨a, ha⟩ := hliterals entry hentry
      exact ⟨a, ha, h a ((hmem a).mpr ⟨entry, hentry, ha⟩)⟩
    · simp only [not_forall] at hliterals
      obtain ⟨entry, hentry, hnot⟩ := hliterals
      rw [classify_not_literal hconfigured hlimit ⟨entry, hentry, hnot⟩] at h
      cases h
  · rintro ⟨hlimit, hpermitted⟩
    have hliterals : ∀ entry ∈ entries, ∃ a, Ip.Denotes entry.toList a := by
      intro entry hentry
      obtain ⟨a, ha, -⟩ := hpermitted entry hentry
      exact ⟨a, ha⟩
    obtain ⟨distinct, -, hmem, hdecision⟩ := classify_literals hconfigured hlimit hranges hliterals
    rw [hdecision, isOk_decideAddresses hranges]
    intro a ha
    obtain ⟨entry, hentry, hdenotes⟩ := (hmem a).mp ha
    obtain ⟨b, hb, hb'⟩ := hpermitted entry hentry
    rwa [denotes_unique hdenotes hb]

/-- The destination policy is exact, and it decides on the set of addresses that
the entries denote. -/
theorem classifyResolvedAddressSet_exact (entries configured : List String)
    (hconfigured : (snapshotConfiguredInternalCidrs (.strings configured)).isSome = true) :
    ((classifyResolvedAddressSet (.strings entries) (.strings configured)).isOk = true ↔
      (1 ≤ entries.length ∧ entries.length ≤ 64) ∧
        ∀ entry ∈ entries, (isIP entry.toList ≠ 0 ∧ '%' ∉ entry.toList) ∧
          ∀ a, Ip.Denotes entry.toList a → Permitted configured a) ∧
    (∀ others, (1 ≤ entries.length ∧ entries.length ≤ 64) →
      (1 ≤ others.length ∧ others.length ≤ 64) → SameMeaning entries others →
      SameDecision (classifyResolvedAddressSet (.strings entries) (.strings configured))
        (classifyResolvedAddressSet (.strings others) (.strings configured))) ∧
    (∀ version addresses,
      classifyResolvedAddressSet (.strings entries) (.strings configured) = .ok version addresses →
      (addresses.map (·.address)).Nodup ∧ ∀ address, address ∈ addresses ↔
        ∃ a, (∃ entry ∈ entries, Ip.Denotes entry.toList a) ∧ address.family = a.family ∧
          address.address = String.ofList (addressText a) ∧
          Ip.Denotes address.address.toList a) ∧
    ∀ more, configured.Subperm more →
      (classifyResolvedAddressSet (.strings entries) (.strings more)).isOk = true →
      (classifyResolvedAddressSet (.strings entries) (.strings configured)).isOk = true := by
  obtain ⟨ranges, hranges⟩ := exists_ranges hconfigured
  refine ⟨?_, ?_, ?_, ?_⟩
  · rw [isOk_iff hconfigured]
    refine and_congr_right fun _ => forall₂_congr fun entry _ => ?_
    rw [isLiteral_iff]
    constructor
    · rintro ⟨a, ha, hpermitted⟩
      refine ⟨⟨a, ha⟩, fun b hb => ?_⟩
      rwa [denotes_unique hb ha]
    · rintro ⟨⟨a, ha⟩, hpermitted⟩
      exact ⟨a, ha, hpermitted a ha⟩
  · intro others hentries hothers hmeaning
    by_cases hliterals : ∀ entry ∈ entries, ∃ a, Ip.Denotes entry.toList a
    · have hliterals' : ∀ entry ∈ others, ∃ a, Ip.Denotes entry.toList a := by
        by_contra hnot
        simp only [not_forall] at hnot
        obtain ⟨entry, hentry, hnone⟩ := hnot
        obtain ⟨bad, hbad, hbadNone⟩ := hmeaning.2.mpr ⟨entry, hentry, hnone⟩
        exact hbadNone (hliterals bad hbad)
      obtain ⟨first, -, hfirst, hdecision⟩ :=
        classify_literals hconfigured hentries hranges hliterals
      obtain ⟨second, -, hsecond, hdecision'⟩ :=
        classify_literals hconfigured hothers hranges hliterals'
      rw [hdecision, hdecision']
      apply sameDecision_decideAddresses
      intro a
      rw [hfirst, hsecond, hmeaning.1 a]
    · simp only [not_forall] at hliterals
      obtain ⟨entry, hentry, hnone⟩ := hliterals
      rw [classify_not_literal hconfigured hentries ⟨entry, hentry, hnone⟩,
        classify_not_literal hconfigured hothers (hmeaning.2.mp ⟨entry, hentry, hnone⟩)]
      exact ⟨rfl, rfl, fun b => Iff.rfl⟩
  · intro version addresses hok
    have hisOk : (classifyResolvedAddressSet (.strings entries) (.strings configured)).isOk = true := by
      rw [hok]
      rfl
    obtain ⟨hlimit, hpermitted⟩ := (isOk_iff hconfigured).mp hisOk
    have hliterals : ∀ entry ∈ entries, ∃ a, Ip.Denotes entry.toList a := by
      intro entry hentry
      obtain ⟨a, ha, -⟩ := hpermitted entry hentry
      exact ⟨a, ha⟩
    obtain ⟨distinct, hnodup, hmem, hdecision⟩ :=
      classify_literals hconfigured hlimit hranges hliterals
    rw [hok, decideAddresses] at hdecision
    split at hdecision
    · cases hdecision
    · cases hdecision
      constructor
      · rw [List.map_map]
        apply hnodup.map
        intro a b hab
        apply addressText_injective
        exact String.ofList_injective hab
      · intro address
        rw [List.mem_map]
        constructor
        · rintro ⟨a, ha, rfl⟩
          refine ⟨a, (hmem a).mp ha, rfl, rfl, ?_⟩
          rw [canonicalAddress, ParsedIp.ofAddress, String.toList_ofList]
          exact denotes_addressText a
        · rintro ⟨a, ha, hfamily, htext, -⟩
          refine ⟨a, (hmem a).mpr ha, ?_⟩
          obtain ⟨text, family⟩ := address
          dsimp only at hfamily htext
          rw [hfamily, htext]
          rfl
  · intro more hsubperm hok
    have hmore := isSome_snapshot_of_isOk hok
    obtain ⟨hlimit, hpermitted⟩ := (isOk_iff hmore).mp hok
    rw [isOk_iff hconfigured]
    refine ⟨hlimit, fun entry hentry => ?_⟩
    obtain ⟨a, ha, hbuiltIn, hranges', hunicast⟩ := hpermitted entry hentry
    exact ⟨a, ha, hbuiltIn, fun cidr hcidr => hranges' cidr (hsubperm.subset hcidr), hunicast⟩

def sampleEntries : List String := ["8.8.8.8", "2001:4860:4860:0::8888", "2001:4860:4860::8888"]

/-- Two of three texts denote one address, and both addresses are public. -/
theorem classifyResolvedAddressSet_sample :
    (classifyResolvedAddressSet (.strings sampleEntries) (.strings ["10.0.0.0/8"])).isOk = true ∧
      ∀ entry ∈ sampleEntries, ∀ a, Ip.Denotes entry.toList a → Permitted ["10.0.0.0/8"] a := by
  have hconfigured :
      (snapshotConfiguredInternalCidrs (.strings ["10.0.0.0/8"])).isSome = true := by
    decide +kernel
  have hok : (classifyResolvedAddressSet (.strings sampleEntries)
      (.strings ["10.0.0.0/8"])).isOk = true := by
    decide +kernel
  have hexact := classifyResolvedAddressSet_exact sampleEntries ["10.0.0.0/8"] hconfigured
  exact ⟨hok, fun entry hentry => ((hexact.1.mp hok).2 entry hentry).2⟩

/-- One entry repeated beyond the limit turns an accepted list into a rejected
one, although both lists mean the same. -/
theorem repetition_beyond_limit :
    SameMeaning ["8.8.8.8"] (List.replicate 65 "8.8.8.8") ∧
      (classifyResolvedAddressSet (.strings ["8.8.8.8"]) (.strings [])).isOk = true ∧
      (classifyResolvedAddressSet (.strings (List.replicate 65 "8.8.8.8")) (.strings [])).isOk =
        false := by
  refine ⟨⟨fun a => ?_, ?_⟩, by decide +kernel, by decide +kernel⟩
  · simp
  · simp

end Outscan

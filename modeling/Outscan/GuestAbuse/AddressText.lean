import Outscan.GuestAbuse.NetworkAddress

/-! The canonical text of an address: which zeros are left out, and that both
parsers write the same text for the same address. -/
namespace Outscan

/-! ### The zeros that are left out -/

/-- `count` zeros stand from `start` on. -/
def ZeroRun (groups : List Nat) (start count : Nat) : Prop :=
  ∀ i < count, groups[start + i]? = some 0

/-- No run of zeros is longer, and none as long starts earlier. -/
structure LeftmostLongest (groups : List Nat) (start count : Nat) : Prop where
  run : ZeroRun groups start count
  longest : ∀ s n, ZeroRun groups s n → n ≤ count
  leftmost : ∀ s, ZeroRun groups s count → start ≤ s

theorem zeroRun_nil {start count : Nat} (h : ZeroRun [] start count) : count = 0 := by
  by_contra hne
  have hfirst := h 0 (Nat.pos_of_ne_zero hne)
  simp at hfirst

theorem zeroRun_append (before : List Nat) {groups : List Nat} {start count : Nat} :
    ZeroRun (before ++ groups) (before.length + start) count ↔ ZeroRun groups start count := by
  unfold ZeroRun
  apply forall_congr'
  intro i
  rw [Nat.add_assoc, List.getElem?_append_right (Nat.le_add_right _ _), Nat.add_sub_cancel_left]

theorem zeroRun_replicate_append {count : Nat} {groups : List Nat} :
    ZeroRun (List.replicate count 0 ++ groups) 0 count := by
  intro i hi
  rw [Nat.zero_add, List.getElem?_append_left (by simpa using hi), List.getElem?_replicate_of_lt hi]

theorem ZeroRun.of_cons {group : Nat} {rest : List Nat} {start count : Nat} (hgroup : group ≠ 0)
    (hcount : 0 < count) (h : ZeroRun (group :: rest) start count) :
    ∃ s, start = 1 + s ∧ ZeroRun rest s count := by
  cases start with
  | zero =>
    have hfirst := h 0 hcount
    rw [Nat.zero_add, List.getElem?_cons_zero] at hfirst
    exact absurd (Option.some.inj hfirst) hgroup
  | succ s =>
    rw [Nat.add_comm s 1] at h
    exact ⟨s, Nat.add_comm s 1, (zeroRun_append [group]).mp h⟩

theorem ZeroRun.of_zeros {zeros : Nat} {rest : List Nat} {start count : Nat}
    (hrest : rest[0]? ≠ some 0)
    (h : ZeroRun (List.replicate zeros 0 ++ rest) start count) :
    start + count ≤ zeros ∨ ∃ s, start = zeros + s ∧ ZeroRun rest s count := by
  have hlength : (List.replicate zeros 0 : List Nat).length = zeros := List.length_replicate
  by_cases hin : start + count ≤ zeros
  · exact .inl hin
  · right
    by_cases hstart : zeros ≤ start
    · obtain ⟨s, rfl⟩ := Nat.exists_eq_add_of_le hstart
      refine ⟨s, rfl, ?_⟩
      rw [← zeroRun_append (List.replicate zeros 0), hlength]
      exact h
    · -- The run would hold the group right behind the zeros.
      have hbehind := h (zeros - start) (by omega)
      rw [Nat.add_sub_cancel' (by omega), List.getElem?_append_right (by rw [hlength]), hlength,
        Nat.sub_self] at hbehind
      exact absurd hbehind hrest

theorem dropWhile_zeros_getElem? (groups : List Nat) :
    (groups.dropWhile (· = 0))[0]? ≠ some 0 := by
  induction groups with
  | nil => simp
  | cons group rest ih =>
    by_cases hzero : group = 0
    · rw [List.dropWhile_cons_of_pos (by simpa using hzero)]
      exact ih
    · rw [List.dropWhile_cons_of_neg (by simpa using hzero)]
      simpa using hzero

/-- What the search makes of the rest of the groups: no run in it is longer than
the one returned, which is the given one unless a longer one comes first. -/
structure Searched (groups : List Nat) (index : Nat) (best found : Nat × Nat) : Prop where
  longest : ∀ s n, ZeroRun groups s n → n ≤ found.2
  kept : best.2 ≤ found.2
  origin : found = best ∨ best.2 < found.2 ∧ ∃ s, found.1 = index + s ∧
    ZeroRun groups s found.2 ∧ ∀ s', ZeroRun groups s' found.2 → s ≤ s'

theorem bestZeroRun_searched (groups : List Nat) (index : Nat) (best : Nat × Nat) :
    Searched groups index best (bestZeroRun groups index best) := by
  induction hlength : groups.length using Nat.strong_induction_on generalizing groups index best with
  | _ n ih =>
    subst hlength
    cases groups with
    | nil =>
      rw [bestZeroRun]
      exact ⟨fun s n h => (zeroRun_nil h).trans_le (Nat.zero_le _), Nat.le_refl _, .inl rfl⟩
    | cons group rest =>
      rw [bestZeroRun]
      split
      · rename_i hgroup
        have hrest := ih rest.length (by simp) rest (index + 1) best rfl
        generalize bestZeroRun rest (index + 1) best = found at hrest
        refine ⟨fun s n h => ?_, hrest.kept, hrest.origin.imp_right ?_⟩
        · rcases Nat.eq_zero_or_pos n with rfl | hpos
          · exact Nat.zero_le _
          · obtain ⟨s, -, hrun⟩ := h.of_cons hgroup hpos
            exact hrest.longest s n hrun
        · rintro ⟨hlt, s, hs, hrun, hleft⟩
          refine ⟨hlt, 1 + s, by omega, (zeroRun_append [group]).mpr hrun, ?_⟩
          intro s' hs'
          obtain ⟨t, rfl, ht⟩ := hs'.of_cons hgroup (by omega)
          exact Nat.add_le_add_left (hleft t ht) 1
      · rename_i hzero
        dsimp only
        have hgroups := takeWhile_zeros (group :: rest)
        rw [List.takeWhile_cons_of_pos (by simpa using hzero), List.length_cons,
          List.dropWhile_cons_of_pos (by simpa using hzero), Nat.add_comm] at hgroups
        generalize hzeros : 1 + (rest.takeWhile (· = 0)).length = zeros at hgroups ⊢
        have hshort : (rest.dropWhile (· = 0)).length < (group :: rest).length :=
          Nat.lt_succ_of_le (List.dropWhile_sublist _).length_le
        have hbehind := dropWhile_zeros_getElem? rest
        generalize hnext : (if zeros > best.2 then (index, zeros) else best) = next
        have hbest : best.2 ≤ next.2 ∧ zeros ≤ next.2 := by
          rw [← hnext]
          split
          · rename_i hlonger
            exact ⟨Nat.le_of_lt hlonger, Nat.le_refl _⟩
          · rename_i hlonger
            exact ⟨Nat.le_refl _, Nat.le_of_not_gt hlonger⟩
        have hrest := ih _ hshort (rest.dropWhile (· = 0)) (index + zeros) next rfl
        generalize bestZeroRun (rest.dropWhile (· = 0)) (index + zeros) next = found at hrest
        have hkept := hrest.kept
        rw [hgroups]
        refine ⟨fun s n h => ?_, by omega, ?_⟩
        · rcases Nat.eq_zero_or_pos n with rfl | hpos
          · exact Nat.zero_le _
          · rcases h.of_zeros hbehind with hin | ⟨t, -, ht⟩
            · omega
            · exact hrest.longest t n ht
        · rcases hrest.origin with hsame | ⟨hlt, s, hs, hrun, hleft⟩
          · rw [hsame, ← hnext]
            split
            · rename_i hlonger
              exact .inr ⟨hlonger, 0, rfl, zeroRun_replicate_append, fun s' _ => Nat.zero_le _⟩
            · exact .inl rfl
          · -- A run found later is longer than the zeros in front.
            refine .inr ⟨by omega, zeros + s, by omega, ?_, ?_⟩
            · have happend : ZeroRun (List.replicate zeros 0 ++ rest.dropWhile (· = 0))
                  ((List.replicate zeros 0).length + s) found.2 ↔ _ := zeroRun_append _
              rw [List.length_replicate] at happend
              exact happend.mpr hrun
            · intro s' hs'
              rcases hs'.of_zeros hbehind with hin | ⟨t, rfl, ht⟩
              · omega
              · exact Nat.add_le_add_left (hleft t ht) zeros

/-- The text leaves out the first of the longest runs of two zeros or more. -/
theorem formatIpv6_cases (groups : List Nat) :
    ((∀ start, ¬ ZeroRun groups start 2) ∧ formatIpv6 groups = joinGroups groups) ∨
      ∃ start count, 2 ≤ count ∧ LeftmostLongest groups start count ∧
        formatIpv6 groups = joinGroups (groups.take start) ++ ':' :: ':' ::
          joinGroups (groups.drop (start + count)) := by
  have hsearch := bestZeroRun_searched groups 0 (0, 0)
  unfold formatIpv6
  dsimp only
  generalize bestZeroRun groups 0 (0, 0) = found at hsearch
  split
  · rename_i hshort
    refine .inl ⟨fun start hrun => ?_, rfl⟩
    have hle := hsearch.longest start 2 hrun
    omega
  · rename_i hlong
    rcases hsearch.origin with rfl | ⟨-, s, hs, hrun, hleft⟩
    · exact absurd Nat.zero_lt_two hlong
    · rw [Nat.zero_add] at hs
      subst hs
      exact .inr ⟨found.1, found.2, Nat.le_of_not_lt hlong, ⟨hrun, hsearch.longest, hleft⟩, rfl⟩

/-! ### Parsing what is written -/

theorem parseIp_formatIpv6 {groups : List Nat} (hlength : groups.length = 8)
    (hlt : ∀ g ∈ groups, g < 2 ^ 16) :
    parseIp (String.ofList (formatIpv6 groups)) =
      some { address := String.ofList (formatIpv6 groups), family := .v6, bits := 128,
             value := Ip.ofWords 16 groups } := by
  rw [parseIp_eq_some]
  refine ⟨groupsAddress groups hlength hlt, ?_, ?_⟩
  · rw [String.toList_ofList, ← addressText_groupsAddress hlength hlt]
    exact denotes_addressText _
  · rw [ParsedIp.ofAddress, addressText_groupsAddress]
    rfl

theorem parseIp_address_eq_iff {first second : String} {a b : ParsedIp}
    (ha : parseIp first = some a) (hb : parseIp second = some b) :
    a.address = b.address ↔ a.family = b.family ∧ a.value = b.value := by
  obtain ⟨x, -, rfl⟩ := parseIp_eq_some.mp ha
  obtain ⟨y, -, rfl⟩ := parseIp_eq_some.mp hb
  constructor
  · intro htext
    have hsame : x = y := addressText_injective (String.ofList_inj.mp htext)
    rw [hsame]
    exact ⟨rfl, rfl⟩
  · rintro ⟨hfamily, hvalue⟩
    have hsame : x = y := Ip.Address.ext hfamily hvalue
    rw [hsame]

theorem parseNetworkAddress_isSome (text : String) :
    (parseNetworkAddress (.string text)).isSome = (parseIp text).isSome := by
  rw [Bool.eq_iff_iff, Option.isSome_iff_exists, Option.isSome_iff_exists]
  constructor
  · rintro ⟨_, h⟩
    obtain ⟨a, ha, -⟩ := parseNetworkAddress_eq_some.mp h
    exact ⟨_, parseIp_eq_some.mpr ⟨a, ha, rfl⟩⟩
  · rintro ⟨_, h⟩
    obtain ⟨a, ha, -⟩ := parseIp_eq_some.mp h
    exact ⟨_, parseNetworkAddress_eq_some.mpr ⟨a, ha, rfl⟩⟩

def ParsedIp.Mapped (parsed : ParsedIp) : Prop :=
  parsed.family = .v6 ∧ parsed.value / 2 ^ 32 = 0xffff

theorem parseNetworkAddress_of_parseIp {text : String} {parsed : ParsedIp}
    (h : parseIp text = some parsed) (hmapped : ¬ parsed.Mapped) :
    ∃ other, parseNetworkAddress (.string text) = some other ∧ other.family = parsed.family ∧
      other.value = parsed.value ∧ other.canonicalAddress = parsed.address := by
  obtain ⟨a, ha, rfl⟩ := parseIp_eq_some.mp h
  refine ⟨_, parseNetworkAddress_eq_some.mpr ⟨a, ha, rfl⟩, ?_⟩
  rw [Ip.Address.unmapped_of_not_mapped hmapped]
  exact ⟨rfl, rfl, rfl⟩

/-- The canonical text leaves out the first of the longest runs of zeros and is
read back; two texts have one canonical text exactly when they denote one address;
and both parsers agree on what is not mapped. -/
theorem canonical_address_text :
    (∀ groups : List Nat, groups.length = 8 → (∀ g ∈ groups, g < 2 ^ 16) →
      (((∀ start, ¬ ZeroRun groups start 2) ∧ formatIpv6 groups = joinGroups groups) ∨
        ∃ start count, 2 ≤ count ∧ LeftmostLongest groups start count ∧
          formatIpv6 groups = joinGroups (groups.take start) ++ ':' :: ':' ::
            joinGroups (groups.drop (start + count))) ∧
      parseIp (String.ofList (formatIpv6 groups)) =
        some { address := String.ofList (formatIpv6 groups), family := .v6, bits := 128,
               value := Ip.ofWords 16 groups }) ∧
    (∀ (first second : String) (a b : ParsedIp), parseIp first = some a → parseIp second = some b →
      (a.address = b.address ↔ a.family = b.family ∧ a.value = b.value)) ∧
    ∀ text : String, (parseNetworkAddress (.string text)).isSome = (parseIp text).isSome ∧
      ∀ parsed, parseIp text = some parsed → ¬ parsed.Mapped →
        ∃ other, parseNetworkAddress (.string text) = some other ∧ other.family = parsed.family ∧
          other.value = parsed.value ∧ other.canonicalAddress = parsed.address := by
  refine ⟨fun groups hlength hlt => ⟨formatIpv6_cases groups, parseIp_formatIpv6 hlength hlt⟩,
    fun _ _ _ _ => parseIp_address_eq_iff,
    fun text => ⟨parseNetworkAddress_isSome text, fun _ => parseNetworkAddress_of_parseIp⟩⟩

/-- Of two runs of two zeros the first is left out: `1::2:3:0:0:4`. -/
theorem canonical_address_text_sample :
    parseIp (String.ofList (formatIpv6 [1, 0, 0, 2, 3, 0, 0, 4])) =
      some ⟨⟨"1::2:3:0:0:4", .v6⟩, 128, 0x00010000000000020003000000000004⟩ ∧
    (∃ a b, parseIp "2001:DB8:0::1" = some a ∧ parseIp "2001:db8::0:1" = some b ∧
      a.address = b.address) ∧
    ∃ parsed other, parseIp "2001:db8::0:1" = some parsed ∧
      parseNetworkAddress (.string "2001:db8::0:1") = some other ∧
      other.canonicalAddress = parsed.address := by
  have hfirst : parseIp "2001:DB8:0::1" =
      some ⟨⟨"2001:db8::1", .v6⟩, 128, 0x20010db8000000000000000000000001⟩ := by decide +kernel
  have hsecond : parseIp "2001:db8::0:1" =
      some ⟨⟨"2001:db8::1", .v6⟩, 128, 0x20010db8000000000000000000000001⟩ := by decide +kernel
  refine ⟨?_, ⟨_, _, hfirst, hsecond, ?_⟩, ?_⟩
  · rw [(canonical_address_text.1 [1, 0, 0, 2, 3, 0, 0, 4] rfl (by decide)).2]
    decide +kernel
  · exact (canonical_address_text.2.1 _ _ _ _ hfirst hsecond).mpr ⟨rfl, rfl⟩
  · obtain ⟨other, hother, -, -, htext⟩ :=
      (canonical_address_text.2.2 _).2 _ hsecond (by rintro ⟨-, h⟩; exact absurd h (by decide))
    exact ⟨_, other, hsecond, hother, htext⟩

end Outscan

import Outscan.GuestAbuse.NetworkAddress

/-! What the text of a trusted network says, read in the notation it is written in. -/
namespace Outscan

theorem mem_intercalate_of_two {sep : Char} {first second : List Char} {rest : List (List Char)} :
    sep ∈ [sep].intercalate (first :: second :: rest) := by
  rw [List.intercalate_cons_cons]
  simp

theorem isTail_length {texts : List (List Char)} {groups : List Nat} (h : Ip.IsTail texts groups) :
    groups.length ≤ texts.length + 1 := by
  induction h with
  | nil => simp
  | quad h => simp
  | group h _ ih => simpa using ih

theorem colon_mem_iff {text : List Char} {a : Ip.Address} (h : Ip.Denotes text a) :
    ':' ∈ text ↔ a.family = .v6 := by
  unfold Ip.Denotes at h
  split at h
  · rename_i hfamily
    obtain ⟨octets, hquad, -⟩ := h
    rw [hfamily]
    exact iff_of_false (hquad.not_mem (by decide) (by decide)) (by decide)
  · rename_i hfamily
    obtain ⟨groups, hgroups, -⟩ := h
    refine iff_of_true ?_ hfamily
    cases hgroups with
    | full htail hlength =>
      have hcount := isTail_length htail
      rename_i texts
      match texts with
      | [] => simp [hlength] at hcount
      | [_] => simp [hlength] at hcount
      | first :: second :: rest => exact mem_intercalate_of_two
    | compressed _ _ _ => simp

/-- A trusted network holds an address of its notation exactly if the two agree in
the written prefix, where the prefix of a mapped base counts from the end of the
mapping, and no base that is not mapped holds a mapped address. -/
theorem networkCidrContains_written {cidr text : String} {range : ParsedNetworkCidr}
    {parsed : ParsedNetworkAddress} (hrange : parseNetworkCidr (.string cidr) = some range)
    (hparsed : parseNetworkAddress (.string text) = some parsed) :
    ∃ base length a b, cidr.toList = base ++ '/' :: Nat.toDigits 10 length ∧
      Ip.Denotes base a ∧ Ip.Denotes text.toList b ∧ length ≤ a.unmapped.family.bits ∧
      ((':' ∈ base ↔ ':' ∈ text.toList) →
        (networkCidrContains range parsed = true ↔
          (b.Mapped → a.Mapped) ∧
            Ip.SameNetwork (if a.Mapped then 96 + length else length) a b)) := by
  obtain ⟨base, length, _, hcidr, ⟨a, ha, rfl⟩, hlength, rfl⟩ := parseNetworkCidr_eq_some hrange
  obtain ⟨b, hb, rfl⟩ := parseNetworkAddress_eq_some.mp hparsed
  refine ⟨base, length, a, b, hcidr, ha, hb, hlength, fun hfamily => ?_⟩
  rw [networkCidrContains_ofNetwork]
  by_cases hmappedA : a.Mapped
  · rw [if_pos hmappedA]
    by_cases hmappedB : b.Mapped
    · rw [Ip.sameNetwork_unmapped hmappedA hmappedB]
      exact ⟨fun h => ⟨fun _ => hmappedA, h⟩, fun h => h.2⟩
    · have hfamily : b.family = .v6 :=
        (colon_mem_iff hb).mp (hfamily.mp ((colon_mem_iff ha).mpr hmappedA.1))
      rw [Ip.Address.unmapped_of_mapped hmappedA, Ip.Address.unmapped_of_not_mapped hmappedB]
      constructor
      · intro h
        rw [Ip.SameNetwork, hfamily] at h
        cases h.1
      · intro h
        exact absurd (Ip.mapped_of_sameNetwork hmappedA h.2) hmappedB
  · rw [if_neg hmappedA, Ip.Address.unmapped_of_not_mapped hmappedA]
    by_cases hmappedB : b.Mapped
    · have hfamily : a.family = .v6 :=
        (colon_mem_iff ha).mp (hfamily.mpr ((colon_mem_iff hb).mpr hmappedB.1))
      rw [Ip.Address.unmapped_of_mapped hmappedB]
      constructor
      · intro h
        rw [Ip.SameNetwork, hfamily] at h
        cases h.1
      · intro h
        exact absurd (h.1 hmappedB) hmappedA
    · rw [Ip.Address.unmapped_of_not_mapped hmappedB]
      exact ⟨fun h => ⟨fun hb => absurd hb hmappedB, h⟩, fun h => h.2⟩

theorem contains_of_decided {cidr text : String} {answer : Bool}
    (h : ((parseNetworkCidr (.string cidr)).bind fun range =>
      (parseNetworkAddress (.string text)).map (networkCidrContains range)) = some answer) :
    ∃ range parsed, parseNetworkCidr (.string cidr) = some range ∧
      parseNetworkAddress (.string text) = some parsed ∧
      networkCidrContains range parsed = answer := by
  obtain ⟨range, hrange, hmap⟩ := Option.bind_eq_some_iff.mp h
  obtain ⟨parsed, hparsed, hanswer⟩ := Option.map_eq_some_iff.mp hmap
  exact ⟨range, parsed, hrange, hparsed, hanswer⟩

theorem networkCidrContains_written_private :
    ∃ base length a b, "10.0.0.0/8".toList = base ++ '/' :: Nat.toDigits 10 length ∧
      Ip.Denotes base a ∧ Ip.Denotes "10.1.2.3".toList b ∧
      ((':' ∈ base ↔ ':' ∈ "10.1.2.3".toList) →
        (b.Mapped → a.Mapped) ∧ Ip.SameNetwork (if a.Mapped then 96 + length else length) a b) := by
  have hdecided : ((parseNetworkCidr (.string "10.0.0.0/8")).bind fun range =>
      (parseNetworkAddress (.string "10.1.2.3")).map (networkCidrContains range)) = some true := by
    decide +kernel
  obtain ⟨range, parsed, hrange, hparsed, hanswer⟩ := contains_of_decided hdecided
  obtain ⟨base, length, a, b, hcidr, ha, hb, -, hcontains⟩ :=
    networkCidrContains_written hrange hparsed
  exact ⟨base, length, a, b, hcidr, ha, hb, fun hfamily => (hcontains hfamily).mp hanswer⟩

theorem mappedNet_lt {n : Nat} (h : n < 2 ^ 8) :
    0xffff * 2 ^ 32 + n * 2 ^ 24 < 2 ^ Ip.Family.v6.bits := by
  simp only [Ip.Family.bits]
  omega

/-- `::ffff:n.0.0.0`, as written. -/
def mappedNet (n : Nat) (h : n < 2 ^ 8) : Ip.Address :=
  ⟨.v6, 0xffff * 2 ^ 32 + n * 2 ^ 24, mappedNet_lt h⟩

/-- The text `::ffff:n.0.0.0`, as its parts are joined. -/
def mappedText (n : Nat) : List Char :=
  [':'].intercalate [] ++ ':' :: ':' ::
    [':'].intercalate ["ffff".toList, ['.'].intercalate ([n, 0, 0, 0].map (Nat.toDigits 10))]

theorem denotes_mapped {n : Nat} (h : n < 2 ^ 8) : Ip.Denotes (mappedText n) (mappedNet n h) := by
  have hquad : Ip.IsQuad (['.'].intercalate ([n, 0, 0, 0].map (Nat.toDigits 10))) [n, 0, 0, 0] :=
    ⟨rfl, by simpa using h, rfl⟩
  have hgroup : Ip.IsGroup "ffff".toList 0xffff :=
    ⟨by decide, by decide, List.all_eq_true.mp (by decide), by decide⟩
  refine ⟨_, .compressed .nil (.group hgroup (.quad hquad)) (by simp), ?_⟩
  simp [mappedNet, Ip.ofWords]
  omega

/-- Two mapped spellings agree in the first eight bits they are written with, and
the network `::ffff:10.0.0.0/8` holds only one of them. -/
theorem networkCidrContains_mapped :
    ∃ base length a b text range parsed,
      parseNetworkCidr (.string "::ffff:10.0.0.0/8") = some range ∧
      parseNetworkAddress (.string text) = some parsed ∧
      "::ffff:10.0.0.0/8".toList = base ++ '/' :: Nat.toDigits 10 length ∧
      Ip.Denotes base a ∧ Ip.Denotes text.toList b ∧ ':' ∈ base ∧ ':' ∈ text.toList ∧
      Ip.SameNetwork length a b ∧ networkCidrContains range parsed = false := by
  have hdecided : ((parseNetworkCidr (.string "::ffff:10.0.0.0/8")).bind fun range =>
      (parseNetworkAddress (.string "::ffff:11.0.0.0")).map (networkCidrContains range)) =
      some false := by
    decide +kernel
  obtain ⟨range, parsed, hrange, hparsed, hanswer⟩ := contains_of_decided hdecided
  have htext : "::ffff:11.0.0.0".toList = mappedText 11 := by decide +kernel
  refine ⟨mappedText 10, 8, mappedNet 10 (by decide), mappedNet 11 (by decide),
    "::ffff:11.0.0.0", range, parsed, hrange, hparsed, by decide +kernel,
    denotes_mapped (by decide), htext ▸ denotes_mapped (by decide),
    by decide +kernel, by decide +kernel, ⟨rfl, fun i hi => ?_⟩, hanswer⟩
  have hsmall : ∀ n, (hn : n < 2 ^ 8) → (mappedNet n hn).value.testBit i = false := by
    intro n hn
    apply Nat.testBit_lt_two_pow
    calc (mappedNet n hn).value < 2 ^ 120 := by
          simp only [mappedNet]
          omega
      _ ≤ 2 ^ i := Nat.pow_le_pow_right (by decide) hi
  rw [hsmall, hsmall]

end Outscan

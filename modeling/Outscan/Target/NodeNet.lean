import Outscan.Library.IpAddress

/-! `isIP` of `node:net`: which texts are address literals. A host name only
has to know that it is none of them, whichever they are; the destination policy
depends on the exact grammar, so it is spelt out here. -/
namespace Outscan

open Numeral

def isOctetText (text : List Char) : Bool := isDecimal text && decide (value 10 text < 256)

def isIPv4 (text : List Char) : Bool :=
  let parts := text.splitOn '.'
  decide (parts.length = 4) && parts.all isOctetText

def isGroupText (text : List Char) : Bool :=
  decide (0 < text.length) && decide (text.length ≤ 4) && text.all (isDigit 16)

/-- How many groups the parts stand for; the last may be an address of the other
family, which stands for two. -/
def tailGroups : List (List Char) → Option Nat
  | [] => some 0
  | [last] => if isGroupText last then some 1 else if isIPv4 last then some 2 else none
  | text :: next :: rest =>
    if isGroupText text then (tailGroups (next :: rest)).map (· + 1) else none

def colonParts (text : List Char) : List (List Char) :=
  if text.isEmpty then [] else text.splitOn ':'

def isIPv6Address (text : List Char) : Bool :=
  match Split.splitOnPair ':' text with
  | [whole] => tailGroups (whole.splitOn ':') == some 8
  | [left, right] =>
    match tailGroups (colonParts right) with
    | some low =>
      (colonParts left).all isGroupText && decide ((colonParts left).length + low ≤ 7)
    | none => false
  | _ => false

def isZone (zone : List Char) : Bool :=
  !zone.isEmpty && zone.all fun c => c.isAlphanum || c == '-' || c == '.' || c == ':'

def isIPv6 (text : List Char) : Bool :=
  match text.splitOn '%' with
  | [address] => isIPv6Address address
  | [address, zone] => isIPv6Address address && isZone zone
  | _ => false

def isIP (text : List Char) : Nat :=
  if isIPv4 text then 4 else if isIPv6 text then 6 else 0

/-! ### The literals denote addresses -/

theorem isOctetText_iff {text : List Char} :
    isOctetText text = true ↔ ∃ octet, octet < 2 ^ 8 ∧ text = Nat.toDigits 10 octet := by
  rw [isOctetText, Bool.and_eq_true, decide_eq_true_eq]
  constructor
  · rintro ⟨hdecimal, hlt⟩
    exact ⟨value 10 text, hlt, (toDigits_value hdecimal).symm⟩
  · rintro ⟨octet, hlt, rfl⟩
    rw [value_toDigits (by omega) (by omega)]
    exact ⟨isDecimal_toDigits octet, hlt⟩

theorem isGroupText_iff {text : List Char} :
    isGroupText text = true ↔ ∃ group, Ip.IsGroup text group := by
  simp only [isGroupText, Bool.and_eq_true, decide_eq_true_eq, List.all_eq_true, Ip.IsGroup,
    List.length_pos_iff]
  constructor
  · rintro ⟨⟨hne, hlength⟩, hdigits⟩
    exact ⟨_, hne, hlength, hdigits, rfl⟩
  · rintro ⟨group, hne, hlength, hdigits, -⟩
    exact ⟨⟨hne, hlength⟩, hdigits⟩

theorem isIPv4_iff {text : List Char} : isIPv4 text = true ↔ ∃ octets, Ip.IsQuad text octets := by
  simp only [isIPv4, Bool.and_eq_true, decide_eq_true_eq, List.all_eq_true]
  constructor
  · rintro ⟨hlength, hparts⟩
    refine ⟨(text.splitOn '.').map (value 10), by simpa using hlength, ?_, ?_⟩
    · intro octet hoctet
      obtain ⟨part, hpart, rfl⟩ := List.mem_map.mp hoctet
      obtain ⟨octet, hlt, rfl⟩ := isOctetText_iff.mp (hparts part hpart)
      rwa [value_toDigits (by omega) (by omega)]
    · have hback : (text.splitOn '.').map (Nat.toDigits 10 ∘ value 10) = text.splitOn '.' := by
        conv_rhs => rw [← List.map_id (text.splitOn '.')]
        apply List.map_congr_left
        intro part hpart
        have hoctet := hparts part hpart
        rw [isOctetText, Bool.and_eq_true] at hoctet
        exact toDigits_value hoctet.1
      rw [List.map_map, hback, List.intercalate_splitOn]
  · rintro ⟨octets, hlength, hlt, rfl⟩
    have hdots : ∀ part ∈ octets.map (Nat.toDigits 10), '.' ∉ part := by
      intro part hpart
      obtain ⟨octet, -, rfl⟩ := List.mem_map.mp hpart
      intro hdot
      have := isDigit_of_mem_toDigits (by omega) (by omega) octet '.' hdot
      exact absurd this (by decide)
    have hne : octets.map (Nat.toDigits 10) ≠ [] := by
      intro hnil
      rw [List.map_eq_nil_iff] at hnil
      rw [hnil] at hlength
      cases hlength
    rw [List.splitOn_intercalate '.' hdots hne]
    refine ⟨by simpa using hlength, ?_⟩
    intro part hpart
    obtain ⟨octet, hoctet, rfl⟩ := List.mem_map.mp hpart
    exact isOctetText_iff.mpr ⟨octet, hlt octet hoctet, rfl⟩

theorem isGroupText_of_isQuad {text : List Char} {octets : List Nat} (h : Ip.IsQuad text octets) :
    isGroupText text = false := by
  obtain ⟨hlength, -, rfl⟩ := h
  match octets, hlength with
  | [a, b, c, d], _ =>
    rw [← Bool.not_eq_true, isGroupText_iff]
    rintro ⟨group, hgroup⟩
    apply hgroup.not_mem (c := '.') (by decide)
    simp [List.intercalate_cons_cons]

theorem tailGroups_eq_some {texts : List (List Char)} {count : Nat} :
    tailGroups texts = some count ↔ ∃ groups, Ip.IsTail texts groups ∧ groups.length = count := by
  constructor
  · intro h
    induction texts using tailGroups.induct generalizing count with
    | case1 =>
      cases h
      exact ⟨[], .nil, rfl⟩
    | case2 last hgroup =>
      rw [tailGroups, if_pos hgroup] at h
      obtain ⟨group, hgroup⟩ := isGroupText_iff.mp hgroup
      cases h
      exact ⟨[group], .group hgroup .nil, rfl⟩
    | case3 last hgroup hquad =>
      rw [tailGroups, if_neg hgroup, if_pos hquad] at h
      obtain ⟨octets, hquad⟩ := isIPv4_iff.mp hquad
      cases h
      match octets, hquad.1 with
      | [a, b, c, d], _ => exact ⟨_, .quad hquad, rfl⟩
    | case4 last hgroup hquad =>
      rw [tailGroups, if_neg hgroup, if_neg hquad] at h
      cases h
    | case5 text next rest hgroup ih =>
      rw [tailGroups, if_pos hgroup] at h
      obtain ⟨group, hgroup⟩ := isGroupText_iff.mp hgroup
      obtain ⟨restCount, hrest, rfl⟩ := Option.map_eq_some_iff.mp h
      obtain ⟨groups, htail, rfl⟩ := ih hrest
      exact ⟨group :: groups, .group hgroup htail, rfl⟩
    | case6 text next rest hgroup =>
      rw [tailGroups, if_neg hgroup] at h
      cases h
  · rintro ⟨groups, htail, rfl⟩
    induction htail with
    | nil => rfl
    | quad h => simp [tailGroups, isGroupText_of_isQuad h, isIPv4_iff.mpr ⟨_, h⟩]
    | @group text g texts groups h hrest ih =>
      have hgroup := isGroupText_iff.mpr ⟨g, h⟩
      cases texts with
      | nil =>
        cases hrest
        simp [tailGroups, hgroup]
      | cons next rest => simp [tailGroups, hgroup, ih]

theorem colonParts_join {texts : List (List Char)} (h : Split.Clean ':' texts) :
    colonParts ([':'].intercalate texts) = texts := by
  cases texts with
  | nil => rfl
  | cons text rest =>
    have hne : [':'].intercalate (text :: rest) ≠ [] := by
      have htext := (h text (by simp)).1
      cases rest with
      | nil => simpa [List.intercalate_singleton] using htext
      | cons next others => simp [List.intercalate_cons_cons]
    rw [colonParts, if_neg (by simpa [List.isEmpty_iff] using hne),
      List.splitOn_intercalate ':' (fun l hl => (h l hl).2) (by simp)]

theorem join_colonParts (text : List Char) : [':'].intercalate (colonParts text) = text := by
  rw [colonParts]
  split
  · rename_i h
    rw [List.isEmpty_iff.mp h, List.intercalate_nil]
  · exact List.intercalate_splitOn ':'

theorem all_isGroupText_iff {texts : List (List Char)} :
    texts.all isGroupText = true ↔ ∃ groups, List.Forall₂ Ip.IsGroup texts groups := by
  rw [List.all_eq_true]
  constructor
  · intro h
    induction texts with
    | nil => exact ⟨[], .nil⟩
    | cons text rest ih =>
      obtain ⟨group, hgroup⟩ := isGroupText_iff.mp (h text (by simp))
      obtain ⟨groups, hgroups⟩ := ih fun t ht => h t (List.mem_cons_of_mem _ ht)
      exact ⟨group :: groups, .cons hgroup hgroups⟩
  · rintro ⟨groups, hgroups⟩
    induction hgroups with
    | nil => simp
    | cons h _ ih =>
      intro text htext
      rcases List.mem_cons.mp htext with rfl | hrest
      · exact isGroupText_iff.mpr ⟨_, h⟩
      · exact ih text hrest

theorem isIPv6Address_iff {text : List Char} :
    isIPv6Address text = true ↔ ∃ groups, Ip.IsV6 text groups := by
  constructor
  · intro h
    have hjoin := Split.intercalate_splitOnPair ':' text
    rw [isIPv6Address] at h
    split at h
    · rename_i whole hsplit
      obtain ⟨groups, htail, hlength⟩ := tailGroups_eq_some.mp (beq_iff_eq.mp h)
      rw [hsplit, List.intercalate_singleton] at hjoin
      have hwhole : [':'].intercalate (whole.splitOn ':') = whole := List.intercalate_splitOn ':'
      rw [← hjoin, ← hwhole]
      exact ⟨groups, .full htail hlength⟩
    · rename_i left right hsplit
      split at h
      · rename_i low hlow
        rw [Bool.and_eq_true, decide_eq_true_eq] at h
        obtain ⟨high, hhigh⟩ := all_isGroupText_iff.mp h.1
        obtain ⟨groups, htail, rfl⟩ := tailGroups_eq_some.mp hlow
        have hlength := h.2
        rw [hhigh.length_eq] at hlength
        have hv6 := Ip.IsV6.compressed hhigh htail hlength
        rw [join_colonParts, join_colonParts] at hv6
        rw [hsplit, List.intercalate_cons_cons, List.intercalate_singleton] at hjoin
        rw [← hjoin]
        exact ⟨_, by simpa using hv6⟩
      · cases h
    · cases h
  · rintro ⟨groups, h⟩
    cases h with
    | @full texts _ htail hlength =>
      have hne : texts ≠ [] := by
        rintro rfl
        cases htail
        cases hlength
      rw [isIPv6Address, Split.splitOnPair_intercalate htail.clean]
      dsimp only
      rw [List.splitOn_intercalate ':' (fun l hl => (htail.clean l hl).2) hne,
        tailGroups_eq_some.mpr ⟨groups, htail, hlength⟩]
      rfl
    | @compressed left right high low hleft hright hlength =>
      rw [isIPv6Address,
        Split.splitOnPair_intercalate_pair (Ip.isGroups_clean hleft) hright.clean]
      dsimp only
      rw [colonParts_join hright.clean, colonParts_join (Ip.isGroups_clean hleft),
        tailGroups_eq_some.mpr ⟨low, hright, rfl⟩]
      dsimp only
      rw [all_isGroupText_iff.mpr ⟨high, hleft⟩, hleft.length_eq, Bool.true_and, decide_eq_true_eq]
      exact hlength

theorem isIP_eq_four {text : List Char} : isIP text = 4 ↔ ∃ octets, Ip.IsQuad text octets := by
  rw [← isIPv4_iff, isIP]
  split
  · rename_i h
    simp [h]
  · rename_i h
    split <;> simp [h]

theorem not_isQuad_of_isV6 {text : List Char} {groups : List Nat} (h : Ip.IsV6 text groups)
    (octets : List Nat) : ¬ Ip.IsQuad text octets := by
  intro hquad
  apply hquad.not_mem (c := ':') (by decide) (by decide)
  cases h with
  | @full texts _ htail hlength =>
    match texts, htail with
    | [], htail =>
      cases htail
      cases hlength
    | [_], htail =>
      cases htail with
      | quad _ => cases hlength
      | group _ hrest =>
        cases hrest
        cases hlength
    | text :: next :: rest, _ => simp [List.intercalate_cons_cons]
  | compressed => simp

theorem isIP_eq_six {text : List Char} (hzone : '%' ∉ text) :
    isIP text = 6 ↔ ∃ groups, Ip.IsV6 text groups := by
  have hplain : isIPv6 text = isIPv6Address text := by
    rw [isIPv6, List.splitOn_eq_singleton hzone]
  rw [← isIPv6Address_iff, isIP, hplain]
  split
  · rename_i h
    obtain ⟨octets, hquad⟩ := isIPv4_iff.mp h
    constructor
    · intro hcontra
      cases hcontra
    · intro hv6
      obtain ⟨groups, hv6⟩ := isIPv6Address_iff.mp hv6
      exact absurd hquad (not_isQuad_of_isV6 hv6 octets)
  · split
    · rename_i h
      simp [h]
    · rename_i h
      simp [h]

theorem isIP_cases (text : List Char) : isIP text = 4 ∨ isIP text = 6 ∨ isIP text = 0 := by
  rw [isIP]
  split
  · exact .inl rfl
  · split
    · exact .inr (.inl rfl)
    · exact .inr (.inr rfl)

end Outscan

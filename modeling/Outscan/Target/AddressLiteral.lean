import Mathlib.Data.List.TakeWhile
import Outscan.Target.IpPolicy

/-! The parser of addresses reads exactly the literals of `node:net` without a
zone, and writes each address in one canonical way. -/
namespace Outscan

open Numeral

/-! ### The canonical text -/

theorem takeWhile_zeros (groups : List Nat) :
    groups = List.replicate (groups.takeWhile (· = 0)).length 0 ++ groups.dropWhile (· = 0) := by
  have hall : ∀ g ∈ groups.takeWhile (· = 0), g = 0 := by
    intro g hg
    simpa using List.all_eq_true.mp List.all_takeWhile g hg
  have hzeros := List.eq_replicate_of_mem hall
  rw [← hzeros, List.takeWhile_append_dropWhile]

theorem bestZeroRun_spec (groups : List Nat) (index : Nat) (best : Nat × Nat) :
    bestZeroRun groups index best = best ∨
      ∃ before count after, groups = before ++ List.replicate count 0 ++ after ∧
        bestZeroRun groups index best = (index + before.length, count) := by
  induction hlength : groups.length using Nat.strong_induction_on generalizing groups index best with
  | _ n ih =>
    subst hlength
    cases groups with
    | nil =>
      rw [bestZeroRun]
      exact .inl rfl
    | cons group rest =>
      rw [bestZeroRun]
      split
      · rcases ih rest.length (by simp) rest (index + 1) best rfl with
          hsame | ⟨before, count, after, hsplit, hrun⟩
        · exact .inl hsame
        · refine .inr ⟨group :: before, count, after, by rw [hsplit]; rfl, ?_⟩
          rw [hrun, List.length_cons]
          congr 1
          omega
      · rename_i hzero
        dsimp only
        -- The run is the zeros in front; what follows is shorter.
        have hgroups := takeWhile_zeros (group :: rest)
        rw [List.takeWhile_cons_of_pos (by simpa using hzero), List.length_cons,
          List.dropWhile_cons_of_pos (by simpa using hzero), Nat.add_comm] at hgroups
        generalize hcount : 1 + (rest.takeWhile (· = 0)).length = length at hgroups ⊢
        have hshort : (rest.dropWhile (· = 0)).length < (group :: rest).length :=
          Nat.lt_succ_of_le (List.dropWhile_sublist _).length_le
        generalize hnext : (if length > best.2 then (index, length) else best) = next
        rcases ih _ hshort (rest.dropWhile (· = 0)) (index + length) next rfl with
          hsame | ⟨before, count, after, hsplit, hrun⟩
        · rw [hsame, ← hnext]
          split
          · exact .inr ⟨[], length, rest.dropWhile (· = 0), hgroups, rfl⟩
          · exact .inl rfl
        · refine .inr ⟨List.replicate length 0 ++ before, count, after, ?_, ?_⟩
          · rw [hgroups, hsplit]
            simp only [List.append_assoc]
          · rw [hrun, List.length_append, List.length_replicate, Nat.add_assoc]

theorem isV6_formatIpv6 {groups : List Nat} (hlength : groups.length = 8)
    (hlt : ∀ g ∈ groups, g < 2 ^ 16) : Ip.IsV6 (formatIpv6 groups) groups := by
  rw [formatIpv6]
  split
  · exact .full (.of_forall₂ (Ip.forall₂_isGroup_toDigits hlt)) hlength
  · rename_i hlong
    rcases bestZeroRun_spec groups 0 (0, 0) with hnone | ⟨before, count, after, hsplit, hrun⟩
    · rw [hnone] at hlong
      exact absurd (Nat.zero_lt_two) hlong
    · rw [hrun] at hlong ⊢
      dsimp only at hlong ⊢
      have htake : groups.take (0 + before.length) = before := by
        rw [hsplit, Nat.zero_add, List.append_assoc, List.take_left]
      have hdrop : groups.drop (0 + before.length + count) = after := by
        have hcount : 0 + before.length + count = (before ++ List.replicate count 0).length := by
          rw [List.length_append, List.length_replicate, Nat.zero_add]
        rw [hsplit, hcount, List.drop_left]
      have hsum : before.length + count + after.length = 8 := by
        rw [← hlength, hsplit, List.length_append, List.length_append, List.length_replicate]
      have hbefore : ∀ g ∈ before, g < 2 ^ 16 := fun g hg => hlt g (by simp [hsplit, hg])
      have hafter : ∀ g ∈ after, g < 2 ^ 16 := fun g hg => hlt g (by simp [hsplit, hg])
      rw [htake, hdrop]
      have hv6 := Ip.IsV6.compressed (Ip.forall₂_isGroup_toDigits hbefore)
        (.of_forall₂ (Ip.forall₂_isGroup_toDigits hafter)) (by omega)
      have hfill : 8 - (before.length + after.length) = count := by omega
      rw [hfill, ← hsplit] at hv6
      exact hv6

def addressText (a : Ip.Address) : List Char :=
  match a.family with
  | .v4 => ['.'].intercalate ((Ip.toWords 8 4 a.value).map (Nat.toDigits 10))
  | .v6 => formatIpv6 (Ip.toWords 16 8 a.value)

theorem denotes_addressText (a : Ip.Address) : Ip.Denotes (addressText a) a := by
  obtain ⟨family, value, hlt⟩ := a
  cases family with
  | v4 =>
    exact ⟨Ip.toWords 8 4 value, ⟨Ip.length_toWords _ _ _, Ip.toWords_lt _ _ _, rfl⟩,
      (Ip.ofWords_toWords hlt).symm⟩
  | v6 =>
    exact ⟨Ip.toWords 16 8 value,
      isV6_formatIpv6 (Ip.length_toWords _ _ _) (Ip.toWords_lt _ _ _),
      (Ip.ofWords_toWords hlt).symm⟩

def ParsedIp.ofAddress (a : Ip.Address) : ParsedIp where
  address := String.ofList (addressText a)
  family := a.family
  bits := a.family.bits
  value := a.value

@[simp] theorem ParsedIp.ofAddress_family (a : Ip.Address) :
    (ParsedIp.ofAddress a).family = a.family := rfl

@[simp] theorem ParsedIp.ofAddress_value (a : Ip.Address) :
    (ParsedIp.ofAddress a).value = a.value := rfl

theorem ParsedIp.ofAddress_injective {a b : Ip.Address}
    (h : ParsedIp.ofAddress a = ParsedIp.ofAddress b) : a = b := by
  have hfamily := congrArg (fun p : ParsedIp => p.family) h
  have hvalue := congrArg ParsedIp.value h
  exact Ip.Address.ext hfamily hvalue

/-! ### The first family -/

def quadAddress (octets : List Nat) (hlength : octets.length = 4) (hlt : ∀ o ∈ octets, o < 2 ^ 8) :
    Ip.Address where
  family := .v4
  value := Ip.ofWords 8 octets
  lt := by
    have := Ip.ofWords_lt hlt
    rwa [hlength] at this

theorem addressText_quadAddress {octets : List Nat} (hlength : octets.length = 4)
    (hlt : ∀ o ∈ octets, o < 2 ^ 8) :
    addressText (quadAddress octets hlength hlt) =
      ['.'].intercalate (octets.map (Nat.toDigits 10)) := by
  have hwords := Ip.toWords_ofWords hlt
  rw [hlength] at hwords
  rw [addressText, quadAddress]
  dsimp only
  rw [hwords]

theorem splitOn_quad {text : List Char} {octets : List Nat} (h : Ip.IsQuad text octets) :
    (text.splitOn '.').map (value 10) = octets := by
  obtain ⟨hlength, -, rfl⟩ := h
  have hdots : ∀ part ∈ octets.map (Nat.toDigits 10), '.' ∉ part := by
    intro part hpart hdot
    obtain ⟨octet, -, rfl⟩ := List.mem_map.mp hpart
    exact absurd (isDigit_of_mem_toDigits (by omega) (by omega) octet '.' hdot) (by decide)
  have hne : octets.map (Nat.toDigits 10) ≠ [] := by
    rw [ne_eq, List.map_eq_nil_iff]
    rintro rfl
    cases hlength
  rw [List.splitOn_intercalate '.' hdots hne, List.map_map]
  conv_rhs => rw [← List.map_id octets]
  apply List.map_congr_left
  intro octet _
  exact value_toDigits (by omega) (by omega) octet

theorem parseIpv4_of_isQuad {text : List Char} {octets : List Nat} (h : Ip.IsQuad text octets) :
    parseIpv4 text = some (ParsedIp.ofAddress (quadAddress octets h.1 h.2.1)) := by
  rw [parseIpv4, if_neg (not_not_intro (isIP_eq_four.mpr ⟨octets, h⟩))]
  dsimp only
  rw [splitOn_quad h, Ip.foldl_shiftLeft_or h.2.1, ParsedIp.ofAddress, addressText_quadAddress]
  rfl

theorem parseIpv4_eq_none {text : List Char} (h : isIP text ≠ 4) : parseIpv4 text = none := by
  rw [parseIpv4, if_pos h]

/-! ### The second family -/

inductive Expanded : List Char → List Nat → Prop where
  | full {texts : List (List Char)} {groups : List Nat}
      (h : List.Forall₂ Ip.IsGroup texts groups) (hlength : groups.length = 8) :
      Expanded ([':'].intercalate texts) groups
  | compressed {left right : List (List Char)} {high low : List Nat}
      (hleft : List.Forall₂ Ip.IsGroup left high) (hright : List.Forall₂ Ip.IsGroup right low)
      (hlength : high.length + low.length ≤ 7) :
      Expanded ([':'].intercalate left ++ ':' :: ':' :: [':'].intercalate right)
        (high ++ List.replicate (8 - (high.length + low.length)) 0 ++ low)

theorem quad_groups {text : List Char} {a b c d : Nat} (h : Ip.IsQuad text [a, b, c, d]) :
    ∃ ipv4, parseIpv4 text = some ipv4 ∧
      ipv4.value >>> 16 &&& 0xffff = a * 2 ^ 8 + b ∧ ipv4.value &&& 0xffff = c * 2 ^ 8 + d ∧
      a * 2 ^ 8 + b < 2 ^ 16 ∧ c * 2 ^ 8 + d < 2 ^ 16 := by
  have hlt := h.2.1
  simp only [List.mem_cons, List.not_mem_nil, or_false, forall_eq_or_imp, forall_eq] at hlt
  have hvalue : (ParsedIp.ofAddress (quadAddress [a, b, c, d] h.1 h.2.1)).value =
      ((a * 2 ^ 8 + b) * 2 ^ 8 + c) * 2 ^ 8 + d := by
    simp [ParsedIp.ofAddress, quadAddress, Ip.ofWords]
  have hmask : ∀ n, n &&& 0xffff = n % 2 ^ 16 := fun n => Nat.and_two_pow_sub_one_eq_mod n 16
  refine ⟨_, parseIpv4_of_isQuad h, ?_, ?_, by omega, by omega⟩
  · rw [hvalue, hmask, Nat.shiftRight_eq_div_pow]
    omega
  · rw [hvalue, hmask]
    omega

theorem expandIpv4_append (before : List Char) {text : List Char} {a b c d : Nat}
    (h : Ip.IsQuad text [a, b, c, d]) :
    expandIpv4 (before ++ ':' :: text) =
      some (before ++ ':' :: [':'].intercalate
        [Nat.toDigits 16 (a * 2 ^ 8 + b), Nat.toDigits 16 (c * 2 ^ 8 + d)]) := by
  obtain ⟨ipv4, hparse, hhigh, hlow, -⟩ := quad_groups h
  have hdot : '.' ∈ text := by
    rw [h.2.2]
    simp
  have hcolon : ':' ∉ text := h.not_mem (by decide) (by decide)
  rw [expandIpv4, if_pos (by simp [hdot]), Split.splitAtLast_append hcolon]
  dsimp only
  rw [hparse, Option.map_some, hhigh, hlow, List.intercalate_cons_cons, List.intercalate_singleton,
    List.append_assoc]
  rfl

theorem forall₂_append_groups {texts : List (List Char)} {groups : List Nat}
    (h : List.Forall₂ Ip.IsGroup texts groups) {high low : Nat} (hhigh : high < 2 ^ 16)
    (hlow : low < 2 ^ 16) :
    List.Forall₂ Ip.IsGroup (texts ++ [Nat.toDigits 16 high, Nat.toDigits 16 low])
      (groups ++ [high, low]) := by
  induction h with
  | nil =>
    exact .cons (Ip.isGroup_toDigits hhigh) (.cons (Ip.isGroup_toDigits hlow) .nil)
  | cons h _ ih => exact .cons h ih

theorem expandIpv4_of_isV6 {text : List Char} {groups : List Nat} (h : Ip.IsV6 text groups) :
    ∃ expanded, expandIpv4 text = some expanded ∧ Expanded expanded groups := by
  have hplain : ∀ {plain : List Char}, '.' ∉ plain → expandIpv4 plain = some plain := by
    intro plain hdot
    rw [expandIpv4, if_neg (by simpa using hdot)]
  cases h with
  | @full texts groups htail hlength =>
    rcases htail.cases_quad with hgroups | ⟨init, initGroups, quad, a, b, c, d, hinit, hquad, rfl, rfl⟩
    · refine ⟨_, hplain ?_, .full hgroups hlength⟩
      exact Ip.not_mem_of_isGroups hgroups (by decide) (by decide)
    · obtain ⟨-, -, -, -, hhigh, hlow⟩ := quad_groups hquad
      have hne : init ≠ [] := by
        rintro rfl
        cases hinit
        cases hlength
      refine ⟨_, ?_, .full (forall₂_append_groups hinit hhigh hlow) hlength⟩
      rw [Split.intercalate_append _ hne (by simp), List.intercalate_singleton,
        Split.intercalate_append _ hne (by simp), List.append_assoc, List.append_assoc]
      exact expandIpv4_append _ hquad
  | @compressed left right high low hleft htail hlength =>
    have hleftDot := Ip.not_mem_of_isGroups (c := '.') hleft (by decide) (by decide)
    rcases htail.cases_quad with hgroups | ⟨init, initGroups, quad, a, b, c, d, hinit, hquad, rfl, rfl⟩
    · have hrightDot := Ip.not_mem_of_isGroups (c := '.') hgroups (by decide) (by decide)
      refine ⟨_, hplain ?_, .compressed hleft hgroups hlength⟩
      simp [hleftDot, hrightDot]
    · obtain ⟨-, -, -, -, hhigh, hlow⟩ := quad_groups hquad
      refine ⟨_, ?_, .compressed hleft (forall₂_append_groups hinit hhigh hlow) (by simpa using hlength)⟩
      by_cases hnil : init = []
      · subst hnil
        have hexpand := expandIpv4_append ([':'].intercalate left ++ [':']) hquad
        simpa using hexpand
      · have hexpand := expandIpv4_append
          ([':'].intercalate left ++ ':' :: ':' :: [':'].intercalate init) hquad
        rw [Split.intercalate_append _ hnil (by simp), List.intercalate_singleton,
          Split.intercalate_append _ hnil (by simp)]
        simpa using hexpand

theorem parseInt16_of_isGroup {text : List Char} {group : Nat} (h : Ip.IsGroup text group) :
    parseInt16 text = some group := by
  obtain ⟨hne, -, hdigits, rfl⟩ := h
  have htake : text.takeWhile (isDigit 16) = text := List.takeWhile_eq_self_iff.mpr hdigits
  rw [parseInt16, htake, if_neg (by simpa [List.isEmpty_iff] using hne)]

theorem mapM_parseInt16 {texts : List (List Char)} {groups : List Nat}
    (h : List.Forall₂ Ip.IsGroup texts groups) : texts.mapM parseInt16 = some groups := by
  induction h with
  | nil => rfl
  | cons h _ ih =>
    rw [List.mapM_cons, parseInt16_of_isGroup h, ih]
    rfl

theorem forall₂_isGroup_zeros (count : Nat) :
    List.Forall₂ Ip.IsGroup (List.replicate count ['0']) (List.replicate count 0) := by
  induction count with
  | zero => exact .nil
  | succ count ih => exact .cons ⟨by simp, by simp, List.all_eq_true.mp rfl, by decide⟩ ih

/-- The two halves of a text, around its doubled colon if it has one, with zeros in between. -/
theorem halves_of_expanded {text : List Char} {groups : List Nat} (h : Expanded text groups) :
    let halves := Split.splitOnPair ':' text
    let left := colonParts (halves[0]?.getD [])
    let right := colonParts (halves[1]?.getD [])
    let missing : Int := 8 - left.length - right.length
    ¬ halves.length > 2 ∧ ¬ (if halves.length = 1 then missing ≠ 0 else missing < 1) ∧
      List.Forall₂ Ip.IsGroup (left ++ List.replicate missing.toNat ['0'] ++ right) groups ∧
      groups.length = 8 := by
  cases h with
  | @full texts _ hgroups hlength =>
    have hclean := Ip.isGroups_clean hgroups
    have hcount : texts.length = 8 := by rw [hgroups.length_eq, hlength]
    have hleft : colonParts ([[':'].intercalate texts][0]?.getD []) = texts := colonParts_join hclean
    have hright : colonParts ([[':'].intercalate texts][1]?.getD []) = [] := rfl
    rw [Split.splitOnPair_intercalate hclean]
    simp only [hleft, hright]
    simpa [hcount, hlength] using hgroups
  | @compressed left right high low hleft hright hlength =>
    have hcleanLeft := Ip.isGroups_clean hleft
    have hcleanRight := Ip.isGroups_clean hright
    have hfirst : colonParts ([[':'].intercalate left, [':'].intercalate right][0]?.getD []) = left :=
      colonParts_join hcleanLeft
    have hsecond : colonParts ([[':'].intercalate left, [':'].intercalate right][1]?.getD []) = right :=
      colonParts_join hcleanRight
    have hmissing : (8 - (left.length : Int) - (right.length : Int)).toNat =
        8 - (high.length + low.length) := by
      rw [hleft.length_eq, hright.length_eq]
      omega
    rw [Split.splitOnPair_intercalate_pair hcleanLeft hcleanRight]
    simp only [hfirst, hsecond, hmissing]
    refine ⟨by simp, ?_, List.rel_append (List.rel_append hleft
      (forall₂_isGroup_zeros (8 - (high.length + low.length)))) hright, ?_⟩
    · rw [if_neg (by simp), hleft.length_eq, hright.length_eq]
      omega
    · simp only [List.length_append, List.length_replicate]
      omega

theorem ipv6Groups_of_expanded {text : List Char} {groups : List Nat} (h : Expanded text groups) :
    ipv6Groups text = some groups := by
  obtain ⟨hhalves, hmissing, hgroups, hlength⟩ := halves_of_expanded h
  rw [ipv6Groups, if_neg hhalves, if_neg hmissing, mapM_parseInt16 hgroups]
  dsimp only
  rw [if_neg (not_not_intro hlength)]

def groupsAddress (groups : List Nat) (hlength : groups.length = 8)
    (hlt : ∀ g ∈ groups, g < 2 ^ 16) : Ip.Address where
  family := .v6
  value := Ip.ofWords 16 groups
  lt := by
    have := Ip.ofWords_lt hlt
    rwa [hlength] at this

theorem addressText_groupsAddress {groups : List Nat} (hlength : groups.length = 8)
    (hlt : ∀ g ∈ groups, g < 2 ^ 16) :
    addressText (groupsAddress groups hlength hlt) = formatIpv6 groups := by
  have hwords := Ip.toWords_ofWords hlt
  rw [hlength] at hwords
  rw [addressText, groupsAddress]
  dsimp only
  rw [hwords]

theorem not_mem_of_isV6 {text : List Char} {groups : List Nat} (h : Ip.IsV6 text groups) :
    '%' ∉ text := h.not_mem (by decide) (by decide) (by decide)

theorem parseIpv6_of_isV6 {text : List Char} {groups : List Nat} (h : Ip.IsV6 text groups) :
    parseIpv6 text = some (ParsedIp.ofAddress (groupsAddress groups h.length h.lt)) := by
  have hzone := not_mem_of_isV6 h
  obtain ⟨expanded, hexpand, hexpanded⟩ := expandIpv4_of_isV6 h.toLower
  rw [parseIpv6, if_neg, hexpand]
  · dsimp only
    rw [ipv6Groups_of_expanded hexpanded, Option.map_some, Ip.foldl_shiftLeft_or h.lt,
      ParsedIp.ofAddress, addressText_groupsAddress]
    rfl
  · rw [Bool.or_eq_true, decide_eq_true_eq, not_or]
    refine ⟨by simpa using hzone, not_not_intro ((isIP_eq_six hzone).mpr ⟨groups, h⟩)⟩

/-! ### Both families -/

theorem utf16Length_eq_length {text : List Char} (h : ∀ c ∈ text, c.toNat < 128) :
    utf16Length text = text.length := by
  induction text with
  | nil => rfl
  | cons c rest ih =>
    have hc := h c (by simp)
    rw [utf16Length, List.map_cons, List.sum_cons, if_pos (by omega), List.length_cons,
      Nat.add_comm]
    congr 1
    exact ih fun d hd => h d (List.mem_cons_of_mem _ hd)

theorem length_intercalate_le (sep : Char) {bound : Nat} {texts : List (List Char)}
    (h : ∀ text ∈ texts, text.length ≤ bound) :
    ([sep].intercalate texts).length ≤ (bound + 1) * texts.length := by
  induction texts with
  | nil => simp
  | cons text rest ih =>
    have htext := h text (by simp)
    have hrest := ih fun t ht => h t (List.mem_cons_of_mem _ ht)
    cases rest with
    | nil =>
      rw [List.intercalate_singleton, List.length_singleton]
      omega
    | cons next others =>
      rw [List.intercalate_cons_cons, List.length_append, List.length_append,
        List.length_singleton, List.length_cons, Nat.mul_succ]
      omega

theorem ascii_of_isDigit {base : Nat} {c : Char} (h : isDigit base c = true) : c.toNat < 128 := by
  have := toNat_of_isDigit h
  omega

theorem ascii_of_isQuad {text : List Char} {octets : List Nat} (h : Ip.IsQuad text octets) :
    ∀ c ∈ text, c.toNat < 128 := by
  intro c hc
  rcases h.mem c hc with rfl | hdigit
  · decide
  · exact ascii_of_isDigit hdigit

theorem ascii_intercalate {texts : List (List Char)}
    (h : ∀ text ∈ texts, ∀ c ∈ text, c.toNat < 128) :
    ∀ c ∈ [':'].intercalate texts, c.toNat < 128 := by
  intro c hc
  rcases Ip.mem_intercalate hc with rfl | ⟨text, htext, hmem⟩
  · decide
  · exact h text htext c hmem

theorem ascii_of_isTail {texts : List (List Char)} {groups : List Nat}
    (h : Ip.IsTail texts groups) : ∀ text ∈ texts, ∀ c ∈ text, c.toNat < 128 := by
  induction h with
  | nil => simp
  | quad h =>
    intro text htext
    rw [List.mem_singleton.mp htext]
    exact ascii_of_isQuad h
  | group h _ ih =>
    intro text htext
    rcases List.mem_cons.mp htext with rfl | hrest
    · exact fun c hc => ascii_of_isDigit (h.2.2.1 c hc)
    · exact ih text hrest

theorem ascii_of_isV6 {text : List Char} {groups : List Nat} (h : Ip.IsV6 text groups) :
    ∀ c ∈ text, c.toNat < 128 := by
  cases h with
  | full h _ => exact ascii_intercalate (ascii_of_isTail h)
  | compressed hleft hright _ =>
    intro c hc
    have hfirst := ascii_intercalate (ascii_of_isTail (.of_forall₂ hleft)) c
    have hsecond := ascii_intercalate (ascii_of_isTail hright) c
    have hcolon : ':'.toNat < 128 := by decide
    rcases List.mem_append.mp hc with hc | hc
    · exact hfirst hc
    · rcases List.mem_cons.mp hc with rfl | hc
      · exact hcolon
      · rcases List.mem_cons.mp hc with rfl | hc
        · exact hcolon
        · exact hsecond hc

theorem length_le_of_isQuad {text : List Char} {octets : List Nat} (h : Ip.IsQuad text octets) :
    text.length ≤ 16 := by
  obtain ⟨hlength, hlt, rfl⟩ := h
  have hpieces : ∀ piece ∈ octets.map (Nat.toDigits 10), piece.length ≤ 3 := by
    intro piece hpiece
    obtain ⟨octet, hoctet, rfl⟩ := List.mem_map.mp hpiece
    rw [Nat.length_toDigits_le_iff (by omega) (by omega)]
    have := hlt octet hoctet
    omega
  have := length_intercalate_le '.' hpieces
  rwa [List.length_map, hlength] at this

theorem length_le_of_isGroups {texts : List (List Char)} {groups : List Nat}
    (h : List.Forall₂ Ip.IsGroup texts groups) :
    ([':'].intercalate texts).length ≤ 5 * groups.length := by
  have hpieces : ∀ text ∈ texts, text.length ≤ 4 := by
    induction h with
    | nil => simp
    | cons h _ ih =>
      intro text htext
      rcases List.mem_cons.mp htext with rfl | hrest
      · exact h.2.1
      · exact ih text hrest
  rw [← h.length_eq]
  exact length_intercalate_le ':' hpieces

theorem length_le_of_isTail {texts : List (List Char)} {groups : List Nat}
    (h : Ip.IsTail texts groups) : ([':'].intercalate texts).length ≤ 5 * groups.length + 7 := by
  rcases h.cases_quad with hgroups | ⟨init, initGroups, quad, a, b, c, d, hinit, hquad, rfl, rfl⟩
  · have := length_le_of_isGroups hgroups
    omega
  · have hfirst := length_le_of_isGroups hinit
    have hlast := length_le_of_isQuad hquad
    rw [List.length_append, List.length_cons, List.length_singleton]
    by_cases hnil : init = []
    · subst hnil
      rw [List.nil_append, List.intercalate_singleton]
      omega
    · rw [Split.intercalate_append _ hnil (by simp), List.intercalate_singleton,
        List.length_append, List.length_append, List.length_singleton]
      omega

theorem length_le_of_isV6 {text : List Char} {groups : List Nat} (h : Ip.IsV6 text groups) :
    text.length ≤ 64 := by
  cases h with
  | full h hlength =>
    have := length_le_of_isTail h
    omega
  | compressed hleft hright hlength =>
    have hfirst := length_le_of_isGroups hleft
    have hsecond := length_le_of_isTail hright
    rw [List.length_append, List.length_cons, List.length_cons]
    omega

theorem length_check {text : List Char} (hne : text ≠ []) (hascii : ∀ c ∈ text, c.toNat < 128)
    (hlength : text.length ≤ 64) :
    ¬ (decide (utf16Length text = 0) || decide (utf16Length text > 64)) = true := by
  have hpos := List.length_pos_iff.mpr hne
  rw [utf16Length_eq_length hascii, Bool.or_eq_true, decide_eq_true_eq, decide_eq_true_eq]
  omega

theorem ne_nil_of_isV6 {text : List Char} {groups : List Nat} (h : Ip.IsV6 text groups) :
    text ≠ [] := by
  rintro rfl
  have hsix := (isIP_eq_six (by simp)).mpr ⟨groups, h⟩
  exact absurd hsix (by decide)

/-- A parser that tries the first family and then the second reads the texts that denote an address,
and nothing else, if each of its halves reads those of its own. -/
theorem reads_iff_denotes {α : Type} {text : List Char} {four six : Option α}
    (make : Ip.Address → α)
    (hquad : ∀ {octets} (h : Ip.IsQuad text octets),
      four = some (make (quadAddress octets h.1 h.2.1)))
    (hnoQuad : isIP text ≠ 4 → four = none)
    (hgroups : ∀ {groups} (h : Ip.IsV6 text groups),
      six = some (make (groupsAddress groups h.length h.lt)))
    (hnoGroups : (text.contains '%' || decide (isIP text ≠ 6)) = true → six = none) {parsed : α} :
    (if decide (utf16Length text = 0) || decide (utf16Length text > 64) then none
      else four.or six) = some parsed ↔ ∃ a, Ip.Denotes text a ∧ parsed = make a := by
  constructor
  · intro h
    split at h
    · cases h
    · by_cases hfour : isIP text = 4
      · obtain ⟨octets, hoctets⟩ := isIP_eq_four.mp hfour
        rw [hquad hoctets, Option.some_or] at h
        exact ⟨quadAddress octets hoctets.1 hoctets.2.1, ⟨octets, hoctets, rfl⟩,
          (Option.some.inj h).symm⟩
      · rw [hnoQuad hfour, Option.none_or] at h
        have hguard : ¬ (text.contains '%' || decide (isIP text ≠ 6)) = true := by
          intro hguard
          rw [hnoGroups hguard] at h
          cases h
        rw [Bool.or_eq_true, decide_eq_true_eq, not_or, not_not] at hguard
        have hzone : '%' ∉ text := by simpa using hguard.1
        obtain ⟨groups, hread⟩ := (isIP_eq_six hzone).mp hguard.2
        rw [hgroups hread] at h
        exact ⟨groupsAddress groups hread.length hread.lt, ⟨groups, hread, rfl⟩,
          (Option.some.inj h).symm⟩
  · rintro ⟨⟨family, value, hlt⟩, hdenotes, rfl⟩
    cases family with
    | v4 =>
      obtain ⟨octets, hoctets, hvalue⟩ := hdenotes
      dsimp only at hvalue
      subst hvalue
      have hlength := length_le_of_isQuad hoctets
      rw [if_neg (length_check hoctets.ne_nil (ascii_of_isQuad hoctets) (by omega)),
        hquad hoctets]
      rfl
    | v6 =>
      obtain ⟨groups, hread, hvalue⟩ := hdenotes
      dsimp only at hvalue
      subst hvalue
      have hlength := length_le_of_isV6 hread
      have hnot : isIP text ≠ 4 := by
        rw [(isIP_eq_six (not_mem_of_isV6 hread)).mpr ⟨groups, hread⟩]
        omega
      rw [if_neg (length_check (ne_nil_of_isV6 hread) (ascii_of_isV6 hread) hlength), hnoQuad hnot,
        hgroups hread]
      rfl

/-- The parser reads the texts that denote an address, and nothing else. -/
theorem parseIp_eq_some {entry : String} {parsed : ParsedIp} :
    parseIp entry = some parsed ↔
      ∃ a, Ip.Denotes entry.toList a ∧ parsed = ParsedIp.ofAddress a := by
  have hor : parseIp entry =
      if decide (utf16Length entry.toList = 0) || decide (utf16Length entry.toList > 64) then none
      else (parseIpv4 entry.toList).or (parseIpv6 entry.toList) := by
    rw [parseIp]
    cases parseIpv4 entry.toList <;> rfl
  rw [hor]
  exact reads_iff_denotes ParsedIp.ofAddress parseIpv4_of_isQuad parseIpv4_eq_none
    parseIpv6_of_isV6 fun hguard => if_pos hguard

theorem denotes_unique {text : List Char} {a b : Ip.Address} (ha : Ip.Denotes text a)
    (hb : Ip.Denotes text b) : a = b := by
  have hread : ∀ {c : Ip.Address}, Ip.Denotes text c →
      parseIp (String.ofList text) = some (ParsedIp.ofAddress c) := by
    intro c hc
    exact parseIp_eq_some.mpr ⟨c, by simpa using hc, rfl⟩
  apply ParsedIp.ofAddress_injective
  exact Option.some.inj ((hread ha).symm.trans (hread hb))

theorem isLiteral_iff (text : List Char) :
    (isIP text ≠ 0 ∧ '%' ∉ text) ↔ ∃ a, Ip.Denotes text a := by
  constructor
  · rintro ⟨hne, hzone⟩
    rcases isIP_cases text with hfour | hsix | hzero
    · obtain ⟨octets, hquad⟩ := isIP_eq_four.mp hfour
      exact ⟨quadAddress octets hquad.1 hquad.2.1, octets, hquad, rfl⟩
    · obtain ⟨groups, hgroups⟩ := (isIP_eq_six hzone).mp hsix
      exact ⟨groupsAddress groups hgroups.length hgroups.lt, groups, hgroups, rfl⟩
    · exact absurd hzero hne
  · rintro ⟨⟨family, value, hlt⟩, hdenotes⟩
    cases family with
    | v4 =>
      obtain ⟨octets, hquad, -⟩ := hdenotes
      rw [isIP_eq_four.mpr ⟨octets, hquad⟩]
      exact ⟨by omega, hquad.not_mem (by decide) (by decide)⟩
    | v6 =>
      obtain ⟨groups, hgroups, -⟩ := hdenotes
      have hzone := not_mem_of_isV6 hgroups
      rw [(isIP_eq_six hzone).mpr ⟨groups, hgroups⟩]
      exact ⟨by omega, hzone⟩

theorem addressText_injective {a b : Ip.Address} (h : addressText a = addressText b) : a = b :=
  denotes_unique (denotes_addressText a) (h ▸ denotes_addressText b)

end Outscan

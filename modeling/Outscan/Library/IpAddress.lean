import Mathlib.Data.List.Forall2
import Mathlib.Data.Nat.Bitwise
import Outscan.Library.Numeral
import Outscan.Library.Split

/-! Addresses of the two families of the internet protocol, the texts that
denote them, and networks as sets of addresses that share leading bits. -/
namespace Ip

open Numeral

inductive Family where
  | v4 | v6
deriving DecidableEq, Repr

def Family.bits : Family → Nat
  | .v4 => 32
  | .v6 => 128

@[ext]
structure Address where
  family : Family
  value : Nat
  lt : value < 2 ^ family.bits
deriving DecidableEq, Repr

/-- An address of the second family that maps one of the first, `::ffff:a.b.c.d`,
stands for the one it maps. -/
def Address.unmapped (a : Address) : Address :=
  if a.family = .v6 ∧ a.value / 2 ^ 32 = 0xffff then
    ⟨.v4, a.value % 2 ^ 32, Nat.mod_lt _ (Nat.two_pow_pos 32)⟩
  else a

/-- The addresses are of one family and agree in their first `length` bits. -/
def SameNetwork (length : Nat) (a b : Address) : Prop :=
  a.family = b.family ∧
    ∀ i, a.family.bits - length ≤ i → a.value.testBit i = b.value.testBit i

/-- The number whose digits in base `2 ^ width` are `words`, the highest first. -/
def ofWords (width : Nat) (words : List Nat) : Nat :=
  words.foldl (fun total word => total * 2 ^ width + word) 0

theorem ofWords_append_singleton (width : Nat) (words : List Nat) (word : Nat) :
    ofWords width (words ++ [word]) = ofWords width words * 2 ^ width + word := by
  simp only [ofWords, List.foldl_append, List.foldl_cons, List.foldl_nil]

theorem ofWords_lt {width : Nat} {words : List Nat} (h : ∀ w ∈ words, w < 2 ^ width) :
    ofWords width words < 2 ^ (width * words.length) := by
  induction words using List.reverseRecOn with
  | nil => simp [ofWords]
  | append_singleton words word ih =>
    have hfirst := ih fun w hw => h w (List.mem_append_left _ hw)
    have hword := h word (by simp)
    rw [ofWords_append_singleton, List.length_append, List.length_singleton, Nat.mul_succ,
      Nat.pow_add]
    calc ofWords width words * 2 ^ width + word
        < ofWords width words * 2 ^ width + 2 ^ width := by omega
      _ = (ofWords width words + 1) * 2 ^ width := by rw [Nat.succ_mul]
      _ ≤ 2 ^ (width * words.length) * 2 ^ width := Nat.mul_le_mul_right _ hfirst

theorem ofWords_append (width : Nat) (first second : List Nat) :
    ofWords width (first ++ second) =
      ofWords width first * 2 ^ (width * second.length) + ofWords width second := by
  induction second using List.reverseRecOn with
  | nil => simp [ofWords]
  | append_singleton second word ih =>
    rw [← List.append_assoc, ofWords_append_singleton, ih, ofWords_append_singleton,
      List.length_append, List.length_singleton, Nat.mul_succ, Nat.pow_add, Nat.add_mul,
      Nat.mul_assoc, Nat.add_assoc]

theorem ofWords_inj {width : Nat} {first second : List Nat} (hlength : first.length = second.length)
    (hfirst : ∀ w ∈ first, w < 2 ^ width) (hsecond : ∀ w ∈ second, w < 2 ^ width)
    (h : ofWords width first = ofWords width second) : first = second := by
  induction first using List.reverseRecOn generalizing second with
  | nil => exact (List.eq_nil_of_length_eq_zero hlength.symm).symm
  | append_singleton first last ih =>
    cases second using List.reverseRecOn with
    | nil => simp at hlength
    | append_singleton second other =>
      have hpos : 0 < 2 ^ width := Nat.two_pow_pos width
      have hlast := hfirst last (by simp)
      have hother := hsecond other (by simp)
      rw [ofWords_append_singleton, ofWords_append_singleton] at h
      have hmod := congrArg (· % 2 ^ width) h
      have hdiv := congrArg (· / 2 ^ width) h
      simp only [Nat.mul_add_mod_of_lt hlast, Nat.mul_add_mod_of_lt hother] at hmod
      rw [Nat.mul_comm _ (2 ^ width), Nat.mul_comm _ (2 ^ width)] at hdiv
      simp only [Nat.mul_add_div hpos, Nat.div_eq_of_lt hlast, Nat.div_eq_of_lt hother,
        Nat.add_zero] at hdiv
      have hinit : first = second := ih (by simpa using hlength)
        (fun w hw => hfirst w (List.mem_append_left _ hw))
        (fun w hw => hsecond w (List.mem_append_left _ hw)) hdiv
      rw [hinit, hmod]

/-- The last `count` digits of a number in base `2 ^ width`, the highest first. -/
def toWords (width : Nat) : Nat → Nat → List Nat
  | 0, _ => []
  | count + 1, value => toWords width count (value / 2 ^ width) ++ [value % 2 ^ width]

@[simp] theorem length_toWords (width count value : Nat) :
    (toWords width count value).length = count := by
  induction count generalizing value with
  | zero => rfl
  | succ count ih => rw [toWords, List.length_append, ih, List.length_singleton]

theorem toWords_lt (width count value : Nat) : ∀ w ∈ toWords width count value, w < 2 ^ width := by
  induction count generalizing value with
  | zero => simp [toWords]
  | succ count ih =>
    intro w hw
    rcases List.mem_append.mp hw with hfirst | hlast
    · exact ih (value / 2 ^ width) w hfirst
    · rw [List.mem_singleton.mp hlast]
      exact Nat.mod_lt _ (Nat.two_pow_pos width)

theorem toWords_add (width first second value : Nat) :
    toWords width (first + second) value =
      toWords width first (value >>> (width * second)) ++ toWords width second value := by
  induction second generalizing value with
  | zero => simp [toWords]
  | succ second ih =>
    have hshift : (value / 2 ^ width) >>> (width * second) = value >>> (width * (second + 1)) := by
      rw [Nat.shiftRight_eq_div_pow, Nat.shiftRight_eq_div_pow, Nat.div_div_eq_div_mul,
        ← Nat.pow_add, Nat.mul_succ, Nat.add_comm]
    rw [← Nat.add_assoc, toWords, ih, hshift, toWords, List.append_assoc]

theorem ofWords_toWords {width count value : Nat} (h : value < 2 ^ (width * count)) :
    ofWords width (toWords width count value) = value := by
  induction count generalizing value with
  | zero =>
    rw [Nat.mul_zero, Nat.pow_zero] at h
    rw [Nat.lt_one_iff.mp h]
    rfl
  | succ count ih =>
    rw [Nat.mul_succ, Nat.pow_add] at h
    rw [toWords, ofWords_append_singleton, ih (Nat.div_lt_of_lt_mul (by rwa [Nat.mul_comm]))]
    exact Nat.div_add_mod' value (2 ^ width)

theorem toWords_ofWords {width : Nat} {words : List Nat} (h : ∀ w ∈ words, w < 2 ^ width) :
    toWords width words.length (ofWords width words) = words :=
  ofWords_inj (length_toWords _ _ _) (toWords_lt _ _ _) h (ofWords_toWords (ofWords_lt h))

theorem foldl_shiftLeft_or {width : Nat} {words : List Nat} (h : ∀ w ∈ words, w < 2 ^ width) :
    words.foldl (fun total word => total <<< width ||| word) 0 = ofWords width words := by
  induction words using List.reverseRecOn with
  | nil => rfl
  | append_singleton words word ih =>
    rw [List.foldl_append, List.foldl_cons, List.foldl_nil, ofWords_append_singleton,
      ih fun w hw => h w (List.mem_append_left _ hw),
      ← Nat.shiftLeft_add_eq_or_of_lt (h word (by simp)), Nat.shiftLeft_eq]

/-! ### Texts -/

def IsQuad (text : List Char) (octets : List Nat) : Prop :=
  octets.length = 4 ∧ (∀ o ∈ octets, o < 2 ^ 8) ∧
    text = ['.'].intercalate (octets.map (Nat.toDigits 10))

def IsGroup (text : List Char) (group : Nat) : Prop :=
  text ≠ [] ∧ text.length ≤ 4 ∧ (∀ c ∈ text, isDigit 16 c = true) ∧ group = value 16 text

inductive IsTail : List (List Char) → List Nat → Prop where
  | nil : IsTail [] []
  | quad {text : List Char} {a b c d : Nat} (h : IsQuad text [a, b, c, d]) :
      IsTail [text] [a * 2 ^ 8 + b, c * 2 ^ 8 + d]
  | group {text : List Char} {g : Nat} {texts : List (List Char)} {groups : List Nat}
      (h : IsGroup text g) (rest : IsTail texts groups) : IsTail (text :: texts) (g :: groups)

/-- Eight groups, of which one run may be left out between two colons. -/
inductive IsV6 : List Char → List Nat → Prop where
  | full {texts : List (List Char)} {groups : List Nat} (h : IsTail texts groups)
      (hlength : groups.length = 8) : IsV6 ([':'].intercalate texts) groups
  | compressed {left right : List (List Char)} {high low : List Nat}
      (hleft : List.Forall₂ IsGroup left high) (hright : IsTail right low)
      (hlength : high.length + low.length ≤ 7) :
      IsV6 ([':'].intercalate left ++ ':' :: ':' :: [':'].intercalate right)
        (high ++ List.replicate (8 - (high.length + low.length)) 0 ++ low)

def Denotes (text : List Char) (a : Address) : Prop :=
  match a.family with
  | .v4 => ∃ octets, IsQuad text octets ∧ a.value = ofWords 8 octets
  | .v6 => ∃ groups, IsV6 text groups ∧ a.value = ofWords 16 groups

theorem IsGroup.lt {text : List Char} {group : Nat} (h : IsGroup text group) : group < 2 ^ 16 := by
  obtain ⟨-, hlength, hdigits, rfl⟩ := h
  calc value 16 text < 16 ^ text.length := value_lt hdigits
    _ ≤ 16 ^ 4 := Nat.pow_le_pow_right (by omega) hlength
    _ = 2 ^ 16 := rfl

theorem IsTail.lt {texts : List (List Char)} {groups : List Nat} (h : IsTail texts groups) :
    ∀ g ∈ groups, g < 2 ^ 16 := by
  induction h with
  | nil => simp
  | quad h =>
    have ha := h.2.1
    simp only [List.mem_cons, List.not_mem_nil, or_false, forall_eq_or_imp, forall_eq] at ha ⊢
    omega
  | group h _ ih =>
    intro g hg
    rcases List.mem_cons.mp hg with rfl | hrest
    · exact h.lt
    · exact ih g hrest

theorem forall₂_isGroup_lt {texts : List (List Char)} {groups : List Nat}
    (h : List.Forall₂ IsGroup texts groups) : ∀ g ∈ groups, g < 2 ^ 16 := by
  induction h with
  | nil => simp
  | cons h _ ih =>
    intro g hg
    rcases List.mem_cons.mp hg with rfl | hrest
    · exact h.lt
    · exact ih g hrest

theorem IsTail.of_forall₂ {texts : List (List Char)} {groups : List Nat}
    (h : List.Forall₂ IsGroup texts groups) : IsTail texts groups := by
  induction h with
  | nil => exact .nil
  | cons h _ ih => exact .group h ih

theorem IsV6.length {text : List Char} {groups : List Nat} (h : IsV6 text groups) :
    groups.length = 8 := by
  cases h with
  | full h hlength => exact hlength
  | compressed hleft hright hlength =>
    simp only [List.length_append, List.length_replicate]
    omega

theorem IsV6.lt {text : List Char} {groups : List Nat} (h : IsV6 text groups) :
    ∀ g ∈ groups, g < 2 ^ 16 := by
  cases h with
  | full h _ => exact h.lt
  | compressed hleft hright _ =>
    intro g hg
    rcases List.mem_append.mp hg with hfirst | hlow
    · rcases List.mem_append.mp hfirst with hhigh | hzero
      · exact forall₂_isGroup_lt hleft g hhigh
      · rw [List.eq_of_mem_replicate hzero]
        exact Nat.two_pow_pos 16
    · exact hright.lt g hlow

theorem isGroup_toDigits {group : Nat} (h : group < 2 ^ 16) :
    IsGroup (Nat.toDigits 16 group) group := by
  refine ⟨Nat.toDigits_ne_nil, ?_, isDigit_of_mem_toDigits (by omega) (by omega) group, ?_⟩
  · rw [Nat.length_toDigits_le_iff (by omega) (by omega)]
    exact h
  · exact (value_toDigits (by omega) (by omega) group).symm

theorem forall₂_isGroup_toDigits {groups : List Nat} (h : ∀ g ∈ groups, g < 2 ^ 16) :
    List.Forall₂ IsGroup (groups.map (Nat.toDigits 16)) groups := by
  induction groups with
  | nil => exact .nil
  | cons g groups ih =>
    exact .cons (isGroup_toDigits (h g (by simp)))
      (ih fun g' hg' => h g' (List.mem_cons_of_mem _ hg'))

/-! ### The characters of a text -/

theorem mem_intercalate {sep c : Char} {pieces : List (List Char)}
    (h : c ∈ [sep].intercalate pieces) : c = sep ∨ ∃ piece ∈ pieces, c ∈ piece := by
  induction pieces with
  | nil => simp [List.intercalate_nil] at h
  | cons piece rest ih =>
    cases rest with
    | nil => exact .inr ⟨piece, by simp, by simpa [List.intercalate_singleton] using h⟩
    | cons next others =>
      rw [List.intercalate_cons_cons] at h
      rcases List.mem_append.mp h with hfirst | hrest
      · rcases List.mem_append.mp hfirst with hpiece | hsep
        · exact .inr ⟨piece, by simp, hpiece⟩
        · exact .inl (List.mem_singleton.mp hsep)
      · rcases ih hrest with heq | ⟨other, hother, hc⟩
        · exact .inl heq
        · exact .inr ⟨other, List.mem_cons_of_mem _ hother, hc⟩

theorem IsQuad.mem {text : List Char} {octets : List Nat} (h : IsQuad text octets) :
    ∀ c ∈ text, c = '.' ∨ isDigit 10 c = true := by
  obtain ⟨-, -, rfl⟩ := h
  intro c hc
  rcases mem_intercalate hc with heq | ⟨piece, hpiece, hmem⟩
  · exact .inl heq
  · obtain ⟨octet, -, rfl⟩ := List.mem_map.mp hpiece
    exact .inr (isDigit_of_mem_toDigits (by omega) (by omega) octet c hmem)

theorem ne_of_isDigit {base : Nat} {c other : Char} (h : isDigit base c = true)
    (hother : isDigit 16 other = false) : c ≠ other := by
  rintro rfl
  obtain ⟨digit, hdigit, -⟩ := isDigit_iff.mp h
  have hall : digit < 16 := by
    rw [digitValue] at hdigit
    split_ifs at hdigit <;> cases hdigit <;> omega
  rw [isDigit_iff.mpr ⟨digit, hdigit, hall⟩] at hother
  cases hother

theorem IsQuad.not_mem {text : List Char} {octets : List Nat} (h : IsQuad text octets)
    {c : Char} (hdot : c ≠ '.') (hdigit : isDigit 16 c = false) : c ∉ text := by
  intro hc
  rcases h.mem c hc with heq | hdec
  · exact hdot heq
  · exact ne_of_isDigit hdec hdigit rfl

theorem IsQuad.ne_nil {text : List Char} {octets : List Nat} (h : IsQuad text octets) :
    text ≠ [] := by
  obtain ⟨hlength, -, rfl⟩ := h
  match octets, hlength with
  | [a, b, c, d], _ => simp [List.intercalate_cons_cons]

theorem IsGroup.not_mem {text : List Char} {group : Nat} (h : IsGroup text group)
    {c : Char} (hdigit : isDigit 16 c = false) : c ∉ text :=
  fun hc => ne_of_isDigit (h.2.2.1 c hc) hdigit rfl

theorem not_mem_intercalate {c : Char} {texts : List (List Char)} (hcolon : c ≠ ':')
    (h : ∀ text ∈ texts, c ∉ text) : c ∉ [':'].intercalate texts := by
  intro hc
  rcases mem_intercalate hc with heq | ⟨text, htext, hmem⟩
  · exact hcolon heq
  · exact h text htext hmem

theorem IsTail.not_mem {texts : List (List Char)} {groups : List Nat} (h : IsTail texts groups)
    {c : Char} (hdot : c ≠ '.') (hdigit : isDigit 16 c = false) : ∀ text ∈ texts, c ∉ text := by
  induction h with
  | nil => simp
  | quad h =>
    intro text htext
    rw [List.mem_singleton.mp htext]
    exact h.not_mem hdot hdigit
  | group h _ ih =>
    intro text htext
    rcases List.mem_cons.mp htext with rfl | hrest
    · exact h.not_mem hdigit
    · exact ih text hrest

theorem not_mem_of_isGroups {c : Char} {texts : List (List Char)} {groups : List Nat}
    (h : List.Forall₂ IsGroup texts groups) (hcolon : c ≠ ':') (hdigit : isDigit 16 c = false) :
    c ∉ [':'].intercalate texts := by
  refine not_mem_intercalate hcolon ?_
  induction h with
  | nil => simp
  | cons h _ ih =>
    intro text htext
    rcases List.mem_cons.mp htext with rfl | hrest
    · exact h.not_mem hdigit
    · exact ih text hrest

theorem IsV6.not_mem {text : List Char} {groups : List Nat} (h : IsV6 text groups) {c : Char}
    (hcolon : c ≠ ':') (hdot : c ≠ '.') (hdigit : isDigit 16 c = false) : c ∉ text := by
  cases h with
  | full h _ => exact not_mem_intercalate hcolon (h.not_mem hdot hdigit)
  | compressed hleft hright _ =>
    have hfirst := not_mem_of_isGroups hleft hcolon hdigit
    have hsecond := not_mem_intercalate hcolon (hright.not_mem hdot hdigit)
    simp [hfirst, hsecond, hcolon]

theorem isGroups_clean {texts : List (List Char)} {groups : List Nat}
    (h : List.Forall₂ IsGroup texts groups) : Split.Clean ':' texts := by
  induction h with
  | nil => simp [Split.Clean]
  | cons h _ ih =>
    intro piece hpiece
    rcases List.mem_cons.mp hpiece with rfl | hrest
    · exact ⟨h.1, h.not_mem (by decide)⟩
    · exact ih piece hrest

theorem IsTail.clean {texts : List (List Char)} {groups : List Nat} (h : IsTail texts groups) :
    Split.Clean ':' texts := by
  induction h with
  | nil => simp [Split.Clean]
  | quad h =>
    intro piece hpiece
    rw [List.mem_singleton.mp hpiece]
    exact ⟨h.ne_nil, h.not_mem (by decide) (by decide)⟩
  | group h _ ih =>
    intro piece hpiece
    rcases List.mem_cons.mp hpiece with rfl | hrest
    · exact ⟨h.1, h.not_mem (by decide)⟩
    · exact ih piece hrest

/-! ### The case of letters -/

theorem IsGroup.toLower {text : List Char} {group : Nat} (h : IsGroup text group) :
    IsGroup (text.map Char.toLower) group := by
  obtain ⟨hne, hlength, hdigits, hvalue⟩ := h
  refine ⟨by simpa using hne, by simpa using hlength, ?_, ?_⟩
  · intro c hc
    obtain ⟨d, hd, rfl⟩ := List.mem_map.mp hc
    rw [isDigit_toLower]
    exact hdigits d hd
  · rw [value_map_toLower, hvalue]

theorem IsQuad.toLower {text : List Char} {octets : List Nat} (h : IsQuad text octets) :
    text.map Char.toLower = text := by
  conv_rhs => rw [← List.map_id text]
  apply List.map_congr_left
  intro c hc
  rcases h.mem c hc with rfl | hdigit
  · rfl
  · obtain ⟨digit, hlt, -, rfl⟩ := digitChar_of_isDigit_ten hdigit
    have hall : ∀ n : Fin 10, (Nat.digitChar n).toLower = Nat.digitChar n := by decide
    exact hall ⟨digit, hlt⟩

theorem forall₂_isGroup_toLower {texts : List (List Char)} {groups : List Nat}
    (h : List.Forall₂ IsGroup texts groups) :
    List.Forall₂ IsGroup (texts.map (List.map Char.toLower)) groups := by
  induction h with
  | nil => exact .nil
  | cons h _ ih => exact .cons h.toLower ih

theorem IsTail.toLower {texts : List (List Char)} {groups : List Nat} (h : IsTail texts groups) :
    IsTail (texts.map (List.map Char.toLower)) groups := by
  induction h with
  | nil => exact .nil
  | quad h =>
    rw [List.map_singleton, h.toLower]
    exact .quad h
  | group h _ ih => exact .group h.toLower ih

theorem IsV6.toLower {text : List Char} {groups : List Nat} (h : IsV6 text groups) :
    IsV6 (text.map Char.toLower) groups := by
  cases h with
  | full h hlength =>
    rw [Split.map_intercalate]
    exact .full h.toLower hlength
  | compressed hleft hright hlength =>
    rw [List.map_append, List.map_cons, List.map_cons, Split.map_intercalate,
      Split.map_intercalate]
    exact .compressed (forall₂_isGroup_toLower hleft) hright.toLower hlength

theorem IsTail.cases_quad {texts : List (List Char)} {groups : List Nat} (h : IsTail texts groups) :
    List.Forall₂ IsGroup texts groups ∨
      ∃ initTexts initGroups text a b c d,
        List.Forall₂ IsGroup initTexts initGroups ∧ IsQuad text [a, b, c, d] ∧
          texts = initTexts ++ [text] ∧
          groups = initGroups ++ [a * 2 ^ 8 + b, c * 2 ^ 8 + d] := by
  induction h with
  | nil => exact .inl .nil
  | @quad text a b c d h => exact .inr ⟨[], [], text, a, b, c, d, .nil, h, rfl, rfl⟩
  | @group text g texts groups h _ ih =>
    rcases ih with hgroups | ⟨initTexts, initGroups, quad, a, b, c, d, hinit, hquad, rfl, rfl⟩
    · exact .inl (.cons h hgroups)
    · exact .inr ⟨text :: initTexts, g :: initGroups, quad, a, b, c, d, .cons h hinit, hquad,
        rfl, rfl⟩

/-! ### Spellings of the first family in the second -/

def Address.Mapped (a : Address) : Prop := a.family = .v6 ∧ a.value / 2 ^ 32 = 0xffff

instance (a : Address) : Decidable a.Mapped :=
  inferInstanceAs (Decidable (a.family = .v6 ∧ a.value / 2 ^ 32 = 0xffff))

theorem Address.unmapped_of_mapped {a : Address} (h : a.Mapped) :
    a.unmapped = ⟨.v4, a.value % 2 ^ 32, Nat.mod_lt _ (Nat.two_pow_pos 32)⟩ := if_pos h

theorem Address.unmapped_of_not_mapped {a : Address} (h : ¬ a.Mapped) : a.unmapped = a := if_neg h

theorem testBit_div {n width i : Nat} (h : width ≤ i) :
    (n / 2 ^ width).testBit (i - width) = n.testBit i := by
  rw [← Nat.shiftRight_eq_div_pow, Nat.testBit_shiftRight, Nat.add_sub_cancel' h]

/-- A prefix of the mapped address is ninety-six bits longer in the second notation. -/
theorem sameNetwork_unmapped {a b : Address} (ha : a.Mapped) (hb : b.Mapped) {length : Nat} :
    SameNetwork length a.unmapped b.unmapped ↔ SameNetwork (96 + length) a b := by
  rw [Address.unmapped_of_mapped ha, Address.unmapped_of_mapped hb, SameNetwork, SameNetwork,
    ha.1, hb.1]
  have hhost : Family.v6.bits - (96 + length) = Family.v4.bits - length := by
    simp only [Family.bits]
    omega
  rw [hhost, and_iff_right rfl, and_iff_right rfl]
  constructor
  · intro h i hi
    by_cases hlow : i < 32
    · have hbit := h i hi
      rwa [Nat.testBit_mod_two_pow, Nat.testBit_mod_two_pow, decide_eq_true hlow, Bool.true_and,
        Bool.true_and] at hbit
    · rw [← testBit_div (Nat.le_of_not_lt hlow), ← testBit_div (Nat.le_of_not_lt hlow), ha.2, hb.2]
  · intro h i hi
    rw [Nat.testBit_mod_two_pow, Nat.testBit_mod_two_pow, h i hi]

theorem mapped_of_sameNetwork {a b : Address} (ha : a.Mapped) {length : Nat}
    (h : SameNetwork (96 + length) a b) : b.Mapped := by
  refine ⟨h.1 ▸ ha.1, ?_⟩
  rw [← ha.2]
  apply Nat.eq_of_testBit_eq
  intro i
  have hbit := h.2 (i + 32) (by
    rw [ha.1]
    simp only [Family.bits]
    omega)
  have hdiv : ∀ n : Nat, (n / 2 ^ 32).testBit i = n.testBit (i + 32) := by
    intro n
    rw [← testBit_div (Nat.le_add_left 32 i), Nat.add_sub_cancel]
  rw [hdiv, hdiv, hbit]

end Ip

import Mathlib.Data.List.Basic

/-! UTF-16 as programs hold it: any sequence of code units, in which a surrogate
without its partner stands for no character. -/
namespace Utf16

abbrev Text := List UInt16

def isHigh (u : UInt16) : Bool := decide (0xd800 ≤ u.toNat) && decide (u.toNat < 0xdc00)
def isLow (u : UInt16) : Bool := decide (0xdc00 ≤ u.toNat) && decide (u.toNat < 0xe000)

def single (u : UInt16) : Option Char :=
  if isHigh u || isLow u then none else some (Char.ofNat u.toNat)

def pair (high low : UInt16) : Char :=
  Char.ofNat (0x10000 + (high.toNat - 0xd800) * 0x400 + (low.toNat - 0xdc00))

/-- The characters of a text, `none` for a surrogate that is not part of a pair. -/
def read : Text → List (Option Char)
  | [] => []
  | [u] => [single u]
  | u :: v :: rest =>
    if isHigh u && isLow v then some (pair u v) :: read rest else single u :: read (v :: rest)

/-- `U+FFFD`. -/
def replacement : Char := Char.ofNat 0xfffd

def toChars (text : Text) : List Char := (read text).map (·.getD replacement)

def WellFormed (text : Text) : Prop := none ∉ read text

instance (text : Text) : Decidable (WellFormed text) := inferInstanceAs (Decidable (none ∉ read text))

def encodeChar (c : Char) : Text :=
  if c.toNat < 0x10000 then [UInt16.ofNat c.toNat]
  else
    [UInt16.ofNat (0xd800 + (c.toNat - 0x10000) / 0x400),
      UInt16.ofNat (0xdc00 + (c.toNat - 0x10000) % 0x400)]

def encode (chars : List Char) : Text := chars.flatMap encodeChar

@[simp] theorem encode_nil : encode [] = [] := rfl

@[simp] theorem encode_cons (c : Char) (chars : List Char) :
    encode (c :: chars) = encodeChar c ++ encode chars := rfl

@[simp] theorem encode_append (first second : List Char) :
    encode (first ++ second) = encode first ++ encode second := List.flatMap_append ..

theorem length_encodeChar_le (c : Char) : (encodeChar c).length ≤ 2 := by
  unfold encodeChar
  split
  · exact Nat.le_succ 1
  · exact Nat.le_refl 2

theorem length_encode_le (chars : List Char) : (encode chars).length ≤ 2 * chars.length := by
  induction chars with
  | nil => exact Nat.le_refl 0
  | cons c rest ih =>
    have hc := length_encodeChar_le c
    rw [encode_cons, List.length_append, List.length_cons]
    omega

/-! ### One character -/

theorem toNat_ofNat {n : Nat} (h : n.isValidChar) : (Char.ofNat n).toNat = n := by
  rw [Char.ofNat, dif_pos h]
  rfl

theorem read_singleton (u : UInt16) : read [u] = [single u] := rfl

theorem single_eq_some {u : UInt16} {c : Char} (h : single u = some c) : encodeChar c = [u] := by
  have hlt := u.toNat_lt
  simp only [single, isHigh, isLow, Bool.or_eq_true, Bool.and_eq_true, decide_eq_true_eq] at h
  split at h
  · cases h
  · rename_i hsurrogate
    cases h
    have hvalid : u.toNat.isValidChar := by
      simp only [Nat.isValidChar]
      omega
    have htoNat : (Char.ofNat u.toNat).toNat = u.toNat := toNat_ofNat hvalid
    rw [encodeChar, htoNat, if_pos (by omega), UInt16.ofNat_toNat]

theorem toNat_pair {high low : UInt16} (hhigh : isHigh high = true) (hlow : isLow low = true) :
    (pair high low).toNat =
      0x10000 + (high.toNat - 0xd800) * 0x400 + (low.toNat - 0xdc00) := by
  simp only [isHigh, isLow, Bool.and_eq_true, decide_eq_true_eq] at hhigh hlow
  apply toNat_ofNat
  simp only [Nat.isValidChar]
  omega

theorem encodeChar_pair {high low : UInt16} (hhigh : isHigh high = true)
    (hlow : isLow low = true) : encodeChar (pair high low) = [high, low] := by
  have htoNat := toNat_pair hhigh hlow
  simp only [isHigh, isLow, Bool.and_eq_true, decide_eq_true_eq] at hhigh hlow
  have hfirst : 0xd800 + ((pair high low).toNat - 0x10000) / 0x400 = high.toNat := by omega
  have hsecond : 0xdc00 + ((pair high low).toNat - 0x10000) % 0x400 = low.toNat := by omega
  rw [encodeChar, if_neg (by omega), hfirst, hsecond, UInt16.ofNat_toNat, UInt16.ofNat_toNat]

theorem read_encodeChar_append (c : Char) (rest : Text) :
    read (encodeChar c ++ rest) = some c :: read rest := by
  have hvalid : c.toNat < 0xd800 ∨ 0xdfff < c.toNat ∧ c.toNat < 0x110000 := c.valid
  rw [encodeChar]
  split
  · rename_i hplane
    have htoNat : (UInt16.ofNat c.toNat).toNat = c.toNat := by
      rw [UInt16.toNat_ofNat', Nat.mod_eq_of_lt (by omega)]
    have hhigh : isHigh (UInt16.ofNat c.toNat) = false := by
      simp only [isHigh, htoNat, Bool.and_eq_false_iff, decide_eq_false_iff_not]
      omega
    have hlow : isLow (UInt16.ofNat c.toNat) = false := by
      simp only [isLow, htoNat, Bool.and_eq_false_iff, decide_eq_false_iff_not]
      omega
    have hsingle : single (UInt16.ofNat c.toNat) = some c := by
      rw [single, hhigh, hlow, if_neg (by simp), htoNat, Char.ofNat_toNat]
    cases rest with
    | nil => rw [List.singleton_append, read_singleton, hsingle, read]
    | cons v rest => rw [List.singleton_append, read, hhigh, Bool.false_and, if_neg (by simp), hsingle]
  · have hfirst : (UInt16.ofNat (0xd800 + (c.toNat - 0x10000) / 0x400)).toNat =
        0xd800 + (c.toNat - 0x10000) / 0x400 := by
      rw [UInt16.toNat_ofNat', Nat.mod_eq_of_lt (by omega)]
    have hsecond : (UInt16.ofNat (0xdc00 + (c.toNat - 0x10000) % 0x400)).toNat =
        0xdc00 + (c.toNat - 0x10000) % 0x400 := by
      rw [UInt16.toNat_ofNat', Nat.mod_eq_of_lt (by omega)]
    have hhigh : isHigh (UInt16.ofNat (0xd800 + (c.toNat - 0x10000) / 0x400)) = true := by
      simp only [isHigh, hfirst, Bool.and_eq_true, decide_eq_true_eq]
      omega
    have hlow : isLow (UInt16.ofNat (0xdc00 + (c.toNat - 0x10000) % 0x400)) = true := by
      simp only [isLow, hsecond, Bool.and_eq_true, decide_eq_true_eq]
      omega
    have hpair : pair (UInt16.ofNat (0xd800 + (c.toNat - 0x10000) / 0x400))
        (UInt16.ofNat (0xdc00 + (c.toNat - 0x10000) % 0x400)) = c := by
      apply Char.toNat_inj.mp
      rw [toNat_pair hhigh hlow, hfirst, hsecond]
      omega
    rw [List.cons_append, List.singleton_append, read, hhigh, hlow, Bool.and_true, if_pos rfl,
      hpair]

theorem read_not_high {u : UInt16} (h : isHigh u = false) (rest : Text) :
    read (u :: rest) = single u :: read rest := by
  cases rest with
  | nil => rw [read_singleton, read]
  | cons v rest => rw [read, h, Bool.false_and, if_neg (by simp)]

theorem read_low {u : UInt16} (h : isLow u = true) (rest : Text) :
    read (u :: rest) = none :: read rest := by
  have hsingle : single u = none := by rw [single, h, Bool.or_true, if_pos rfl]
  have hhigh : isHigh u = false := by
    simp only [isHigh, isLow, Bool.and_eq_true, decide_eq_true_eq, Bool.and_eq_false_iff,
      decide_eq_false_iff_not] at h ⊢
    omega
  rw [read_not_high hhigh, hsingle]

/-! ### Texts -/

theorem read_encode_append (chars : List Char) (rest : Text) :
    read (encode chars ++ rest) = chars.map some ++ read rest := by
  induction chars with
  | nil => rfl
  | cons c chars ih =>
    rw [encode_cons, List.append_assoc, read_encodeChar_append, ih, List.map_cons, List.cons_append]

@[simp] theorem read_encode (chars : List Char) : read (encode chars) = chars.map some := by
  have h := read_encode_append chars []
  rwa [List.append_nil, read, List.append_nil] at h

theorem encode_of_read {text : Text} {chars : List Char} (h : read text = chars.map some) :
    encode chars = text := by
  fun_induction read text generalizing chars with
  | case1 =>
    rw [List.map_eq_nil_iff.mp h.symm]
    rfl
  | case2 u =>
    obtain ⟨c, rest, rfl, hc, hrest⟩ := List.map_eq_cons_iff.mp h.symm
    rw [List.map_eq_nil_iff.mp hrest, encode_cons, single_eq_some hc.symm]
    rfl
  | case3 u v rest hpair ih =>
    obtain ⟨c, others, rfl, hc, hrest⟩ := List.map_eq_cons_iff.mp h.symm
    have hchar : c = pair u v := Option.some.inj hc
    rw [Bool.and_eq_true] at hpair
    rw [encode_cons, hchar, encodeChar_pair hpair.1 hpair.2, ih hrest.symm]
    rfl
  | case4 u v rest _ ih =>
    obtain ⟨c, others, rfl, hc, hrest⟩ := List.map_eq_cons_iff.mp h.symm
    rw [encode_cons, single_eq_some hc.symm, ih hrest.symm]
    rfl

theorem map_getD_some (chars : List Char) :
    (chars.map some).map (·.getD replacement) = chars := by
  rw [List.map_map]
  exact List.map_id chars

@[simp] theorem toChars_encode (chars : List Char) : toChars (encode chars) = chars := by
  rw [toChars, read_encode, map_getD_some]

theorem wellFormed_encode (chars : List Char) : WellFormed (encode chars) := by
  simp [WellFormed]

theorem encode_toChars {text : Text} (h : WellFormed text) : encode (toChars text) = text := by
  apply encode_of_read
  rw [toChars, List.map_map]
  conv_lhs => rw [← List.map_id (read text)]
  apply List.map_congr_left
  intro c hc
  cases c with
  | none => exact absurd hc h
  | some c => rfl

theorem wellFormed_append {first second : Text} (hfirst : WellFormed first)
    (hsecond : WellFormed second) : WellFormed (first ++ second) := by
  rw [← encode_toChars hfirst, ← encode_toChars hsecond, ← encode_append]
  exact wellFormed_encode _

theorem wellFormed_single {u : UInt16} (hhigh : isHigh u = false) (hlow : isLow u = false) :
    WellFormed [u] := by
  simp [WellFormed, read, single, hhigh, hlow]

theorem wellFormed_pair {high low : UInt16} (hhigh : isHigh high = true)
    (hlow : isLow low = true) : WellFormed [high, low] := by
  simp [WellFormed, read, hhigh, hlow]

theorem wellFormed_of_lt {text : Text} (h : ∀ u ∈ text, u.toNat < 0xd800) : WellFormed text := by
  induction text with
  | nil => decide
  | cons u rest ih =>
    have hu := h u List.mem_cons_self
    rw [← List.singleton_append]
    refine wellFormed_append (wellFormed_single ?_ ?_) (ih fun v hv => h v (List.mem_cons_of_mem _ hv))
    · simp only [isHigh, Bool.and_eq_false_iff, decide_eq_false_iff_not]
      omega
    · simp only [isLow, Bool.and_eq_false_iff, decide_eq_false_iff_not]
      omega

theorem length_toChars_le (text : Text) : (toChars text).length ≤ text.length := by
  rw [toChars, List.length_map]
  fun_induction read text with
  | case1 => exact Nat.le_refl _
  | case2 u => exact Nat.le_refl _
  | case3 u v rest hpair ih =>
    simp only [List.length_cons]
    omega
  | case4 u v rest hsingle ih =>
    simp only [List.length_cons] at ih ⊢
    omega

theorem eq_of_toChars_eq {first second : Text} (hfirst : WellFormed first)
    (hsecond : WellFormed second) (h : toChars first = toChars second) : first = second := by
  rw [← encode_toChars hfirst, ← encode_toChars hsecond, h]

theorem replacement_mem_toChars {text : Text} :
    replacement ∈ toChars text ↔ ¬ WellFormed text ∨ some replacement ∈ read text := by
  simp only [toChars, List.mem_map, WellFormed, not_not]
  constructor
  · rintro ⟨c, hc, heq⟩
    cases c with
    | none => exact .inl hc
    | some c =>
      rw [Option.getD_some] at heq
      exact .inr (heq ▸ hc)
  · rintro (h | h)
    · exact ⟨none, h, rfl⟩
    · exact ⟨some replacement, h, rfl⟩

theorem some_replacement_mem_read {text : Text} :
    some replacement ∈ read text ↔ (0xfffd : UInt16) ∈ text := by
  have hsingle : ∀ u : UInt16, some replacement = single u ↔ 0xfffd = u := by
    intro u
    constructor
    · intro h
      have hunit := single_eq_some h.symm
      exact (List.cons.inj hunit).1
    · rintro rfl
      rfl
  fun_induction read text with
  | case1 => simp
  | case2 u => rw [List.mem_singleton, List.mem_singleton, hsingle]
  | case3 u v rest hpair ih =>
    rw [Bool.and_eq_true] at hpair
    have hne : ¬ some replacement = some (pair u v) := by
      intro h
      have hnat := toNat_pair hpair.1 hpair.2
      rw [← Option.some.inj h] at hnat
      have hvalue : replacement.toNat = 0xfffd := by decide
      omega
    have hu : ¬ (0xfffd : UInt16) = u := by
      rintro rfl
      exact absurd hpair.1 (by decide)
    have hv : ¬ (0xfffd : UInt16) = v := by
      rintro rfl
      exact absurd hpair.2 (by decide)
    rw [List.mem_cons, or_iff_right hne, List.mem_cons, or_iff_right hu, List.mem_cons,
      or_iff_right hv]
    exact ih
  | case4 u v rest _ ih =>
    rw [List.mem_cons, hsingle, List.mem_cons (b := u)]
    exact or_congr_right ih

/-- A text shares its characters with no other one exactly if none of them is the
replacement character. -/
theorem toChars_determines {text : Text} :
    (∀ other, toChars other = toChars text → other = text) ↔ replacement ∉ toChars text := by
  constructor
  · intro hunique hmem
    by_cases hwell : WellFormed text
    · -- one replacement character of a well-formed text becomes a lone surrogate
      obtain ⟨left, right, hsplit⟩ := List.append_of_mem hmem
      have hread : read (encode left ++ (0xdc00 :: encode right)) =
          left.map some ++ none :: right.map some := by
        rw [read_encode_append, read_low (by decide), read_encode]
      have hother := hunique (encode left ++ (0xdc00 :: encode right)) (by
        rw [toChars, hread, List.map_append, List.map_cons, map_getD_some, map_getD_some, hsplit]
        rfl)
      apply hwell
      rw [← hother, hread]
      simp
    · have hother := hunique (encode (toChars text)) (toChars_encode _)
      exact hwell (hother ▸ wellFormed_encode _)
  · intro hnot other heq
    have hwell : WellFormed text := by
      by_contra h
      exact hnot (replacement_mem_toChars.mpr (.inl h))
    have hother : WellFormed other := by
      by_contra h
      exact hnot (heq ▸ replacement_mem_toChars.mpr (.inl h))
    exact eq_of_toChars_eq hother hwell heq

end Utf16

import Mathlib.Algebra.Ring.Nat
import Mathlib.Data.List.Basic
import Mathlib.Data.List.Induction

/-! Numerals as texts: the value of a list of digits in a base up to sixteen,
and the texts that `Nat.toDigits` writes. -/
namespace Numeral

def digitValue (c : Char) : Option Nat :=
  if 48 ≤ c.toNat ∧ c.toNat ≤ 57 then some (c.toNat - 48)
  else if 97 ≤ c.toNat ∧ c.toNat ≤ 102 then some (c.toNat - 87)
  else if 65 ≤ c.toNat ∧ c.toNat ≤ 70 then some (c.toNat - 55)
  else none

def isDigit (base : Nat) (c : Char) : Bool :=
  match digitValue c with
  | some digit => decide (digit < base)
  | none => false

def value (base : Nat) (digits : List Char) : Nat :=
  digits.foldl (fun total c => base * total + (digitValue c).getD 0) 0

@[simp] theorem value_nil (base : Nat) : value base [] = 0 := rfl

theorem value_append_singleton (base : Nat) (digits : List Char) (c : Char) :
    value base (digits ++ [c]) = base * value base digits + (digitValue c).getD 0 := by
  simp only [value, List.foldl_append, List.foldl_cons, List.foldl_nil]

theorem value_singleton (base : Nat) (c : Char) : value base [c] = (digitValue c).getD 0 := by
  simp [value]

theorem isDigit_iff {base : Nat} {c : Char} :
    isDigit base c = true ↔ ∃ digit, digitValue c = some digit ∧ digit < base := by
  rw [isDigit]
  cases digitValue c with
  | none => simp
  | some digit => simp

theorem digitValue_digitChar {digit : Nat} (h : digit < 16) :
    digitValue (Nat.digitChar digit) = some digit := by
  have hall : ∀ n : Fin 16, digitValue (Nat.digitChar n) = some n.val := by decide
  exact hall ⟨digit, h⟩

theorem isDigit_digitChar {base digit : Nat} (hbase : base ≤ 16) (h : digit < base) :
    isDigit base (Nat.digitChar digit) = true :=
  isDigit_iff.mpr ⟨digit, digitValue_digitChar (by omega), h⟩

theorem toNat_of_isDigit {base : Nat} {c : Char} (h : isDigit base c = true) :
    (48 ≤ c.toNat ∧ c.toNat ≤ 57) ∨ (97 ≤ c.toNat ∧ c.toNat ≤ 102) ∨
      (65 ≤ c.toNat ∧ c.toNat ≤ 70) := by
  obtain ⟨digit, hdigit, -⟩ := isDigit_iff.mp h
  rw [digitValue] at hdigit
  split at hdigit
  · exact .inl ‹_›
  · split at hdigit
    · exact .inr (.inl ‹_›)
    · split at hdigit
      · exact .inr (.inr ‹_›)
      · cases hdigit

theorem toNat_of_isDigit_ten {c : Char} (h : isDigit 10 c = true) :
    48 ≤ c.toNat ∧ c.toNat ≤ 57 := by
  obtain ⟨digit, hdigit, hlt⟩ := isDigit_iff.mp h
  rw [digitValue] at hdigit
  split at hdigit
  · assumption
  · split at hdigit
    · cases hdigit
      omega
    · split at hdigit
      · cases hdigit
        omega
      · cases hdigit

section

variable {base : Nat} (hbase : 1 < base) (hle : base ≤ 16)
include hbase hle

theorem isDigit_of_mem_toDigits (n : Nat) :
    ∀ c ∈ Nat.toDigits base n, isDigit base c = true := by
  induction n using Nat.strong_induction_on with
  | _ n ih =>
    rw [Nat.toDigits_eq_if hbase]
    split
    · rename_i hlt
      intro c hc
      rw [List.mem_singleton.mp hc]
      exact isDigit_digitChar hle hlt
    · rename_i hge
      intro c hc
      rcases List.mem_append.mp hc with hfirst | hlast
      · exact ih (n / base) (Nat.div_lt_self (by omega) hbase) c hfirst
      · rw [List.mem_singleton.mp hlast]
        exact isDigit_digitChar hle (Nat.mod_lt n (by omega))

theorem value_toDigits (n : Nat) : value base (Nat.toDigits base n) = n := by
  induction n using Nat.strong_induction_on with
  | _ n ih =>
    rw [Nat.toDigits_eq_if hbase]
    split
    · rename_i hlt
      rw [value_singleton, digitValue_digitChar (by omega), Option.getD_some]
    · rename_i hge
      have hmod : n % base < base := Nat.mod_lt n (by omega)
      rw [value_append_singleton, ih (n / base) (Nat.div_lt_self (by omega) hbase),
        digitValue_digitChar (by omega), Option.getD_some]
      exact Nat.div_add_mod n base

end

theorem value_lt {base : Nat} {digits : List Char} (h : ∀ c ∈ digits, isDigit base c = true) :
    value base digits < base ^ digits.length := by
  induction digits using List.reverseRecOn with
  | nil => simp
  | append_singleton digits c ih =>
    have hfirst := ih fun d hd => h d (List.mem_append_left _ hd)
    obtain ⟨digit, hdigit, hlt⟩ := isDigit_iff.mp (h c (by simp))
    rw [value_append_singleton, hdigit, Option.getD_some, List.length_append,
      List.length_singleton, pow_succ]
    calc base * value base digits + digit
        < base * value base digits + base := by omega
      _ = base * (value base digits + 1) := by rw [Nat.mul_succ]
      _ ≤ base * base ^ digits.length := Nat.mul_le_mul_left _ hfirst
      _ = base ^ digits.length * base := Nat.mul_comm _ _

theorem digitChar_of_isDigit_ten {c : Char} (h : isDigit 10 c = true) :
    ∃ digit, digit < 10 ∧ digitValue c = some digit ∧ Nat.digitChar digit = c := by
  obtain ⟨digit, hdigit, hlt⟩ := isDigit_iff.mp h
  obtain ⟨hlow, hhigh⟩ := toNat_of_isDigit_ten h
  have hvalue : digit = c.toNat - 48 := by
    rw [digitValue, if_pos ⟨hlow, hhigh⟩] at hdigit
    exact (Option.some.inj hdigit).symm
  refine ⟨digit, hlt, hdigit, ?_⟩
  have hall : ∀ n : Fin 10, (Nat.digitChar n).toNat = n.val + 48 := by decide
  have hcode : (Nat.digitChar digit).toNat = c.toNat := by
    have := hall ⟨digit, hlt⟩
    dsimp only at this
    omega
  rw [← Char.ofNat_toNat (Nat.digitChar digit), hcode, Char.ofNat_toNat]

/-- Digits in base ten without a leading zero, as `Nat.toDigits` writes them. -/
def isDecimal (text : List Char) : Bool :=
  match text with
  | [] => false
  | [c] => isDigit 10 c
  | c :: rest => isDigit 10 c && c != '0' && rest.all (isDigit 10)

theorem isDecimal_iff {text : List Char} :
    isDecimal text = true ↔
      text ≠ [] ∧ (∀ c ∈ text, isDigit 10 c = true) ∧ (1 < text.length → text.head? ≠ some '0') := by
  match text with
  | [] => simp [isDecimal]
  | [c] => simp [isDecimal]
  | c :: next :: rest =>
    simp only [isDecimal, Bool.and_eq_true, bne_iff_ne, ne_eq, List.all_eq_true, List.mem_cons,
      List.length_cons, List.head?_cons, Option.some.injEq, reduceCtorEq, not_false_eq_true,
      true_and, forall_eq_or_imp]
    constructor
    · rintro ⟨⟨hc, hzero⟩, hrest⟩
      exact ⟨⟨hc, hrest⟩, fun _ => hzero⟩
    · rintro ⟨⟨hc, hrest⟩, hzero⟩
      exact ⟨⟨hc, hzero (by omega)⟩, hrest⟩

theorem toDigits_value {text : List Char} (h : isDecimal text = true) :
    Nat.toDigits 10 (value 10 text) = text := by
  obtain ⟨hne, hdigits, hlead⟩ := isDecimal_iff.mp h
  clear h
  induction text using List.reverseRecOn with
  | nil => exact absurd rfl hne
  | append_singleton digits c ih =>
    obtain ⟨digit, hlt, hdigit, hchar⟩ := digitChar_of_isDigit_ten (hdigits c (by simp))
    rw [value_append_singleton, hdigit, Option.getD_some, ← hchar]
    by_cases hnil : digits = []
    · subst hnil
      rw [value_nil, Nat.mul_zero, Nat.zero_add, Nat.toDigits_of_lt_base hlt, List.nil_append]
    · have hhead : digits.head? ≠ some '0' := by
        have := hlead (by
          have := List.length_pos_of_ne_nil hnil
          rw [List.length_append, List.length_singleton]
          omega)
        rwa [List.head?_append_of_ne_nil _ hnil] at this
      have hdec := ih hnil (fun d hd => hdigits d (List.mem_append_left _ hd)) fun _ => hhead
      have hpos : 0 < value 10 digits := by
        by_contra hzero
        rw [Nat.eq_zero_of_not_pos hzero, Nat.toDigits_zero] at hdec
        rw [← hdec] at hhead
        exact hhead rfl
      rw [Nat.toDigits_of_base_le (by omega) (by omega)]
      have hdiv : (10 * value 10 digits + digit) / 10 = value 10 digits := by omega
      have hmod : (10 * value 10 digits + digit) % 10 = digit := by omega
      rw [hdiv, hmod, hdec]

theorem isDecimal_toDigits (n : Nat) : isDecimal (Nat.toDigits 10 n) = true := by
  rw [isDecimal_iff]
  refine ⟨Nat.toDigits_ne_nil, isDigit_of_mem_toDigits (by omega) (by omega) n, ?_⟩
  induction n using Nat.strong_induction_on with
  | _ n ih =>
    rw [Nat.toDigits_eq_if (by omega)]
    split
    · intro hlength
      simp at hlength
    · rename_i hge
      intro _
      rw [List.head?_append_of_ne_nil _ Nat.toDigits_ne_nil]
      by_cases hsmall : n / 10 < 10
      · rw [Nat.toDigits_of_lt_base hsmall, List.head?_cons]
        intro hzero
        have : n / 10 = 0 := Nat.digitChar_eq_zero.mp (Option.some.inj hzero)
        omega
      · apply ih (n / 10) (by omega)
        rw [Nat.toDigits_of_base_le (by omega) (by omega), List.length_append,
          List.length_singleton]
        have := Nat.length_toDigits_pos (b := 10) (n := n / 10 / 10)
        omega

theorem digitValue_toLower (c : Char) : digitValue c.toLower = digitValue c := by
  by_cases h : 65 ≤ c.toNat ∧ c.toNat ≤ 90
  · have hupper : c.toLower.toNat = c.toNat + 32 := by
      have hall : ∀ n : Fin 26, (Char.ofNat (65 + n)).toLower.toNat = 65 + n + 32 := by decide
      have := hall ⟨c.toNat - 65, by omega⟩
      dsimp only at this
      rwa [Nat.add_sub_cancel' h.1, Char.ofNat_toNat] at this
    by_cases hf : c.toNat ≤ 70
    · have hvalue : c.toNat + 32 - 87 = c.toNat - 55 := by omega
      have hlower : digitValue c.toLower = some (c.toNat - 55) := by
        rw [digitValue, hupper, if_neg (by omega), if_pos (by omega), hvalue]
      rw [hlower, digitValue, if_neg (by omega), if_neg (by omega), if_pos ⟨h.1, hf⟩]
    · have hlower : digitValue c.toLower = none := by
        rw [digitValue, hupper, if_neg (by omega), if_neg (by omega), if_neg (by omega)]
      rw [hlower, digitValue, if_neg (by omega), if_neg (by omega), if_neg (by omega)]
  · have hsame : c.toLower = c := by
      unfold Char.toLower
      rw [dif_neg]
      exact h
    rw [hsame]

theorem isDigit_toLower (base : Nat) (c : Char) : isDigit base c.toLower = isDigit base c := by
  rw [isDigit, isDigit, digitValue_toLower]

theorem value_map_toLower (base : Nat) (digits : List Char) :
    value base (digits.map Char.toLower) = value base digits := by
  simp only [value, List.foldl_map, digitValue_toLower]

end Numeral

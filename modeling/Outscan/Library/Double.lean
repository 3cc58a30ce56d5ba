import Mathlib.Data.Int.Log
import Mathlib.Data.Rat.Floor
import Mathlib.Algebra.Order.Field.Power
import Mathlib.Tactic.Positivity

/-! The double nearest to a rational number, and the whole numbers among the doubles. -/
namespace Double

/-- The doubles around `q` are the multiples of two to this power. -/
def spacing (q : ℚ) : ℤ := max (Int.log 2 |q| - 52) (-1074)

def toEven (q : ℚ) : ℤ :=
  if q - ⌊q⌋ < 1 / 2 then ⌊q⌋
  else if 1 / 2 < q - ⌊q⌋ then ⌊q⌋ + 1
  else if Even ⌊q⌋ then ⌊q⌋
  else ⌊q⌋ + 1

def nearest (q : ℚ) : ℚ := toEven (q / 2 ^ spacing q) * 2 ^ spacing q

def whole? (q : ℚ) : Option ℤ :=
  if |nearest q| < 2 ^ 1024 ∧ (nearest q).den = 1 then some (nearest q).num else none

def bits (q : ℚ) : UInt64 :=
  let significand := (toEven (q / 2 ^ spacing q)).natAbs
  let magnitude :=
    if 2 ^ 1024 ≤ |nearest q| then 2047 * 2 ^ 52
    else if significand < 2 ^ 52 then significand
    else (spacing q + 1074).toNat * 2 ^ 52 + significand
  UInt64.ofNat ((if q < 0 then 2 ^ 63 else 0) + magnitude)

@[simp] theorem toEven_intCast (n : ℤ) : toEven n = n := by
  unfold toEven
  rw [Int.floor_intCast, sub_self, if_pos (by norm_num)]

theorem nearest_of_multiple {q : ℚ} {n : ℤ} (h : q = n * 2 ^ spacing q) : nearest q = q := by
  have hpos : (0 : ℚ) < 2 ^ spacing q := by positivity
  have hquotient : q / 2 ^ spacing q = n := by
    rw [div_eq_iff hpos.ne']
    exact h
  rw [nearest, hquotient, toEven_intCast]
  exact h.symm

theorem spacing_natCast_le {n : ℕ} (h : n < 2 ^ 53) : spacing n ≤ 0 := by
  unfold spacing
  have hlog : Nat.log 2 n ≤ 52 := by
    by_cases hzero : n = 0
    · subst hzero
      simp
    · have hlt := Nat.log_lt_of_lt_pow hzero h
      omega
  rw [Nat.abs_cast, Int.log_natCast]
  omega

theorem nearest_natCast {n : ℕ} (h : n < 2 ^ 53) : nearest n = n := by
  obtain ⟨shift, hshift⟩ := Int.eq_ofNat_of_zero_le (neg_nonneg.mpr (spacing_natCast_le h))
  refine nearest_of_multiple (n := n * 2 ^ shift) ?_
  have hspacing : spacing n = -(shift : ℤ) := by omega
  rw [hspacing, zpow_neg, zpow_natCast]
  push_cast
  rw [mul_assoc, mul_inv_cancel₀ (by positivity), mul_one]

theorem whole?_natCast {n : ℕ} (h : n < 2 ^ 53) : whole? n = some (n : ℤ) := by
  unfold whole?
  rw [nearest_natCast h, if_pos]
  · simp
  · refine ⟨?_, by simp⟩
    rw [Nat.abs_cast]
    have hlarge : (2 : ℚ) ^ 53 ≤ 2 ^ 1024 := pow_le_pow_right₀ (by norm_num) (by norm_num)
    have hcast : (n : ℚ) < 2 ^ 53 := by exact_mod_cast h
    exact hcast.trans_le hlarge

/-- A tenth and a little less than one are not the same: the one is no whole number, the
other lies next to one. -/
example : whole? (1 / 10) = none ∧ bits (1 / 10) = 0x3fb999999999999a ∧
    whole? (1 - 1 / 10 ^ 20) = some 1 := by
  decide +kernel

end Double

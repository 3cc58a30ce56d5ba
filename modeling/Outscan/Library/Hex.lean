import Mathlib.Data.List.Basic

/-! Lower-case hexadecimal: two digits for each byte, and no other spelling. -/
namespace Hex

def digit (value : Nat) : Char :=
  if value < 10 then Char.ofNat (48 + value) else Char.ofNat (87 + value)

def digitValue (c : Char) : Option Nat :=
  if 48 ≤ c.toNat ∧ c.toNat ≤ 57 then some (c.toNat - 48)
  else if 97 ≤ c.toNat ∧ c.toNat ≤ 102 then some (c.toNat - 87)
  else none

def encode : List UInt8 → List Char
  | [] => []
  | byte :: rest => digit (byte.toNat / 16) :: digit (byte.toNat % 16) :: encode rest

def decode : List Char → Option (List UInt8)
  | [] => some []
  | [_] => none
  | high :: low :: rest =>
    match digitValue high, digitValue low with
    | some high, some low => (decode rest).map (UInt8.ofNat (16 * high + low) :: ·)
    | _, _ => none

theorem digitValue_digit {value : Nat} (h : value < 16) : digitValue (digit value) = some value := by
  have hall : ∀ n : Fin 16, digitValue (digit n) = some n.val := by decide
  exact hall ⟨value, h⟩

theorem digit_of_digitValue {c : Char} {value : Nat} (h : digitValue c = some value) :
    value < 16 ∧ digit value = c := by
  rw [digitValue] at h
  split at h
  · cases h
    refine ⟨by omega, ?_⟩
    have hback : 48 + (c.toNat - 48) = c.toNat := by omega
    rw [digit, if_pos (by omega), hback, Char.ofNat_toNat]
  · split at h
    · cases h
      refine ⟨by omega, ?_⟩
      have hback : 87 + (c.toNat - 87) = c.toNat := by omega
      rw [digit, if_neg (by omega), hback, Char.ofNat_toNat]
    · cases h

theorem length_encode (bytes : List UInt8) : (encode bytes).length = 2 * bytes.length := by
  induction bytes with
  | nil => rfl
  | cons byte rest ih =>
    rw [encode, List.length_cons, List.length_cons, ih, List.length_cons]
    omega

theorem decode_encode (bytes : List UInt8) : decode (encode bytes) = some bytes := by
  induction bytes with
  | nil => rfl
  | cons byte rest ih =>
    have hbyte := byte.toNat_lt
    have hjoin : 16 * (byte.toNat / 16) + byte.toNat % 16 = byte.toNat := by omega
    rw [encode, decode, digitValue_digit (by omega), digitValue_digit (by omega)]
    dsimp only
    rw [ih, hjoin, UInt8.ofNat_toNat, Option.map_some]

theorem encode_of_decode {chars : List Char} {bytes : List UInt8}
    (h : decode chars = some bytes) : encode bytes = chars := by
  induction chars using decode.induct generalizing bytes with
  | case1 =>
    cases h
    rfl
  | case2 => cases h
  | case3 high low rest highValue lowValue hlow hhigh ih =>
    rw [decode, hhigh, hlow] at h
    obtain ⟨others, hothers, rfl⟩ := Option.map_eq_some_iff.mp h
    obtain ⟨hhighLt, hhighDigit⟩ := digit_of_digitValue hhigh
    obtain ⟨hlowLt, hlowDigit⟩ := digit_of_digitValue hlow
    have hbyte : (UInt8.ofNat (16 * highValue + lowValue)).toNat = 16 * highValue + lowValue := by
      rw [UInt8.toNat_ofNat']
      omega
    have hdiv : (16 * highValue + lowValue) / 16 = highValue := by omega
    have hmod : (16 * highValue + lowValue) % 16 = lowValue := by omega
    rw [encode, hbyte, hdiv, hmod, hhighDigit, hlowDigit, ih hothers]
  | case4 high low rest hnone =>
    rw [decode] at h
    split at h
    · rename_i hhigh hlow
      exact absurd hlow (hnone _ _ hhigh)
    · cases h

end Hex

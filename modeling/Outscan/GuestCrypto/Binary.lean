import Mathlib.Data.List.Basic
import Outscan.Basic

/-! Byte encodings: big-endian integers, length prefixes and base64url. -/
namespace Outscan

/-- `u32be`; larger values raise a `RangeError`. -/
def u32be (value : Nat) : Option (List UInt8) :=
  if value ≤ uint32Max then
    some [UInt8.ofNat (value / 0x1000000), UInt8.ofNat (value / 0x10000),
      UInt8.ofNat (value / 0x100), UInt8.ofNat value]
  else none

/-- `u64be`; larger values raise a `RangeError`. -/
def u64be (value : Nat) : Option (List UInt8) :=
  if value ≤ uint64Max then
    some [UInt8.ofNat (value / 0x100000000000000), UInt8.ofNat (value / 0x1000000000000),
      UInt8.ofNat (value / 0x10000000000), UInt8.ofNat (value / 0x100000000),
      UInt8.ofNat (value / 0x1000000), UInt8.ofNat (value / 0x10000),
      UInt8.ofNat (value / 0x100), UInt8.ofNat value]
  else none

def lengthPrefix (value : List UInt8) : Option (List UInt8) :=
  (u32be value.length).map (· ++ value)

/-! ### base64url without padding -/

def base64UrlChar (value : Nat) : Char :=
  if value < 26 then Char.ofNat (65 + value)
  else if value < 52 then Char.ofNat (97 + (value - 26))
  else if value < 62 then Char.ofNat (48 + (value - 52))
  else if value = 62 then '-' else '_'

def base64UrlChars : List UInt8 → List Char
  | [] => []
  | [a] => [base64UrlChar (a.toNat / 4), base64UrlChar (a.toNat % 4 * 16)]
  | [a, b] =>
    [base64UrlChar (a.toNat / 4), base64UrlChar (a.toNat % 4 * 16 + b.toNat / 16),
      base64UrlChar (b.toNat % 16 * 4)]
  | a :: b :: c :: rest =>
    base64UrlChar (a.toNat / 4) :: base64UrlChar (a.toNat % 4 * 16 + b.toNat / 16) ::
      base64UrlChar (b.toNat % 16 * 4 + c.toNat / 64) :: base64UrlChar (c.toNat % 64) ::
      base64UrlChars rest

def encodeBase64Url (value : List UInt8) : String := String.ofList (base64UrlChars value)

def base64UrlValue (c : Char) : Option Nat :=
  if 65 ≤ c.toNat ∧ c.toNat ≤ 90 then some (c.toNat - 65)
  else if 97 ≤ c.toNat ∧ c.toNat ≤ 122 then some (c.toNat - 71)
  else if 48 ≤ c.toNat ∧ c.toNat ≤ 57 then some (c.toNat + 4)
  else if c = '-' then some 62
  else if c = '_' then some 63
  else none

/-- `Buffer.from(value, "base64url")` on the values of its characters: whole
bytes only, bits left over at the end are dropped. -/
def base64UrlBytes : List Nat → List UInt8
  | a :: b :: c :: d :: rest =>
    UInt8.ofNat (a * 4 + b / 16) :: UInt8.ofNat (b % 16 * 16 + c / 4) ::
      UInt8.ofNat (c % 4 * 64 + d) :: base64UrlBytes rest
  | [a, b, c] => [UInt8.ofNat (a * 4 + b / 16), UInt8.ofNat (b % 16 * 16 + c / 4)]
  | [a, b] => [UInt8.ofNat (a * 4 + b / 16)]
  | _ => []

/-- `decodeCanonicalBase64Url`: only the text that encoding the decoded bytes
gives back is accepted. -/
def decodeCanonicalBase64Url (value : String) : Option (List UInt8) :=
  match value.toList.mapM base64UrlValue with
  | none => none
  | some values =>
    if value.toList = [] then none
    else
      let decoded := base64UrlBytes values
      if encodeBase64Url decoded = value then some decoded else none

theorem base64UrlValue_base64UrlChar {value : Nat} (h : value < 64) :
    base64UrlValue (base64UrlChar value) = some value := by
  have hall : ∀ n : Fin 64, base64UrlValue (base64UrlChar n) = some n.val := by decide
  exact hall ⟨value, h⟩

theorem mapM_base64UrlChars (bytes : List UInt8) :
    ∃ values, (base64UrlChars bytes).mapM base64UrlValue = some values ∧
      base64UrlBytes values = bytes := by
  induction bytes using base64UrlChars.induct with
  | case1 => exact ⟨[], rfl, rfl⟩
  | case2 a =>
    have ha := a.toNat_lt
    have hbyte : a.toNat / 4 * 4 + a.toNat % 4 * 16 / 16 = a.toNat := by omega
    refine ⟨[a.toNat / 4, a.toNat % 4 * 16], by
      rw [base64UrlChars, List.mapM_cons, base64UrlValue_base64UrlChar (by omega),
        List.mapM_cons, base64UrlValue_base64UrlChar (by omega)]
      rfl, ?_⟩
    rw [base64UrlBytes, hbyte, UInt8.ofNat_toNat]
  | case3 a b =>
    have ha := a.toNat_lt
    have hb := b.toNat_lt
    have hfirst : a.toNat / 4 * 4 + (a.toNat % 4 * 16 + b.toNat / 16) / 16 = a.toNat := by omega
    have hsecond : (a.toNat % 4 * 16 + b.toNat / 16) % 16 * 16 + b.toNat % 16 * 4 / 4 =
        b.toNat := by omega
    refine ⟨[a.toNat / 4, a.toNat % 4 * 16 + b.toNat / 16, b.toNat % 16 * 4], by
      rw [base64UrlChars, List.mapM_cons, base64UrlValue_base64UrlChar (by omega),
        List.mapM_cons, base64UrlValue_base64UrlChar (by omega),
        List.mapM_cons, base64UrlValue_base64UrlChar (by omega)]
      rfl, ?_⟩
    rw [base64UrlBytes, hfirst, hsecond, UInt8.ofNat_toNat, UInt8.ofNat_toNat]
  | case4 a b c rest ih =>
    obtain ⟨values, hvalues, hbytes⟩ := ih
    have ha := a.toNat_lt
    have hb := b.toNat_lt
    have hc := c.toNat_lt
    have hfirst : a.toNat / 4 * 4 + (a.toNat % 4 * 16 + b.toNat / 16) / 16 = a.toNat := by omega
    have hsecond : (a.toNat % 4 * 16 + b.toNat / 16) % 16 * 16 +
        (b.toNat % 16 * 4 + c.toNat / 64) / 4 = b.toNat := by omega
    have hthird : (b.toNat % 16 * 4 + c.toNat / 64) % 4 * 64 + c.toNat % 64 = c.toNat := by omega
    refine ⟨a.toNat / 4 :: (a.toNat % 4 * 16 + b.toNat / 16) ::
      (b.toNat % 16 * 4 + c.toNat / 64) :: (c.toNat % 64) :: values, by
      rw [base64UrlChars, List.mapM_cons, base64UrlValue_base64UrlChar (by omega),
        List.mapM_cons, base64UrlValue_base64UrlChar (by omega),
        List.mapM_cons, base64UrlValue_base64UrlChar (by omega),
        List.mapM_cons, base64UrlValue_base64UrlChar (by omega), hvalues]
      rfl, ?_⟩
    rw [base64UrlBytes, hfirst, hsecond, hthird, hbytes, UInt8.ofNat_toNat, UInt8.ofNat_toNat,
      UInt8.ofNat_toNat]

theorem base64UrlChars_eq_nil {bytes : List UInt8} : base64UrlChars bytes = [] ↔ bytes = [] := by
  constructor
  · intro h
    match bytes with
    | [] => rfl
    | [_] | [_, _] | _ :: _ :: _ :: _ => simp [base64UrlChars] at h
  · rintro rfl
    rfl

theorem decodeCanonicalBase64Url_eq_some {value : String} {bytes : List UInt8} :
    decodeCanonicalBase64Url value = some bytes ↔ value = encodeBase64Url bytes ∧ bytes ≠ [] := by
  constructor
  · intro h
    rw [decodeCanonicalBase64Url] at h
    split at h
    · cases h
    · split at h
      · cases h
      · rename_i values _ hne
        dsimp only at h
        split at h
        · rename_i hencode
          cases h
          refine ⟨hencode.symm, fun hnil => hne ?_⟩
          rw [← hencode, hnil]
          rfl
        · cases h
  · rintro ⟨rfl, hne⟩
    obtain ⟨values, hvalues, hbytes⟩ := mapM_base64UrlChars bytes
    have hchars : (encodeBase64Url bytes).toList = base64UrlChars bytes := by
      rw [encodeBase64Url, String.toList_ofList]
    rw [decodeCanonicalBase64Url, hchars, hvalues]
    dsimp only
    rw [if_neg (fun h => hne (base64UrlChars_eq_nil.mp h)), hbytes, if_pos rfl]

theorem length_base64UrlChars (bytes : List UInt8) :
    (base64UrlChars bytes).length = (4 * bytes.length + 2) / 3 := by
  induction bytes using base64UrlChars.induct with
  | case1 => rfl
  | case2 a => simp [base64UrlChars]
  | case3 a b => simp [base64UrlChars]
  | case4 a b c rest ih =>
    simp only [base64UrlChars, List.length_cons, ih]
    omega

theorem base64UrlChar_injective {m n : Nat} (hm : m < 64) (hn : n < 64)
    (h : base64UrlChar m = base64UrlChar n) : m = n := by
  have hall : ∀ a b : Fin 64, base64UrlChar a = base64UrlChar b → a = b := by decide
  simpa using hall ⟨m, hm⟩ ⟨n, hn⟩ h

theorem base64UrlChars_injective {xs ys : List UInt8}
    (h : base64UrlChars xs = base64UrlChars ys) : xs = ys := by
  induction xs using base64UrlChars.induct generalizing ys with
  | case1 =>
    match ys with
    | [] => rfl
    | [_] | [_, _] | _ :: _ :: _ :: _ => simp [base64UrlChars] at h
  | case2 a =>
    match ys with
    | [] | [_, _] | _ :: _ :: _ :: _ => simp [base64UrlChars] at h
    | [x] =>
      simp only [base64UrlChars, List.cons.injEq, and_true] at h
      have ha := a.toNat_lt
      have hx := x.toNat_lt
      have h1 := base64UrlChar_injective (by omega) (by omega) h.1
      have h2 := base64UrlChar_injective (by omega) (by omega) h.2
      rw [show a = x from UInt8.toNat_inj.mp (by omega)]
  | case3 a b =>
    match ys with
    | [] | [_] | _ :: _ :: _ :: _ => simp [base64UrlChars] at h
    | [x, y] =>
      simp only [base64UrlChars, List.cons.injEq, and_true] at h
      have ha := a.toNat_lt
      have hb := b.toNat_lt
      have hx := x.toNat_lt
      have hy := y.toNat_lt
      have h1 := base64UrlChar_injective (by omega) (by omega) h.1
      have h2 := base64UrlChar_injective (by omega) (by omega) h.2.1
      have h3 := base64UrlChar_injective (by omega) (by omega) h.2.2
      rw [show a = x from UInt8.toNat_inj.mp (by omega),
        show b = y from UInt8.toNat_inj.mp (by omega)]
  | case4 a b c rest ih =>
    match ys with
    | [] | [_] | [_, _] => simp [base64UrlChars] at h
    | x :: y :: z :: others =>
      simp only [base64UrlChars, List.cons.injEq] at h
      obtain ⟨h1, h2, h3, h4, hrest⟩ := h
      have ha := a.toNat_lt
      have hb := b.toNat_lt
      have hc := c.toNat_lt
      have hx := x.toNat_lt
      have hy := y.toNat_lt
      have hz := z.toNat_lt
      have e1 := base64UrlChar_injective (by omega) (by omega) h1
      have e2 := base64UrlChar_injective (by omega) (by omega) h2
      have e3 := base64UrlChar_injective (by omega) (by omega) h3
      have e4 := base64UrlChar_injective (by omega) (by omega) h4
      rw [show a = x from UInt8.toNat_inj.mp (by omega),
        show b = y from UInt8.toNat_inj.mp (by omega),
        show c = z from UInt8.toNat_inj.mp (by omega), ih hrest]

theorem encodeBase64Url_injective {xs ys : List UInt8}
    (h : encodeBase64Url xs = encodeBase64Url ys) : xs = ys :=
  base64UrlChars_injective (String.ofList_injective h)

/-! ### Injectivity of the integer encodings -/

theorem u32be_injective {m n : Nat} {bytes : List UInt8} (hm : u32be m = some bytes)
    (hn : u32be n = some bytes) : m = n := by
  unfold u32be uint32Max at hm hn
  split at hm <;> split at hn <;> simp only [reduceCtorEq, Option.some.injEq] at hm hn
  rw [← hm] at hn
  simp only [List.cons.injEq, and_true, ← UInt8.toNat_inj, UInt8.toNat_ofNat'] at hn
  omega

theorem u64be_injective {m n : Nat} {bytes : List UInt8} (hm : u64be m = some bytes)
    (hn : u64be n = some bytes) : m = n := by
  unfold u64be uint64Max at hm hn
  split at hm <;> split at hn <;> simp only [reduceCtorEq, Option.some.injEq] at hm hn
  rw [← hm] at hn
  simp only [List.cons.injEq, and_true, ← UInt8.toNat_inj, UInt8.toNat_ofNat'] at hn
  omega

theorem length_of_u32be {value : Nat} {bytes : List UInt8} (h : u32be value = some bytes) :
    bytes.length = 4 := by
  unfold u32be at h
  split at h
  · cases h
    rfl
  · cases h

theorem length_of_u64be {value : Nat} {bytes : List UInt8} (h : u64be value = some bytes) :
    bytes.length = 8 := by
  unfold u64be at h
  split at h
  · cases h
    rfl
  · cases h

theorem lengthPrefix_append_injective {a b x y left right : List UInt8}
    (ha : lengthPrefix x = some a) (hb : lengthPrefix y = some b)
    (h : a ++ left = b ++ right) : x = y ∧ left = right := by
  simp only [lengthPrefix, Option.map_eq_some_iff] at ha hb
  obtain ⟨p, hp, rfl⟩ := ha
  obtain ⟨q, hq, rfl⟩ := hb
  rw [List.append_assoc, List.append_assoc] at h
  have hpq := List.append_inj h (by rw [length_of_u32be hp, length_of_u32be hq])
  rw [hpq.1] at hp
  exact List.append_inj hpq.2 (u32be_injective hp hq)

end Outscan

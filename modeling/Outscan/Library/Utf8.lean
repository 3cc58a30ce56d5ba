import Mathlib.Data.List.Basic

/-! UTF-8: the strict decoder, which refuses every ill-formed sequence, and the
encoder it inverts. -/
namespace Utf8

def encode (text : List Char) : List UInt8 := text.flatMap String.utf8EncodeChar

/-- Decode at most `fuel` characters. -/
def decodeFuel : Nat → List UInt8 → Option (List Char)
  | _, [] => some []
  | 0, _ :: _ => none
  | fuel + 1, byte :: bytes =>
    match ((byte :: bytes).take 4).toByteArray.utf8DecodeChar? 0 with
    | none => none
    | some c => (decodeFuel fuel ((byte :: bytes).drop c.utf8Size)).map (c :: ·)

def decode (bytes : List UInt8) : Option (List Char) := decodeFuel bytes.length bytes

@[simp] theorem encode_nil : encode [] = [] := rfl

@[simp] theorem encode_cons (c : Char) (text : List Char) :
    encode (c :: text) = String.utf8EncodeChar c ++ encode text := rfl

@[simp] theorem encode_append (first second : List Char) :
    encode (first ++ second) = encode first ++ encode second := List.flatMap_append ..

theorem decodeChar_encode (c : Char) (rest : List UInt8) :
    ((String.utf8EncodeChar c ++ rest).take 4).toByteArray.utf8DecodeChar? 0 = some c := by
  have hlength : (String.utf8EncodeChar c).length ≤ 4 := by
    rw [String.length_utf8EncodeChar]
    exact c.utf8Size_le_four
  rw [List.take_append, List.take_of_length_le hlength, List.toByteArray_append,
    ByteArray.utf8DecodeChar?_utf8EncodeChar_append]

theorem eq_append_of_decodeChar {bytes : List UInt8} {c : Char}
    (h : (bytes.take 4).toByteArray.utf8DecodeChar? 0 = some c) :
    bytes = String.utf8EncodeChar c ++ bytes.drop c.utf8Size := by
  obtain ⟨rest, hrest⟩ := ByteArray.exists_of_utf8DecodeChar?_eq_some h
  have hlist : bytes.take 4 = String.utf8EncodeChar c ++ rest.data.toList := by
    have hdata := congrArg (fun array : ByteArray => array.data.toList) hrest
    simpa using hdata
  have hsplit : bytes = String.utf8EncodeChar c ++ (rest.data.toList ++ bytes.drop 4) := by
    rw [← List.append_assoc, ← hlist, List.take_append_drop]
  have hdrop : bytes.drop c.utf8Size = rest.data.toList ++ bytes.drop 4 := by
    conv_lhs => rw [hsplit]
    rw [← String.length_utf8EncodeChar, List.drop_left]
  rw [hdrop]
  exact hsplit

theorem decodeFuel_encode {fuel : Nat} {text : List Char} (h : (encode text).length ≤ fuel) :
    decodeFuel fuel (encode text) = some text := by
  induction text generalizing fuel with
  | nil => cases fuel <;> rfl
  | cons c text ih =>
    have hsize : (String.utf8EncodeChar c).length = c.utf8Size := String.length_utf8EncodeChar c
    have hpos := c.utf8Size_pos
    rw [encode_cons, List.length_append, hsize] at h
    obtain ⟨fuel, rfl⟩ : ∃ smaller, fuel = smaller + 1 := ⟨fuel - 1, by omega⟩
    have hchar := decodeChar_encode c (encode text)
    have hdrop : (String.utf8EncodeChar c ++ encode text).drop c.utf8Size = encode text := by
      rw [← hsize, List.drop_left]
    rw [encode_cons]
    cases hbytes : String.utf8EncodeChar c ++ encode text with
    | nil =>
      have hnil := congrArg List.length hbytes
      rw [List.length_append, List.length_nil] at hnil
      omega
    | cons byte bytes =>
      rw [hbytes] at hchar hdrop
      rw [decodeFuel, hchar]
      dsimp only
      rw [hdrop, ih (by omega)]
      rfl

theorem encode_of_decodeFuel {fuel : Nat} {bytes : List UInt8} {text : List Char}
    (h : decodeFuel fuel bytes = some text) : bytes = encode text := by
  induction fuel generalizing bytes text with
  | zero =>
    cases bytes with
    | nil =>
      cases h
      rfl
    | cons byte bytes => cases h
  | succ fuel ih =>
    cases bytes with
    | nil =>
      cases h
      rfl
    | cons byte bytes =>
      rw [decodeFuel] at h
      split at h
      · cases h
      · rename_i c hchar
        obtain ⟨rest, hrest, rfl⟩ := Option.map_eq_some_iff.mp h
        rw [encode_cons, ← ih hrest]
        exact eq_append_of_decodeChar hchar

theorem decode_eq_some {bytes : List UInt8} {text : List Char} :
    decode bytes = some text ↔ bytes = encode text := by
  constructor
  · exact encode_of_decodeFuel
  · rintro rfl
    exact decodeFuel_encode (Nat.le_refl _)

@[simp] theorem decode_encode (text : List Char) : decode (encode text) = some text :=
  decode_eq_some.mpr rfl

theorem encode_injective : Function.Injective encode := by
  intro first second h
  have hfirst := decode_encode first
  rw [h, decode_encode] at hfirst
  exact (Option.some.inj hfirst).symm

end Utf8

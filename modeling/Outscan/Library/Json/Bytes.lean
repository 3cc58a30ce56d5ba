import Outscan.Library.Json.Writing
import Outscan.Library.Utf8

/-! JSON texts as bytes in UTF-8. -/
namespace Json

/-- The bytes of a text; a lone surrogate becomes `U+FFFD`. -/
def bytesOf (text : Text) : List UInt8 := Utf8.encode (Utf16.toChars text)

def textOfBytes (bytes : List UInt8) : Option Text := (Utf8.decode bytes).map Utf16.encode

def Value.bytes (value : Value) : List UInt8 := bytesOf (write value)

theorem textOfBytes_bytesOf {text : Text} (h : Utf16.WellFormed text) :
    textOfBytes (bytesOf text) = some text := by
  rw [textOfBytes, bytesOf, Utf8.decode_encode, Option.map_some, Utf16.encode_toChars h]

/-! ### What is written has no lone surrogate -/

theorem wellFormed_digits {digits : Text} (h : ∀ u ∈ digits, isDigit u = true) :
    Utf16.WellFormed digits := by
  refine Utf16.wellFormed_of_lt fun u hu => ?_
  have hdigit := h u hu
  have hnine : (unit '9').toNat = 57 := by decide
  simp only [isDigit, Bool.and_eq_true, decide_eq_true_eq, UInt16.le_iff_toNat_le] at hdigit
  omega

theorem wellFormed_writeSign (negative : Bool) : Utf16.WellFormed (writeSign negative) := by
  cases negative <;> decide

theorem wellFormed_writeNumber (value : Decimal) : Utf16.WellFormed (writeNumber value) := by
  have hnat : ∀ n, Utf16.WellFormed (writeNat n) := fun n =>
    wellFormed_digits fun u hu => isDigit_of_mem_writeNat hu
  have hexponent : Utf16.WellFormed (writeExponent value.exponent) := by
    unfold writeExponent
    split
    · decide
    · rw [← List.singleton_append]
      exact Utf16.wellFormed_append (by decide)
        (Utf16.wellFormed_append (wellFormed_writeSign _) (hnat _))
  exact Utf16.wellFormed_append (Utf16.wellFormed_append (wellFormed_writeSign _) (hnat _))
    hexponent

theorem hexDigit_lt {n : Nat} (h : n < 16) : (hexDigit n).toNat < 0xd800 := by
  have hall : ∀ m < 16, (hexDigit m).toNat < 0xd800 := by decide
  exact hall n h

theorem wellFormed_escapeUnit (u : UInt16) : Utf16.WellFormed (escapeUnit u) := by
  unfold escapeUnit
  split
  · decide
  split
  · decide
  split
  · decide
  split
  · decide
  split
  · decide
  split
  · decide
  split
  · decide
  split
  · refine Utf16.wellFormed_of_lt fun v hv => ?_
    simp only [hexEscape, List.mem_cons, List.not_mem_nil, or_false] at hv
    rcases hv with rfl | rfl | rfl | rfl | rfl | rfl
    · decide
    · decide
    · exact hexDigit_lt (Nat.div_lt_of_lt_mul u.toNat_lt)
    · exact hexDigit_lt (Nat.mod_lt _ (by decide))
    · exact hexDigit_lt (Nat.mod_lt _ (by decide))
    · exact hexDigit_lt (Nat.mod_lt _ (by decide))
  · rename_i hplain
    simp only [not_or, Bool.not_eq_true] at hplain
    exact Utf16.wellFormed_single hplain.2.1 hplain.2.2

theorem wellFormed_writeString (text : Text) : Utf16.WellFormed (writeString text) := by
  fun_induction writeString text with
  | case1 => decide
  | case2 u => exact wellFormed_escapeUnit u
  | case3 u v rest hpair ih =>
    change Utf16.WellFormed ([u, v] ++ writeString rest)
    exact Utf16.wellFormed_append (Utf16.wellFormed_pair hpair.1 hpair.2) ih
  | case4 u v rest hsingle ih => exact Utf16.wellFormed_append (wellFormed_escapeUnit u) ih

theorem wellFormed_mark {u : UInt16} (h : u.toNat < 0xd800) {rest : Text}
    (hrest : Utf16.WellFormed rest) : Utf16.WellFormed (u :: rest) := by
  rw [← List.singleton_append]
  refine Utf16.wellFormed_append (Utf16.wellFormed_of_lt ?_) hrest
  simpa using h

theorem wellFormed_quoted (text : Text) : Utf16.WellFormed (quoted text) :=
  wellFormed_mark (by decide) (Utf16.wellFormed_append (wellFormed_writeString text) (by decide))

theorem wellFormed_separator (more : Bool) :
    Utf16.WellFormed (if more then [] else [unit ',']) := by
  cases more <;> decide

mutual

theorem wellFormed_write : ∀ value : Value, Utf16.WellFormed (write value)
  | .null => by decide
  | .bool true => by decide
  | .bool false => by decide
  | .number value => wellFormed_writeNumber value
  | .string text => wellFormed_quoted text
  | .array items => wellFormed_mark (by decide) (wellFormed_writeItems items)
  | .object members => wellFormed_mark (by decide) (wellFormed_writeMembers members)

theorem wellFormed_writeItems : ∀ items : List Value, Utf16.WellFormed (writeItems items)
  | [] => by decide
  | item :: rest =>
    Utf16.wellFormed_append (wellFormed_write item)
      (Utf16.wellFormed_append (wellFormed_separator _) (wellFormed_writeItems rest))

theorem wellFormed_writeMembers : ∀ members : List (Text × Value),
    Utf16.WellFormed (writeMembers members)
  | [] => by decide
  | (name, value) :: rest =>
    Utf16.wellFormed_append (wellFormed_quoted name) (wellFormed_mark (by decide)
      (Utf16.wellFormed_append (wellFormed_write value)
        (Utf16.wellFormed_append (wellFormed_separator _) (wellFormed_writeMembers rest))))

end

@[simp] theorem textOfBytes_bytes (value : Value) :
    textOfBytes value.bytes = some (write value) :=
  textOfBytes_bytesOf (wellFormed_write value)

theorem Value.bytes_injective : Function.Injective Value.bytes := by
  intro first second h
  have hfirst := textOfBytes_bytes first
  rw [h, textOfBytes_bytes] at hfirst
  exact write_injective (Option.some.inj hfirst).symm

theorem bytes_object (members : List (Text × Value)) :
    ∃ rest, (Value.object members).bytes = 0x7b :: rest := by
  refine ⟨bytesOf (writeMembers members), ?_⟩
  have hhigh : Utf16.isHigh (unit '\x7b') = false := by decide
  have hsingle : Utf16.single (unit '\x7b') = some '\x7b' := by decide
  have hencode : String.utf8EncodeChar '\x7b' = [0x7b] := by decide
  rw [Value.bytes, write, bytesOf, Utf16.toChars, Utf16.read_not_high hhigh, hsingle, List.map_cons,
    Option.getD_some, Utf8.encode_cons, hencode]
  rfl

/-- An object does not begin with a byte order mark. -/
theorem take_bytes_object (members : List (Text × Value)) :
    ¬ (Value.object members).bytes.take 3 = [0xef, 0xbb, 0xbf] := by
  obtain ⟨rest, hfirst⟩ := bytes_object members
  rw [hfirst]
  exact fun heq => absurd (List.cons.inj heq).1 (by decide)

/-! ### Lengths -/

theorem length_bytesOf_le (text : Text) : (bytesOf text).length ≤ 4 * text.length := by
  have hencode : ∀ chars : List Char, (Utf8.encode chars).length ≤ 4 * chars.length := by
    intro chars
    induction chars with
    | nil => exact le_refl _
    | cons c rest ih =>
      have hc := c.utf8Size_le_four
      rw [Utf8.encode_cons, List.length_append, String.length_utf8EncodeChar, List.length_cons]
      omega
  exact (hencode _).trans (Nat.mul_le_mul_left 4 (Utf16.length_toChars_le text))

theorem length_escapeUnit_le (u : UInt16) : (escapeUnit u).length ≤ 6 := by
  unfold escapeUnit
  repeat' split
  all_goals simp [hexEscape]

theorem length_writeString_le (text : Text) : (writeString text).length ≤ 6 * text.length := by
  fun_induction writeString text with
  | case1 => exact le_refl _
  | case2 u => exact length_escapeUnit_le u
  | case3 u v rest hpair ih =>
    simp only [List.length_cons]
    omega
  | case4 u v rest hsingle ih =>
    have hu := length_escapeUnit_le u
    simp only [List.length_append, List.length_cons] at ih ⊢
    omega

end Json

import Mathlib.Data.List.Basic

/-! Encodings that tell where they end, so that fields written one after the
other can be told apart. -/

def SelfDelimiting {α β : Type} (encode : α → Option (List β)) : Prop :=
  ∀ ⦃x y : α⦄ ⦃a b left right : List β⦄, encode x = some a → encode y = some b →
    a ++ left = b ++ right → x = y ∧ left = right

namespace SelfDelimiting

variable {α β : Type} {encode : α → Option (List β)}

theorem of_width (width : Nat) (hwidth : ∀ {x : α} {a : List β}, encode x = some a →
      a.length = width)
    (hinjective : ∀ {x y : α} {a : List β}, encode x = some a → encode y = some a → x = y) :
    SelfDelimiting encode := by
  intro x y a b left right hx hy h
  obtain ⟨hab, hrest⟩ := List.append_inj h (by rw [hwidth hx, hwidth hy])
  rw [← hab] at hy
  exact ⟨hinjective hx hy, hrest⟩

theorem last (h : SelfDelimiting encode) {x y : α} {a b : List β} (hx : encode x = some a)
    (hy : encode y = some b) (hab : a = b) : x = y :=
  (h hx hy (congrArg (· ++ []) hab)).1

theorem prefixed {size : Nat → Option (List β)} (hsize : SelfDelimiting size)
    {prefixed : List β → Option (List β)}
    (hprefixed : ∀ {x a : List β}, prefixed x = some a →
      ∃ field, size x.length = some field ∧ a = field ++ x) :
    SelfDelimiting prefixed := by
  intro x y a b left right hx hy h
  obtain ⟨fieldX, hfieldX, rfl⟩ := hprefixed hx
  obtain ⟨fieldY, hfieldY, rfl⟩ := hprefixed hy
  rw [List.append_assoc, List.append_assoc] at h
  obtain ⟨hlength, hrest⟩ := hsize hfieldX hfieldY h
  exact List.append_inj hrest hlength

end SelfDelimiting

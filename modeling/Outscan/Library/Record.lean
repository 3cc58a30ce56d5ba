import Mathlib.Data.List.Perm.Subperm
import Mathlib.Data.List.Nodup

/-! Records as a dynamically typed language hands them over: named fields, each
name at most once, whose values may have any type. -/
namespace Dynamic

/-- A value without fields. `number none` is a number that is not an integer,
`other` a value of none of the types that a caller asks for. -/
inductive Scalar where
  | number (value : Option Int)
  | string (value : String)
  | bytes (value : List UInt8)
  | other
deriving DecidableEq, Repr

structure Record (α : Type) where
  fields : List (String × α)
  unique : (fields.map Prod.fst).Nodup

inductive Value (α : Type) where
  | record (value : Record α)
  | other

namespace Record

variable {α : Type}

/-- Read a field; a missing one reads as `absent`. -/
def get (absent : α) (r : Record α) (key : String) : α := (r.fields.lookup key).getD absent

/-- The record has as many fields as `expected`, and each of its names is there. -/
def hasExactKeys (r : Record α) (expected : List String) : Bool :=
  decide (r.fields.length = expected.length) && r.fields.all fun field => expected.contains field.1

theorem hasExactKeys_iff (r : Record α) (expected : List String) :
    r.hasExactKeys expected = true ↔ (r.fields.map Prod.fst).Perm expected := by
  simp only [hasExactKeys, Bool.and_eq_true, decide_eq_true_eq, List.all_eq_true,
    List.contains_iff_mem]
  constructor
  · rintro ⟨hlength, hmem⟩
    have hsubset : r.fields.map Prod.fst ⊆ expected := by
      intro key hkey
      obtain ⟨field, hfield, rfl⟩ := List.mem_map.mp hkey
      exact hmem field hfield
    have hle : expected.length ≤ (r.fields.map Prod.fst).length := by
      rw [List.length_map]
      omega
    exact (List.subperm_of_subset r.unique hsubset).perm_of_length_le hle
  · intro hperm
    refine ⟨?_, fun field hfield => hperm.mem_iff.mp (List.mem_map_of_mem hfield)⟩
    rw [← hperm.length_eq, List.length_map]

theorem lookup_of_mem {fields : List (String × α)} (hunique : (fields.map Prod.fst).Nodup)
    {key : String} {value : α} (h : (key, value) ∈ fields) : fields.lookup key = some value := by
  induction fields with
  | nil => cases h
  | cons field rest ih =>
    obtain ⟨name, first⟩ := field
    rw [List.map_cons, List.nodup_cons] at hunique
    rcases List.mem_cons.mp h with heq | hrest
    · cases heq
      rw [List.lookup_cons_self]
    · have hne : (key == name) = false := by
        apply beq_false_of_ne
        rintro rfl
        exact hunique.1 (List.mem_map.mpr ⟨_, hrest, rfl⟩)
      rw [List.lookup_cons, hne]
      exact ih hunique.2 hrest

theorem get_of_perm {r : Record α} {pairs : List (String × α)} (h : r.fields.Perm pairs)
    (absent : α) {key : String} {value : α} (hmem : (key, value) ∈ pairs) :
    r.get absent key = value := by
  rw [get, lookup_of_mem r.unique (h.mem_iff.mpr hmem), Option.getD_some]

theorem perm_of_hasExactKeys {r : Record α} {expected : List String} (h : r.hasExactKeys expected = true) (absent : α) :
    r.fields.Perm (expected.map fun key => (key, r.get absent key)) := by
  have hfields : r.fields = (r.fields.map Prod.fst).map fun key => (key, r.get absent key) := by
    rw [List.map_map]
    conv_lhs => rw [← List.map_id r.fields]
    apply List.map_congr_left
    intro field hfield
    exact Prod.ext rfl (get_of_perm (List.Perm.refl _) absent hfield).symm
  rw [hfields]
  exact ((r.hasExactKeys_iff expected).mp h).map _

theorem hasExactKeys_of_perm {r : Record α} {pairs : List (String × α)} {expected : List String}
    (h : r.fields.Perm pairs) (hkeys : pairs.map Prod.fst = expected) :
    r.hasExactKeys expected = true := by
  rw [hasExactKeys_iff, ← hkeys]
  exact h.map _

end Record

end Dynamic

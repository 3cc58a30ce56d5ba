import Mathlib.Data.List.Basic

/-! The truth values of SQL: true, false and unknown. A CHECK refuses a row only
when it is false. -/
namespace ThreeValued

/-- `none` is unknown. -/
abbrev Truth := Option Bool

def conj : Truth → Truth → Truth
  | some false, _ => some false
  | some true, b => b
  | none, some false => some false
  | none, _ => none

def disj : Truth → Truth → Truth
  | some true, _ => some true
  | some false, b => b
  | none, some true => some true
  | none, _ => none

def allOf (conditions : List Truth) : Truth := conditions.foldr conj (some true)

def anyOf (conditions : List Truth) : Truth := conditions.foldr disj (some false)

def known (p : Prop) [Decidable p] : Truth := some (decide p)

def isNull {α : Type} (value : Option α) : Truth := some value.isNone

def isNotNull {α : Type} (value : Option α) : Truth := some value.isSome

/-- `=`, unknown when a side is NULL. -/
def equal {α : Type} [DecidableEq α] : Option α → Option α → Truth
  | some a, some b => some (decide (a = b))
  | _, _ => none

def Passes (condition : Truth) : Prop := condition ≠ some false

instance (condition : Truth) : Decidable (Passes condition) :=
  inferInstanceAs (Decidable (condition ≠ some false))

theorem known_of {p : Prop} [Decidable p] (h : p) : known p = some true := by
  rw [known, decide_eq_true h]

theorem allOf_of {conditions : List Truth} (h : ∀ condition ∈ conditions, condition = some true) :
    allOf conditions = some true := by
  induction conditions with
  | nil => rfl
  | cons condition rest ih =>
    have hfirst := h condition List.mem_cons_self
    have hrest := ih fun other hother => h other (List.mem_cons_of_mem _ hother)
    rw [allOf] at hrest
    rw [allOf, List.foldr_cons, hrest, hfirst]
    rfl

theorem anyOf_of {conditions : List Truth} (h : some true ∈ conditions) :
    anyOf conditions = some true := by
  induction conditions with
  | nil => cases h
  | cons condition rest ih =>
    rw [anyOf, List.foldr_cons]
    rcases List.mem_cons.mp h with rfl | hrest
    · rfl
    · have htail := ih hrest
      rw [anyOf] at htail
      rw [htail]
      cases condition with
      | none => rfl
      | some value => cases value <;> rfl

theorem passes_of {condition : Truth} (h : condition = some true) : Passes condition := by
  rw [h]
  exact fun h => by cases h

end ThreeValued

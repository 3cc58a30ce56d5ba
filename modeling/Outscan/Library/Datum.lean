import Outscan.Library.Record

/-! Values of a dynamically typed language: scalars, arrays, and records with
named fields, nested to any depth, and when two of them are deeply equal. -/
namespace Dynamic

/-- A double. The two zeros differ; `other` keeps the bits of what is not a whole
number. -/
inductive Number where
  | whole (value : Int)
  | negativeZero
  | other (bits : UInt64)
deriving DecidableEq, Repr

/-- A whole number up to `maximum` that is not below zero. -/
def Number.isCount (maximum : Nat) : Number → Bool
  | .whole value => decide (0 ≤ value) && decide (value ≤ maximum)
  | .negativeZero => true
  | .other _ => false

/-- The prototype of a record: the one of plain objects, none, or that of a class. -/
inductive Prototype where
  | plain | absent | custom
deriving DecidableEq, Repr

/-- `other` stands for every value without fields that no caller asks for,
told apart by its identity. -/
inductive Datum where
  | undefined
  | null
  | bool (value : Bool)
  | number (value : Number)
  | bigint (value : Int)
  | string (value : String)
  | bytes (value : List UInt8)
  | array (items : List Datum)
  | record (prototype : Prototype) (fields : List (String × Datum))
  | other (identity : Nat)

namespace Datum

def object (fields : List (String × Datum)) : Datum := .record .plain fields

def isRecord : Datum → Bool
  | .record .. | .bytes _ => true
  | _ => false

/-- Read a field; a missing one is undefined. -/
def get : Datum → String → Datum
  | .record _ fields, key => (fields.lookup key).getD .undefined
  | _, _ => .undefined

/-- A record with as many fields as `expected`, among them each of its names. -/
def hasExactKeys (expected : List String) : Datum → Bool
  | .record _ fields =>
    decide (fields.length = expected.length) &&
      expected.all fun key => (fields.map Prod.fst).contains key
  | _ => false

def bool? : Datum → Option Bool
  | .bool value => some value
  | _ => none

def bigint? : Datum → Option Int
  | .bigint value => some value
  | _ => none

def number? : Datum → Option Number
  | .number value => some value
  | _ => none

def whole? : Datum → Option Int
  | .number (.whole value) => some value
  | _ => none

def natural? : Datum → Option Nat
  | .number (.whole value) => if 0 ≤ value then some value.toNat else none
  | .number .negativeZero => some 0
  | _ => none

def string? : Datum → Option String
  | .string value => some value
  | _ => none

def bytes? : Datum → Option (List UInt8)
  | .bytes value => some value
  | _ => none

def array? : Datum → Option (List Datum)
  | .array items => some items
  | _ => none

mutual

/-- The same shape and the same scalars; the order of fields makes no difference. -/
def deepEqual : Datum → Datum → Bool
  | .undefined, .undefined => true
  | .null, .null => true
  | .bool a, .bool b => a == b
  | .number a, .number b => a == b
  | .bigint a, .bigint b => a == b
  | .string a, .string b => a == b
  | .bytes a, .bytes b => a == b
  | .array a, .array b => deepEqualItems a b
  | .record p a, .record q b => p == q && a.length == b.length && deepEqualFields a b
  | .other a, .other b => a == b
  | _, _ => false

def deepEqualItems : List Datum → List Datum → Bool
  | [], [] => true
  | a :: as, b :: bs => deepEqual a b && deepEqualItems as bs
  | _, _ => false

def deepEqualFields : List (String × Datum) → List (String × Datum) → Bool
  | [], _ => true
  | (key, a) :: rest, others =>
    (match others.lookup key with
      | some b => deepEqual a b
      | none => false) && deepEqualFields rest others

end

mutual

def WellFormed : Datum → Prop
  | .array items => WellFormedItems items
  | .record _ fields => (fields.map Prod.fst).Nodup ∧ WellFormedFields fields
  | _ => True

def WellFormedItems : List Datum → Prop
  | [] => True
  | item :: rest => WellFormed item ∧ WellFormedItems rest

def WellFormedFields : List (String × Datum) → Prop
  | [] => True
  | (_, value) :: rest => WellFormed value ∧ WellFormedFields rest

end

theorem get_object_cons (name : String) (value : Datum) (rest : List (String × Datum))
    (key : String) :
    (object ((name, value) :: rest)).get key = if key = name then value else (object rest).get key := by
  simp only [object, get, List.lookup_cons]
  by_cases h : key = name
  · rw [if_pos h, beq_iff_eq.mpr h, Option.getD_some]
  · rw [if_neg h, beq_false_of_ne h]

@[simp] theorem isRecord_object (fields : List (String × Datum)) : (object fields).isRecord = true :=
  rfl

theorem hasExactKeys_object (expected : List String) (fields : List (String × Datum)) :
    (object fields).hasExactKeys expected =
      (decide (fields.length = expected.length) &&
        expected.all fun key => (fields.map Prod.fst).contains key) := rfl

/-! ### Every value equals itself -/

mutual

theorem deepEqual_refl : ∀ value : Datum, value.WellFormed → deepEqual value value = true
  | .undefined, _ | .null, _ => rfl
  | .bool _, _ | .number _, _ | .bigint _, _ | .string _, _ | .bytes _, _ | .other _, _ => by
    simp only [deepEqual, BEq.rfl]
  | .array items, h => by
    rw [WellFormed] at h
    rw [deepEqual]
    exact deepEqualItems_refl items h
  | .record _ fields, h => by
    rw [WellFormed] at h
    rw [deepEqual, BEq.rfl, BEq.rfl, Bool.true_and, Bool.true_and]
    exact deepEqualFields_refl fields fields h.2 fun _ _ hmem => Record.lookup_of_mem h.1 hmem

theorem deepEqualItems_refl :
    ∀ items : List Datum, WellFormedItems items → deepEqualItems items items = true
  | [], _ => rfl
  | item :: rest, h => by
    rw [WellFormedItems] at h
    rw [deepEqualItems, deepEqual_refl item h.1, deepEqualItems_refl rest h.2, Bool.true_and]

theorem deepEqualFields_refl : ∀ fields others : List (String × Datum), WellFormedFields fields →
    (∀ key value, (key, value) ∈ fields → others.lookup key = some value) →
    deepEqualFields fields others = true
  | [], _, _, _ => rfl
  | (key, value) :: rest, others, h, hlookup => by
    rw [WellFormedFields] at h
    rw [deepEqualFields, hlookup key value (List.mem_cons_self ..)]
    dsimp only
    rw [deepEqual_refl value h.1, Bool.true_and]
    exact deepEqualFields_refl rest others h.2 fun k v hmem =>
      hlookup k v (List.mem_cons_of_mem _ hmem)

end

theorem wellFormedItems_iff {items : List Datum} :
    WellFormedItems items ↔ ∀ item ∈ items, item.WellFormed := by
  induction items with
  | nil => simp [WellFormedItems]
  | cons item rest ih => simp [WellFormedItems, ih]

theorem string?_eq_some {value : Datum} {text : String} :
    value.string? = some text ↔ value = .string text := by
  cases value <;> simp [string?]

theorem bool?_eq_some {value : Datum} {flag : Bool} : value.bool? = some flag ↔ value = .bool flag := by
  cases value <;> simp [bool?]

theorem array?_eq_some {value : Datum} {items : List Datum} :
    value.array? = some items ↔ value = .array items := by
  cases value <;> simp [array?]

end Datum

end Dynamic

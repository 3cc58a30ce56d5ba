import Mathlib.Algebra.Ring.Nat
import Mathlib.Data.List.Pairwise
import Mathlib.Data.List.Perm.Subperm

/-! Tables in the sense of SQL: rows under a primary key, further unique
constraints and a CHECK. A `Table` can hold only rows that satisfy all three,
so facts about stored rows never need an invariant of their own. -/
namespace Relational

inductive Violation where
  | check
  | unique
  | foreignKey
  | trigger
  | outOfRange
deriving DecidableEq, Repr

/-- The constraints one table declares. `Distinct` says that two rows may be
stored together, so it covers the primary key and every unique constraint. -/
class Schema (ρ : Type) (κ : outParam Type) where
  key : ρ → κ
  Distinct : ρ → ρ → Prop
  Check : ρ → Prop
  distinct_symm : ∀ {a b : ρ}, Distinct a b → Distinct b a
  key_ne : ∀ {a b : ρ}, Distinct a b → key a ≠ key b
  [keyEq : DecidableEq κ]
  [distinctDec : DecidableRel Distinct]
  [checkDec : DecidablePred Check]

attribute [reducible, instance] Schema.keyEq Schema.distinctDec Schema.checkDec

open Schema

structure Table (ρ : Type) {κ : Type} [Schema ρ κ] where
  rows : List ρ
  distinct : rows.Pairwise Distinct
  checked : ∀ row ∈ rows, Check row

variable {ρ κ : Type} [Schema ρ κ]

/-- A change of one row that leaves every column under a unique constraint
alone, so that the other rows stay distinct from it. -/
structure Edit (ρ : Type) {κ : Type} [Schema ρ κ] where
  apply : ρ → ρ
  key_apply : ∀ row, key (apply row) = key row
  distinct_apply : ∀ {row other}, Distinct row other → Distinct (apply row) other

namespace Table

theorem ext {left right : Table ρ} (h : left.rows = right.rows) : left = right := by
  cases left
  cases right
  cases h
  rfl

def empty : Table ρ := ⟨[], List.Pairwise.nil, by simp⟩

@[simp] theorem rows_empty : (empty : Table ρ).rows = [] := rfl

def find? (table : Table ρ) (k : κ) : Option ρ :=
  table.rows.find? fun row => decide (key row = k)

@[simp] theorem find?_empty (k : κ) : (empty : Table ρ).find? k = none := rfl

theorem eq_of_key_eq (table : Table ρ) {a b : ρ} (ha : a ∈ table.rows)
    (hb : b ∈ table.rows) (hkey : key a = key b) : a = b := by
  by_contra hne
  have hsymm : Std.Symm (Distinct : ρ → ρ → Prop) := ⟨fun _ _ => distinct_symm⟩
  have hdistinct : Distinct a b := table.distinct.forall ha hb hne
  exact key_ne hdistinct hkey

theorem find?_eq_some {table : Table ρ} {k : κ} {row : ρ} :
    table.find? k = some row ↔ row ∈ table.rows ∧ key row = k := by
  constructor
  · intro h
    exact ⟨List.mem_of_find?_eq_some h, by simpa using List.find?_some h⟩
  · rintro ⟨hmem, hkey⟩
    cases hfind : table.find? k with
    | none =>
      have := List.find?_eq_none.mp hfind row hmem
      simp [hkey] at this
    | some found =>
      have hfound : found ∈ table.rows := List.mem_of_find?_eq_some hfind
      have hfoundKey : key found = k := by simpa using List.find?_some hfind
      rw [table.eq_of_key_eq hfound hmem (hfoundKey.trans hkey.symm)]

theorem find?_eq_none {table : Table ρ} {k : κ} :
    table.find? k = none ↔ ∀ row ∈ table.rows, key row ≠ k := by
  simp [find?]

theorem find?_mem {table : Table ρ} {k : κ} {row : ρ} (h : table.find? k = some row) :
    row ∈ table.rows := (find?_eq_some.mp h).1

theorem find?_key {table : Table ρ} {k : κ} {row : ρ} (h : table.find? k = some row) :
    key row = k := (find?_eq_some.mp h).2

theorem find?_check {table : Table ρ} {k : κ} {row : ρ} (h : table.find? k = some row) :
    Check row := table.checked row (find?_mem h)

theorem find?_of_mem {table : Table ρ} {row : ρ} (h : row ∈ table.rows) :
    table.find? (key row) = some row := find?_eq_some.mpr ⟨h, rfl⟩

/-! ### INSERT -/

/-- `INSERT INTO table VALUES row`. -/
def insert (table : Table ρ) (row : ρ) : Except Violation (Table ρ) :=
  if hcheck : Check row then
    if hdistinct : ∀ other ∈ table.rows, Distinct other row then
      .ok ⟨table.rows ++ [row],
        List.pairwise_append.mpr ⟨table.distinct, List.pairwise_singleton _ _, by
          intro other hother fresh hfresh
          rw [List.mem_singleton.mp hfresh]
          exact hdistinct other hother⟩,
        by
          intro stored hstored
          rcases List.mem_append.mp hstored with h | h
          · exact table.checked stored h
          · rw [List.mem_singleton.mp h]
            exact hcheck⟩
    else .error .unique
  else .error .check

theorem insert_eq_ok {table after : Table ρ} {row : ρ} :
    table.insert row = .ok after ↔
      Check row ∧ (∀ other ∈ table.rows, Distinct other row) ∧
        after.rows = table.rows ++ [row] := by
  unfold insert
  split
  · split
    · rename_i hcheck hdistinct
      constructor
      · intro h
        cases h
        exact ⟨hcheck, hdistinct, rfl⟩
      · rintro ⟨-, -, hrows⟩
        exact congrArg Except.ok (ext hrows.symm)
    · rename_i hdistinct
      simp [hdistinct]
  · rename_i hcheck
    simp [hcheck]

theorem find?_of_rows_append {table after : Table ρ} {row : ρ}
    (hrows : after.rows = table.rows ++ [row]) (k : κ) :
    after.find? k = (table.find? k).or (if key row = k then some row else none) := by
  unfold find?
  rw [hrows, List.find?_append]
  congr 1
  by_cases h : key row = k <;> simp [h]

/-! ### UPDATE by primary key -/

/-- The rows after `edit` is applied to the row under `k`. -/
def edited (table : Table ρ) (k : κ) (edit : Edit ρ) : List ρ :=
  table.rows.map fun row => if key row = k then edit.apply row else row

theorem filter_edited (table : Table ρ) (k : κ) (edit : Edit ρ) {p : ρ → Bool}
    (hp : ∀ row, key row = k → p row = false) :
    (table.edited k edit).filter p = table.rows.filter p := by
  unfold edited
  induction table.rows with
  | nil => rfl
  | cons row rest ih =>
    rw [List.map_cons]
    by_cases hk : key row = k
    · have hedited : p (edit.apply row) = false := hp _ ((edit.key_apply row).trans hk)
      rw [if_pos hk, List.filter_cons_of_neg (by simp [hedited]),
        List.filter_cons_of_neg (by simp [hp row hk]), ih]
    · rw [if_neg hk, List.filter_cons, List.filter_cons, ih]

/-- Replace the row under `k`, which must satisfy the CHECK again. -/
def set (table : Table ρ) (k : κ) (edit : Edit ρ)
    (hcheck : ∀ row ∈ table.rows, key row = k → Check (edit.apply row)) : Table ρ where
  rows := table.edited k edit
  distinct := by
    refine List.pairwise_map.mpr (table.distinct.imp fun {a b} h => ?_)
    have hne := key_ne h
    split
    · split
      · rename_i ha hb
        exact absurd (ha.trans hb.symm) hne
      · exact edit.distinct_apply h
    · split
      · exact distinct_symm (edit.distinct_apply (distinct_symm h))
      · exact h
  checked := by
    intro row hrow
    obtain ⟨old, hold, rfl⟩ := List.mem_map.mp hrow
    split
    · rename_i hkey
      exact hcheck old hold hkey
    · exact table.checked old hold

@[simp] theorem rows_set (table : Table ρ) (k : κ) (edit : Edit ρ) (hcheck) :
    (table.set k edit hcheck).rows = table.edited k edit := rfl

/-- `UPDATE table SET edit WHERE key = k AND cond`, with the BEFORE UPDATE
trigger `guard`. The first component is the row the statement returns: its row
count is one when the row exists and satisfies `cond`, and zero otherwise. -/
def update (table : Table ρ) (guard : ρ → ρ → Prop) [∀ a b, Decidable (guard a b)] (k : κ)
    (cond : ρ → Prop) [DecidablePred cond] (edit : Edit ρ) :
    Except Violation (Option ρ × Table ρ) :=
  match hfind : table.find? k with
  | none => .ok (none, table)
  | some row =>
    if cond row then
      if guard row (edit.apply row) then
        if hcheck : Check (edit.apply row) then
          .ok (some (edit.apply row), table.set k edit (by
            intro other hother hkey
            have hrow := find?_eq_some.mp hfind
            rw [table.eq_of_key_eq hother hrow.1 (hkey.trans hrow.2.symm)]
            exact hcheck))
        else .error .check
      else .error .trigger
    else .ok (none, table)

section Update

variable {guard : ρ → ρ → Prop} [∀ a b, Decidable (guard a b)] {cond : ρ → Prop}
  [DecidablePred cond] {edit : Edit ρ} {table after : Table ρ} {k : κ}

theorem update_eq_some {returned : ρ} :
    table.update guard k cond edit = .ok (some returned, after) ↔
      ∃ row, table.find? k = some row ∧ cond row ∧ guard row (edit.apply row) ∧
        Check (edit.apply row) ∧ returned = edit.apply row ∧
        after.rows = table.edited k edit := by
  unfold update
  split
  · rename_i hfind
    simp [hfind]
  · rename_i row hfind
    simp only [hfind, Option.some.injEq, exists_eq_left']
    by_cases hcond : cond row
    · by_cases hguard : guard row (edit.apply row)
      · by_cases hcheck : Check (edit.apply row)
        · simp only [hcond, hguard, hcheck, if_true, dite_true, true_and,
            Except.ok.injEq, Prod.mk.injEq, Option.some.injEq]
          constructor
          · rintro ⟨rfl, rfl⟩
            exact ⟨rfl, rfl⟩
          · rintro ⟨rfl, hrows⟩
            exact ⟨rfl, ext hrows.symm⟩
        · simp [hcond, hguard, hcheck]
      · simp [hcond, hguard]
    · simp [hcond]

theorem update_eq_none :
    table.update guard k cond edit = .ok (none, after) ↔
      after = table ∧ ∀ row, table.find? k = some row → ¬ cond row := by
  unfold update
  split
  · rename_i hfind
    simp [hfind, eq_comm]
  · rename_i row hfind
    simp only [hfind, Option.some.injEq, forall_eq']
    by_cases hcond : cond row
    · simp only [hcond, if_true, not_true, and_false, iff_false]
      split
      · split <;> simp
      · simp
    · simp [hcond, eq_comm]

end Update

/-- The table an accepted UPDATE leads to. -/
theorem exists_edited {table : Table ρ} {k : κ} {edit : Edit ρ} {row : ρ}
    (hfind : table.find? k = some row) (hcheck : Check (edit.apply row)) :
    ∃ after : Table ρ, after.rows = table.edited k edit := by
  refine ⟨table.set k edit fun other hother hkey => ?_, rfl⟩
  have hrow := find?_eq_some.mp hfind
  rw [table.eq_of_key_eq hother hrow.1 (hkey.trans hrow.2.symm)]
  exact hcheck

theorem exists_inserted {table : Table ρ} {row : ρ} (hcheck : Check row)
    (hdistinct : ∀ other ∈ table.rows, Distinct other row) :
    ∃ after : Table ρ, after.rows = table.rows ++ [row] := by
  cases hinsert : table.insert row with
  | ok after => exact ⟨after, (insert_eq_ok.mp hinsert).2.2⟩
  | error violation =>
    rw [insert, dif_pos hcheck, dif_pos hdistinct] at hinsert
    cases hinsert

theorem find?_of_rows_edited {table after : Table ρ} {k : κ} {edit : Edit ρ}
    (hrows : after.rows = table.edited k edit) (j : κ) :
    after.find? j = if j = k then (table.find? k).map edit.apply else table.find? j := by
  have hmem : ∀ row, row ∈ after.rows ↔
      ∃ old ∈ table.rows, (if key old = k then edit.apply old else old) = row := by
    intro row
    rw [hrows]
    exact List.mem_map
  split
  · rename_i hjk
    subst hjk
    cases hfind : table.find? j with
    | none =>
      refine find?_eq_none.mpr fun row hrow => ?_
      obtain ⟨old, hold, rfl⟩ := (hmem row).mp hrow
      have hne := find?_eq_none.mp hfind old hold
      simp [hne]
    | some old =>
      obtain ⟨hold, hkey⟩ := find?_eq_some.mp hfind
      refine find?_eq_some.mpr ⟨(hmem _).mpr ⟨old, hold, by simp [hkey]⟩, ?_⟩
      rw [edit.key_apply, hkey]
  · rename_i hjk
    cases hfind : table.find? j with
    | none =>
      refine find?_eq_none.mpr fun row hrow => ?_
      obtain ⟨old, hold, rfl⟩ := (hmem row).mp hrow
      have hne := find?_eq_none.mp hfind old hold
      split
      · rename_i hkey
        rw [edit.key_apply, hkey]
        exact fun h => hjk h.symm
      · exact hne
    | some old =>
      obtain ⟨hold, hkey⟩ := find?_eq_some.mp hfind
      refine find?_eq_some.mpr ⟨(hmem _).mpr ⟨old, hold, ?_⟩, hkey⟩
      rw [if_neg]
      rw [hkey]
      exact hjk

/-! ### DELETE -/

/-- `DELETE FROM table WHERE drop`. -/
def erase (table : Table ρ) (drop : ρ → Bool) : Table ρ where
  rows := table.rows.filter fun row => !drop row
  distinct := table.distinct.filter _
  checked := fun row hrow => table.checked row (List.mem_filter.mp hrow).1

@[simp] theorem rows_erase (table : Table ρ) (drop : ρ → Bool) :
    (table.erase drop).rows = table.rows.filter fun row => !drop row := rfl

theorem find?_erase (table : Table ρ) (drop : ρ → Bool) (k : κ) :
    (table.erase drop).find? k = (table.find? k).filter fun row => !drop row := by
  cases hfind : table.find? k with
  | none =>
    refine find?_eq_none.mpr fun row hrow => ?_
    exact find?_eq_none.mp hfind row (List.mem_filter.mp hrow).1
  | some row =>
    obtain ⟨hmem, hkey⟩ := find?_eq_some.mp hfind
    by_cases hdrop : drop row = true
    · simp only [Option.filter, hdrop, Bool.not_true]
      refine find?_eq_none.mpr fun other hother hotherKey => ?_
      obtain ⟨hin, hkeep⟩ := List.mem_filter.mp hother
      rw [table.eq_of_key_eq hin hmem (hotherKey.trans hkey.symm)] at hkeep
      simp [hdrop] at hkeep
    · simp only [Option.filter, hdrop, Bool.not_false]
      exact find?_eq_some.mpr ⟨List.mem_filter.mpr ⟨hmem, by simp [hdrop]⟩, hkey⟩

/-! ### Counting rows -/

theorem countP_append_row (rows : List ρ) (row : ρ) (p : ρ → Bool) :
    (rows ++ [row]).countP p = rows.countP p + if p row then 1 else 0 := by
  rw [List.countP_append, List.countP_singleton]

theorem countP_or_le (rows : List ρ) (p q : ρ → Bool) :
    rows.countP (fun row => p row || q row) ≤ rows.countP p + rows.countP q := by
  induction rows with
  | nil => exact Nat.le_refl 0
  | cons row rows ih =>
    simp only [List.countP_cons]
    cases p row <;> cases q row <;> simp <;> omega

theorem exists_split_of_find? {table : Table ρ} {k : κ} {row : ρ}
    (hfind : table.find? k = some row) :
    ∃ before later, table.rows = before ++ row :: later ∧ key row = k ∧
      (∀ other ∈ before, key other ≠ k) ∧ ∀ other ∈ later, key other ≠ k := by
  obtain ⟨hmem, rfl⟩ := find?_eq_some.mp hfind
  obtain ⟨before, later, hrows⟩ := List.append_of_mem hmem
  have hdistinct := table.distinct
  rw [hrows, List.pairwise_append, List.pairwise_cons] at hdistinct
  obtain ⟨-, ⟨hlater, -⟩, hbefore⟩ := hdistinct
  refine ⟨before, later, hrows, rfl, fun other hother => ?_, fun other hother => ?_⟩
  · exact key_ne (hbefore other hother row List.mem_cons_self)
  · exact (key_ne (hlater other hother)).symm

/-- Replacing one row changes a count by what the row itself contributes. -/
theorem countP_edited {table : Table ρ} {k : κ} {row : ρ} (edit : Edit ρ) (p : ρ → Bool)
    (hfind : table.find? k = some row) :
    (table.edited k edit).countP p + (if p row then 1 else 0) =
      table.rows.countP p + if p (edit.apply row) then 1 else 0 := by
  obtain ⟨before, later, hrows, hkey, hbefore, hlater⟩ := exists_split_of_find? hfind
  have hmap : ∀ part : List ρ, (∀ other ∈ part, key other ≠ k) →
      part.map (fun other => if key other = k then edit.apply other else other) = part := by
    intro part hpart
    exact (List.map_congr_left fun other hother => by simp [hpart other hother]).trans
      (List.map_id part)
  unfold edited
  rw [hrows, List.map_append, List.map_cons, hmap before hbefore, hmap later hlater]
  simp only [hkey, if_true, List.countP_append, List.countP_cons]
  omega

theorem countP_erase_key {table : Table ρ} {k : κ} {row : ρ} (p : ρ → Bool)
    (hfind : table.find? k = some row) :
    (table.erase fun other => decide (key other = k)).rows.countP p +
      (if p row then 1 else 0) = table.rows.countP p := by
  obtain ⟨before, later, hrows, hkey, hbefore, hlater⟩ := exists_split_of_find? hfind
  have hfilter : ∀ part : List ρ, (∀ other ∈ part, key other ≠ k) →
      part.filter (fun other => !decide (key other = k)) = part := by
    intro part hpart
    exact List.filter_eq_self.mpr fun other hother => by simp [hpart other hother]
  rw [rows_erase, hrows, List.filter_append, List.filter_cons,
    hfilter before hbefore, hfilter later hlater]
  simp only [hkey, decide_true, Bool.not_true, Bool.false_eq_true, if_false,
    List.countP_append, List.countP_cons]
  omega

theorem countP_key {table : Table ρ} {k : κ} {row : ρ} {p : ρ → Bool}
    (hfind : table.find? k = some row) (hp : p row = true) :
    table.rows.countP (fun other => decide (key other = k) && p other) = 1 := by
  have herase := countP_erase_key (fun other => decide (key other = k) && p other) hfind
  have hrest : (table.erase fun other => decide (key other = k)).rows.countP
      (fun other => decide (key other = k) && p other) = 0 := by
    refine List.countP_eq_zero.mpr fun other hother => ?_
    have hne := (List.mem_filter.mp hother).2
    simp only [Bool.not_eq_true', decide_eq_false_iff_not] at hne
    simp [hne]
  have hkey := find?_key hfind
  simp only [hkey, hp, decide_true, Bool.and_self, if_true] at herase
  omega

theorem nodup_keys (table : Table ρ) (p : ρ → Bool) : ((table.rows.filter p).map key).Nodup :=
  List.pairwise_map.mpr ((table.distinct.filter p).imp key_ne)

theorem countP_le_of_keys {τ : Type} [Schema τ κ] {table : Table ρ} {other : Table τ}
    {p : ρ → Bool} {q : τ → Bool}
    (h : ∀ row ∈ table.rows, p row = true →
      ∃ image ∈ other.rows, q image = true ∧ key image = key row) :
    table.rows.countP p ≤ other.rows.countP q := by
  have hsubset : (table.rows.filter p).map key ⊆ (other.rows.filter q).map key := by
    intro k hk
    obtain ⟨row, hrow, rfl⟩ := List.mem_map.mp hk
    obtain ⟨hmem, hp⟩ := List.mem_filter.mp hrow
    obtain ⟨image, himage, hq, hkey⟩ := h row hmem hp
    exact List.mem_map.mpr ⟨image, List.mem_filter.mpr ⟨himage, hq⟩, hkey⟩
  have hlength := (List.subperm_of_subset (table.nodup_keys p) hsubset).length_le
  rw [List.length_map, List.length_map, ← List.countP_eq_length_filter,
    ← List.countP_eq_length_filter] at hlength
  exact hlength

/-! ### Sums over selected rows -/

/-- What the row under `k` contributes to a sum. -/
def contribution (table : Table ρ) (f : ρ → Nat) (k : κ) : Nat := ((table.find? k).map f).getD 0

private theorem sum_filter_key (table : Table ρ) (f : ρ → Nat) (k : κ) :
    ((table.rows.filter fun row => decide (key row = k)).map f).sum =
      table.contribution f k := by
  unfold contribution
  cases hfind : table.find? k with
  | none =>
    have hempty : table.rows.filter (fun row => decide (key row = k)) = [] := by
      refine List.filter_eq_nil_iff.mpr fun row hrow => ?_
      simpa using find?_eq_none.mp hfind row hrow
    rw [hempty]
    rfl
  | some row =>
    obtain ⟨before, later, hrows, hkey, hbefore, hlater⟩ := exists_split_of_find? hfind
    have hnone : ∀ part : List ρ, (∀ other ∈ part, key other ≠ k) →
        part.filter (fun other => decide (key other = k)) = [] := by
      intro part hpart
      exact List.filter_eq_nil_iff.mpr fun other hother => by simp [hpart other hother]
    rw [hrows, List.filter_append, List.filter_cons,
      hnone before hbefore, hnone later hlater]
    simp [hkey]

theorem sum_filter_keys (table : Table ρ) (f : ρ → Nat) {keys : List κ} (hkeys : keys.Nodup)
    {p : ρ → Bool} (hp : ∀ row ∈ table.rows, p row = true ↔ key row ∈ keys) :
    ((table.rows.filter p).map f).sum = (keys.map (table.contribution f)).sum := by
  have hfilter : table.rows.filter p = table.rows.filter fun row => decide (key row ∈ keys) := by
    refine List.filter_congr fun row hrow => ?_
    rw [Bool.eq_iff_iff, decide_eq_true_eq]
    exact hp row hrow
  rw [hfilter]
  clear hfilter hp
  -- the induction is on the keys, which select disjoint parts of the table
  induction keys with
  | nil =>
    have hnone : table.rows.filter (fun row => decide (key row ∈ ([] : List κ))) = [] :=
      List.filter_eq_nil_iff.mpr fun row _ => by simp
    rw [hnone]
    rfl
  | cons k rest ih =>
    obtain ⟨hk, hrest⟩ := List.nodup_cons.mp hkeys
    rw [List.map_cons, List.sum_cons, ← ih hrest, ← sum_filter_key]
    clear ih
    induction table.rows with
    | nil => rfl
    | cons row rows ih =>
      by_cases hrow : key row = k
      · have hnot : key row ∉ rest := by rwa [hrow]
        simp only [List.filter_cons, hrow, List.mem_cons, true_or, decide_true, if_true,
          List.map_cons, List.sum_cons, hk, decide_false, Bool.false_eq_true, if_false]
        simp only [List.mem_cons] at ih
        omega
      · by_cases hmem : key row ∈ rest
        · simp only [List.filter_cons, hrow, List.mem_cons, hmem, or_true, decide_true, if_true,
            List.map_cons, List.sum_cons, decide_false, Bool.false_eq_true, if_false]
          simp only [List.mem_cons] at ih
          omega
        · simp only [List.filter_cons, hrow, List.mem_cons, hmem, or_self, decide_false,
            Bool.false_eq_true, if_false]
          simpa only [List.mem_cons] using ih

end Table

end Relational

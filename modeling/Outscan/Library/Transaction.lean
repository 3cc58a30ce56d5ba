import Outscan.Library.Table

/-! Transactions over a state `σ`: a statement either fails, which undoes
everything since BEGIN, or yields a value and the next state. -/
namespace Transactional

open Relational

abbrev Tx (σ ε α : Type) := StateT σ (Except ε) α

variable {σ ε α β : Type}

def Tx.fail (error : ε) : Tx σ ε α := fun _ => .error error

/-- Go on only if `condition` holds, as `if (!condition) throw error` does. -/
def Tx.ensure (condition : Prop) [Decidable condition] (error : ε) : Tx σ ε Unit :=
  if condition then pure () else Tx.fail error

/-! Inversion: what a step that succeeded must have done. -/

@[simp] theorem Tx.run_pure_ok {value result : α} {s s' : σ} :
    (pure value : Tx σ ε α).run s = .ok (result, s') ↔ result = value ∧ s' = s := by
  rw [StateT.run_pure]
  change Except.ok (value, s) = Except.ok (result, s') ↔ _
  simp [eq_comm]

@[simp] theorem Tx.run_fail_ok {error : ε} {result : α × σ} {s : σ} :
    (Tx.fail error : Tx σ ε α).run s = .ok result ↔ False := by
  simp [Tx.fail, StateT.run]

@[simp] theorem Tx.run_bind_ok {first : Tx σ ε α} {next : α → Tx σ ε β}
    {result : β × σ} {s : σ} :
    (first >>= next).run s = .ok result ↔
      ∃ value s', first.run s = .ok (value, s') ∧ (next value).run s' = .ok result := by
  rw [StateT.run_bind]
  cases hfirst : first.run s with
  | error error => simp [bind, Except.bind]
  | ok pair =>
    change (next pair.1).run pair.2 = .ok result ↔ _
    constructor
    · intro h
      exact ⟨pair.1, pair.2, rfl, h⟩
    · rintro ⟨value, s', hpair, h⟩
      cases hpair
      exact h

theorem Tx.run_bind_of_ok {first : Tx σ ε α} {next : α → Tx σ ε β} {s s' : σ} {value : α}
    (h : first.run s = .ok (value, s')) : (first >>= next).run s = (next value).run s' := by
  rw [StateT.run_bind, h]
  rfl

theorem Tx.run_bind_of_error {first : Tx σ ε α} {next : α → Tx σ ε β} {s : σ} {error : ε}
    (h : first.run s = .error error) : (first >>= next).run s = .error error := by
  rw [StateT.run_bind, h]
  rfl

theorem Tx.run_bind_get (next : σ → Tx σ ε β) (s : σ) :
    ((get : Tx σ ε σ) >>= next).run s = (next s).run s := rfl

theorem Tx.run_pure' (value : α) (s : σ) : (pure value : Tx σ ε α).run s = .ok (value, s) := rfl

theorem Tx.bind_congr {first : Tx σ ε α} {next next' : α → Tx σ ε β}
    (h : ∀ s value s', first.run s = .ok (value, s') →
      (next value).run s' = (next' value).run s') : first >>= next = first >>= next' := by
  funext s
  change (first >>= next).run s = (first >>= next').run s
  rw [StateT.run_bind, StateT.run_bind]
  cases hfirst : first.run s with
  | error error => rfl
  | ok pair => exact h s pair.1 pair.2 hfirst

@[simp] theorem Tx.run_get_ok {s s' value : σ} :
    (get : Tx σ ε σ).run s = .ok (value, s') ↔ value = s ∧ s' = s := by
  rw [StateT.run_get]
  change Except.ok (s, s) = Except.ok (value, s') ↔ _
  simp [eq_comm]

@[simp] theorem Tx.run_set_ok {s s' next : σ} {value : PUnit} :
    (set next : Tx σ ε PUnit).run s = .ok (value, s') ↔ s' = next := by
  rw [StateT.run_set]
  change Except.ok (PUnit.unit, next) = Except.ok (value, s') ↔ _
  simp [eq_comm]

@[simp] theorem Tx.run_ensure_ok {condition : Prop} [Decidable condition] {error : ε}
    {value : Unit} {s s' : σ} :
    (Tx.ensure condition error : Tx σ ε Unit).run s = .ok (value, s') ↔
      condition ∧ s' = s := by
  unfold Tx.ensure
  split
  · rename_i h
    simp only [run_pure_ok, h, true_and]
  · rename_i h
    simp only [run_fail_ok, h, false_and]

theorem Tx.run_ensure_of {condition : Prop} [Decidable condition] {error : ε}
    (h : condition) (s : σ) : (Tx.ensure condition error : Tx σ ε Unit).run s = .ok ((), s) :=
  Tx.run_ensure_ok.mpr ⟨h, rfl⟩

/-! ### Statements on one table of a larger state -/

structure Lens (σ τ : Type) where
  get : σ → τ
  put : τ → σ → σ
  get_put : ∀ value s, get (put value s) = value
  put_get : ∀ s, put (get s) s = s
  put_put : ∀ first second s, put second (put first s) = put second s

/-- Run a statement on the component behind `lens`. -/
def Tx.on (lens : Lens σ β) (statement : β → Except ε (α × β)) : Tx σ ε α := fun s =>
  match statement (lens.get s) with
  | .ok (value, next) => .ok (value, lens.put next s)
  | .error error => .error error

@[simp] theorem Tx.run_on_ok {lens : Lens σ β} {statement : β → Except ε (α × β)}
    {value : α} {s s' : σ} :
    (Tx.on lens statement).run s = .ok (value, s') ↔
      ∃ next, statement (lens.get s) = .ok (value, next) ∧ s' = lens.put next s := by
  change (match statement (lens.get s) with
    | .ok (value, next) => Except.ok (value, lens.put next s)
    | .error error => .error error) = Except.ok (value, s') ↔ _
  cases statement (lens.get s) with
  | error error => simp
  | ok pair =>
    obtain ⟨found, next⟩ := pair
    simp only [Except.ok.injEq, Prod.mk.injEq]
    constructor
    · rintro ⟨rfl, rfl⟩
      exact ⟨next, ⟨rfl, rfl⟩, rfl⟩
    · rintro ⟨other, ⟨rfl, rfl⟩, rfl⟩
      exact ⟨rfl, rfl⟩

/-! ### INSERT and UPDATE as steps of a transaction -/

section Statements

variable {ρ κ : Type} [Schema ρ κ] (lens : Lens σ (Table ρ)) (raise : Violation → ε)

def Tx.insert (row : ρ) : Tx σ ε Unit :=
  Tx.on lens fun table =>
    match table.insert row with
    | .ok next => .ok ((), next)
    | .error violation => .error (raise violation)

def Tx.update (guard : ρ → ρ → Prop) [∀ a b, Decidable (guard a b)] (k : κ)
    (cond : ρ → Prop) [DecidablePred cond] (edit : Edit ρ) : Tx σ ε (Option ρ) :=
  Tx.on lens fun table =>
    match table.update guard k cond edit with
    | .ok result => .ok result
    | .error violation => .error (raise violation)

/-- An UPDATE followed by `if (rowCount !== 1) throw missing`. -/
def Tx.updateOne (missing : ε) (guard : ρ → ρ → Prop) [∀ a b, Decidable (guard a b)] (k : κ)
    (cond : ρ → Prop) [DecidablePred cond] (edit : Edit ρ) : Tx σ ε ρ := do
  match ← Tx.update lens raise guard k cond edit with
  | some row => pure row
  | none => Tx.fail missing

variable (ε) in
/-- `DELETE FROM table WHERE drop`, with its row count. -/
def Tx.delete (drop : ρ → Bool) : Tx σ ε Nat :=
  Tx.on lens fun table => .ok (table.rows.countP drop, table.erase drop)

variable {lens raise}

theorem Tx.run_delete (drop : ρ → Bool) (s : σ) :
    (Tx.delete ε lens drop).run s =
      .ok ((lens.get s).rows.countP drop, lens.put ((lens.get s).erase drop) s) := rfl

@[simp] theorem Tx.run_delete_ok {drop : ρ → Bool} {count : Nat} {s s' : σ} :
    (Tx.delete ε lens drop).run s = .ok (count, s') ↔
      count = (lens.get s).rows.countP drop ∧ s' = lens.put ((lens.get s).erase drop) s := by
  unfold Tx.delete
  simp only [run_on_ok, Except.ok.injEq, Prod.mk.injEq]
  constructor
  · rintro ⟨next, ⟨rfl, rfl⟩, rfl⟩
    exact ⟨rfl, rfl⟩
  · rintro ⟨rfl, rfl⟩
    exact ⟨_, ⟨rfl, rfl⟩, rfl⟩

@[simp] theorem Tx.run_insert_ok {row : ρ} {value : Unit} {s s' : σ} :
    (Tx.insert lens raise row).run s = .ok (value, s') ↔
      Schema.Check row ∧ (∀ other ∈ (lens.get s).rows, Schema.Distinct other row) ∧
        ∃ next : Table ρ, next.rows = (lens.get s).rows ++ [row] ∧ s' = lens.put next s := by
  unfold Tx.insert
  simp only [run_on_ok]
  constructor
  · rintro ⟨next, hnext, rfl⟩
    cases hinsert : (lens.get s).insert row with
    | error violation => simp [hinsert] at hnext
    | ok after =>
      simp only [hinsert, Except.ok.injEq, Prod.mk.injEq, true_and] at hnext
      subst hnext
      obtain ⟨hcheck, hdistinct, hrows⟩ := Table.insert_eq_ok.mp hinsert
      exact ⟨hcheck, hdistinct, after, hrows, rfl⟩
  · rintro ⟨hcheck, hdistinct, next, hrows, rfl⟩
    refine ⟨next, ?_, rfl⟩
    rw [Table.insert_eq_ok.mpr ⟨hcheck, hdistinct, hrows⟩]

section Update

variable {guard : ρ → ρ → Prop} [∀ a b, Decidable (guard a b)] {k : κ} {cond : ρ → Prop}
  [DecidablePred cond] {edit : Edit ρ} {s s' : σ}

@[simp] theorem Tx.run_update_some_ok {returned : ρ} :
    (Tx.update lens raise guard k cond edit).run s = .ok (some returned, s') ↔
      ∃ row, (lens.get s).find? k = some row ∧ cond row ∧ guard row (edit.apply row) ∧
        Schema.Check (edit.apply row) ∧ returned = edit.apply row ∧
        ∃ next : Table ρ, next.rows = (lens.get s).edited k edit ∧ s' = lens.put next s := by
  unfold Tx.update
  simp only [run_on_ok]
  constructor
  · rintro ⟨next, hnext, rfl⟩
    cases hupdate : (lens.get s).update guard k cond edit with
    | error violation => simp [hupdate] at hnext
    | ok result =>
      simp only [hupdate, Except.ok.injEq] at hnext
      subst hnext
      obtain ⟨row, hfind, hcond, hguard, hcheck, hrow, hrows⟩ :=
        Table.update_eq_some.mp hupdate
      exact ⟨row, hfind, hcond, hguard, hcheck, hrow, next, hrows, rfl⟩
  · rintro ⟨row, hfind, hcond, hguard, hcheck, hrow, next, hrows, rfl⟩
    refine ⟨next, ?_, rfl⟩
    rw [Table.update_eq_some.mpr ⟨row, hfind, hcond, hguard, hcheck, hrow, hrows⟩]

@[simp] theorem Tx.run_update_none_ok :
    (Tx.update lens raise guard k cond edit).run s = .ok (none, s') ↔
      s' = s ∧ ∀ row, (lens.get s).find? k = some row → ¬ cond row := by
  unfold Tx.update
  simp only [run_on_ok]
  constructor
  · rintro ⟨next, hnext, rfl⟩
    cases hupdate : (lens.get s).update guard k cond edit with
    | error violation => simp [hupdate] at hnext
    | ok result =>
      simp only [hupdate, Except.ok.injEq] at hnext
      subst hnext
      obtain ⟨rfl, hcond⟩ := Table.update_eq_none.mp hupdate
      exact ⟨lens.put_get s, hcond⟩
  · rintro ⟨rfl, hcond⟩
    refine ⟨lens.get s', ?_, (lens.put_get s').symm⟩
    rw [Table.update_eq_none.mpr ⟨rfl, hcond⟩]

@[simp] theorem Tx.run_updateOne_ok {missing : ε} {returned : ρ} :
    (Tx.updateOne lens raise missing guard k cond edit).run s = .ok (returned, s') ↔
      ∃ row, (lens.get s).find? k = some row ∧ cond row ∧ guard row (edit.apply row) ∧
        Schema.Check (edit.apply row) ∧ returned = edit.apply row ∧
        ∃ next : Table ρ, next.rows = (lens.get s).edited k edit ∧ s' = lens.put next s := by
  unfold Tx.updateOne
  rw [run_bind_ok]
  constructor
  · rintro ⟨result, mid, hupdate, hrest⟩
    cases result with
    | none => exact (run_fail_ok.mp hrest).elim
    | some row =>
      obtain ⟨rfl, rfl⟩ := run_pure_ok.mp hrest
      exact run_update_some_ok.mp hupdate
  · intro h
    exact ⟨some returned, s', run_update_some_ok.mpr h, run_pure_ok.mpr ⟨rfl, rfl⟩⟩

theorem Tx.exists_updateOne (missing : ε) {row : ρ} (hfind : (lens.get s).find? k = some row)
    (hcond : cond row) (hguard : guard row (edit.apply row))
    (hcheck : Schema.Check (edit.apply row)) :
    ∃ next : Table ρ, (Tx.updateOne lens raise missing guard k cond edit).run s =
      .ok (edit.apply row, lens.put next s) := by
  obtain ⟨next, hrows⟩ := Table.exists_edited hfind hcheck
  exact ⟨next, run_updateOne_ok.mpr ⟨row, hfind, hcond, hguard, hcheck, rfl, next, hrows, rfl⟩⟩

theorem Tx.exists_updateOne_unit {missing : ε} {row : ρ} (hfind : (lens.get s).find? k = some row)
    (hcond : cond row) (hguard : guard row (edit.apply row))
    (hcheck : Schema.Check (edit.apply row)) :
    ∃ s', (Tx.updateOne lens raise missing guard k cond edit >>= fun _ => pure ()).run s =
      .ok ((), s') := by
  obtain ⟨next, hrun⟩ : ∃ next, (Tx.updateOne lens raise missing guard k cond edit).run s =
      .ok (edit.apply row, lens.put next s) := Tx.exists_updateOne _ hfind hcond hguard hcheck
  exact ⟨_, run_bind_ok.mpr ⟨_, _, hrun, rfl⟩⟩

end Update

end Statements

/-! ### One statement per key -/

section ForEach

variable {ρ κ ι : Type} [Schema ρ κ] {lens : Lens σ (Table ρ)} {action : ι → Tx σ ε Unit}
  {keyOf : ι → κ} {effect : ι → Option ρ → Option ρ}

/-- `action i` changes the row under the key of `i` as `effect i` says. -/
def Tx.Changes (lens : Lens σ (Table ρ)) (action : ι → Tx σ ε Unit) (keyOf : ι → κ)
    (effect : ι → Option ρ → Option ρ) : Prop :=
  ∀ i s value s', (action i).run s = .ok (value, s') →
    ∃ next, s' = lens.put next s ∧
      ∀ k, next.find? k =
        if k = keyOf i then effect i ((lens.get s).find? k) else (lens.get s).find? k

/-- A loop over different keys changes each of them once. -/
theorem Tx.Changes.forM (h : Tx.Changes lens action keyOf effect) {items : List ι}
    (hkeys : (items.map keyOf).Nodup) {s s' : σ} {value : PUnit}
    (hrun : (items.forM action).run s = .ok (value, s')) :
    ∃ next, s' = lens.put next s ∧
      (∀ i ∈ items, next.find? (keyOf i) = effect i ((lens.get s).find? (keyOf i))) ∧
      ∀ k, k ∉ items.map keyOf → next.find? k = (lens.get s).find? k := by
  induction items generalizing s with
  | nil =>
    obtain ⟨-, rfl⟩ := Tx.run_pure_ok.mp hrun
    exact ⟨lens.get s', (lens.put_get s').symm, by simp, fun _ _ => rfl⟩
  | cons item rest ih =>
    obtain ⟨_, mid, hitem, hrest⟩ := Tx.run_bind_ok.mp hrun
    obtain ⟨hnot, hnodup⟩ := List.nodup_cons.mp hkeys
    obtain ⟨first, rfl, hfirst⟩ := h item s _ mid hitem
    obtain ⟨next, rfl, hmem, hother⟩ := ih hnodup hrest
    refine ⟨next, lens.put_put .., fun i hi => ?_, fun k hk => ?_⟩
    · rcases List.mem_cons.mp hi with rfl | hi
      · rw [hother _ hnot, lens.get_put, hfirst, if_pos rfl]
      · have hne : keyOf i ≠ keyOf item :=
          fun heq => hnot (heq ▸ List.mem_map.mpr ⟨i, hi, rfl⟩)
        rw [hmem i hi, lens.get_put, hfirst, if_neg hne]
    · rw [List.map_cons, List.mem_cons, not_or] at hk
      rw [hother k hk.2, lens.get_put, hfirst, if_neg hk.1]

theorem Tx.Changes.forM_ok (h : Tx.Changes lens action keyOf effect)
    (Ready : ι → Option ρ → Prop) {items : List ι}
    (hok : ∀ i ∈ items, ∀ s, Ready i ((lens.get s).find? (keyOf i)) →
      ∃ s', (action i).run s = .ok ((), s'))
    (hkeys : (items.map keyOf).Nodup) {s : σ}
    (hready : ∀ i ∈ items, Ready i ((lens.get s).find? (keyOf i))) :
    ∃ s', (items.forM action).run s = .ok ((), s') := by
  induction items generalizing s with
  | nil => exact ⟨s, rfl⟩
  | cons item rest ih =>
    obtain ⟨hnot, hnodup⟩ := List.nodup_cons.mp hkeys
    obtain ⟨mid, hitem⟩ := hok item (by simp) s (hready item (by simp))
    obtain ⟨first, rfl, hfirst⟩ := h item s _ mid hitem
    have hrest : ∀ i ∈ rest, Ready i ((lens.get (lens.put first s)).find? (keyOf i)) := by
      intro i hi
      have hne : keyOf i ≠ keyOf item :=
        fun heq => hnot (heq ▸ List.mem_map.mpr ⟨i, hi, rfl⟩)
      rw [lens.get_put, hfirst, if_neg hne]
      exact hready i (List.mem_cons_of_mem _ hi)
    obtain ⟨s', hrun⟩ := ih (fun i hi => hok i (List.mem_cons_of_mem _ hi)) hnodup hrest
    exact ⟨s', Tx.run_bind_ok.mpr ⟨(), _, hitem, hrun⟩⟩

end ForEach

/-! ### Relational rules

`Respects R action` says that every successful run of `action` relates the
state before it to the state after it. For a reflexive and transitive `R` the
property composes along a transaction. -/

def Tx.Respects (R : σ → σ → Prop) (action : Tx σ ε α) : Prop :=
  ∀ s value s', action.run s = .ok (value, s') → R s s'

section Respects

variable {R : σ → σ → Prop}

theorem Tx.Respects.pure (hrefl : ∀ s, R s s) (value : α) :
    Tx.Respects R (Pure.pure value : Tx σ ε α) := by
  intro s result s' h
  obtain ⟨-, rfl⟩ := Tx.run_pure_ok.mp h
  exact hrefl s'

theorem Tx.Respects.fail (error : ε) : Tx.Respects R (Tx.fail error : Tx σ ε α) := by
  intro s result s' h
  exact (Tx.run_fail_ok.mp h).elim

theorem Tx.Respects.ensure (hrefl : ∀ s, R s s) (condition : Prop) [Decidable condition]
    (error : ε) : Tx.Respects R (Tx.ensure condition error : Tx σ ε Unit) := by
  intro s result s' h
  obtain ⟨-, rfl⟩ := Tx.run_ensure_ok.mp h
  exact hrefl s'

theorem Tx.Respects.get (hrefl : ∀ s, R s s) : Tx.Respects R (MonadState.get : Tx σ ε σ) := by
  intro s result s' h
  obtain ⟨-, rfl⟩ := Tx.run_get_ok.mp h
  exact hrefl s'

theorem Tx.Respects.bind (htrans : ∀ a b c, R a b → R b c → R a c) {first : Tx σ ε α}
    {next : α → Tx σ ε β} (hfirst : Tx.Respects R first)
    (hnext : ∀ value, Tx.Respects R (next value)) : Tx.Respects R (first >>= next) := by
  intro s result s' h
  obtain ⟨value, mid, hrun, hrest⟩ := Tx.run_bind_ok.mp h
  exact htrans s mid s' (hfirst s value mid hrun) (hnext value mid result s' hrest)

theorem Tx.Respects.ite {condition : Prop} [Decidable condition] {yes no : Tx σ ε α}
    (hyes : condition → Tx.Respects R yes) (hno : ¬ condition → Tx.Respects R no) :
    Tx.Respects R (if condition then yes else no) := by
  split
  · rename_i h
    exact hyes h
  · rename_i h
    exact hno h

section Statements

variable {ρ κ : Type} [Schema ρ κ] {lens : Lens σ (Table ρ)} {raise : Violation → ε}

theorem Tx.Respects.on {lens : Lens σ β} (hput : ∀ next s, R s (lens.put next s))
    (statement : β → Except ε (α × β)) : Tx.Respects R (Tx.on lens statement) := by
  intro s value s' h
  obtain ⟨next, -, rfl⟩ := Tx.run_on_ok.mp h
  exact hput next s

theorem Tx.Respects.insert (hput : ∀ next s, R s (lens.put next s)) (row : ρ) :
    Tx.Respects R (Tx.insert lens raise row) := Tx.Respects.on hput _

theorem Tx.Respects.updateOne (hrefl : ∀ s, R s s) (htrans : ∀ a b c, R a b → R b c → R a c)
    (hput : ∀ next s, R s (lens.put next s)) {missing : ε} {guard : ρ → ρ → Prop}
    [∀ a b, Decidable (guard a b)] {k : κ} {cond : ρ → Prop} [DecidablePred cond]
    {edit : Edit ρ} : Tx.Respects R (Tx.updateOne lens raise missing guard k cond edit) := by
  refine Tx.Respects.bind htrans (Tx.Respects.on hput _) fun result => ?_
  cases result with
  | none => exact Tx.Respects.fail missing
  | some row => exact Tx.Respects.pure hrefl row

end Statements

end Respects

/-! ### Errors that cannot occur

`Avoids error action s` says that `action`, started in `s`, does not fail with
`error`. Along a transaction it is enough to show it in the states each part is
really started in. -/

def Tx.Avoids (error : ε) (action : Tx σ ε α) (s : σ) : Prop := action.run s ≠ .error error

namespace Tx.Avoids

variable {error : ε} {s : σ}

theorem pure (value : α) : Tx.Avoids error (Pure.pure value : Tx σ ε α) s := by
  intro h
  cases h

theorem fail {other : ε} (hne : other ≠ error) :
    Tx.Avoids error (Tx.fail other : Tx σ ε α) s := by
  intro h
  exact hne (Except.error.inj h)

theorem ensure {condition : Prop} [Decidable condition] {other : ε} (hne : other ≠ error) :
    Tx.Avoids error (Tx.ensure condition other : Tx σ ε Unit) s := by
  unfold Tx.ensure
  split
  · exact pure ()
  · exact fail hne

theorem ensure_of {condition : Prop} [Decidable condition] {other : ε} (h : condition) :
    Tx.Avoids error (Tx.ensure condition other : Tx σ ε Unit) s := by
  intro hrun
  rw [Tx.run_ensure_of h] at hrun
  cases hrun

theorem bind {first : Tx σ ε α} {next : α → Tx σ ε β} (hfirst : Tx.Avoids error first s)
    (hnext : ∀ value s', first.run s = .ok (value, s') → Tx.Avoids error (next value) s') :
    Tx.Avoids error (first >>= next) s := by
  intro h
  rw [StateT.run_bind] at h
  cases hrun : first.run s with
  | error other =>
    rw [hrun] at h
    exact hfirst (hrun.trans (congrArg Except.error (Except.error.inj h)))
  | ok pair =>
    rw [hrun] at h
    exact hnext pair.1 pair.2 hrun h

theorem bind_get {next : σ → Tx σ ε β} (h : Tx.Avoids error (next s) s) :
    Tx.Avoids error ((get : Tx σ ε σ) >>= next) s := h

theorem ite {condition : Prop} [Decidable condition] {yes no : Tx σ ε α}
    (hyes : condition → Tx.Avoids error yes s) (hno : ¬ condition → Tx.Avoids error no s) :
    Tx.Avoids error (if condition then yes else no) s := by
  split
  · rename_i h
    exact hyes h
  · rename_i h
    exact hno h

section Statements

variable {ρ κ : Type} [Schema ρ κ] {lens : Lens σ (Table ρ)} {raise : Violation → ε}

theorem on {statement : β → Except ε (α × β)} {lens : Lens σ β}
    (h : statement (lens.get s) ≠ .error error) : Tx.Avoids error (Tx.on lens statement) s := by
  intro hrun
  change (match statement (lens.get s) with
    | .ok (value, next) => Except.ok (value, lens.put next s)
    | .error other => .error other) = Except.error error at hrun
  cases hstatement : statement (lens.get s) with
  | ok pair =>
    rw [hstatement] at hrun
    cases hrun
  | error other =>
    rw [hstatement] at hrun
    exact h (hstatement.trans (congrArg Except.error (Except.error.inj hrun)))

theorem insert (hraise : ∀ violation, raise violation ≠ error) (row : ρ) :
    Tx.Avoids error (Tx.insert lens raise row) s := by
  refine on fun h => ?_
  split at h
  · cases h
  · rename_i violation _
    exact hraise violation (Except.error.inj h)

theorem update (hraise : ∀ violation, raise violation ≠ error) (guard : ρ → ρ → Prop)
    [∀ a b, Decidable (guard a b)] (k : κ) (cond : ρ → Prop) [DecidablePred cond]
    (edit : Edit ρ) : Tx.Avoids error (Tx.update lens raise guard k cond edit) s := by
  refine on fun h => ?_
  split at h
  · cases h
  · rename_i violation _
    exact hraise violation (Except.error.inj h)

theorem updateOne (hraise : ∀ violation, raise violation ≠ error) {missing : ε}
    (hmissing : missing ≠ error) (guard : ρ → ρ → Prop) [∀ a b, Decidable (guard a b)] (k : κ)
    (cond : ρ → Prop) [DecidablePred cond] (edit : Edit ρ) :
    Tx.Avoids error (Tx.updateOne lens raise missing guard k cond edit) s := by
  unfold Tx.updateOne
  refine bind (update hraise guard k cond edit) fun result s' _ => ?_
  cases result with
  | none => exact fail hmissing
  | some row => exact pure row

theorem delete (drop : ρ → Bool) : Tx.Avoids error (Tx.delete ε lens drop) s := by
  intro h
  rw [Tx.run_delete] at h
  cases h

end Statements

end Tx.Avoids

/-! ### BEGIN .. COMMIT -/

inductive Verdict (α : Type) where
  | commit (answer : α)
  | rollback (answer : α)

abbrev Committed (σ : Type) (Deferred : σ → Prop) := { s : σ // Deferred s }

variable {Deferred : σ → Prop} [DecidablePred Deferred]

/-- Run `body` as one transaction. A failure anywhere, also of a deferred
constraint at COMMIT, leaves the state as it was and answers `unavailable`. -/
def atomically (unavailable : α) (body : Tx σ ε (Verdict α)) (s : Committed σ Deferred) :
    α × Committed σ Deferred :=
  match body.run s.val with
  | .ok (.commit answer, next) =>
    if h : Deferred next then (answer, ⟨next, h⟩) else (unavailable, s)
  | .ok (.rollback answer, _) => (answer, s)
  | .error _ => (unavailable, s)

/-- Either the body committed, or the state is untouched. -/
theorem atomically_cases (unavailable : α) (body : Tx σ ε (Verdict α))
    (s : Committed σ Deferred) :
    (∃ answer next, body.run s.val = .ok (.commit answer, next.val) ∧
        atomically unavailable body s = (answer, next)) ∨
      (atomically unavailable body s).2 = s ∧
        ((atomically unavailable body s).1 = unavailable ∨
          ∃ next, body.run s.val =
            .ok (.rollback (atomically unavailable body s).1, next)) := by
  unfold atomically
  split
  · rename_i answer next hrun
    by_cases h : Deferred next
    · exact .inl ⟨answer, ⟨next, h⟩, hrun, by simp [h]⟩
    · exact .inr (by simp [h])
  · rename_i answer next hrun
    exact .inr ⟨rfl, .inr ⟨next, hrun⟩⟩
  · exact .inr ⟨rfl, .inl rfl⟩

theorem atomically_of_commit {unavailable answer : α} {body : Tx σ ε (Verdict α)}
    {s : Committed σ Deferred} {next : σ} (hrun : body.run s.val = .ok (.commit answer, next))
    (h : Deferred next) : atomically unavailable body s = (answer, ⟨next, h⟩) := by
  simp [atomically, hrun, h]

theorem atomically_of_rollback {unavailable answer : α} {body : Tx σ ε (Verdict α)}
    {s : Committed σ Deferred} {next : σ}
    (hrun : body.run s.val = .ok (.rollback answer, next)) :
    atomically unavailable body s = (answer, s) := by
  simp [atomically, hrun]

theorem atomically_of_error {unavailable : α} {body : Tx σ ε (Verdict α)}
    {s : Committed σ Deferred} {error : ε} (hrun : body.run s.val = .error error) :
    atomically unavailable body s = (unavailable, s) := by
  simp [atomically, hrun]

end Transactional

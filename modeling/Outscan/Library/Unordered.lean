import Mathlib.Data.List.Perm.Basic
import Mathlib.Data.List.Perm.Lattice
import Mathlib.Data.List.Nodup
import Mathlib.Data.Option.Basic
import Mathlib.Order.Lattice

/-! Lists whose order makes no difference: a checked map takes rearranged lists to
rearranged lists, and sorting forgets the order. -/
namespace Unordered

variable {α β : Type}

theorem mapM_eq_some {read : α → Option β} {items : List α} {results : List β} :
    items.mapM read = some results ↔
      List.Forall₂ (fun item result => read item = some result) items results := by
  induction items generalizing results with
  | nil =>
    constructor
    · intro h
      cases h
      exact .nil
    · intro h
      cases h
      rfl
  | cons item rest ih =>
    simp only [List.mapM_cons, Option.bind_eq_bind, Option.bind_eq_some_iff, Option.pure_def,
      Option.some.injEq]
    constructor
    · rintro ⟨result, hresult, others, hothers, rfl⟩
      exact .cons hresult (ih.mp hothers)
    · intro h
      cases h with
      | cons hresult hothers => exact ⟨_, hresult, _, ih.mpr hothers, rfl⟩

theorem mem_of_forall₂ {R : α → β → Prop} {items : List α} {results : List β}
    (h : List.Forall₂ R items results) {result : β} (hresult : result ∈ results) :
    ∃ item ∈ items, R item result := by
  induction h with
  | nil => cases hresult
  | cons hfirst _ ih =>
    rcases List.mem_cons.mp hresult with rfl | hrest
    · exact ⟨_, List.mem_cons_self, hfirst⟩
    · obtain ⟨item, hitem, hread⟩ := ih hrest
      exact ⟨item, List.mem_cons_of_mem _ hitem, hread⟩

theorem mem_of_forall₂_left {R : α → β → Prop} {items : List α} {results : List β}
    (h : List.Forall₂ R items results) {item : α} (hitem : item ∈ items) :
    ∃ result ∈ results, R item result :=
  mem_of_forall₂ h.flip hitem

theorem mapM_perm {read : α → Option β} {items items' : List α} (h : items.Perm items')
    {results : List β} (hresults : items.mapM read = some results) :
    ∃ results', items'.mapM read = some results' ∧ results.Perm results' := by
  obtain ⟨results', hread, hperm⟩ := List.perm_comp_forall₂ h.symm (mapM_eq_some.mp hresults)
  exact ⟨results', mapM_eq_some.mpr hread, hperm.symm⟩

theorem map_eq_of_forall₂ {γ : Type} {R : α → β → Prop} {field : α → γ} {field' : β → γ}
    {items : List α} {results : List β} (h : List.Forall₂ R items results)
    (hsame : ∀ item result, R item result → field item = field' result) :
    items.map field = results.map field' := by
  induction h with
  | nil => rfl
  | cons hfirst _ ih => rw [List.map_cons, List.map_cons, hsame _ _ hfirst, ih]

/-- Sorting by an order that tells the items apart forgets how they were arranged. -/
theorem mergeSort_eq_of_perm {le : α → α → Bool} (htrans : ∀ a b c, le a b → le b c → le a c)
    (htotal : ∀ a b, le a b || le b a) {items items' : List α}
    (hanti : ∀ a b, a ∈ items → b ∈ items → le a b → le b a → a = b) (h : items.Perm items') :
    items.mergeSort le = items'.mergeSort le := by
  refine List.Perm.eq_of_pairwise ?_
    (List.pairwise_mergeSort htrans htotal items) (List.pairwise_mergeSort htrans htotal items')
    ((List.mergeSort_perm items le).trans (h.trans (List.mergeSort_perm items' le).symm))
  intro a b ha hb
  exact hanti a b (List.mem_mergeSort.mp ha) (h.mem_iff.mpr (List.mem_mergeSort.mp hb))

theorem mergeSort_ascending {κ : Type} [LinearOrder κ] {key : α → κ} {le : α → α → Bool}
    (hle : ∀ a b, le a b = true ↔ key a ≤ key b) {items : List α}
    (hdistinct : (items.map key).Nodup) :
    (items.mergeSort le).Pairwise fun a b => key a < key b := by
  have htrans : ∀ a b c, le a b → le b c → le a c := by
    intro a b c
    rw [hle, hle, hle]
    exact le_trans
  have htotal : ∀ a b, le a b || le b a := by
    intro a b
    rw [Bool.or_eq_true, hle, hle]
    exact le_total _ _
  have hkeys : ((items.mergeSort le).map key).Nodup :=
    ((List.mergeSort_perm items le).map key).nodup_iff.mpr hdistinct
  exact ((List.pairwise_mergeSort htrans htotal items).and (List.pairwise_map.mp hkeys)).imp
    fun h => lt_of_le_of_ne ((hle _ _).mp h.1) h.2

/-! ### Sorting by a key -/

section

variable {κ : Type} [LinearOrder κ] (key : α → κ)

def sortBy (items : List α) : List α := items.mergeSort fun a b => decide (key a ≤ key b)

theorem sortBy_perm (items : List α) : (sortBy key items).Perm items := List.mergeSort_perm ..

theorem sortBy_eq_iff {items items' : List α}
    (hkey : ∀ a ∈ items, ∀ b ∈ items, key a = key b → a = b) :
    sortBy key items = sortBy key items' ↔ items.Perm items' := by
  constructor
  · intro h
    have hperm := sortBy_perm key items
    rw [h] at hperm
    exact hperm.symm.trans (sortBy_perm key items')
  · intro h
    apply mergeSort_eq_of_perm _ _ _ h
    · intro a b c hab hbc
      exact decide_eq_true (le_trans (of_decide_eq_true hab) (of_decide_eq_true hbc))
    · intro a b
      simp [le_total]
    · intro a b ha hb hab hba
      exact hkey a ha b hb (le_antisymm (of_decide_eq_true hab) (of_decide_eq_true hba))

end

theorem perm_map_of_perm_map {γ : Type} {f : α → β} {g : α → γ} (h : ∀ a b, f a = f b → g a = g b)
    {items items' : List α} (hperm : (items.map f).Perm (items'.map f)) :
    (items.map g).Perm (items'.map g) := by
  have hown : List.Forall₂ (fun value item => value = f item) (items'.map f) items' := by
    rw [List.forall₂_map_left_iff, List.forall₂_same]
    exact fun _ _ => rfl
  obtain ⟨middle, hmiddle, hrest⟩ := List.perm_comp_forall₂ hperm hown
  rw [List.forall₂_map_left_iff] at hmiddle
  rw [map_eq_of_forall₂ hmiddle h]
  exact hrest.map g

end Unordered

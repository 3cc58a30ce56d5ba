import Mathlib.Data.List.Perm.Basic
import Mathlib.Data.List.Nodup

/-! Work done in batches: of what is due, the first so many are taken in each
round, until nothing is left. -/
namespace Batch

variable {α : Type}

/-- `batch` is what a round takes of `items`: as many as fit, in order, and none
after one that is left. -/
structure IsBatch (before : α → α → Prop) (size : Nat) (items batch : List α) : Prop where
  nodup : batch.Nodup
  subset : batch ⊆ items
  length : batch.length = min size items.length
  ordered : batch.Pairwise before
  first : ∀ item ∈ items, item ∉ batch → ∀ taken ∈ batch, before taken item

theorem isBatch_take {le : α → α → Bool} {before : α → α → Prop}
    (htrans : ∀ a b c, le a b = true → le b c = true → le a c = true)
    (htotal : ∀ a b, (le a b || le b a) = true) (hbefore : ∀ a b, le a b = true → before a b)
    (size : Nat) {items : List α} (hnodup : items.Nodup) :
    IsBatch before size items ((items.mergeSort le).take size) := by
  have hsorted := List.pairwise_mergeSort htrans htotal items
  have hperm := List.mergeSort_perm items le
  refine ⟨((hperm.nodup_iff).mpr hnodup).sublist (List.take_sublist ..), fun item hitem => ?_, ?_,
    ?_, fun item hitem hleft taken htaken => ?_⟩
  · exact List.mem_mergeSort.mp (List.mem_of_mem_take hitem)
  · rw [List.length_take, List.length_mergeSort]
  · exact (hsorted.sublist (List.take_sublist ..)).imp (fun h => hbefore _ _ h)
  · rw [← List.take_append_drop size (items.mergeSort le), List.pairwise_append] at hsorted
    have hmem : item ∈ items.mergeSort le := List.mem_mergeSort.mpr hitem
    rw [← List.take_append_drop size (items.mergeSort le), List.mem_append] at hmem
    exact hbefore _ _ (hsorted.2.2 taken htaken item (hmem.resolve_left hleft))

theorem IsBatch.length_left [DecidableEq α] {before : α → α → Prop} {size : Nat}
    {items batch : List α} (h : IsBatch before size items batch) (hnodup : items.Nodup) :
    (items.filter fun item => decide (item ∉ batch)).length = items.length - size := by
  have hperm : (items.filter fun item => decide (item ∈ batch)).Perm batch := by
    rw [List.perm_ext_iff_of_nodup (hnodup.filter _) h.nodup]
    intro item
    simp only [List.mem_filter, decide_eq_true_eq]
    exact ⟨And.right, fun hitem => ⟨h.subset hitem, hitem⟩⟩
  have hsplit := List.length_eq_length_filter_add (l := items) fun item => decide (item ∈ batch)
  have hlength := h.length
  simp only [← decide_not] at hsplit
  rw [hperm.length_eq] at hsplit
  omega

theorem left_after (left : Nat → Nat) {size : Nat} (h : ∀ n, left (n + 1) = left n - size)
    (n : Nat) : left n = left 0 - n * size := by
  induction n with
  | zero => simp
  | succ n ih =>
    rw [h, ih, Nat.succ_mul]
    omega

def rounds (size length : Nat) : Nat := (length + size - 1) / size

/-- Something is left exactly before the last round. -/
theorem lt_rounds {size length : Nat} (hsize : 0 < size) (n : Nat) :
    n < rounds size length ↔ n * size < length := by
  unfold rounds
  rw [Nat.lt_iff_add_one_le, Nat.le_div_iff_mul_le hsize, Nat.succ_mul]
  omega

end Batch

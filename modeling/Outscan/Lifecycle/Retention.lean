import Outscan.Creation.Admission

/-! What a retention batch removes. -/
namespace Outscan

open Relational Transactional

theorem decrementActiveCounter_rest {now : Nat} {spec : ActiveCounterSpec} {t t' : Tables}
    {done : Bool} (h : (decrementActiveCounter now spec).run t = .ok (done, t')) :
    ∃ active, t' = { t with activeCounters := active } := by
  rw [decrementActiveCounter_eq] at h
  rcases decrementAndRemove_ok h with ⟨-, rfl, -⟩ | ⟨-, active, -, rfl⟩
  · exact ⟨t'.activeCounters, rfl⟩
  · exact ⟨active, rfl⟩

theorem releaseDueReservation_rest {id : String} {now : Nat} {t t' : Tables} {counts : Nat × Nat}
    (h : (releaseDueReservation id now).run t = .ok (counts, t')) :
    ∃ active, t' = { t with activeCounters := active } := by
  unfold releaseDueReservation at h
  rw [Tx.run_bind_get] at h
  split at h
  · obtain ⟨-, rfl⟩ := Tx.run_pure_ok.mp h
    exact ⟨t'.activeCounters, rfl⟩
  · split at h
    · obtain ⟨-, rfl⟩ := Tx.run_pure_ok.mp h
      exact ⟨t'.activeCounters, rfl⟩
    · rw [Tx.run_bind_ok] at h
      obtain ⟨_, _, hsession, h⟩ := h
      obtain ⟨first, rfl⟩ := decrementActiveCounter_rest hsession
      rw [Tx.run_bind_ok] at h
      obtain ⟨_, _, hnetwork, h⟩ := h
      obtain ⟨second, rfl⟩ := decrementActiveCounter_rest hnetwork
      obtain ⟨-, rfl⟩ := Tx.run_pure_ok.mp h
      exact ⟨second, rfl⟩

theorem deleteDueScan_ok {id : String} {now : Nat} {t t' : Tables} {value : Unit}
    (h : (deleteDueScan id now).run t = .ok (value, t')) :
    (∃ scan, t.guestScans.find? id = some scan ∧ scan.deletionDeadline ≤ now) ∧
      t' = t.deleteGuestScan id := by
  unfold deleteDueScan at h
  rw [Tx.run_bind_get] at h
  split at h
  · exact (Tx.run_fail_ok.mp h).elim
  · rename_i scan hfind
    rw [Tx.run_bind_ok] at h
    obtain ⟨_, _, hensure, h⟩ := h
    obtain ⟨hdue, rfl⟩ := Tx.run_ensure_ok.mp hensure
    exact ⟨⟨scan, hfind, hdue⟩, Tx.run_set_ok.mp h⟩

theorem deleteDueScans_cons {now : Nat} {scan : GuestScan} {rest : List GuestScan}
    {totals final : BatchTotals} {t t' : Tables}
    (h : (deleteDueScans now (scan :: rest) totals).run t = .ok (final, t')) :
    ∃ counts released next,
      (releaseDueReservation scan.id now).run t = .ok (counts, released) ∧
      (deleteDueScan scan.id now).run released = .ok ((), released.deleteGuestScan scan.id) ∧
      (deleteDueScans now rest next).run (released.deleteGuestScan scan.id) =
        .ok (final, t') := by
  unfold deleteDueScans at h
  rw [Tx.run_bind_ok] at h
  obtain ⟨counts, released, hrelease, h⟩ := h
  rw [Tx.run_bind_ok] at h
  obtain ⟨_, _, hdelete, h⟩ := h
  obtain ⟨-, rfl⟩ := deleteDueScan_ok hdelete
  exact ⟨counts, released, _, hrelease, hdelete, h⟩

theorem deleteDueScans_rel {R : Tables → Tables → Prop} (hrefl : ∀ t, R t t)
    (htrans : ∀ {a b c}, R a b → R b c → R a c)
    (hstep : ∀ (t : Tables) active id, R t ({ t with activeCounters := active }.deleteGuestScan id))
    {now : Nat} {due : List GuestScan} {totals final : BatchTotals} {t t' : Tables}
    (h : (deleteDueScans now due totals).run t = .ok (final, t')) : R t t' := by
  induction due generalizing totals t with
  | nil =>
    obtain ⟨-, rfl⟩ := Tx.run_pure_ok.mp h
    exact hrefl _
  | cons scan rest ih =>
    obtain ⟨counts, released, next, hrelease, -, hrest⟩ := deleteDueScans_cons h
    obtain ⟨active, rfl⟩ := releaseDueReservation_rest hrelease
    exact htrans (hstep t active scan.id) (ih hrest)

/-- The scans of a batch, all of them due, are gone, and the others are what they were. -/
structure Swept (now : Nat) (removed : List String) (t t' : Tables) : Prop where
  due : ∀ id ∈ removed, ∃ scan, t.guestScans.find? id = some scan ∧ scan.deletionDeadline ≤ now
  aggregates : ∀ j, t'.aggregate? j = if j ∈ removed then none else t.aggregate? j

theorem deleteDueScans_swept {now : Nat} {due : List GuestScan} {totals final : BatchTotals}
    {t t' : Tables} (h : (deleteDueScans now due totals).run t = .ok (final, t')) :
    Swept now (due.map GuestScan.id) t t' ∧ t'.windowCounters = t.windowCounters := by
  induction due generalizing totals t with
  | nil =>
    obtain ⟨-, rfl⟩ := Tx.run_pure_ok.mp h
    exact ⟨⟨by simp, by simp⟩, rfl⟩
  | cons scan rest ih =>
    obtain ⟨counts, released, next, hrelease, hdelete, hrest⟩ := deleteDueScans_cons h
    obtain ⟨active, rfl⟩ := releaseDueReservation_rest hrelease
    obtain ⟨hdue, -⟩ := deleteDueScan_ok hdelete
    obtain ⟨⟨hdueRest, haggregates⟩, hwindows⟩ := ih hrest
    refine ⟨⟨fun id hid => ?_, fun j => ?_⟩, hwindows⟩
    · rcases List.mem_cons.mp hid with rfl | hid
      · exact hdue
      · obtain ⟨found, hfind, hdeadline⟩ := hdueRest id hid
        rw [find?_deleteGuestScan] at hfind
        split at hfind
        · cases hfind
        · exact ⟨found, hfind, hdeadline⟩
    · rw [haggregates, aggregate?_deleteGuestScan]
      by_cases hj : j = scan.id
      · simp [hj]
      · simp only [List.map_cons, List.mem_cons, hj, false_or, if_false]
        rfl

def WindowsKept (now : Nat) (t t' : Tables) : Prop :=
  ∀ k, t'.windowCounters.find? k = t.windowCounters.find? k ∨
    t'.windowCounters.find? k = none ∧
      ∃ row, t.windowCounters.find? k = some row ∧ row.resetAt ≤ now

theorem deleteStaleWindows_ok {now batchSize : Nat} {locked : LockedRows} {t t' : Tables}
    {count : Nat} (h : (deleteStaleWindows now batchSize locked).run t = .ok (count, t')) :
    ∃ windows, t' = { t with windowCounters := windows } ∧ WindowsKept now t t' := by
  unfold deleteStaleWindows at h
  rw [Tx.run_bind_get] at h
  obtain ⟨-, rfl⟩ := Tx.run_delete_ok.mp h
  refine ⟨_, rfl, fun k => ?_⟩
  change (t.windowCounters.erase _).find? k = _ ∨ (t.windowCounters.erase _).find? k = none ∧ _
  rw [Table.find?_erase]
  cases hfind : t.windowCounters.find? k with
  | none => exact .inl rfl
  | some row =>
    by_cases hstale : ((t.staleWindows now batchSize locked).map Schema.key).contains
        (Schema.key row) = true
    · refine .inr ⟨by simp only [Option.filter, hstale, Bool.not_true]; rfl, row, rfl, ?_⟩
      obtain ⟨other, hother, hkey⟩ := List.mem_map.mp (List.contains_iff_mem.mp hstale)
      have hselected := List.mem_filter.mp (List.mem_mergeSort.mp (List.mem_of_mem_take hother))
      rw [t.windowCounters.eq_of_key_eq hselected.1 (Table.find?_mem hfind) hkey] at hselected
      simp only [Bool.and_eq_true, decide_eq_true_eq] at hselected
      exact hselected.2.1
    · exact .inl (by simp only [Option.filter, hstale, Bool.not_false, if_true])

theorem runBatchBody_swept {batchSize now : Nat} {locked : LockedRows} {t t' : Tables}
    {answer : GuestRetentionBatchResult}
    (h : (runBatchBody batchSize now locked).run t = .ok (answer, t')) :
    ∃ totals swept windows,
      (deleteDueScans now (t.dueScans now batchSize locked) ⟨0, 0, 0⟩).run t =
        .ok (totals, swept) ∧
      t' = { swept with windowCounters := windows } ∧ WindowsKept now swept t' := by
  unfold runBatchBody at h
  rw [Tx.run_bind_ok] at h
  obtain ⟨_, _, hrange, h⟩ := h
  obtain ⟨-, rfl⟩ := Tx.run_ensure_ok.mp hrange
  rw [Tx.run_bind_get] at h
  dsimp only at h
  rw [Tx.run_bind_ok] at h
  obtain ⟨totals, swept, hdelete, h⟩ := h
  rw [Tx.run_bind_ok] at h
  obtain ⟨_, _, hstale, h⟩ := h
  rw [Tx.run_bind_get] at h
  obtain ⟨-, rfl⟩ := Tx.run_pure_ok.mp h
  obtain ⟨windows, rfl, hkept⟩ := deleteStaleWindows_ok hstale
  exact ⟨totals, swept, windows, hdelete, rfl, hkept⟩

theorem runBatchBody_ok {batchSize now : Nat} {locked : LockedRows} {t t' : Tables}
    {answer : GuestRetentionBatchResult}
    (h : (runBatchBody batchSize now locked).run t = .ok (answer, t')) :
    Swept now ((t.dueScans now batchSize locked).map GuestScan.id) t t' ∧
      WindowsKept now t t' := by
  obtain ⟨totals, swept, windows, hdelete, rfl, hkept⟩ := runBatchBody_swept h
  obtain ⟨hswept, hwindows⟩ := deleteDueScans_swept hdelete
  refine ⟨⟨hswept.due, hswept.aggregates⟩, fun k => ?_⟩
  rw [← hwindows]
  exact hkept k

end Outscan

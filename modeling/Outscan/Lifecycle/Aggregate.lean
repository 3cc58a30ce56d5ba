import Outscan.Persistence.System

/-! One scan with everything stored under it, and what a statement on one scan
does to the aggregates of all scans. -/
namespace Outscan

open Relational Transactional

structure Aggregate where
  scan : GuestScan
  /-- newest first -/
  attempts : List GuestScanAttempt
  result : Option GuestResult
  reservation : Option Reservation

namespace Tables

def attemptsOf (t : Tables) (id : String) : List GuestScanAttempt :=
  (t.guestScanAttempts.rows.filter fun row => row.guestScanId == id).reverse

def aggregate? (t : Tables) (id : String) : Option Aggregate :=
  (t.guestScans.find? id).map fun scan =>
    ⟨scan, t.attemptsOf id, t.guestResults.find? id, t.reservations.find? id⟩

theorem aggregate?_eq_some {t : Tables} {id : String} {g : Aggregate} :
    t.aggregate? id = some g ↔ t.guestScans.find? id = some g.scan ∧
      t.attemptsOf id = g.attempts ∧ t.guestResults.find? id = g.result ∧
      t.reservations.find? id = g.reservation := by
  unfold aggregate?
  cases hfind : t.guestScans.find? id with
  | none => simp
  | some scan =>
    simp only [Option.map_some, Option.some.injEq]
    constructor
    · intro h
      subst h
      exact ⟨rfl, rfl, rfl, rfl⟩
    · intro h
      obtain ⟨h1, h2, h3, h4⟩ := h
      rw [h1, h2, h3, h4]

theorem aggregate?_eq_none {t : Tables} {id : String} :
    t.aggregate? id = none ↔ t.guestScans.find? id = none := by
  simp [aggregate?]

theorem mem_attemptsOf {t : Tables} {id : String} {row : GuestScanAttempt} :
    row ∈ t.attemptsOf id ↔ row ∈ t.guestScanAttempts.rows ∧ row.guestScanId = id := by
  simp [attemptsOf]

theorem aggregate?_congr {t t' : Tables} (hscans : t'.guestScans = t.guestScans)
    (hattempts : t'.guestScanAttempts = t.guestScanAttempts)
    (hresults : t'.guestResults = t.guestResults)
    (hreservations : t'.reservations = t.reservations) (id : String) :
    t'.aggregate? id = t.aggregate? id := by
  unfold aggregate? attemptsOf
  rw [hscans, hattempts, hresults, hreservations]

theorem scan_id_of_aggregate? {t : Tables} {id : String} {g : Aggregate}
    (h : t.aggregate? id = some g) : g.scan.id = id :=
  Table.find?_key (aggregate?_eq_some.mp h).1

theorem scan_check_of_aggregate? {t : Tables} {id : String} {g : Aggregate}
    (h : t.aggregate? id = some g) : g.scan.Constraints :=
  Table.find?_check (aggregate?_eq_some.mp h).1

theorem mem_attempts_of_aggregate? {t : Tables} {id : String} {g : Aggregate}
    (h : t.aggregate? id = some g) {row : GuestScanAttempt} :
    row ∈ g.attempts ↔ row ∈ t.guestScanAttempts.rows ∧ row.guestScanId = id := by
  rw [← (aggregate?_eq_some.mp h).2.1]
  exact mem_attemptsOf

theorem attempt_check_of_aggregate? {t : Tables} {id : String} {g : Aggregate}
    (h : t.aggregate? id = some g) {row : GuestScanAttempt} (hrow : row ∈ g.attempts) :
    row.Constraints :=
  t.guestScanAttempts.checked row ((mem_attempts_of_aggregate? h).mp hrow).1

theorem attempt_owner_of_aggregate? {t : Tables} {id : String} {g : Aggregate}
    (h : t.aggregate? id = some g) {row : GuestScanAttempt} (hrow : row ∈ g.attempts) :
    row.guestScanId = id := ((mem_attempts_of_aggregate? h).mp hrow).2

theorem attempts_pairwise_of_aggregate? {t : Tables} {id : String} {g : Aggregate}
    (h : t.aggregate? id = some g) : g.attempts.Pairwise fun a b => a.id ≠ b.id := by
  rw [← (aggregate?_eq_some.mp h).2.1]
  refine List.pairwise_reverse.mpr (List.Pairwise.imp ?_ (t.guestScanAttempts.distinct.filter _))
  intro a b hab
  exact fun heq => hab.1 heq.symm

theorem find?_attempt_of_aggregate? {t : Tables} {id : String} {g : Aggregate}
    (h : t.aggregate? id = some g) {row : GuestScanAttempt} (hrow : row ∈ g.attempts) :
    t.guestScanAttempts.find? row.id = some row :=
  Table.find?_of_mem ((mem_attempts_of_aggregate? h).mp hrow).1

theorem loadAttempt_eq_some {t : Tables} {id attemptId : String} {g : Aggregate}
    (h : t.aggregate? id = some g) {row : GuestScanAttempt} :
    t.loadAttempt id attemptId = some row ↔ row ∈ g.attempts ∧ row.id = attemptId := by
  unfold loadAttempt
  rw [Option.filter_eq_some_iff, mem_attempts_of_aggregate? h, Table.find?_eq_some, beq_iff_eq]
  constructor
  · intro hrow
    exact ⟨⟨hrow.1.1, hrow.2⟩, hrow.1.2⟩
  · intro hrow
    exact ⟨⟨hrow.1.1, hrow.2⟩, hrow.1.2⟩

end Tables

namespace Aggregate

def editAttempt (g : Aggregate) (attemptId : String) (edit : Edit GuestScanAttempt) :
    Aggregate :=
  { g with
    attempts := g.attempts.map fun row => if row.id = attemptId then edit.apply row else row }

theorem editAttempt_head {g : Aggregate} {current : GuestScanAttempt}
    {earlier : List GuestScanAttempt} {edit : Edit GuestScanAttempt}
    (hattempts : g.attempts = current :: earlier)
    (hdistinct : g.attempts.Pairwise fun a b => a.id ≠ b.id) :
    g.editAttempt current.id edit = { g with attempts := edit.apply current :: earlier } := by
  unfold editAttempt
  rw [hattempts, List.pairwise_cons] at hdistinct
  have hearlier : earlier.map (fun row => if row.id = current.id then edit.apply row else row) =
      earlier := by
    refine (List.map_congr_left fun row hrow => ?_).trans (List.map_id earlier)
    have hne := hdistinct.1 row hrow
    simp [Ne.symm hne]
  rw [hattempts, List.map_cons, hearlier, if_pos rfl]

end Aggregate

/-- From `t` to `t'` only the aggregate of `id` changes, from `g` to `g'`. -/
structure Focus (id : String) (t t' : Tables) (g g' : Aggregate) : Prop where
  before : t.aggregate? id = some g
  after : t'.aggregate? id = some g'
  others : ∀ j, j ≠ id → t'.aggregate? j = t.aggregate? j

namespace Focus

variable {id : String} {t t' t'' : Tables} {g g' g'' : Aggregate}

theorem refl (h : t.aggregate? id = some g) : Focus id t t g g := ⟨h, h, fun _ _ => rfl⟩

theorem trans (first : Focus id t t' g g') (second : Focus id t' t'' g' g'') :
    Focus id t t'' g g'' :=
  ⟨first.before, second.after, fun j hj => (second.others j hj).trans (first.others j hj)⟩

end Focus

/-! ### Statements -/

section Statements

variable {id : String} {t t' : Tables} {g : Aggregate}

theorem focus_edit_scan {next : Table GuestScan} {edit : Edit GuestScan}
    (hg : t.aggregate? id = some g) (hrows : next.rows = t.guestScans.edited id edit) :
    Focus id t { t with guestScans := next } g { g with scan := edit.apply g.scan } := by
  obtain ⟨hscan, hattempts, hresult, hreservation⟩ := Tables.aggregate?_eq_some.mp hg
  refine ⟨hg, Tables.aggregate?_eq_some.mpr ⟨?_, hattempts, hresult, hreservation⟩, ?_⟩
  · rw [Table.find?_of_rows_edited hrows, if_pos rfl, hscan]
    rfl
  · intro j hj
    unfold Tables.aggregate?
    rw [Table.find?_of_rows_edited hrows, if_neg hj]
    rfl

theorem updateGuestScan_focus {missing : Thrown} {cond : GuestScan → Prop}
    [DecidablePred cond] {edit : Edit GuestScan} {row : GuestScan}
    (h : (updateGuestScan missing id cond edit).run t = .ok (row, t'))
    (hg : t.aggregate? id = some g) :
    cond g.scan ∧ guardGuestScanUpdate g.scan (edit.apply g.scan) ∧
      (edit.apply g.scan).Constraints ∧
      Focus id t t' g { g with scan := edit.apply g.scan } := by
  obtain ⟨found, hfind, hcond, hguard, hcheck, -, next, hrows, rfl⟩ :=
    Tx.run_updateOne_ok.mp h
  have hfound : found = g.scan :=
    Option.some.inj (hfind.symm.trans (Tables.aggregate?_eq_some.mp hg).1)
  subst hfound
  exact ⟨hcond, hguard, hcheck, focus_edit_scan hg hrows⟩

theorem attemptsOf_edit {next : Table GuestScanAttempt} {edit : Edit GuestScanAttempt}
    {row : GuestScanAttempt} (hfind : t.guestScanAttempts.find? row.id = some row)
    (howner : (edit.apply row).guestScanId = row.guestScanId)
    (hrows : next.rows = t.guestScanAttempts.edited row.id edit) (j : String) :
    ({ t with guestScanAttempts := next } : Tables).attemptsOf j =
      (t.attemptsOf j).map fun other => if other.id = row.id then edit.apply other else other := by
  unfold Tables.attemptsOf
  rw [List.map_reverse]
  congr 1
  change next.rows.filter _ = _
  rw [hrows, Table.edited, List.filter_map]
  congr 1
  refine List.filter_congr fun other hother => ?_
  simp only [Function.comp_apply]
  split
  · rename_i hkey
    rw [t.guestScanAttempts.eq_of_key_eq hother (Table.find?_mem hfind) hkey, howner]
  · rfl

theorem focus_edit_attempt {next : Table GuestScanAttempt} {edit : Edit GuestScanAttempt}
    {row : GuestScanAttempt} (hg : t.aggregate? id = some g)
    (hfind : t.guestScanAttempts.find? row.id = some row) (hid : row.guestScanId = id)
    (howner : (edit.apply row).guestScanId = row.guestScanId)
    (hrows : next.rows = t.guestScanAttempts.edited row.id edit) :
    Focus id t { t with guestScanAttempts := next } g (g.editAttempt row.id edit) := by
  obtain ⟨hscan, hattempts, hresult, hreservation⟩ := Tables.aggregate?_eq_some.mp hg
  refine ⟨hg, Tables.aggregate?_eq_some.mpr ⟨hscan, ?_, hresult, hreservation⟩, ?_⟩
  · rw [attemptsOf_edit hfind howner hrows, hattempts]
    rfl
  · intro j hj
    unfold Tables.aggregate?
    rw [attemptsOf_edit hfind howner hrows]
    have hsame : (t.attemptsOf j).map
        (fun other => if other.id = row.id then edit.apply other else other) =
        t.attemptsOf j := by
      refine (List.map_congr_left fun other hother => ?_).trans (List.map_id _)
      obtain ⟨hmem, howned⟩ := Tables.mem_attemptsOf.mp hother
      rw [if_neg]
      · rfl
      · intro hkey
        have := t.guestScanAttempts.eq_of_key_eq hmem (Table.find?_mem hfind) hkey
        rw [this, hid] at howned
        exact hj howned.symm
    rw [hsame]

theorem updateGuestScanAttempt_focus {missing : Thrown} {attemptId : String}
    {cond : GuestScanAttempt → Prop} [DecidablePred cond] {edit : Edit GuestScanAttempt}
    {returned : GuestScanAttempt}
    (h : (updateGuestScanAttempt missing id attemptId cond edit).run t = .ok (returned, t'))
    (hg : t.aggregate? id = some g) :
    ∃ row ∈ g.attempts, row.id = attemptId ∧ cond row ∧
      guardGuestAttemptUpdate row (edit.apply row) ∧ (edit.apply row).Constraints ∧
      Focus id t t' g (g.editAttempt attemptId edit) := by
  obtain ⟨row, hfind, ⟨hid, hcond⟩, hguard, hcheck, -, next, hrows, rfl⟩ :=
    Tx.run_updateOne_ok.mp h
  have hkey : row.id = attemptId := Table.find?_key hfind
  subst hkey
  have hmem : row ∈ g.attempts :=
    (Tables.mem_attempts_of_aggregate? hg).mpr ⟨Table.find?_mem hfind, hid⟩
  exact ⟨row, hmem, rfl, hcond, hguard, hcheck,
    focus_edit_attempt hg hfind hid hguard.identity.2.1 hrows⟩

theorem attemptsOf_insert {next : Table GuestScanAttempt} {row : GuestScanAttempt}
    (hrows : next.rows = t.guestScanAttempts.rows ++ [row]) (j : String) :
    ({ t with guestScanAttempts := next } : Tables).attemptsOf j =
      if row.guestScanId = j then row :: t.attemptsOf j else t.attemptsOf j := by
  unfold Tables.attemptsOf
  change (next.rows.filter _).reverse = _
  rw [hrows, List.filter_append, List.reverse_append]
  by_cases hj : row.guestScanId = j
  · simp [hj]
  · simp [hj]

theorem focus_insert_attempt {next : Table GuestScanAttempt} {row : GuestScanAttempt}
    (hg : t.aggregate? id = some g) (hid : row.guestScanId = id)
    (hrows : next.rows = t.guestScanAttempts.rows ++ [row]) :
    Focus id t { t with guestScanAttempts := next } g
      { g with attempts := row :: g.attempts } := by
  obtain ⟨hscan, hattempts, hresult, hreservation⟩ := Tables.aggregate?_eq_some.mp hg
  refine ⟨hg, Tables.aggregate?_eq_some.mpr ⟨hscan, ?_, hresult, hreservation⟩, ?_⟩
  · rw [attemptsOf_insert hrows, if_pos hid, hattempts]
  · intro j hj
    unfold Tables.aggregate?
    rw [attemptsOf_insert hrows, if_neg (by rw [hid]; exact hj.symm)]

theorem insertGuestScanAttempt_focus {row : GuestScanAttempt} {value : Unit}
    (h : (insertGuestScanAttempt row).run t = .ok (value, t')) (hid : row.guestScanId = id)
    (hg : t.aggregate? id = some g) :
    row.Constraints ∧ (∀ other ∈ t.guestScanAttempts.rows, GuestScanAttempt.Apart other row) ∧
      Focus id t t' g { g with attempts := row :: g.attempts } := by
  unfold insertGuestScanAttempt at h
  simp only [Tx.run_bind_ok, Tx.run_ensure_ok, Tx.run_insert_ok, Tx.run_get_ok] at h
  obtain ⟨-, _, ⟨-, rfl⟩, -, _, ⟨hcheck, hdistinct, next, hrows, rfl⟩, _, _, ⟨rfl, rfl⟩, -, rfl⟩ :=
    h
  exact ⟨hcheck, hdistinct, focus_insert_attempt hg hid hrows⟩

theorem insertGuestResult_focus {row : GuestResult} {value : Unit}
    (h : (insertGuestResult row).run t = .ok (value, t')) (hid : row.guestScanId = id)
    (hg : t.aggregate? id = some g) :
    t.acceptsResult row ∧ g.result = none ∧
      Focus id t t' g { g with result := some row } := by
  unfold insertGuestResult at h
  simp only [Tx.run_bind_ok, Tx.run_get_ok, Tx.run_ensure_ok] at h
  obtain ⟨_, _, ⟨rfl, rfl⟩, _, mid, ⟨haccepts, rfl⟩, hinsert⟩ := h
  obtain ⟨-, hdistinct, next, hrows, rfl⟩ := Tx.run_insert_ok.mp hinsert
  obtain ⟨hscan, hattempts, hresult, hreservation⟩ := Tables.aggregate?_eq_some.mp hg
  have hnone : mid.guestResults.find? id = none := by
    refine Table.find?_eq_none.mpr fun other hother => ?_
    rw [← hid]
    exact hdistinct other hother
  have hfind : ∀ j, next.find? j = (mid.guestResults.find? j).or
      (if id = j then some row else none) := by
    intro j
    rw [Table.find?_of_rows_append hrows]
    rw [← hid]
    rfl
  refine ⟨haccepts, hresult.symm.trans hnone, hg,
    Tables.aggregate?_eq_some.mpr ⟨hscan, hattempts, ?_, hreservation⟩, ?_⟩
  · change next.find? id = some row
    rw [hfind, hnone, if_pos rfl]
    rfl
  · intro j hj
    unfold Tables.aggregate?
    change (mid.guestScans.find? j).map (fun scan =>
      (⟨scan, mid.attemptsOf j, next.find? j, mid.reservations.find? j⟩ : Aggregate)) = _
    rw [hfind, if_neg hj.symm, Option.or_none]

theorem focus_edit_reservation {next : Table Reservation} {edit : Edit Reservation}
    {row : Reservation} (hg : t.aggregate? id = some g) (hrow : g.reservation = some row)
    (hrows : next.rows = t.reservations.edited id edit) :
    Focus id t { t with reservations := next } g
      { g with reservation := some (edit.apply row) } := by
  obtain ⟨hscan, hattempts, hresult, hreservation⟩ := Tables.aggregate?_eq_some.mp hg
  refine ⟨hg, Tables.aggregate?_eq_some.mpr ⟨hscan, hattempts, hresult, ?_⟩, ?_⟩
  · change next.find? id = some (edit.apply row)
    rw [Table.find?_of_rows_edited hrows, if_pos rfl, hreservation, hrow]
    rfl
  · intro j hj
    unfold Tables.aggregate?
    change (t.guestScans.find? j).map (fun scan =>
      (⟨scan, t.attemptsOf j, t.guestResults.find? j, next.find? j⟩ : Aggregate)) = _
    rw [Table.find?_of_rows_edited hrows, if_neg hj]

end Statements

end Outscan

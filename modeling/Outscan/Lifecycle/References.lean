import Outscan.Lifecycle.Quiet

/-! The foreign keys at COMMIT: what a transaction leaves in one scan always
refers to rows that are there. -/
namespace Outscan

open Relational Transactional Lifecycle

structure Owned (t : Tables) : Prop where
  attempt : ∀ attempt ∈ t.guestScanAttempts.rows,
    ∃ scan ∈ t.guestScans.rows, scan.id = attempt.guestScanId
  result : ∀ result ∈ t.guestResults.rows,
    ∃ scan ∈ t.guestScans.rows, scan.id = result.guestScanId
  reservation : ∀ reservation ∈ t.reservations.rows, ∃ scan ∈ t.guestScans.rows,
    scan.id = reservation.guestScanId ∧
      scan.guestSessionScope = reservation.guestSessionScope ∧
      scan.createdAt = reservation.reservedAt ∧
      scan.deletionDeadline = reservation.deletionDeadline

theorem ForeignKeys.owned {t : Tables} (h : ForeignKeys t) : Owned t :=
  ⟨h.attempt, fun result hresult => (h.result result hresult).1, h.reservation⟩

namespace Owned

variable {t : Tables}

theorem scans (h : Owned t) {next : Table GuestScan}
    (hkept : ∀ scan ∈ t.guestScans.rows, ∃ after ∈ next.rows, sameScanIdentity scan after) :
    Owned (scansTable.put next t) := by
  refine ⟨fun attempt hattempt => ?_, fun result hresult => ?_, fun reservation hreservation => ?_⟩
  · obtain ⟨scan, hscan, hid⟩ := h.attempt attempt hattempt
    obtain ⟨after, hafter, hsame⟩ := hkept scan hscan
    exact ⟨after, hafter, hsame.1.trans hid⟩
  · obtain ⟨scan, hscan, hid⟩ := h.result result hresult
    obtain ⟨after, hafter, hsame⟩ := hkept scan hscan
    exact ⟨after, hafter, hsame.1.trans hid⟩
  · obtain ⟨scan, hscan, hid, hscope, hcreated, hdeadline⟩ := h.reservation reservation hreservation
    obtain ⟨after, hafter, hsame⟩ := hkept scan hscan
    obtain ⟨hsameId, -, hsameScope, -, -, -, hsameCreated, -, hsameDeadline, -⟩ := hsame
    exact ⟨after, hafter, hsameId.trans hid, hsameScope.trans hscope,
      hsameCreated.trans hcreated, hsameDeadline.trans hdeadline⟩

theorem attempts (h : Owned t) {next : Table GuestScanAttempt}
    (hkept : ∀ after ∈ next.rows,
      (∃ attempt ∈ t.guestScanAttempts.rows, after.guestScanId = attempt.guestScanId) ∨
        ∃ scan ∈ t.guestScans.rows, scan.id = after.guestScanId) :
    Owned (attemptsTable.put next t) := by
  refine ⟨fun after hafter => ?_, h.result, h.reservation⟩
  rcases hkept after hafter with ⟨attempt, hattempt, hsame⟩ | hscan
  · obtain ⟨scan, hscan, hid⟩ := h.attempt attempt hattempt
    exact ⟨scan, hscan, hid.trans hsame.symm⟩
  · exact hscan

theorem reservations (h : Owned t) {next : Table Reservation} {id : String} {now : Nat}
    {reason : ReleaseReason} (hrows : next.rows = t.reservations.edited id (markReleased now reason)) :
    Owned { t with reservations := next } := by
  refine ⟨h.attempt, h.result, fun after hafter => ?_⟩
  rw [hrows] at hafter
  obtain ⟨reservation, hreservation, rfl⟩ := List.mem_map.mp hafter
  have hscan := h.reservation reservation hreservation
  split
  · exact hscan
  · exact hscan

end Owned

theorem quiet_owned : Quiet fun t t' => Owned t → Owned t' where
  refl := fun _ h => h
  trans := fun _ _ _ hfirst hsecond h => hsecond (hfirst h)
  updateGuestScan := by
    intro missing id cond _ edit t row t' h howned
    obtain ⟨old, hfind, -, hguard, -, -, next, hrows, rfl⟩ := Tx.run_updateOne_ok.mp h
    refine howned.scans fun scan hscan => ?_
    have hafter : (if Schema.key scan = id then edit.apply scan else scan) ∈ next.rows := by
      rw [hrows]
      exact List.mem_map_of_mem hscan
    refine ⟨_, hafter, ?_⟩
    split
    · rename_i hkey
      have hsame : scan = old :=
        t.guestScans.eq_of_key_eq hscan (Table.find?_mem hfind)
          (hkey.trans (Table.find?_key hfind).symm)
      rw [hsame]
      exact hguard.identity
    · unfold sameScanIdentity
      simp
  updateGuestScanAttempt := by
    intro missing id attemptId cond _ edit t row t' h howned
    obtain ⟨old, hfind, -, hguard, -, -, next, hrows, rfl⟩ := Tx.run_updateOne_ok.mp h
    refine howned.attempts fun after hafter => .inl ?_
    rw [hrows] at hafter
    obtain ⟨attempt, hattempt, rfl⟩ := List.mem_map.mp hafter
    refine ⟨attempt, hattempt, ?_⟩
    split
    · rename_i hkey
      have hsame : attempt = old :=
        t.guestScanAttempts.eq_of_key_eq hattempt (Table.find?_mem hfind)
          (hkey.trans (Table.find?_key hfind).symm)
      rw [hsame]
      exact hguard.identity.2.1
    · rfl
  insertGuestScanAttempt := by
    intro row t value t' h howned
    unfold insertGuestScanAttempt at h
    rw [Tx.run_bind_ok] at h
    obtain ⟨_, _, hensure, h⟩ := h
    obtain ⟨-, rfl⟩ := Tx.run_ensure_ok.mp hensure
    rw [Tx.run_bind_ok] at h
    obtain ⟨_, _, hinsert, h⟩ := h
    obtain ⟨-, -, next, hrows, rfl⟩ := Tx.run_insert_ok.mp hinsert
    rw [Tx.run_bind_get] at h
    obtain ⟨hscan, rfl⟩ := Tx.run_ensure_ok.mp h
    refine howned.attempts fun after hafter => ?_
    rw [hrows] at hafter
    rcases List.mem_append.mp hafter with hattempt | hnew
    · exact .inl ⟨after, hattempt, rfl⟩
    · rw [List.mem_singleton.mp hnew]
      exact .inr hscan
  insertGuestResult := by
    intro row t value t' h howned
    unfold insertGuestResult at h
    rw [Tx.run_bind_get, Tx.run_bind_ok] at h
    obtain ⟨_, _, hensure, h⟩ := h
    obtain ⟨haccepts, rfl⟩ := Tx.run_ensure_ok.mp hensure
    obtain ⟨-, -, next, hrows, rfl⟩ := Tx.run_insert_ok.mp h
    refine ⟨howned.attempt, fun after hafter => ?_, howned.reservation⟩
    change after ∈ next.rows at hafter
    rw [hrows] at hafter
    rcases List.mem_append.mp hafter with hresult | hnew
    · exact howned.result after hresult
    · rw [List.mem_singleton.mp hnew]
      unfold Tables.acceptsResult at haccepts
      split at haccepts
      · rename_i scan attempt hscan hattempt
        exact ⟨scan, Table.find?_mem hscan, Table.find?_key hscan⟩
      · exact haccepts.elim
  release := by
    intro id now reason t done t' h howned
    rcases releaseGuestAbuseReservation_ok h with ⟨-, hreleased⟩ | ⟨-, rfl | ⟨_, -, -, hmissing⟩⟩
    · obtain ⟨row, -, ⟨-, rfl⟩ | ⟨-, -, -, active, -, reservations, -, -, hrows, rfl⟩⟩ := hreleased
      · exact howned
      · exact ⟨howned.attempt, howned.result, (howned.reservations hrows).reservation⟩
    · exact howned
    · rcases hmissing with ⟨rfl, -⟩ | ⟨between, -, rfl, -⟩
      · exact howned
      · exact ⟨howned.attempt, howned.result, howned.reservation⟩

theorem foreignKeys_of_sound {t : Tables} (hsound : Sound t) (howned : Owned t) :
    ForeignKeys t := by
  have hstored : ∀ {scan}, scan ∈ t.guestScans.rows → t.aggregate? scan.id = some ⟨scan,
      t.attemptsOf scan.id, t.guestResults.find? scan.id, t.reservations.find? scan.id⟩ :=
    fun hscan => Tables.aggregate?_eq_some.mpr ⟨Table.find?_of_mem hscan, rfl, rfl, rfl⟩
  refine ⟨fun scan hscan attemptId hattemptId => ?_, fun scan hscan attemptId hattemptId fence hfence
    digest hdigest => ?_, howned.attempt, fun result hresult => ⟨howned.result result hresult, ?_⟩,
    howned.reservation⟩
  · have hg := hstored hscan
    have hinv := hsound _ _ hg
    cases hattempts : t.attemptsOf scan.id with
    | nil =>
      have hcurrent := hinv.current
      rw [hattempts] at hcurrent
      rw [hcurrent] at hattemptId
      cases hattemptId
    | cons current earlier =>
      have hmem : current ∈ t.attemptsOf scan.id := by simp [hattempts]
      have hcurrent := hinv.current
      rw [hattempts] at hcurrent
      rw [hcurrent] at hattemptId
      obtain ⟨hrow, howner⟩ := Tables.mem_attemptsOf.mp hmem
      exact ⟨current, hrow, howner, Option.some.inj hattemptId,
        (hinv.currentFence_eq hattempts).symm⟩
  · have hjob : scan.jobState = .succeeded := by
      by_contra hjob
      have hshape := (t.guestScans.checked scan hscan).accepted_shape
      rw [GuestScan.AcceptedShape, if_neg hjob] at hshape
      rw [hshape.1] at hattemptId
      cases hattemptId
    cases (hsound _ _ (hstored hscan)).phase with
    | succeeded current earlier row job attempts attempt result acceptedAttempt acceptedFence
        acceptedDigest =>
      have hrow := Table.find?_eq_some.mp result
      rw [acceptedAttempt] at hattemptId
      rw [acceptedFence] at hfence
      rw [acceptedDigest] at hdigest
      exact ⟨row, hrow.1, hrow.2, Option.some.inj hattemptId, Option.some.inj hfence,
        Option.some.inj hdigest⟩
    | queued job => cases hjob.symm.trans job
    | running _ _ job => cases hjob.symm.trans job
    | ended job => rcases job with job | job | job <;> cases hjob.symm.trans job
  · obtain ⟨scan, hscan, hid⟩ := howned.result result hresult
    have hfound : t.guestResults.find? scan.id = some result := by
      rw [hid]
      exact Table.find?_of_mem hresult
    cases (hsound _ _ (hstored hscan)).phase with
    | succeeded current earlier row job attempts attempt found acceptedAttempt acceptedFence
        acceptedDigest isCurrent =>
      have hattempts : t.attemptsOf scan.id = current :: earlier := attempts
      have hmem : current ∈ t.attemptsOf scan.id := by simp [hattempts]
      obtain ⟨hrow, howner⟩ := Tables.mem_attemptsOf.mp hmem
      have hsame : row = result := Option.some.inj (found.symm.trans hfound)
      rw [← hsame] at hid ⊢
      exact ⟨current, hrow, howner.trans hid, isCurrent.1.symm, isCurrent.2.symm⟩
    | queued _ _ none => rw [hfound] at none; cases none
    | running _ _ _ _ _ _ none => rw [hfound] at none; cases none
    | ended _ _ none => rw [hfound] at none; cases none

/-- What a transaction about one scan leaves passes the checks at COMMIT. -/
theorem foreignKeys_of_outcome {db : Database} {t' : Tables} {id : String} {g : Aggregate}
    {event : Option Event} (hsound : Sound db.val) (howned : Owned db.val → Owned t')
    (h : Outcome id db.val t' g event) : ForeignKeys t' := by
  refine foreignKeys_of_sound ?_ (howned db.property.owned)
  cases h with
  | unchanged same =>
    rw [same]
    exact hsound
  | event g' focus step =>
    intro j other hother
    by_cases hj : j = id
    · rw [hj, focus.after] at hother
      exact Option.some.inj hother ▸ (hsound id g focus.before).step step
    · exact hsound j other ((focus.others j hj).symm.trans hother)

end Outscan

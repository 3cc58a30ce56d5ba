import Outscan.Lifecycle.Quiet

/-! Conservation of slots: the active counters count the unreleased
reservations in every reachable state, and no scope holds more than its limit. -/
namespace Outscan

open Relational Transactional Lifecycle

/-! ### Releases -/

theorem Counted.positive {t : Tables} (hcounted : Counted t) {id : String} {row : Reservation}
    (hfind : t.reservations.find? id = some row) (hnone : row.released = none) (kind : ScopeKind) :
    ∃ count, t.activeCount (activeKey kind (row.digest kind)) = some (count + 1) := by
  have hheld : 0 < t.held kind (row.digest kind) :=
    List.countP_pos_iff.mpr ⟨row, Table.find?_mem hfind, by simp [Reservation.holds, hnone]⟩
  refine ⟨t.held kind (row.digest kind) - 1, ?_⟩
  rw [hcounted, storedCount, if_neg (by omega), Nat.sub_add_cancel hheld]

theorem Counted.not_missing {t t' : Tables} (hcounted : Counted t) {id : String}
    {row : Reservation} (hfind : t.reservations.find? id = some row) (hnone : row.released = none)
    (h : CounterMissing row.guestSessionScope row.networkSignalDigest t t') : False := by
  have hzero : ∀ {active : Table ActiveCounter} {kind : ScopeKind} {digest : Bytes32} {count : Nat},
      (active.find? (activeKey kind digest)).map ActiveCounter.activeCount = some (count + 1) →
      ¬ ∀ counter, active.find? (activeKey kind digest) = some counter →
        counter.activeCount = 0 := by
    intro active kind digest count hcount hall
    obtain ⟨counter, hcounter, hvalue⟩ := Option.map_eq_some_iff.mp hcount
    have := hall counter hcounter
    omega
  rcases h with ⟨-, hmissing⟩ | ⟨between, hbetween, -, hmissing⟩
  · obtain ⟨count, hcount⟩ := hcounted.positive hfind hnone .network
    exact hzero hcount hmissing
  · obtain ⟨count, hcount⟩ := hcounted.positive hfind hnone .session
    obtain ⟨_, -, hothers⟩ := hbetween
    have hkept := hothers (activeKey .session row.guestSessionScope)
    rw [if_neg (by simp [activeKey_inj])] at hkept
    exact hzero (hkept.trans hcount) hmissing

theorem decrementAndRemove_done {now : Nat} (spec : ActiveCounterSpec) {t : Tables} {count : Nat}
    (hcount : t.activeCount spec.key = some (count + 1)) (hnow : now < timestampEnd) :
    ∃ active, decremented t spec.key active ∧
      (decrementAndRemove now spec).run t = .ok (true, { t with activeCounters := active }) := by
  obtain ⟨row, hrow, hvalue⟩ := Option.map_eq_some_iff.mp hcount
  obtain ⟨t', hrun⟩ := decrementAndRemove_of_pos hrow (by omega) hnow
  rcases decrementAndRemove_ok hrun with ⟨hfalse, -⟩ | ⟨-, active, hactive, rfl⟩
  · cases hfalse
  · exact ⟨active, hactive, hrun⟩

theorem Counted.release {t : Tables} (hcounted : Counted t) {id : String} {row : Reservation}
    (hfind : t.reservations.find? id = some row) (hnone : row.released = none) {now : Nat}
    (hreserved : row.reservedAt ≤ now) (hdeadline : now ≤ row.deletionDeadline)
    (reason : ReleaseReason) :
    ∃ t', (releaseGuestAbuseReservation id now reason).run t = .ok (true, t') := by
  have hrow : row.Constraints := Table.find?_check hfind
  have hnow : now < timestampEnd := hdeadline.trans_lt hrow.range
  obtain ⟨networkCount, hnetwork⟩ := hcounted.positive hfind hnone .network
  obtain ⟨between, hbetween, hfirst⟩ := decrementAndRemove_done
    ⟨.network, .networkActive, row.networkSignalDigest⟩ hnetwork hnow
  obtain ⟨sessionCount, hsession⟩ := hcounted.positive hfind hnone .session
  have hkept : ({ t with activeCounters := between } : Tables).activeCount
      (activeKey .session row.guestSessionScope) = some (sessionCount + 1) := by
    obtain ⟨_, -, hothers⟩ := hbetween
    refine (hothers (activeKey .session row.guestSessionScope)).trans ?_
    rw [if_neg (by simp [activeKey, ActiveCounterSpec.key])]
    exact hsession
  obtain ⟨active, -, hsecond⟩ := decrementAndRemove_done
    ⟨.session, .sessionActive, row.guestSessionScope⟩ hkept hnow
  have hcheck : ((markReleased now reason).apply row).Constraints := by
    refine ⟨hrow.deadline, fun release hrelease => ?_, hrow.range⟩
    cases hrelease
    exact ⟨hreserved, hdeadline⟩
  obtain ⟨next, hnext⟩ := Table.exists_edited hfind hcheck
  have hmark : (Tx.update reservationsTable TxError.database (fun _ _ => True) id
      (fun row => row.released = none) (markReleased now reason)).run
        { t with activeCounters := active } =
      .ok (some ((markReleased now reason).apply row),
        { t with activeCounters := active, reservations := next }) :=
    Tx.run_update_some_ok.mpr ⟨row, hfind, hnone, trivial, hcheck, rfl, next, hnext, rfl⟩
  have hall : (decrementAll now (activeSpecs row.guestSessionScope row.networkSignalDigest)).run t =
      .ok (true, { t with activeCounters := active }) := by
    simp only [activeSpecs, decrementAll]
    rw [Tx.run_bind_of_ok hfirst]
    simp only [if_true]
    rw [Tx.run_bind_of_ok hsecond]
    rfl
  unfold releaseGuestAbuseReservation
  rw [Tx.run_bind_get]
  simp only [hfind]
  rw [if_neg (by simp [hnone]), if_neg (by omega), Tx.run_bind_of_ok hall]
  simp only [if_true]
  rw [Tx.run_bind_of_ok hmark]
  exact ⟨_, rfl⟩

theorem quiet_counted : Quiet fun t t' => Counted t → Counted t' := by
  refine Quiet.ofTables (fun _ h => h) (fun _ _ _ hfirst hsecond h => hsecond (hfirst h))
    (fun _ _ h => h) (fun _ _ h => h) (fun _ _ h => h) ?_
  intro id now reason t done t' h hcounted
  rcases releaseGuestAbuseReservation_ok h with ⟨-, hreleased⟩ | ⟨-, rfl | hmissing⟩
  · exact hcounted.released hreleased
  · exact hcounted
  · obtain ⟨row, hfind, hnone, hmissing⟩ := hmissing
    exact (hcounted.not_missing hfind hnone hmissing).elim

/-! ### Deletion -/

theorem held_deleteGuestScan {t : Tables} {id : String} {row : Reservation}
    (hfind : t.reservations.find? id = some row) (kind : ScopeKind) (digest : Bytes32) :
    (t.deleteGuestScan id).held kind digest + (if row.holds kind digest then 1 else 0) =
      t.held kind digest :=
  Table.countP_erase_key (Reservation.holds kind digest) hfind

theorem Counted.deleteGuestScan {t : Tables} (hcounted : Counted t) {id : String}
    (hreleased : ∀ row, t.reservations.find? id = some row → row.released.isSome = true) :
    Counted (t.deleteGuestScan id) := by
  cases hfind : t.reservations.find? id with
  | none =>
    refine Counted.congr (t := t) rfl (Table.ext ?_) hcounted
    refine List.filter_eq_self.mpr fun row hrow => ?_
    have hne : row.guestScanId ≠ id := Table.find?_eq_none.mp hfind row hrow
    simp [hne]
  | some row =>
    intro kind digest
    have hheld := held_deleteGuestScan hfind kind digest
    have hholds : row.holds kind digest = false := by
      have := hreleased row hfind
      cases hrow : row.released with
      | none => simp [hrow] at this
      | some release => simp [Reservation.holds, hrow]
    rw [hholds] at hheld
    change t.activeCount _ = storedCount ((t.deleteGuestScan id).held kind digest)
    rw [hcounted, ← hheld]
    rfl

theorem Released.isSome {t t' : Tables} {id : String} {now : Nat} {reason : ReleaseReason}
    (h : Released id now reason t t') {row : Reservation}
    (hfind : t'.reservations.find? id = some row) : row.released.isSome = true := by
  obtain ⟨old, hold, ⟨hreleased, rfl⟩ | ⟨-, -, -, active, -, reservations, -, -, hrows, rfl⟩⟩ := h
  · rw [hold] at hfind
    cases hfind
    exact hreleased
  · change reservations.find? id = some row at hfind
    rw [Table.find?_of_rows_edited hrows, if_pos rfl, hold] at hfind
    cases hfind
    rfl

theorem decrementActiveCounter_done {now : Nat} {spec : ActiveCounterSpec} {t t' : Tables}
    {done : Bool} {count : Nat} (hcount : t.activeCount spec.key = some (count + 1))
    (h : (decrementActiveCounter now spec).run t = .ok (done, t')) :
    ∃ active, decremented t spec.key active ∧ t' = { t with activeCounters := active } := by
  rw [decrementActiveCounter_eq] at h
  rcases decrementAndRemove_ok h with ⟨-, -, hzero⟩ | ⟨-, hdone⟩
  · obtain ⟨row, hrow, hvalue⟩ := Option.map_eq_some_iff.mp hcount
    have := hzero row hrow
    omega
  · exact hdone

/-- What retention does to one scan takes its reservation off the counters,
where it still counts, and then away. -/
theorem Counted.sweep {t t' : Tables} {id : String} {now : Nat} {counts : Nat × Nat}
    (hcounted : Counted t) (h : (releaseDueReservation id now).run t = .ok (counts, t')) :
    Counted (t'.deleteGuestScan id) := by
  unfold releaseDueReservation at h
  rw [Tx.run_bind_get] at h
  cases hfind : t.reservations.find? id with
  | none =>
    rw [hfind] at h
    obtain ⟨-, rfl⟩ := Tx.run_pure_ok.mp h
    exact hcounted.deleteGuestScan fun row hrow => by rw [hfind] at hrow; cases hrow
  | some row =>
    rw [hfind] at h
    dsimp only at h
    by_cases hreleased : row.released.isSome = true
    · rw [if_pos hreleased] at h
      obtain ⟨-, rfl⟩ := Tx.run_pure_ok.mp h
      refine hcounted.deleteGuestScan fun other hother => ?_
      rw [hfind] at hother
      cases hother
      exact hreleased
    · rw [if_neg hreleased, Tx.run_bind_ok] at h
      have hnone : row.released = none := by simpa using hreleased
      obtain ⟨_, _, hsession, h⟩ := h
      obtain ⟨sessionCount, hsessionCount⟩ := hcounted.positive hfind hnone .session
      obtain ⟨between, hbetween, rfl⟩ := decrementActiveCounter_done hsessionCount hsession
      rw [Tx.run_bind_ok] at h
      obtain ⟨_, _, hnetwork, h⟩ := h
      obtain ⟨-, rfl⟩ := Tx.run_pure_ok.mp h
      obtain ⟨networkCount, hnetworkCount⟩ := hcounted.positive hfind hnone .network
      have hkept : ({ t with activeCounters := between } : Tables).activeCount
          (activeKey .network row.networkSignalDigest) = some (networkCount + 1) := by
        obtain ⟨_, -, hothers⟩ := hbetween
        refine (hothers (activeKey .network row.networkSignalDigest)).trans ?_
        rw [if_neg (by simp [activeKey, ActiveCounterSpec.key])]
        exact hnetworkCount
      obtain ⟨active, hactive, rfl⟩ := decrementActiveCounter_done hkept hnetwork
      intro kind digest
      have hne : activeKey .session row.guestSessionScope ≠
          activeKey .network row.networkSignalDigest := by simp [activeKey_inj]
      have hcount : CountedBut row t active := countedBut_of_decremented hcounted fun j =>
        (decremented_twice hne hbetween hactive j).trans (if_congr or_comm rfl rfl)
      have hcount := hcount kind digest
      have hheld := held_deleteGuestScan hfind kind digest
      have hholds : row.holds kind digest = decide (row.digest kind = digest) := by
        simp [Reservation.holds, hnone]
      rw [hholds] at hheld
      simp only [decide_eq_true_eq] at hheld
      refine hcount.trans (congrArg storedCount ?_)
      change _ = (t.deleteGuestScan id).held kind digest
      omega

theorem Counted.swept {now : Nat} {due : List GuestScan} {totals final : BatchTotals}
    {t t' : Tables} (hcounted : Counted t)
    (h : (deleteDueScans now due totals).run t = .ok (final, t')) : Counted t' := by
  induction due generalizing totals t with
  | nil =>
    obtain ⟨-, rfl⟩ := Tx.run_pure_ok.mp h
    exact hcounted
  | cons scan rest ih =>
    obtain ⟨counts, released, next, hrelease, -, hrest⟩ := deleteDueScans_cons h
    exact ih (hcounted.sweep hrelease) hrest

theorem Counted.runBatch {db : Database} (hcounted : Counted db.val) (batchSize : Nat)
    (clock : ClockReading) (locked : LockedRows) :
    Counted (runBatch batchSize clock locked db).2.val := by
  rcases runBatch_cases batchSize clock locked db with hsame | ⟨now, -, hrun⟩
  · rw [hsame]
    exact hcounted
  · obtain ⟨final, swept, windows, hdue, hafter, -⟩ := runBatchBody_swept hrun
    rw [hafter]
    exact (hcounted.swept hdue).congr rfl rfl

/-! ### Admission -/

theorem Cleared.counted {now : Nat} {t cleared : Tables} {existing : Option GuestScan}
    {action : CreateAction} (h : Cleared now t existing action cleared) (hcounted : Counted t) :
    Counted cleared := by
  cases h with
  | create existing => exact hcounted
  | replaceExpired row released release =>
    exact (hcounted.released release).deleteGuestScan fun _ hrow => release.isSome hrow

theorem Reserved.counted {t t' : Tables} {id : String} {session network : Bytes32} {now : Nat}
    (h : Reserved t t' id session network now) (hcounted : Counted t) : Counted t' := by
  intro kind digest
  have hheld : t'.held kind digest = t.held kind digest +
      if digest ∈ digestsOf session [network] kind then 1 else 0 := by
    have hholds : Reservation.holds kind digest ⟨id, session, network, now, now + 86400, none⟩ =
        decide (digest ∈ digestsOf session [network] kind) := by
      simp only [Reservation.holds, Option.isNone_none, Bool.true_and]
      refine decide_eq_decide.mpr ?_
      cases kind with
      | session => exact eq_comm.trans List.mem_singleton.symm
      | network => exact eq_comm.trans List.mem_singleton.symm
    unfold Tables.held
    rw [h.reservations, Table.countP_append_row, hholds]
    simp only [decide_eq_true_eq]
  rw [hheld]
  by_cases hdigest : digest ∈ digestsOf session [network] kind
  · rw [if_pos hdigest]
    obtain ⟨spec, hspec, hkey⟩ : ∃ spec ∈ activeSpecs session network,
        spec.key = activeKey kind digest := by
      cases kind with
      | session => exact ⟨_, List.mem_cons_of_mem _ (List.mem_singleton_self _),
          by rw [List.mem_singleton.mp hdigest]; rfl⟩
      | network => exact ⟨_, List.mem_cons_self .., by rw [List.mem_singleton.mp hdigest]; rfl⟩
    have hbefore := hcounted kind digest
    have hafter := h.active spec hspec
    unfold Tables.activeCount at hbefore ⊢
    rw [hkey] at hafter
    rw [hafter]
    cases hfind : t.activeCounters.find? (activeKey kind digest) with
    | none =>
      rw [hfind] at hbefore
      have hzero : t.held kind digest = 0 := by
        by_contra hne
        rw [storedCount, if_neg hne] at hbefore
        cases hbefore
      rw [hzero]
      rfl
    | some row =>
      rw [hfind] at hbefore
      obtain ⟨hcount, -⟩ := storedCount_eq_some.mp hbefore.symm
      rw [← hcount]
      rfl
  · rw [if_neg hdigest, Nat.add_zero, ← hcounted]
    refine congrArg (Option.map _) (h.otherActive _ fun hmem => hdigest ?_)
    simp only [activeSpecs, List.map_cons, List.map_nil, List.mem_cons, List.not_mem_nil,
      or_false, ActiveCounterSpec.key] at hmem
    cases kind <;> simpa [activeKey, digestsOf] using hmem

theorem Counted.createOrReplay {db : Database} (hcounted : Counted db.val) (node : NodeRuntime)
    (dependencies : GuestPersistenceDependencies) (request : PersistGuestScanRequest) :
    Counted (createOrReplay node dependencies request db).2.val :=
  createOrReplay_tables node dependencies request hcounted fun _ _ clear admission =>
    admission.reserved.counted ((clear.counted hcounted).congr rfl rfl)

theorem exec_counted (node : NodeRuntime) {db : Database} (hcounted : Counted db.val)
    (call : Call) : Counted (exec node db call).2.val := by
  cases hscan : call.scan? with
  | some id => exact quiet_counted.exec node db hscan hcounted
  | none =>
    cases call with
    | createOrReplay dependencies request => exact hcounted.createOrReplay node dependencies request
    | runBatch batchSize clock locked => exact hcounted.runBatch batchSize clock locked
    | setServiceState state => exact hcounted
    | commit result transactionNow =>
      cases result with
      | none => exact hcounted
      | some result => cases hscan
    | _ => cases hscan

theorem initial_counted : Counted Database.initial.val := by
  intro kind digest
  rfl

theorem Reachable.counted {node : NodeRuntime} {db : Database} (h : Reachable node db) :
    Counted db.val :=
  Machine.Reachable.invariant (P := fun db => Counted db.val) initial_counted
    (fun _ call hcounted => exec_counted node hcounted call) h

end Outscan

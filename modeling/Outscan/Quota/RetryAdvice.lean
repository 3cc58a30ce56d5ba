import Outscan.Quota.Policy

/-! Whether the advice to retry is sound: a request that waits as long as it was
told is not refused again for the same reason. -/
namespace Outscan

open Relational Transactional Lifecycle

/-! ### The policy -/

def windowCode : WindowDimension → GuestAbuseDenyCode
  | .sessionBurst => .sessionBurstLimit
  | .sessionDaily => .sessionDailyLimit
  | .networkBurst => .networkBurstLimit
  | .networkDaily => .networkDailyLimit

theorem decide_retry {request : GuestAbuseRequest} {code : GuestAbuseDenyCode} {wait : Nat}
    (h : decideGuestAbuseAdmission request = .deny code (some wait)) :
    ∃ dimension, code = windowCode dimension ∧
      wait = (request.usage.window dimension).resetAt - request.now := by
  unfold decideGuestAbuseAdmission at h
  dsimp only at h
  split at h
  · cases h
  split at h
  · cases h
  split at h
  · cases h
  split at h
  · cases h
    exact ⟨.sessionBurst, rfl, rfl⟩
  split at h
  · cases h
    exact ⟨.sessionDaily, rfl, rfl⟩
  split at h
  · cases h
  split at h
  · cases h
    exact ⟨.networkBurst, rfl, rfl⟩
  split at h
  · cases h
    exact ⟨.networkDaily, rfl, rfl⟩
  · cases h

theorem decide_full {request : GuestAbuseRequest} {dimension : WindowDimension}
    {retryAfterSeconds : Option Nat}
    (h : decideGuestAbuseAdmission request = .deny (windowCode dimension) retryAfterSeconds) :
    windowLimit dimension ≤ (request.usage.window dimension).count := by
  unfold decideGuestAbuseAdmission at h
  dsimp only at h
  split at h
  · cases h
  split at h
  · cases dimension <;> cases h
  split at h
  · cases dimension <;> cases h
  split at h
  · rename_i hfull
    cases dimension <;> first | exact hfull | cases h
  split at h
  · rename_i hfull
    cases dimension <;> first | exact hfull | cases h
  split at h
  · cases dimension <;> cases h
  split at h
  · rename_i hfull
    cases dimension <;> first | exact hfull | cases h
  split at h
  · rename_i hfull
    cases dimension <;> first | exact hfull | cases h
  · cases h

/-! ### The counters -/

theorem foldl_addWindow_latest {now : Nat} {dimension : WindowDimension} {rows : List WindowCounter}
    {aggregate : WindowDimension → Option GuestAbuseWindowUsage} {least : Nat}
    (h : (∃ usage, aggregate dimension = some usage ∧ least ≤ usage.resetAt) ∨
      ∃ row ∈ rows, row.dimension = dimension ∧ now < row.resetAt ∧ least ≤ row.resetAt) :
    ∃ usage, rows.foldl (addWindow now) aggregate dimension = some usage ∧
      least ≤ usage.resetAt := by
  induction rows generalizing aggregate with
  | nil =>
    rcases h with h | ⟨row, hrow, -⟩
    · exact h
    · cases hrow
  | cons row rest ih =>
    apply ih
    rcases h with ⟨usage, husage, hleast⟩ | ⟨found, hfound, hdimension, hlive, hleast⟩
    · refine .inl ?_
      unfold addWindow
      split
      · exact ⟨usage, husage, hleast⟩
      · dsimp only
        split
        · rw [husage]
          exact ⟨_, rfl, le_max_of_le_left hleast⟩
        · exact ⟨usage, husage, hleast⟩
    · rcases List.mem_cons.mp hfound with rfl | hrest
      · refine .inl ?_
        unfold addWindow
        rw [if_neg (by omega), if_pos hdimension.symm]
        split
        · exact ⟨_, rfl, hleast⟩
        · exact ⟨_, rfl, le_max_of_le_right hleast⟩
      · exact .inr ⟨found, hrest, hdimension, hlive, hleast⟩

theorem loadAbuseCounterState_windows {t t' : Tables} {session network : Bytes32}
    {networks : List Bytes32} {now : Nat} {usage : GuestAbuseUsageSnapshot}
    (h : (loadAbuseCounterState session network networks now).run t = .ok (usage, t'))
    (dimension : WindowDimension) :
    (t'.loadedWindows session networks).foldl (addWindow now) (fun _ => none) dimension =
      some (usage.window dimension) := by
  unfold loadAbuseCounterState at h
  rw [Tx.run_bind_ok] at h
  obtain ⟨_, mid, -, h⟩ := h
  rw [Tx.run_bind_ok] at h
  obtain ⟨windows, _, hwindows, h⟩ := h
  obtain ⟨-, rfl, rfl⟩ := loadWindows_ok.mp hwindows
  rw [Tx.run_bind_ok] at h
  obtain ⟨active, _, hactive, h⟩ := h
  obtain ⟨rfl, rfl⟩ := loadActive_ok.mp hactive
  split at h
  · exact (Tx.run_fail_ok.mp h).elim
  · rename_i found husage
    obtain ⟨rfl, rfl⟩ := Tx.run_pure_ok.mp h
    exact (usageOf_eq_some.mp husage).1 dimension

theorem reserve_ok {input : ReservationInput} {t t' : Tables} {decision : GuestAbuseDecision}
    (h : (reserveGuestAbuseCounters input).run t = .ok (decision, t')) :
    ∃ network rest serviceState usage opened, input.networkSignalDigests = network :: rest ∧
      t.guestAbuseControl = some serviceState ∧
      (loadAbuseCounterState input.guestSessionScope network input.networkSignalDigests
        input.now).run t = .ok (usage, opened) ∧
      decision = decideGuestAbuseAdmission
        ⟨input.guestSessionScope, network, input.now, serviceState, usage⟩ := by
  unfold reserveGuestAbuseCounters at h
  split at h
  · exact (Tx.run_fail_ok.mp h).elim
  · rename_i network rest hnetworks
    dsimp only at h
    rw [Tx.run_bind_get] at h
    split at h
    · exact (Tx.run_fail_ok.mp h).elim
    · rename_i serviceState hcontrol
      rw [Tx.run_bind_ok] at h
      obtain ⟨usage, opened, hload, h⟩ := h
      refine ⟨network, rest, serviceState, usage, opened, hnetworks, hcontrol, ?_, ?_⟩
      · rw [hnetworks]
        exact hnetworks ▸ hload
      · split at h
        · exact (Tx.run_pure_ok.mp h).1
        · rw [Tx.run_bind_ok] at h
          obtain ⟨_, _, -, h⟩ := h
          rw [Tx.run_bind_ok] at h
          obtain ⟨_, _, -, h⟩ := h
          rw [Tx.run_bind_ok] at h
          obtain ⟨_, _, -, h⟩ := h
          exact (Tx.run_pure_ok.mp h).1

theorem windowUsage_eq_zero {t later opened : Tables} {session network : Bytes32}
    {networks : List Bytes32} {now wait : Nat} {dimension : WindowDimension}
    {usage : GuestAbuseUsageSnapshot} (hnodup : networks.Nodup)
    (hload : (loadAbuseCounterState session network networks now).run t = .ok (usage, opened))
    (hwait : wait = (usage.window dimension).resetAt - now)
    (hlater : ∀ row ∈ later.windowCounters.rows, row ∈ t.windowCounters.rows) :
    later.windowUsage (now + wait) session networks dimension = 0 := by
  obtain ⟨hopened, -⟩ := loadAbuseCounterState_ok hnodup hload
  unfold Tables.windowUsage
  rw [List.sum_eq_zero]
  intro value hvalue
  obtain ⟨digest, hdigest, rfl⟩ := List.mem_map.mp hvalue
  unfold Table.contribution
  cases hfind : later.windowCounters.find? (windowKey dimension digest) with
  | none => rfl
  | some row =>
    have hkey := Table.find?_key hfind
    have hmem := hlater row (Table.find?_mem hfind)
    simp only [Schema.key, windowKey, Prod.mk.injEq] at hkey
    obtain ⟨hkind, hrowDigest, hdimension⟩ := hkey
    rw [Option.map_some, Option.getD_some, liveUsage, if_neg]
    intro hlive
    -- the row was live at `now` as well, so the advice took it into account
    have hwas : now < row.resetAt := by omega
    have hrow : opened.windowCounters.find? (Schema.key row) = some row := by
      have hbefore := Table.find?_of_mem hmem
      rcases hopened.window_cases (Schema.key row) with ⟨spec, -, -, hopen⟩ | hsame
      · rw [hopen, hbefore, openedWindow, if_neg (by omega)]
      · rw [hsame, hbefore]
    have hloaded : row ∈ opened.loadedWindows session networks := by
      refine List.mem_filter.mpr ⟨Table.find?_mem hrow, ?_⟩
      rw [hkind, hrowDigest]
      exact mem_digestsOf.mp hdigest
    have hlatest : ∃ latest, (opened.loadedWindows session networks).foldl (addWindow now)
        (fun _ => none) dimension = some latest ∧ row.resetAt ≤ latest.resetAt :=
      foldl_addWindow_latest (.inr ⟨row, hloaded, hdimension, hwas, Nat.le_refl _⟩)
    obtain ⟨latest, hlatest, hle⟩ := hlatest
    rw [loadAbuseCounterState_windows hload] at hlatest
    cases hlatest
    omega

/-! ### The request -/

theorem removeExpired_windows {existing : Option GuestScan} {now : Nat} {action : CreateAction}
    {t t' : Tables} {value : Unit}
    (h : (removeExpired existing now action).run t = .ok (value, t')) :
    t'.windowCounters = t.windowCounters := by
  cases action with
  | create =>
    obtain ⟨-, rfl⟩ := Tx.run_pure_ok.mp h
    rfl
  | replaceExpired =>
    obtain ⟨released, hreleased, rfl⟩ := removeExpired_released h
    have hrest := congrArg Tables.windowCounters hreleased.rest
    exact hrest

theorem createOrReplay_refused {node : NodeRuntime} {dependencies : GuestPersistenceDependencies}
    {request : PersistGuestScanRequest} {db : Database} {code : GuestAbuseDenyCode}
    {retryAfterSeconds : Option Nat}
    (h : (createOrReplay node dependencies request db).1 =
      .abuseLimitExceeded code retryAfterSeconds) :
    ∃ (snapshot : SnapshotRequest) (t t' : Tables) (guestScanId : String),
      snapshot.WellFormed node ∧ request = snapshot.persist ∧
      t.windowCounters = db.val.windowCounters ∧
      (reserveGuestAbuseCounters ⟨guestScanId, snapshot.guestSessionScope,
        snapshot.networkSignalDigests, snapshot.now⟩).run t =
          .ok (.deny code retryAfterSeconds, t') := by
  unfold createOrReplay at h
  split at h
  · cases h
  · rename_i snapshot hsnapshot
    obtain ⟨hwell, hrequest⟩ := snapshotPersistGuestScanRequest_eq_some.mp hsnapshot
    rcases atomically_cases .unavailable (createOrReplayBody node dependencies snapshot) db with
      ⟨answer, next, hrun, heq⟩ | ⟨-, hanswer⟩
    · rw [heq] at h
      have hout := createOrReplayBody_outcome hwell hrun
      dsimp only at h
      subst h
      cases hout
    · rcases hanswer with hanswer | ⟨next, hrun⟩
      · rw [hanswer] at h
        cases h
      · rw [h] at hrun
        unfold createOrReplayBody at hrun
        rw [Tx.run_bind_get] at hrun
        dsimp only at hrun
        split at hrun
        · cases (Tx.run_pure_ok.mp hrun).1
        · cases (Tx.run_pure_ok.mp hrun).1
        · split at hrun
          · exact (Tx.run_fail_ok.mp hrun).elim
          · rename_i guestScanId hid
            split at hrun
            · cases (Tx.run_pure_ok.mp hrun).1
            · simp only [createScan] at hrun
              rw [Tx.run_bind_ok] at hrun
              obtain ⟨_, cleared, hclear, hrun⟩ := hrun
              rw [Tx.run_bind_ok] at hrun
              obtain ⟨_, inserted, hinsert, hrun⟩ := hrun
              unfold insertGuestScan at hinsert
              rw [Tx.run_bind_ok] at hinsert
              obtain ⟨_, _, hguard, hinsert⟩ := hinsert
              rw [(Tx.run_ensure_ok.mp hguard).2] at hinsert
              obtain ⟨-, -, scans, -, rfl⟩ := Tx.run_insert_ok.mp hinsert
              rw [Tx.run_bind_ok] at hrun
              obtain ⟨decision, reserved, hreserve, hrun⟩ := hrun
              have hsame : (scansTable.put scans cleared).windowCounters = cleared.windowCounters :=
                rfl
              refine ⟨snapshot, scansTable.put scans cleared, reserved, guestScanId, hwell, hrequest,
                hsame.trans (removeExpired_windows hclear), ?_⟩
              cases decision with
              | allowNewScan => cases (Tx.run_pure_ok.mp hrun).1
              | invalidAbuseContext => cases (Tx.run_pure_ok.mp hrun).1
              | deny code' retryAfterSeconds' =>
                cases (Tx.run_pure_ok.mp hrun).1
                exact hreserve

theorem run_windows_subset (node : NodeRuntime) {calls : List Call} {db : Database}
    (h : charges node db calls = []) :
    ∀ row ∈ (Machine.run (exec node) db calls).val.windowCounters.rows,
      row ∈ db.val.windowCounters.rows := by
  induction calls generalizing db with
  | nil => exact fun row hrow => hrow
  | cons call rest ih =>
    obtain ⟨hcharge, hrest⟩ := List.append_eq_nil_iff.mp h
    rw [Option.toList_eq_nil_iff] at hcharge
    intro row hrow
    have hstep := ih hrest row hrow
    cases htrusted : call.trustedNow with
    | none =>
      rw [(exec_windows_of_none node db htrusted).1] at hstep
      exact hstep
    | some now =>
      cases call with
      | createOrReplay dependencies request =>
        rw [(createOrReplay_charge node db dependencies request).1 hcharge] at hstep
        exact hstep
      | runBatch batchSize clock locked =>
        change row ∈ (runBatch batchSize clock locked db).2.val.windowCounters.rows at hstep
        rcases runBatch_cases batchSize clock locked db with hsame | ⟨at', -, hrun⟩
        · rw [hsame] at hstep
          exact hstep
        · have hfind := Table.find?_of_mem hstep
          rcases (runBatchBody_ok hrun).2 (Schema.key row) with hkept | ⟨hnone, -⟩
          · exact Table.find?_mem (hkept.symm.trans hfind)
          · rw [hnone] at hfind
            cases hfind
      | _ => cases htrusted

/-- The advice of a refused request: wait between one second and a day, and the
same request is not refused for this window, whatever else happened except for
another admission. -/
theorem retry_after_window (node : NodeRuntime) {dependencies : GuestPersistenceDependencies}
    {request : PersistGuestScanRequest} {db : Database} {code : GuestAbuseDenyCode} {wait : Nat}
    (h : (createOrReplay node dependencies request db).1 = .abuseLimitExceeded code (some wait)) :
    (1 ≤ wait ∧ wait ≤ 86400) ∧
      ∀ calls dependencies' retryAfterSeconds, charges node db calls = [] →
        (createOrReplay node dependencies'
          { request with trustedNow := request.trustedNow + wait }
          (Machine.run (exec node) db calls)).1 ≠ .abuseLimitExceeded code retryAfterSeconds := by
  obtain ⟨snapshot, t, t', guestScanId, hwell, rfl, hwindows, hreserve⟩ := createOrReplay_refused h
  obtain ⟨network, rest, serviceState, usage, opened, hnetworks, -, hload, hdecision⟩ :=
    reserve_ok hreserve
  obtain ⟨dimension, rfl, hwait⟩ := decide_retry hdecision.symm
  have hreset := (loadAbuseCounterState_ok hwell.nodup hload).2.resets dimension
  have hseconds : expectedWindowSeconds dimension ≤ 86400 := by cases dimension <;> decide
  dsimp only at hwait hreset
  refine ⟨⟨by omega, by omega⟩, fun calls dependencies' retryAfterSeconds hcharges hagain => ?_⟩
  obtain ⟨snapshot', s, s', guestScanId', hwell', hrequest, hwindows', hreserve'⟩ :=
    createOrReplay_refused hagain
  have hscope : snapshot'.guestSessionScope = snapshot.guestSessionScope :=
    (congrArg PersistGuestScanRequest.guestSessionScope hrequest).symm
  have hdigests : snapshot'.networkSignalDigests = snapshot.networkSignalDigests :=
    (congrArg PersistGuestScanRequest.networkSignalDigests hrequest).symm
  have hnow : snapshot'.now = snapshot.now + wait := by
    have htime : ((snapshot.now : Int) + wait) = snapshot'.now :=
      congrArg PersistGuestScanRequest.trustedNow hrequest
    omega
  rw [hscope, hdigests, hnow] at hreserve'
  obtain ⟨network', rest', serviceState', usage', opened', -, -, hload', hdecision'⟩ :=
    reserve_ok hreserve'
  have hfull := decide_full hdecision'.symm
  obtain ⟨hopened', hloaded'⟩ := loadAbuseCounterState_ok hwell.nodup hload'
  have hnone : s.windowUsage (snapshot.now + wait) snapshot.guestSessionScope
      snapshot.networkSignalDigests dimension = 0 := by
    refine windowUsage_eq_zero hwell.nodup hload hwait fun row hrow => ?_
    rw [hwindows'] at hrow
    rw [hwindows]
    exact run_windows_subset node hcharges row hrow
  have hpos := windowLimit_pos dimension
  have hcount := hloaded'.windows dimension
  rw [hopened'.windowUsage, hnone] at hcount
  dsimp only at hfull
  omega

end Outscan
